import BrokerWatch.Proofs.Sasl.Challenges
import Mathlib.Data.List.Nodup

/-!
# Messages with attributes too many

RFC 5802 fixes the attributes of the server's first message and their order, and reserves `m` for
extensions that a client must not overlook. A client here reads four attributes and overlooks the
others, earlier occurrences of those that it reads among them: every message is to it what is left
when the attributes that it overlooks are taken out.
-/

namespace BrokerWatch.Sasl.Scram

/-- A message that leaves open which nonce, salt or count is meant. -/
def Ambiguous (message : String) : Prop :=
  ∃ name ∈ ["r", "s", "i"], 1 < ((attributes message).map (·.1)).count name

/-- A message with an extension that the client has to know. -/
def Demanding (message : String) : Prop :=
  "m" ∈ (attributes message).map (·.1)

instance (message : String) : Decidable (Ambiguous message) :=
  inferInstanceAs (Decidable (∃ name ∈ ["r", "s", "i"], _))

instance (message : String) : Decidable (Demanding message) :=
  inferInstanceAs (Decidable (_ ∈ _))

/-! ### Attributes from values found -/

/-- The attributes of the names for which there is a value. -/
def chosen (values : List (String × Option String)) : List (String × String) :=
  values.filterMap fun (name, value) => value.map (name, ·)

@[simp] theorem chosen_cons_none (name : String) (values : List (String × Option String)) :
    chosen ((name, none) :: values) = chosen values :=
  rfl

@[simp] theorem chosen_cons_some (name value : String) (values : List (String × Option String)) :
    chosen ((name, some value) :: values) = (name, value) :: chosen values :=
  rfl

theorem mem_chosen_iff {pair : String × String} {values : List (String × Option String)} :
    pair ∈ chosen values ↔ (pair.1, some pair.2) ∈ values := by
  rw [chosen, List.mem_filterMap]
  constructor
  · intro h
    obtain ⟨⟨name, value⟩, hmem, hpair⟩ := h
    obtain ⟨found, rfl, rfl⟩ := Option.map_eq_some_iff.1 hpair
    exact hmem
  · intro h
    exact ⟨_, h, rfl⟩

theorem names_chosen_sublist (values : List (String × Option String)) :
    ((chosen values).map (·.1)).Sublist (values.map (·.1)) := by
  induction values with
  | nil => exact List.Sublist.slnil
  | cons entry values ih =>
      obtain ⟨name, value⟩ := entry
      cases value with
      | none => exact ih.cons name
      | some value => exact ih.cons_cons name

theorem first?_chosen {name : String} {value : Option String}
    {values : List (String × Option String)} (hnodup : (values.map (·.1)).Nodup)
    (h : (name, value) ∈ values) : first? name (chosen values) = value := by
  induction values with
  | nil => cases h
  | cons entry values ih =>
      obtain ⟨name', value'⟩ := entry
      rw [List.map_cons, List.nodup_cons] at hnodup
      rcases List.mem_cons.1 h with h | h
      · cases h
        cases value with
        | some value => simp [first?]
        | none =>
            -- The names differ, so there is no value for this one further back either.
            refine first?_eq_none fun pair hpair hname => hnodup.1 ?_
            exact List.mem_map.2 ⟨_, mem_chosen_iff.1 hpair, hname⟩
      · have hother : name' ≠ name := by
          intro hname
          exact hnodup.1 (List.mem_map.2 ⟨_, h, hname.symm⟩)
        rw [← ih hnodup.2 h]
        cases value' with
        | none => rw [chosen_cons_none]
        | some value' => simp [first?, hother]

theorem last?_chosen {name : String} {value : Option String}
    {values : List (String × Option String)} (hnodup : (values.map (·.1)).Nodup)
    (h : (name, value) ∈ values) : last? name (chosen values) = value := by
  rw [last?, chosen, ← List.filterMap_reverse]
  refine first?_chosen ?_ (List.mem_reverse.2 h)
  rwa [List.map_reverse, List.nodup_reverse]

/-! ### What a client goes by -/

/-- The values that a client looks up in a message: the first error, and the last nonce, salt and
count. -/
def decisive (message : String) : List (String × Option String) :=
  [("e", first? "e" (attributes message)), ("r", last? "r" (attributes message)),
    ("s", last? "s" (attributes message)), ("i", last? "i" (attributes message))]

/-- A message without the attributes that a client overlooks. -/
def settled (message : String) : String :=
  ",".intercalate ((chosen (decisive message)).map fun (name, value) => name ++ "=" ++ value)

theorem nodup_decisive (message : String) : ((decisive message).map (·.1)).Nodup := by
  show ["e", "r", "s", "i"].Nodup
  decide

theorem mem_of_first? {name value : String} {list : List (String × String)}
    (h : first? name list = some value) : (name, value) ∈ list := by
  obtain ⟨⟨name', value'⟩, hfind, rfl⟩ := Option.map_eq_some_iff.1 h
  have hname : name' = name := by simpa using List.find?_some hfind
  rw [← hname]
  exact List.mem_of_find?_eq_some hfind

theorem mem_of_last? {name value : String} {list : List (String × String)}
    (h : last? name list = some value) : (name, value) ∈ list :=
  List.mem_reverse.1 (mem_of_first? h)

theorem mem_attributes_of_mem_chosen {pair : String × String} {message : String}
    (h : pair ∈ chosen (decisive message)) : pair ∈ attributes message := by
  obtain ⟨name, value⟩ := pair
  simp only [mem_chosen_iff, decisive, List.mem_cons, Prod.mk.injEq, List.not_mem_nil,
    or_false] at h
  obtain ⟨rfl, h⟩ | ⟨rfl, h⟩ | ⟨rfl, h⟩ | ⟨rfl, h⟩ := h
  · exact mem_of_first? h.symm
  · exact mem_of_last? h.symm
  · exact mem_of_last? h.symm
  · exact mem_of_last? h.symm

theorem isAttribute_of_mem_attributes {pair : String × String} {message : String}
    (h : pair ∈ attributes message) : IsAttribute pair := by
  rw [attributes_eq, List.mem_filterMap] at h
  obtain ⟨part, hpart, hpair⟩ := h
  obtain ⟨hequals, rfl⟩ := attribute?_eq_some_iff.1 hpair
  have hcomma := Text.notMem_of_mem_fields hpart
  rw [field_eq, List.mem_append, List.mem_cons, not_or, not_or] at hcomma
  exact ⟨hequals, hcomma.1, hcomma.2.2⟩

theorem attributes_settled (message : String) :
    attributes (settled message) = chosen (decisive message) :=
  attributes_intercalate fun _ hpair =>
    isAttribute_of_mem_attributes (mem_attributes_of_mem_chosen hpair)

theorem decisive_settled (message : String) : decisive (settled message) = decisive message := by
  have herror : first? "e" (chosen (decisive message)) = first? "e" (attributes message) :=
    first?_chosen (nodup_decisive message) (by simp [decisive])
  have hlast : ∀ name ∈ ["r", "s", "i"],
      last? name (chosen (decisive message)) = last? name (attributes message) := by
    intro name hname
    refine last?_chosen (nodup_decisive message) ?_
    simp only [List.mem_cons, List.not_mem_nil, or_false] at hname
    rcases hname with rfl | rfl | rfl <;> simp [decisive]
  rw [decisive, attributes_settled, herror, hlast "r" (by decide), hlast "s" (by decide),
    hlast "i" (by decide), decisive]

theorem Challenge.read_congr {clientNonce message message' : String}
    (h : decisive message = decisive message') :
    Challenge.read clientNonce message = Challenge.read clientNonce message' := by
  simp only [decisive, List.cons.injEq, Prod.mk.injEq, true_and, and_true] at h
  obtain ⟨herror, hnonce, hsalt, hcount⟩ := h
  simp only [Challenge.read, herror, hnonce, hsalt, hcount]

theorem not_ambiguous_settled (message : String) : ¬Ambiguous (settled message) := by
  intro h
  obtain ⟨name, -, hcount⟩ := h
  have hnodup := (nodup_decisive message).sublist (names_chosen_sublist _)
  rw [attributes_settled] at hcount
  exact absurd (List.nodup_iff_count_le_one.1 hnodup name) (Nat.not_le.2 hcount)

theorem not_demanding_settled (message : String) : ¬Demanding (settled message) := by
  intro h
  rw [Demanding, attributes_settled] at h
  have hname : "m" ∈ ["e", "r", "s", "i"] := (names_chosen_sublist (decisive message)).mem h
  exact absurd hname (by decide)

/-! ### Further attributes -/

theorem attributes_cons {name value : String} (h : IsAttribute (name, value)) (message : String) :
    attributes (name ++ "=" ++ value ++ "," ++ message) = (name, value) :: attributes message := by
  have hlist : (name ++ "=" ++ value ++ "," ++ message).toList =
      field (name, value) ++ ',' :: message.toList := by
    simp [field, String.toList_append]
  have hcomma : ',' ∉ field (name, value) := h.notMem
  rw [attributes_eq, hlist, Text.fields_append_cons hcomma, List.filterMap_cons,
    attribute?_eq_some_iff.2 ⟨h.1, rfl⟩, attributes_eq]

/-- An attribute in front of others of its name does not change the last value. -/
theorem last?_cons_of_eq_some {name value : String} {list : List (String × String)}
    (h : last? name list = some value) (pair : String × String) :
    last? name (pair :: list) = some value := by
  obtain ⟨found, hfind, hvalue⟩ := Option.map_eq_some_iff.1 h
  rw [last?, first?, List.reverse_cons, List.find?_append, hfind, Option.some_or, Option.map_some,
    hvalue]

theorem first?_cons_of_ne {name : String} {pair : String × String} (h : pair.1 ≠ name)
    (list : List (String × String)) : first? name (pair :: list) = first? name list := by
  rw [first?, List.find?_cons_of_neg (by simpa using h), first?]

theorem ambiguous_or_demanding {name value : String} {message longer : String}
    (hlonger : attributes longer = (name, value) :: attributes message)
    (hname : name = "m" ∨ name ∈ ["r", "s", "i"] ∧ name ∈ (attributes message).map (·.1)) :
    Ambiguous longer ∨ Demanding longer := by
  rcases hname with rfl | ⟨hname, hmem⟩
  · right
    rw [Demanding, hlonger]
    exact List.mem_cons_self
  · left
    refine ⟨name, hname, ?_⟩
    rw [hlonger, List.map_cons, List.count_cons_self]
    exact Nat.succ_lt_succ (List.count_pos_iff.2 hmem)

namespace Client

theorem final_eq_map (client : Client) (message : String) :
    client.final message = (Challenge.read client.nonce message).map fun challenge =>
      (client.answer message challenge,
        { client with expected := some (client.serverSignature message challenge) }) := by
  cases hread : Challenge.read client.nonce message with
  | ok challenge => exact final_of_read hread
  | error fault => exact final_of_read_error hread

/-- A client looks for a challenge in what is left of a message without the attributes that it
overlooks, which is neither ambiguous nor demanding. It signs the whole message all the same, and
refuses a message exactly if it refuses what is left of it. So any message that it answers is
answered as well with one more nonce, salt or count in front, or with an extension. -/
theorem final_goes_by_settled (client : Client) (message : String) :
    ¬Ambiguous (settled message) ∧ ¬Demanding (settled message) ∧
    (client.final message =
      (Challenge.read client.nonce (settled message)).map fun challenge =>
        (client.answer message challenge,
          { client with expected := some (client.serverSignature message challenge) })) ∧
    ((∃ fault, client.final message = .error fault) ↔
      ∃ fault, client.final (settled message) = .error fault) ∧
    ((∃ sent awaiting, client.final message = .ok (sent, awaiting)) →
      ∀ name ∈ ["r", "s", "i", "m"], ∀ value : String, ',' ∉ value.toList →
        let longer := name ++ "=" ++ value ++ "," ++ message
        (Ambiguous longer ∨ Demanding longer) ∧
          ∃ sent awaiting, client.final longer = .ok (sent, awaiting)) := by
  have hsettled : Challenge.read client.nonce (settled message) =
      Challenge.read client.nonce message := Challenge.read_congr (decisive_settled message)
  refine ⟨not_ambiguous_settled message, not_demanding_settled message, ?_, ?_, ?_⟩
  · rw [hsettled, final_eq_map]
  · simp only [final_eq_map, map_eq_error_iff, hsettled]
  · intro hanswered name hname value hvalue longer
    obtain ⟨challenge, hread⟩ := exists_final_iff.1 hanswered
    obtain ⟨herror, hnonce, -, hsalt, ⟨count, hcount, -⟩, -⟩ := Challenge.read_eq_ok_iff.1 hread
    have hplain : ∀ name ∈ ["r", "s", "i", "m"],
        ('=' ∉ name.toList ∧ ',' ∉ name.toList) ∧ name ≠ "e" := by decide
    obtain ⟨hchars, hother⟩ := hplain name hname
    have hlonger : attributes longer = (name, value) :: attributes message :=
      attributes_cons (.of_name hchars hvalue) message
    have hfirst : first? "e" (attributes longer) = first? "e" (attributes message) := by
      rw [hlonger, first?_cons_of_ne hother]
    -- The message has a nonce, a salt and a count, so none in front of them is looked at.
    have hsame : decisive longer = decisive message := by
      rw [decisive, hfirst, hlonger, last?_cons_of_eq_some hnonce, last?_cons_of_eq_some hsalt,
        last?_cons_of_eq_some hcount, decisive, hnonce, hsalt, hcount]
    refine ⟨ambiguous_or_demanding hlonger ?_, exists_final_iff.2 ⟨challenge, ?_⟩⟩
    · have hmem : ∀ {name value : String}, last? name (attributes message) = some value →
          name ∈ (attributes message).map (·.1) := fun h =>
        List.mem_map.2 ⟨_, mem_of_last? h, rfl⟩
      simp only [List.mem_cons, List.not_mem_nil, or_false] at hname
      rcases hname with rfl | rfl | rfl | rfl
      · exact .inr ⟨by decide, hmem hnonce⟩
      · exact .inr ⟨by decide, hmem hsalt⟩
      · exact .inr ⟨by decide, hmem hcount⟩
      · exact .inl rfl
    · rw [Challenge.read_congr hsame, hread]

/-- Two nonces in the one message, an extension in the other: both are answered. -/
theorem final_goes_by_settled_answered :
    let client : Client := ⟨.sha256, "pencil", "n=user,r=abc", "abc", none⟩
    (Ambiguous "r=abcX,r=abcd,s=AA==,i=1" ∧
      ∃ sent awaiting, client.final "r=abcX,r=abcd,s=AA==,i=1" = .ok (sent, awaiting)) ∧
    Demanding "m=x,r=abcd,s=AA==,i=1" ∧
      ∃ sent awaiting, client.final "m=x,r=abcd,s=AA==,i=1" = .ok (sent, awaiting) := by
  intro client
  have hanswered : ∀ message, (Challenge.read client.nonce message).isOk →
      ∃ sent awaiting, client.final message = .ok (sent, awaiting) := by
    intro message hok
    cases hread : Challenge.read client.nonce message with
    | ok challenge => exact exists_final_iff.2 ⟨challenge, hread⟩
    | error fault =>
        rw [hread] at hok
        cases hok
  exact ⟨⟨by decide +kernel, hanswered _ (by decide +kernel)⟩, by decide +kernel,
    hanswered _ (by decide +kernel)⟩

end Client

end BrokerWatch.Sasl.Scram
