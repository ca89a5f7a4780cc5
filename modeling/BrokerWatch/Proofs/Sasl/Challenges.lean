import BrokerWatch.Proofs.Sasl.Acceptance
import BrokerWatch.Proofs.Sasl.Completeness
import Mathlib.Algebra.Group.Nat.Defs

/-!
# The messages that a client answers

The server's first message can be any text at all. The client cuts it at the commas, and of the parts
that are attributes it goes by four: the first error, and the last nonce, salt and count. What it
answers and with which kind of failure it refuses is stated here on the parts of the text.
-/

namespace BrokerWatch.Sasl.Scram

/-! ### The parts of a message -/

/-- Whether a part of a message is an attribute of a name. -/
def Names (name : String) (part : List Char) : Prop :=
  (name ++ "=").toList <+: part

/-- Whether a message has an attribute of a name. -/
def Mentions (message name : String) : Prop :=
  ∃ part ∈ Text.fields ',' message.toList, Names name part

/-- The value of the first attribute of a name. -/
def FirstValue (message name value : String) : Prop :=
  ∃ front back, Text.fields ',' message.toList = front ++ field (name, value) :: back ∧
    ∀ part ∈ front, ¬Names name part

/-- The value of the last attribute of a name. -/
def LastValue (message name value : String) : Prop :=
  ∃ front back, Text.fields ',' message.toList = front ++ field (name, value) :: back ∧
    ∀ part ∈ back, ¬Names name part

def attribute? (part : List Char) : Option (String × String) :=
  (Text.splitFirst '=' part).map fun (name, value) => (String.ofList name, String.ofList value)

theorem attributes_eq (message : String) :
    attributes message = (Text.fields ',' message.toList).filterMap attribute? :=
  rfl

theorem attribute?_eq_some_iff {part : List Char} {name value : String} :
    attribute? part = some (name, value) ↔ '=' ∉ name.toList ∧ part = field (name, value) := by
  rw [attribute?, Option.map_eq_some_iff, field_eq]
  constructor
  · intro h
    obtain ⟨⟨front, back⟩, hsplit, hpair⟩ := h
    cases hpair
    simpa only [String.toList_ofList] using Text.splitFirst_eq_some_iff.1 hsplit
  · intro h
    exact ⟨(name.toList, value.toList), Text.splitFirst_eq_some_iff.2 h,
      by simp only [String.ofList_toList]⟩

theorem names_iff {name : String} {part : List Char} :
    Names name part ↔ ∃ value, part = field (name, value) := by
  have hfield : ∀ value : List Char,
      (name ++ "=").toList ++ value = field (name, String.ofList value) := by
    intro value
    simp [field, String.toList_append]
  constructor
  · intro h
    obtain ⟨value, rfl⟩ := h
    exact ⟨String.ofList value, hfield value⟩
  · intro h
    obtain ⟨value, rfl⟩ := h
    exact ⟨value.toList, by rw [hfield, String.ofList_toList]⟩

theorem any_attribute?_iff {name : String} (hname : '=' ∉ name.toList) {part : List Char} :
    (attribute? part).any (·.1 == name) = true ↔ Names name part := by
  rw [names_iff, Option.any_eq_true]
  constructor
  · intro h
    obtain ⟨⟨name', value⟩, hpart, hsame⟩ := h
    cases beq_iff_eq.1 hsame
    exact ⟨value, (attribute?_eq_some_iff.1 hpart).2⟩
  · intro h
    obtain ⟨value, hpart⟩ := h
    exact ⟨(name, value), attribute?_eq_some_iff.2 ⟨hname, hpart⟩, beq_self_eq_true name⟩

/-! ### Looking up a value -/

section

variable {name value : String} (hname : '=' ∉ name.toList)

include hname

theorem first?_filterMap_eq_some_iff {parts : List (List Char)} :
    first? name (parts.filterMap attribute?) = some value ↔
      ∃ front back, parts = front ++ field (name, value) :: back ∧
        ∀ part ∈ front, ¬Names name part := by
  rw [first?, List.find?_filterMap]
  constructor
  · intro h
    obtain ⟨⟨name', value'⟩, hpair, rfl⟩ := Option.map_eq_some_iff.1 h
    obtain ⟨part, hfind, hpart⟩ := Option.bind_eq_some_iff.1 hpair
    obtain ⟨hsame, front, back, rfl, hfront⟩ := List.find?_eq_some_iff_append.1 hfind
    rw [hpart, Option.any_some, beq_iff_eq] at hsame
    subst hsame
    refine ⟨front, back, by rw [(attribute?_eq_some_iff.1 hpart).2], ?_⟩
    intro other hother hnames
    have hnot := hfront other hother
    rw [(any_attribute?_iff hname).2 hnames] at hnot
    exact absurd hnot (by decide)
  · intro h
    obtain ⟨front, back, rfl, hfront⟩ := h
    have hfound : attribute? (field (name, value)) = some (name, value) :=
      attribute?_eq_some_iff.2 ⟨hname, rfl⟩
    have hnone : front.find? (fun part => (attribute? part).any (·.1 == name)) = none :=
      List.find?_eq_none.2 fun part hpart hany =>
        hfront part hpart ((any_attribute?_iff hname).1 hany)
    rw [List.find?_append, hnone, Option.none_or, List.find?_cons_of_pos, Option.bind_some, hfound,
      Option.map_some]
    exact (any_attribute?_iff hname).2 (names_iff.2 ⟨value, rfl⟩)

theorem first?_eq_some_iff {message : String} :
    first? name (attributes message) = some value ↔ FirstValue message name value := by
  rw [attributes_eq, first?_filterMap_eq_some_iff hname, FirstValue]

theorem first?_eq_none_iff {message : String} :
    first? name (attributes message) = none ↔ ¬Mentions message name := by
  simp only [first?, Option.map_eq_none_iff, attributes_eq, List.find?_eq_none, List.mem_filterMap,
    beq_iff_eq, Mentions]
  constructor
  · intro h hmentions
    obtain ⟨part, hpart, hnames⟩ := hmentions
    obtain ⟨value, hvalue⟩ := names_iff.1 hnames
    exact h (name, value) ⟨part, hpart, attribute?_eq_some_iff.2 ⟨hname, hvalue⟩⟩ rfl
  · intro h pair hpair hsame
    obtain ⟨part, hpart, hattribute⟩ := hpair
    subst hsame
    exact h ⟨part, hpart, names_iff.2 ⟨pair.2, (attribute?_eq_some_iff.1 hattribute).2⟩⟩

theorem last?_eq_some_iff {message : String} :
    last? name (attributes message) = some value ↔ LastValue message name value := by
  rw [last?, attributes_eq, ← List.filterMap_reverse, first?_filterMap_eq_some_iff hname, LastValue]
  -- What stands in front of a part is behind it in the reversed list.
  constructor
  · intro h
    obtain ⟨front, back, hparts, hfront⟩ := h
    refine ⟨back.reverse, front.reverse, ?_, by simpa only [List.mem_reverse] using hfront⟩
    rw [← List.reverse_reverse (Text.fields ',' message.toList), hparts]
    simp
  · intro h
    obtain ⟨front, back, hparts, hback⟩ := h
    refine ⟨back.reverse, front.reverse, ?_, by simpa only [List.mem_reverse] using hback⟩
    rw [hparts]
    simp

end

/-! ### What a client makes of a message -/

/-- There is a challenge exactly if the message reports no error and each of the three attributes
occurs, with a value for which its last occurrence is good. -/
theorem Challenge.exists_read_iff {clientNonce message : String} :
    (∃ challenge, Challenge.read clientNonce message = .ok challenge) ↔
      ¬Mentions message "e" ∧
        (∃ nonce, LastValue message "r" nonce ∧ clientNonce.toList <+: nonce.toList) ∧
        (∃ salt, LastValue message "s" (Base64.encode salt)) ∧
        ∃ count iterations, LastValue message "i" count ∧
          Numeral.IsNumeralOf count.toList iterations ∧ 1 ≤ iterations ∧ iterations < 2 ^ 32 := by
  have hname : ∀ name ∈ ["e", "r", "s", "i"], '=' ∉ name.toList := by decide
  simp only [Challenge.read_eq_ok_iff, first?_eq_none_iff (hname "e" (by decide)),
    last?_eq_some_iff (hname "r" (by decide)), last?_eq_some_iff (hname "s" (by decide)),
    last?_eq_some_iff (hname "i" (by decide)), Numeral.natural_eq_ok_iff]
  constructor
  · intro h
    obtain ⟨challenge, herror, hnonce, hextends, hsalt, ⟨count, hcount, hnumber, hmax⟩, hzero⟩ := h
    exact ⟨herror, ⟨_, hnonce, hextends⟩, ⟨_, hsalt⟩, count, _, hcount, hnumber,
      Nat.one_le_iff_ne_zero.2 hzero, Nat.lt_of_le_pred (by decide) hmax⟩
  · intro h
    obtain ⟨herror, ⟨nonce, hnonce, hextends⟩, ⟨salt, hsalt⟩, count, iterations, hcount, hnumber,
      hpos, hmax⟩ := h
    exact ⟨⟨nonce, salt, iterations⟩, herror, hnonce, hextends, hsalt,
      ⟨count, hcount, hnumber, Nat.le_pred_of_lt hmax⟩, Nat.one_le_iff_ne_zero.1 hpos⟩

/-- A fault in which a message is not as it should be. -/
def Fault.IsOfProtocol (fault : Fault) : Prop :=
  ∃ text, fault.failure = .protocol text

theorem faultsAre_present {kind : Fault → Prop} {fault : Fault} (h : kind fault)
    (value : Option String) : FaultsAre kind (present value fault) := by
  intro fault' hfault
  cases value with
  | none =>
      cases hfault
      exact h
  | some text => cases hfault

theorem Challenge.faultsAre_read {clientNonce message : String}
    (herror : first? "e" (attributes message) = none) :
    FaultsAre Fault.IsOfProtocol (Challenge.read clientNonce message) := by
  rw [Challenge.read, herror]
  refine .bind (faultsAre_present ⟨_, rfl⟩ _) fun nonce => ?_
  refine .ite_throw_bind ⟨_, rfl⟩ ?_
  refine .bind (faultsAre_present ⟨_, rfl⟩ _) fun encoded => ?_
  refine .bind (.mapError (fun _ => ⟨_, rfl⟩) _) fun salt => ?_
  refine .bind (faultsAre_present ⟨_, rfl⟩ _) fun count => ?_
  refine .bind (.mapError (fun _ => ⟨_, rfl⟩) _) fun iterations => ?_
  exact .ite_throw_bind ⟨_, rfl⟩ (.ok _)

theorem Challenge.read_of_error {clientNonce message text : String}
    (herror : first? "e" (attributes message) = some text) :
    Challenge.read clientNonce message = .error (.serverError text) := by
  rw [Challenge.read, herror]
  rfl

namespace Client

theorem exists_final_iff {client : Client} {message : String} :
    (∃ sent awaiting, client.final message = .ok (sent, awaiting)) ↔
      ∃ challenge, Challenge.read client.nonce message = .ok challenge := by
  cases hread : Challenge.read client.nonce message with
  | ok challenge =>
      rw [final_of_read hread]
      exact iff_of_true ⟨_, _, rfl⟩ ⟨challenge, rfl⟩
  | error fault =>
      rw [final_of_read_error hread]
      simp

/-- A client answers a message exactly if no error is reported in it, its last nonce extends the
client's, its last salt is base64 and its last count is a number from one on that fits 32 bits. The
answer is that nonce with a proof as long as the digests of the mechanism. The first error reported
makes the connection fail, whatever else the message holds, and all that can be wrong with a message
without one is a failure of the protocol. -/
theorem final_of_any_message (client : Client) (message : String) :
    ((∃ sent awaiting, client.final message = .ok (sent, awaiting)) ↔
      ¬Mentions message "e" ∧
        (∃ nonce, LastValue message "r" nonce ∧ client.nonce.toList <+: nonce.toList) ∧
        (∃ salt, LastValue message "s" (Base64.encode salt)) ∧
        ∃ count iterations, LastValue message "i" count ∧
          Numeral.IsNumeralOf count.toList iterations ∧ 1 ≤ iterations ∧ iterations < 2 ^ 32) ∧
    (∀ sent awaiting, client.final message = .ok (sent, awaiting) →
      ∃ nonce proof, LastValue message "r" nonce ∧ proof.length = client.algorithm.size ∧
        sent = "c=biws,r=" ++ nonce ++ ",p=" ++ Base64.encode proof) ∧
    (Mentions message "e" → ∃ text fault, FirstValue message "e" text ∧
      client.final message = .error fault ∧
      fault.failure = .connection ("scram server error: " ++ text)) ∧
    (¬Mentions message "e" → ∀ fault, client.final message = .error fault →
      ∃ text, fault.failure = .protocol text) := by
  refine ⟨exists_final_iff.trans Challenge.exists_read_iff, ?_, ?_, ?_⟩
  · intro sent awaiting hfinal
    obtain ⟨challenge, hread⟩ := exists_final_iff.1 ⟨sent, awaiting, hfinal⟩
    rw [final_of_read hread] at hfinal
    cases hfinal
    have hnonce := (Challenge.read_eq_ok_iff.1 hread).2.1
    refine ⟨challenge.nonce, _, (last?_eq_some_iff (by decide)).1 hnonce, ?_, rfl⟩
    exact length_proof (client.algorithm.length_hmac _ _)
  · intro hmentions
    cases herror : first? "e" (attributes message) with
    | none => exact absurd hmentions ((first?_eq_none_iff (by decide)).1 herror)
    | some text =>
        exact ⟨text, _, (first?_eq_some_iff (by decide)).1 herror,
          final_of_read_error (Challenge.read_of_error herror), rfl⟩
  · intro hnone fault hfinal
    have hkind : FaultsAre Fault.IsOfProtocol (Challenge.read client.nonce message) :=
      Challenge.faultsAre_read ((first?_eq_none_iff (by decide)).2 hnone)
    cases hread : Challenge.read client.nonce message with
    | ok challenge =>
        rw [final_of_read hread] at hfinal
        cases hfinal
    | error fault' =>
        rw [final_of_read_error hread] at hfinal
        cases hfinal
        exact hkind fault hread

end Client

end BrokerWatch.Sasl.Scram
