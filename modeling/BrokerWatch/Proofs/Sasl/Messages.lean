import BrokerWatch.Proofs.Base64
import BrokerWatch.Proofs.Numeral
import BrokerWatch.Proofs.Text.Split
import BrokerWatch.Sasl.Scram

/-!
# The attributes of a message

A message of SCRAM is its attributes with commas between them. Values may hold any character but the
comma, `=` included, and the attributes are read back from the message.
-/

namespace BrokerWatch.Sasl.Scram

/-- A name and a value that can stand in a message. -/
def IsAttribute (pair : String × String) : Prop :=
  '=' ∉ pair.1.toList ∧ ',' ∉ pair.1.toList ∧ ',' ∉ pair.2.toList

instance (pair : String × String) : Decidable (IsAttribute pair) :=
  inferInstanceAs (Decidable (_ ∧ _ ∧ _))

theorem IsAttribute.of_name {name value : String}
    (hname : '=' ∉ name.toList ∧ ',' ∉ name.toList) (hvalue : ',' ∉ value.toList) :
    IsAttribute (name, value) :=
  ⟨hname.1, hname.2, hvalue⟩

theorem IsAttribute.notMem {name value : String} (h : IsAttribute (name, value)) :
    ',' ∉ (name ++ "=" ++ value).toList := by
  obtain ⟨-, hname, hvalue⟩ := h
  simp only [String.toList_append, List.mem_append, not_or]
  exact ⟨⟨hname, by decide⟩, hvalue⟩

def field (pair : String × String) : List Char :=
  (pair.1 ++ "=" ++ pair.2).toList

theorem field_eq (name value : String) :
    field (name, value) = name.toList ++ '=' :: value.toList := by
  simp [field, String.toList_append]

theorem splitFirst_field {pair : String × String} (h : IsAttribute pair) :
    Text.splitFirst '=' (field pair) = some (pair.1.toList, pair.2.toList) := by
  rw [field_eq, Text.splitFirst_append_cons h.1]

theorem attributes_intercalate {pairs : List (String × String)}
    (h : ∀ pair ∈ pairs, IsAttribute pair) :
    attributes (",".intercalate (pairs.map fun (name, value) => name ++ "=" ++ value)) = pairs := by
  by_cases hne : pairs = []
  · subst hne
    rfl
  have hfields : Text.fields ',' ([','].intercalate (pairs.map field)) = pairs.map field := by
    refine Text.fields_intercalate (by simpa using hne) ?_
    intro part hpart
    obtain ⟨pair, hpair, rfl⟩ := List.mem_map.1 hpart
    exact (h pair hpair).notMem
  rw [attributes, String.toList_intercalate, List.map_map]
  change (Text.fields ',' ([','].intercalate (pairs.map field))).filterMap _ = pairs
  rw [hfields, List.filterMap_map]
  refine (List.filterMap_congr fun pair hpair => ?_).trans List.filterMap_some
  rw [Function.comp_apply, splitFirst_field (h pair hpair), Option.map_some]
  simp only [String.ofList_toList]

theorem attributes_two {name value name' value' : String} (h : IsAttribute (name, value))
    (h' : IsAttribute (name', value')) :
    attributes (name ++ "=" ++ value ++ "," ++ (name' ++ "=" ++ value')) =
      [(name, value), (name', value')] := by
  have hpairs : ∀ pair ∈ [(name, value), (name', value')], IsAttribute pair := by
    intro pair hpair
    simp only [List.mem_cons, List.not_mem_nil, or_false] at hpair
    rcases hpair with rfl | rfl
    · exact h
    · exact h'
  have hread := attributes_intercalate hpairs
  rwa [List.map_cons, List.map_cons, List.map_nil, String.intercalate_cons_cons,
    String.intercalate_singleton] at hread

theorem first?_eq_none {name : String} {list : List (String × String)}
    (h : ∀ a ∈ list, a.1 ≠ name) : first? name list = none := by
  rw [first?, List.find?_eq_none.2 fun a ha => by simpa using h a ha, Option.map_none]

/-- Attributes of other names do not change the last value of an attribute. -/
theorem last?_append {name : String} (front : List (String × String))
    {back : List (String × String)} (h : ∀ a ∈ back, a.1 ≠ name) :
    last? name (front ++ back) = last? name front := by
  have hnone : back.reverse.find? (·.1 == name) = none :=
    List.find?_eq_none.2 fun a ha => by simpa using h a (List.mem_reverse.1 ha)
  rw [last?, first?, List.reverse_append, List.find?_append, hnone, Option.none_or, last?, first?]

/-- No separator is left in a name that was escaped. -/
theorem comma_notMem_escape (name : List Char) : ',' ∉ escape name := by
  intro h
  rw [escape, List.mem_flatMap] at h
  obtain ⟨c, -, hc⟩ := h
  by_cases hequals : c = '='
  · rw [if_pos hequals] at hc
    exact absurd hc (by decide)
  · rw [if_neg hequals] at hc
    by_cases hcomma : c = ','
    · rw [if_pos hcomma] at hc
      exact absurd hc (by decide)
    · rw [if_neg hcomma, List.mem_singleton] at hc
      exact hcomma hc.symm

/-! ### A client that has sent nothing yet -/

/-- The digest that a mechanism is named after. -/
inductive NamedAfter : Mechanism → Digest.Algorithm → Prop
  | sha256 : NamedAfter .scramSha256 .sha256
  | sha512 : NamedAfter .scramSha512 .sha512

theorem NamedAfter.unique {mechanism : Mechanism} {algorithm algorithm' : Digest.Algorithm}
    (h : NamedAfter mechanism algorithm) (h' : NamedAfter mechanism algorithm') :
    algorithm = algorithm' := by
  cases h <;> cases h' <;> rfl

theorem NamedAfter.ne_plain {mechanism : Mechanism} {algorithm : Digest.Algorithm}
    (h : NamedAfter mechanism algorithm) : mechanism ≠ .plain := by
  cases h <;> decide

theorem Client.new_eq_ok_iff {mechanism : Mechanism} {username password nonce : String}
    {client : Client} :
    Client.new mechanism username password nonce = .ok client ↔
      ∃ algorithm, NamedAfter mechanism algorithm ∧ client =
        ⟨algorithm, password, "n=" ++ String.ofList (escape username.toList) ++ ",r=" ++ nonce,
          nonce, none⟩ := by
  constructor
  · intro h
    cases mechanism with
    | plain => cases h
    | scramSha256 =>
        cases h
        exact ⟨.sha256, .sha256, rfl⟩
    | scramSha512 =>
        cases h
        exact ⟨.sha512, .sha512, rfl⟩
  · intro h
    obtain ⟨algorithm, hnamed, rfl⟩ := h
    cases hnamed <;> rfl

end BrokerWatch.Sasl.Scram
