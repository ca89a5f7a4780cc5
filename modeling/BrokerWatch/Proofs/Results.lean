/-!
# When steps that can fail succeed

A chain of steps succeeds exactly if each of them does with the values of those before it, and a
check that ends the chain leaves what follows it to the other case. A chain that fails has the fault
of its first step that does, so what is true of every step's faults is true of the chain's.
-/

namespace BrokerWatch

variable {ε ε' α β : Type}

theorem bind_eq_ok_iff {x : Except ε α} {next : α → Except ε β} {b : β} :
    (x >>= next) = .ok b ↔ ∃ a, x = .ok a ∧ next a = .ok b := by
  cases x with
  | error e => simp [bind, Except.bind]
  | ok a => simp [bind, Except.bind]

theorem map_eq_ok_iff {f : α → β} {x : Except ε α} {b : β} :
    x.map f = .ok b ↔ ∃ a, x = .ok a ∧ f a = b := by
  cases x <;> simp [Except.map]

theorem map_eq_error_iff {f : α → β} {x : Except ε α} {e : ε} :
    x.map f = .error e ↔ x = .error e := by
  cases x <;> simp [Except.map]

theorem mapError_eq_ok_iff {f : ε → ε'} {x : Except ε α} {a : α} :
    x.mapError f = .ok a ↔ x = .ok a := by
  cases x with
  | error e => exact iff_of_false (fun h => nomatch h) (fun h => nomatch h)
  | ok b => constructor <;> intro h <;> cases h <;> rfl

theorem toOption_eq_some_iff {x : Except ε α} {a : α} : x.toOption = some a ↔ x = .ok a := by
  cases x <;> simp [Except.toOption]

theorem ite_throw_eq_ok_iff {c : Prop} [Decidable c] {e : ε} {other : Except ε α} {a : α} :
    (if c then throw e else other) = .ok a ↔ ¬c ∧ other = .ok a := by
  by_cases hc : c
  · rw [if_pos hc]
    exact iff_of_false (fun h => nomatch h) fun h => h.1 hc
  · rw [if_neg hc]
    exact (and_iff_right hc).symm

/-- The same for a check in the middle of a chain. -/
theorem ite_throw_bind_eq_ok_iff {c : Prop} [Decidable c] {e : ε} {next : β → Except ε α}
    {other : Except ε α} {a : α} :
    (if c then (throw e : Except ε β) >>= next else other) = .ok a ↔ ¬c ∧ other = .ok a :=
  ite_throw_eq_ok_iff

/-! ### Which faults there can be -/

/-- Every fault of a step is one of a kind. -/
def FaultsAre (kind : ε → Prop) (x : Except ε α) : Prop :=
  ∀ e, x = .error e → kind e

namespace FaultsAre

variable {kind : ε → Prop}

theorem ok (a : α) : FaultsAre kind (.ok a : Except ε α) := by
  intro e h
  cases h

theorem bind {x : Except ε α} {next : α → Except ε β} (hx : FaultsAre kind x)
    (hnext : ∀ a, FaultsAre kind (next a)) : FaultsAre kind (x >>= next) := by
  cases x with
  | error e =>
      intro e' h
      cases h
      exact hx e rfl
  | ok a => exact hnext a

theorem mapError {f : ε' → ε} (h : ∀ e, kind (f e)) (x : Except ε' α) :
    FaultsAre kind (x.mapError f) := by
  intro e hx
  cases x with
  | error e' =>
      cases hx
      exact h e'
  | ok a => cases hx

theorem ite_throw_bind {c : Prop} [Decidable c] {e : ε} {next : β → Except ε α}
    {other : Except ε α} (he : kind e) (hother : FaultsAre kind other) :
    FaultsAre kind (if c then (throw e : Except ε β) >>= next else other) := by
  by_cases hc : c
  · rw [if_pos hc]
    intro e' h
    cases h
    exact he
  · rwa [if_neg hc]

end FaultsAre

/-! ### The first fault -/

/-- Why a step failed, if it did. -/
def fault? : Except ε α → Option ε
  | .error e => some e
  | .ok _ => none

theorem fault?_eq_some_iff {x : Except ε α} {e : ε} : fault? x = some e ↔ x = .error e := by
  cases x <;> simp [fault?]

theorem map_fault?_eq_some_iff {f : ε → ε'} {x : Except ε α} {e : ε'} :
    (fault? x).map f = some e ↔ ∃ cause, x = .error cause ∧ f cause = e := by
  simp only [Option.map_eq_some_iff, fault?_eq_some_iff]

theorem fault?_eq_none_iff {x : Except ε α} : fault? x = none ↔ ∃ a, x = .ok a := by
  cases x <;> simp [fault?]

theorem fault?_mapError {f : ε → ε'} {x : Except ε α} :
    fault? (x.mapError f) = (fault? x).map f := by
  cases x <;> rfl

/-- Where what follows a step fails or not whatever the step's value was, the first fault counts. -/
theorem fault?_bind {x : Except ε α} {next : α → Except ε β} {later : Option ε}
    (h : ∀ a, fault? (next a) = later) : fault? (x >>= next) = (fault? x).or later := by
  cases x with
  | error e => rfl
  | ok a => exact h a

theorem fault?_ite_throw {c : Prop} [Decidable c] {e : ε} {other : Except ε α} :
    fault? (if c then throw e else other) = (if c then some e else none).or (fault? other) := by
  by_cases hc : c
  · rw [if_pos hc, if_pos hc]
    rfl
  · rw [if_neg hc, if_neg hc, Option.none_or]

theorem findSome?_cons_or {f : α → Option β} {a : α} {others : List α} :
    (a :: others).findSome? f = (f a).or (others.findSome? f) := by
  rw [List.findSome?_cons]
  cases f a <;> rfl

end BrokerWatch
