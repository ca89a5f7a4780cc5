/-!
# Sorted maps

A finite map keeps its entries in rising order of their keys, one entry a key. Inserting at a key that
is there replaces its value. A map to the unit type is a sorted set.
-/

namespace BrokerWatch

/-- A finite map whose entries stand in rising order of their keys. -/
structure SortedMap (K V : Type) [Ord K] where
  entries : List (K × V)
  rising : entries.Pairwise fun a b => compare a.1 b.1 = .lt

namespace SortedMap

variable {K V : Type} [Ord K]

def empty : SortedMap K V := ⟨[], .nil⟩

instance : Inhabited (SortedMap K V) := ⟨empty⟩

/-- The entries with a key set to a value. -/
def put (key : K) (value : V) : List (K × V) → List (K × V)
  | [] => [(key, value)]
  | entry :: rest =>
    match compare key entry.1 with
    | .lt => (key, value) :: entry :: rest
    | .eq => (key, value) :: rest
    | .gt => entry :: put key value rest

theorem eq_or_mem_of_mem_put {key : K} {value : V} {entries : List (K × V)} {e : K × V}
    (h : e ∈ put key value entries) : e = (key, value) ∨ e ∈ entries := by
  induction entries with
  | nil => simpa [put] using h
  | cons entry rest ih =>
    rw [put] at h
    split at h <;> simp only [List.mem_cons] at h ⊢
    · exact h
    · exact h.imp_right .inr
    · rcases h with h | h
      · exact .inr (.inl h)
      · exact (ih h).imp_right .inr

variable [Std.TransOrd K]

theorem rising_put (key : K) (value : V) {entries : List (K × V)}
    (h : entries.Pairwise fun a b => compare a.1 b.1 = .lt) :
    (put key value entries).Pairwise fun a b => compare a.1 b.1 = .lt := by
  induction entries with
  | nil => simp [put]
  | cons entry rest ih =>
    have ⟨above, tail⟩ := List.pairwise_cons.1 h
    rw [put]
    split
    · next lt =>
      refine List.pairwise_cons.2 ⟨fun e he => ?_, h⟩
      rcases List.mem_cons.1 he with rfl | he
      · exact lt
      · exact Std.TransCmp.lt_trans lt (above e he)
    · next eq =>
      exact List.pairwise_cons.2 ⟨fun e he => Std.TransCmp.lt_of_eq_of_lt eq (above e he), tail⟩
    · next gt =>
      refine List.pairwise_cons.2 ⟨fun e he => ?_, ih tail⟩
      rcases eq_or_mem_of_mem_put he with rfl | he
      · exact Std.OrientedCmp.lt_of_gt gt
      · exact above e he

def insert (m : SortedMap K V) (key : K) (value : V) : SortedMap K V :=
  ⟨put key value m.entries, rising_put key value m.rising⟩

/-- The map of entries, of which a later one replaces an earlier one of the same key. -/
def ofList (entries : List (K × V)) : SortedMap K V :=
  entries.foldl (fun m e => m.insert e.1 e.2) empty

def get? [BEq K] (m : SortedMap K V) (key : K) : Option V :=
  (m.entries.find? (·.1 == key)).map (·.2)

def keys (m : SortedMap K V) : List K :=
  m.entries.map (·.1)

def values (m : SortedMap K V) : List V :=
  m.entries.map (·.2)

end SortedMap

end BrokerWatch
