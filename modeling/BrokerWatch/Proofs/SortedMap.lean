import BrokerWatch.SortedMap
import Mathlib.Data.List.Sort

/-!
# Looking up in sorted maps

A map is told from outside by what stands at each key. Setting a key changes what stands there and
nothing else, so a map of entries holds at each key the last entry of that key. Of entries with keys
of their own it is the arrangement in which the keys rise, and those of some keys are arranged among
themselves as if there were no others.
-/

namespace BrokerWatch.SortedMap

variable {K V : Type} [Ord K]

/-! ### The order of the keys -/

/-- Keys differ where one comes before the other. -/
theorem ne_of_compare [Std.ReflOrd K] {a b : K} {order : Ordering} (h : compare a b = order)
    (horder : order ≠ .eq) : a ≠ b := by
  intro heq
  subst heq
  exact horder (h.symm.trans Std.ReflCmp.compare_self)

theorem rising_keys (m : SortedMap K V) : m.keys.Pairwise fun a b => compare a b = .lt :=
  List.pairwise_map.2 m.rising

theorem nodup_keys [Std.ReflOrd K] (m : SortedMap K V) : m.keys.Nodup :=
  m.rising_keys.imp fun h => ne_of_compare h (by decide)

/-! ### Some of the keys -/

/-- A key below all others comes first. -/
theorem put_of_below {key : K} {value : V} {entries : List (K × V)}
    (h : ∀ e ∈ entries, compare key e.1 = .lt) : put key value entries = (key, value) :: entries := by
  cases entries with
  | nil => rfl
  | cons entry rest => rw [put, h entry List.mem_cons_self]

section

variable [Std.TransOrd K] [Std.LawfulEqOrd K]

/-- Setting a key has its effect among the entries of some keys if it is one of these. -/
theorem filter_put (p : K → Bool) (key : K) (value : V) {entries : List (K × V)}
    (h : entries.Pairwise fun a b => compare a.1 b.1 = .lt) :
    (put key value entries).filter (p ·.1) =
      if p key then put key value (entries.filter (p ·.1)) else entries.filter (p ·.1) := by
  induction entries with
  | nil => cases hp : p key <;> simp [put, hp]
  | cons entry rest ih =>
      obtain ⟨above, tail⟩ := List.pairwise_cons.1 h
      rw [put]
      split
      · next hlt =>
          have hbelow : ∀ e ∈ (entry :: rest).filter (p ·.1), compare key e.1 = .lt := by
            intro e he
            rcases List.mem_cons.1 (List.mem_of_mem_filter he) with rfl | he
            · exact hlt
            · exact Std.TransCmp.lt_trans hlt (above e he)
          rw [put_of_below hbelow, List.filter_cons]
      · next heq =>
          have hkey : key = entry.1 := Std.LawfulEqCmp.eq_of_compare heq
          cases hp : p key with
          | false => simp [hp, ← hkey]
          | true => simp [hp, ← hkey, put]
      · next hgt =>
          cases hentry : p entry.1 with
          | false => simp [hentry, ih tail]
          | true =>
              cases hp : p key with
              | false => simp [hentry, ih tail, hp]
              | true => simp [hentry, ih tail, hp, put, hgt]

/-- The entries of some keys are arranged as if there were no others. -/
theorem filter_entries_ofList (p : K → Bool) (entries : List (K × V)) :
    (ofList entries : SortedMap K V).entries.filter (p ·.1) =
      (ofList (entries.filter (p ·.1)) : SortedMap K V).entries := by
  suffices h : ∀ m m' : SortedMap K V, m.entries.filter (p ·.1) = m'.entries →
      (entries.foldl (fun m e => m.insert e.1 e.2) m).entries.filter (p ·.1) =
        ((entries.filter (p ·.1)).foldl (fun m e => m.insert e.1 e.2) m').entries from
    h empty empty rfl
  induction entries with
  | nil => exact fun _ _ hsame => hsame
  | cons e entries ih =>
      intro m m' hsame
      have hput := filter_put p e.1 e.2 m.rising
      rw [List.foldl_cons, List.filter_cons]
      cases hp : p e.1 with
      | false =>
          rw [hp, if_neg Bool.false_ne_true] at hput
          rw [if_neg Bool.false_ne_true]
          exact ih (m.insert e.1 e.2) m' (hput.trans hsame)
      | true =>
          rw [hp, if_pos rfl, hsame] at hput
          rw [if_pos rfl, List.foldl_cons]
          exact ih (m.insert e.1 e.2) (m'.insert e.1 e.2) hput

end

/-! ### What stands at a key -/

variable [BEq K] [LawfulBEq K]

/-- The keys are those at which something stands. -/
theorem mem_keys_iff (m : SortedMap K V) (k : K) : k ∈ m.keys ↔ (m.get? k).isSome := by
  simp [keys, get?]

variable [Std.LawfulEqOrd K]

/-- The keys rise, so an entry is what is found at its key. -/
theorem mem_entries_iff (m : SortedMap K V) (k : K) (value : V) :
    (k, value) ∈ m.entries ↔ m.get? k = some value := by
  obtain ⟨entries, rising⟩ := m
  change _ ↔ (entries.find? (·.1 == k)).map (·.2) = some value
  induction entries with
  | nil => simp
  | cons entry rest ih =>
      have ⟨above, tail⟩ := List.pairwise_cons.1 rising
      by_cases h : entry.1 = k
      · have habsent : (k, value) ∉ rest :=
          fun hmem => ne_of_compare (above _ hmem) (by decide) h
        rw [List.find?_cons_of_pos (by simpa using h), List.mem_cons, or_iff_left habsent]
        simp [Prod.ext_iff, h, eq_comm]
      · have hne : (k, value) ≠ entry := fun heq => h (by rw [← heq])
        rw [List.find?_cons_of_neg (by simpa using h), List.mem_cons, or_iff_right hne, ih tail]

theorem find?_put (key k : K) (value : V) (entries : List (K × V)) :
    (put key value entries).find? (·.1 == k) =
      if key == k then some (key, value) else entries.find? (·.1 == k) := by
  induction entries with
  | nil => by_cases h : key == k <;> simp [put, h]
  | cons entry rest ih =>
      rw [put]
      split
      · rw [List.find?_cons]
        by_cases h : key == k <;> simp [h]
      · next heq =>
          -- The entry's own key is the one that is set.
          have hkey : key = entry.1 := Std.LawfulEqCmp.eq_of_compare heq
          by_cases h : key == k <;> simp [← hkey, h]
      · next hgt =>
          have hne : (entry.1 == key) = false :=
            beq_false_of_ne (ne_of_compare hgt (by decide)).symm
          rw [List.find?_cons, ih, List.find?_cons]
          by_cases h : key = k
          · rw [← h, hne]
          · simp [h]

variable [Std.TransOrd K]

theorem get?_insert (m : SortedMap K V) (key k : K) (value : V) :
    (m.insert key value).get? k = if key == k then some value else m.get? k := by
  change ((put key value m.entries).find? (·.1 == k)).map (·.2) = _
  rw [find?_put]
  by_cases h : key == k <;> simp [h, get?]

theorem mem_keys_insert (m : SortedMap K V) (key k : K) (value : V) :
    k ∈ (m.insert key value).keys ↔ k ∈ m.keys ∨ key = k := by
  rw [mem_keys_iff, get?_insert, mem_keys_iff]
  by_cases h : key = k <;> simp [h]

/-- The keys that are set one after the other are added to those that are there. -/
theorem mem_keys_foldl_insert {α : Type} (key : α → K) (value : α → V) (items : List α)
    (m : SortedMap K V) (k : K) :
    k ∈ (items.foldl (fun m item => m.insert (key item) (value item)) m).keys ↔
      k ∈ m.keys ∨ ∃ item ∈ items, key item = k := by
  induction items generalizing m with
  | nil => simp
  | cons item items ih => simp [ih, mem_keys_insert, or_assoc]

/-- At each key stands the value of the last entry of that key. -/
theorem get?_ofList (entries : List (K × V)) (k : K) :
    (ofList entries : SortedMap K V).get? k =
      (entries.reverse.find? (·.1 == k)).map (·.2) := by
  suffices h : ∀ m : SortedMap K V,
      (entries.foldl (fun m e => m.insert e.1 e.2) m).get? k =
        ((entries.reverse.find? (·.1 == k)).map (·.2)).or (m.get? k) by
    rw [ofList, h]
    simp [empty, get?]
  induction entries with
  | nil => simp
  | cons e entries ih =>
      intro m
      rw [List.foldl_cons, ih, get?_insert, List.reverse_cons, List.find?_append]
      cases entries.reverse.find? (·.1 == k) with
      | some last => simp
      | none => by_cases h : e.1 == k <;> simp [h]

/-! ### The entries of a map -/

/-- Nothing stands in a map that is not an entry of it. -/
theorem mem_of_mem_entries_ofList {entries : List (K × V)} {e : K × V}
    (h : e ∈ (ofList entries : SortedMap K V).entries) : e ∈ entries := by
  obtain ⟨key, value⟩ := e
  rw [mem_entries_iff, get?_ofList, Option.map_eq_some_iff] at h
  obtain ⟨e, he, rfl⟩ := h
  have hkey : e.1 = key := by simpa using List.find?_some he
  rw [← hkey]
  exact List.mem_reverse.1 (List.mem_of_find?_eq_some he)

/-- What stands in a map is a part of the entries that were set, in another order. -/
theorem entries_ofList_subperm (entries : List (K × V)) :
    (ofList entries : SortedMap K V).entries.Subperm entries := by
  have hnodup : (ofList entries : SortedMap K V).entries.Nodup :=
    List.Nodup.of_map Prod.fst (ofList entries).nodup_keys
  exact List.subperm_of_subset hnodup fun _ => mem_of_mem_entries_ofList

/-- Entries with keys of their own all stand in the map. -/
theorem mem_entries_ofList_iff {entries : List (K × V)} (h : (entries.map (·.1)).Nodup)
    (e : K × V) : e ∈ (ofList entries : SortedMap K V).entries ↔ e ∈ entries := by
  refine ⟨mem_of_mem_entries_ofList, fun hmem => ?_⟩
  obtain ⟨key, value⟩ := e
  rw [mem_entries_iff, get?_ofList, Option.map_eq_some_iff]
  cases hfound : entries.reverse.find? (·.1 == key) with
  | none =>
      have hother := List.find?_eq_none.1 hfound (key, value) (List.mem_reverse.2 hmem)
      exact absurd (beq_self_eq_true key) hother
  | some e =>
      have hkey : e.1 = key := by simpa using List.find?_some hfound
      have he : e ∈ entries := List.mem_reverse.1 (List.mem_of_find?_eq_some hfound)
      exact ⟨e, rfl, by rw [List.inj_on_of_nodup_map h he hmem hkey]⟩

/-- The map of entries is any arrangement of them in which the keys rise. -/
theorem entries_ofList_eq {entries arranged : List (K × V)} (h : (entries.map (·.1)).Nodup)
    (hrising : arranged.Pairwise fun a b => compare a.1 b.1 = .lt)
    (hmem : ∀ e, e ∈ arranged ↔ e ∈ entries) :
    (ofList entries : SortedMap K V).entries = arranged := by
  have irrefl : Std.Irrefl fun a b : K × V => compare a.1 b.1 = .lt :=
    ⟨fun a hlt => ne_of_compare hlt (by decide) rfl⟩
  have antisymm : Std.Antisymm fun a b : K × V => compare a.1 b.1 = .lt :=
    ⟨fun a b hab hba => absurd rfl (ne_of_compare (Std.TransCmp.lt_trans hab hba) (by decide))⟩
  exact (ofList entries).rising.eq_of_mem_iff hrising fun e =>
    (mem_entries_ofList_iff h e).trans (hmem e).symm

end BrokerWatch.SortedMap
