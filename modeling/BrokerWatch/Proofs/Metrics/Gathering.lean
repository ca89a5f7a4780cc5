import BrokerWatch.Metrics.Registry
import BrokerWatch.Proofs.SortedMap

/-!
# What a registry shows of memory

A registry takes the first source it is given and refuses every other. From then on each gathering
takes one reading and shows what that one gave: every number under its own name if it gave any, and
nothing of memory if it failed. Readings before and after leave no trace in it.
-/

namespace BrokerWatch.Metrics

def isOfMemory (name : String) : Bool :=
  "kafka_memory_".toList.isPrefixOf name.toList

/-- The numbers that are to be shown of a reading, by their names. There are none if it failed. -/
def rows : Except Failure Memory.Usage → List (String × Float)
  | .error _ => []
  | .ok u =>
    [("kafka_memory_inactive_file_bytes", u.inactiveFile.toFloat),
      ("kafka_memory_limit_bytes", u.limit.toFloat),
      ("kafka_memory_non_reclaimable_bytes", u.resident.toFloat),
      ("kafka_memory_oom_floor_ratio", u.oomFloorRatio),
      ("kafka_memory_oom_ratio", u.oomRatio),
      ("kafka_memory_rss_bytes", u.resident.toFloat),
      ("kafka_memory_usage_bytes", u.total.toFloat),
      ("kafka_memory_working_set_bytes", u.workingSet.toFloat)]

namespace Registry

/-- Families stand under their names. -/
theorem fst_eq_name {fs : List Family} {e : String × Family}
    (h : e ∈ (SortedMap.ofList (fs.map fun f => (f.name, f))).entries) : e.1 = e.2.name := by
  obtain ⟨f, -, rfl⟩ := List.mem_map.1 (SortedMap.mem_of_mem_entries_ofList h)
  rfl

theorem rising_sorted (fs : List Family) :
    (sorted fs).Pairwise fun a b => compare a.name b.name = .lt := by
  refine List.pairwise_map.2 ?_
  refine (SortedMap.rising _).imp_of_mem fun {a b} ha hb hlt => ?_
  rw [← fst_eq_name ha, ← fst_eq_name hb]
  exact hlt

/-- Families of some names are arranged as if there were no others. -/
theorem filter_sorted (p : String → Bool) (fs : List Family) :
    (sorted fs).filter (p ·.name) = sorted (fs.filter (p ·.name)) := by
  let entries := (SortedMap.ofList (fs.map fun f => (f.name, f))).entries
  have hnames : entries.filter (fun e => p e.2.name) = entries.filter (p ·.1) :=
    List.filter_congr fun e he => by rw [fst_eq_name he]
  show (entries.map (·.2)).filter (p ·.name) = _
  rw [List.filter_map]
  show (entries.filter fun e => p e.2.name).map (·.2) = _
  rw [hnames, SortedMap.filter_entries_ofList, List.filter_map]
  rfl

/-- The places of the gauges, by their names. -/
def places : List (Fin 8) :=
  [3, 1, 5, 7, 6, 2, 0, 4]

theorem map_name_families (u : Memory.Usage) :
    (families u).map (·.name) = Gauge.all.map (·.name) :=
  rfl

theorem sorted_families (u : Memory.Usage) :
    (sorted (families u)).map (fun f => (f.name, f.value)) = rows (.ok u) := by
  let arranged := places.map (families u).get
  have hperm : arranged.Perm (families u) := by
    have hplaces : places.Perm (List.finRange 8) := by decide
    have hall : (List.finRange 8).map (families u).get = families u := List.map_get_finRange _
    rw [← hall]
    exact hplaces.map (families u).get
  have hnames : (Gauge.all.map (·.name)).Nodup := by decide
  have hrising : (arranged.map (·.name)).Pairwise fun a b => compare a b = .lt := by
    show ((places.map Gauge.all.get).map (·.name)).Pairwise fun a b => compare a b = .lt
    decide +kernel
  have hentries : (SortedMap.ofList ((families u).map fun f => (f.name, f))).entries =
      arranged.map fun f => (f.name, f) := by
    refine SortedMap.entries_ofList_eq ?_ ?_ fun e => ?_
    · rw [List.map_map]
      exact hnames
    · rw [List.pairwise_map] at hrising
      rw [List.pairwise_map]
      exact hrising
    · exact (hperm.map fun f => (f.name, f)).mem_iff
  rw [sorted, SortedMap.values, hentries]
  rfl

theorem sorted_collect (reading : Except Failure Memory.Usage) :
    (sorted (collect reading)).map (fun f => (f.name, f.value)) = rows reading := by
  cases reading with
  | error failure => rfl
  | ok u => exact sorted_families u

theorem isOfMemory_of_collect {reading : Except Failure Memory.Usage} {f : Family}
    (h : f ∈ collect reading) : isOfMemory f.name = true := by
  have hgauges : ∀ g ∈ Gauge.all, isOfMemory g.name = true := by decide
  cases reading with
  | error failure => cases h
  | ok u =>
      have hname : f.name ∈ (families u).map (·.name) := List.mem_map_of_mem h
      rw [map_name_families] at hname
      obtain ⟨g, hg, hsame⟩ := List.mem_map.1 hname
      rw [← hsame]
      exact hgauges g hg

/-- What is shown of memory does not depend on the other families, nor they on it. -/
theorem filter_sorted_collect (reading : Except Failure Memory.Usage) {others : List Family}
    (h : ∀ f ∈ others, isOfMemory f.name = false) :
    (sorted (collect reading ++ others)).filter (isOfMemory ·.name) = sorted (collect reading) ∧
      (sorted (collect reading ++ others)).filter (!isOfMemory ·.name) = sorted others := by
  have hown : ∀ f ∈ collect reading, isOfMemory f.name = true := fun f hf => isOfMemory_of_collect hf
  constructor
  · rw [filter_sorted, List.filter_append, List.filter_eq_self.2 hown,
      List.filter_eq_nil_iff.2 fun f hf => by simp [h f hf], List.append_nil]
  · rw [filter_sorted (fun name => !isOfMemory name), List.filter_append,
      List.filter_eq_nil_iff.2 fun f hf => by simp [hown f hf],
      List.filter_eq_self.2 fun f hf => by simp [h f hf], List.nil_append]

/-! ### Uses in turn -/

variable {Source : Type}

/-- Readings that come one after the other. The state is how many were taken so far. -/
def taking (readings : Nat → Source → Except Failure Memory.Usage) (source : Source) :
    StateM Nat (Except Failure Memory.Usage) :=
  fun taken => (readings taken source, taken + 1)

def Use.source? : Use Source → Option Source
  | .register source => some source
  | .gather => none

def firstSource? (uses : List (Use Source)) : Option Source :=
  uses.findSome? (·.source?)

/-- How many gatherings there are behind the first source. -/
def gatherings (uses : List (Use Source)) : Nat :=
  (uses.dropWhile (·.source?.isNone)).countP (·.source?.isNone)

variable (readings : Nat → Source → Except Failure Memory.Usage)

section

variable (others : List Family) (source own : Source) (taken : Nat)

theorem apply_first_register :
    apply ⟨none, others⟩ (taking readings) (.register source) taken =
      ((⟨some source, others⟩, .registered), taken) :=
  rfl

theorem apply_later_register :
    apply ⟨some own, others⟩ (taking readings) (.register source) taken =
      ((⟨some own, others⟩,
        .refused (.metrics "Duplicate metrics collector registration attempted")), taken) :=
  rfl

theorem apply_gather_without_source :
    apply ⟨none, others⟩ (taking readings) .gather taken =
      ((⟨none, others⟩, .shows (sorted others)), taken) :=
  rfl

theorem apply_gather :
    apply ⟨some own, others⟩ (taking readings) .gather taken =
      ((⟨some own, others⟩, .shows (sorted (collect (readings taken own) ++ others))), taken + 1) :=
  rfl

end

theorem run_cons (r : Registry Source) (use : Use Source) (uses : List (Use Source)) (taken : Nat) :
    r.run (taking readings) (use :: uses) taken =
      let first := r.apply (taking readings) use taken
      let rest := first.1.1.run (taking readings) uses first.2
      ((rest.1.1, first.1.2 :: rest.1.2), rest.2) :=
  rfl

/-- After uses a registry has the source that it had, or else the first that it was offered. -/
theorem registry_run (r : Registry Source) (uses : List (Use Source)) (taken : Nat) :
    (r.run (taking readings) uses taken).1.1 =
      { r with source := r.source.or (firstSource? uses) } := by
  induction uses generalizing r taken with
  | nil =>
      rw [firstSource?, List.findSome?_nil, Option.or_none]
      rfl
  | cons use uses ih =>
      obtain ⟨_ | own, others⟩ := r <;> cases use <;>
        · rw [run_cons, ih]
          rfl

/-- Uses take a reading for every gathering that finds a source there. -/
theorem taken_run (r : Registry Source) (uses : List (Use Source)) (taken : Nat) :
    (r.run (taking readings) uses taken).2 = taken +
      match r.source with
      | none => gatherings uses
      | some _ => uses.countP (·.source?.isNone) := by
  induction uses generalizing r taken with
  | nil => cases r.source <;> rfl
  | cons use uses ih =>
      rw [run_cons]
      obtain ⟨_ | own, others⟩ := r
      · cases use with
        | register source =>
            rw [apply_first_register, ih]
            simp [gatherings, Use.source?]
        | gather =>
            rw [apply_gather_without_source, ih]
            simp [gatherings, Use.source?]
      · cases use with
        | register source =>
            rw [apply_later_register, ih]
            simp [Use.source?]
        | gather =>
            rw [apply_gather, ih]
            simp only [Use.source?, Option.isNone_none, List.countP_cons_of_pos]
            omega

theorem run_concat (r : Registry Source) (use : Use Source) (uses : List (Use Source))
    (taken : Nat) :
    r.run (taking readings) (uses ++ [use]) taken =
      let before := r.run (taking readings) uses taken
      let last := before.1.1.apply (taking readings) use before.2
      ((last.1.1, before.1.2 ++ [last.1.2]), last.2) := by
  induction uses generalizing r taken with
  | nil => rfl
  | cons first uses ih => simp only [List.cons_append, run_cons, ih]

theorem reply_run (r : Registry Source) (uses : List (Use Source)) (taken i : Nat)
    (hi : i < uses.length) :
    let before := r.run (taking readings) (uses.take i) taken
    (r.run (taking readings) uses taken).1.2[i]? =
      some (before.1.1.apply (taking readings) uses[i] before.2).1.2 := by
  induction uses generalizing r taken i with
  | nil => cases hi
  | cons use uses ih =>
      cases i with
      | zero => rfl
      | succ i => exact ih _ _ i (Nat.lt_of_succ_lt_succ hi)

/-- Sources are offered to a registry and gatherings asked of it in any order. The first source is
taken, and every other is refused and leaves everything as it was. A gathering takes no reading before
there is a source, and exactly one from then on. Of memory it shows what that reading gave and nothing
else: the eight numbers under their names, in the order of these, or none if the reading failed. -/
theorem gatherings_show_one_reading {others : List Family}
    (hothers : ∀ f ∈ others, isOfMemory f.name = false) (uses : List (Use Source)) {i : Nat}
    (hi : i < uses.length) :
    let fresh : Registry Source := { others }
    let before := fresh.run (taking readings) (uses.take i) 0
    let after := fresh.run (taking readings) (uses.take (i + 1)) 0
    let reply? := (fresh.run (taking readings) uses 0).1.2[i]?
    before.1.1 = ⟨firstSource? (uses.take i), others⟩ ∧ before.2 = gatherings (uses.take i) ∧
      match uses[i], firstSource? (uses.take i) with
      | .register source, none =>
        reply? = some .registered ∧ after.1.1 = ⟨some source, others⟩ ∧ after.2 = before.2
      | .register _, some _ =>
        reply? = some (.refused (.metrics "Duplicate metrics collector registration attempted")) ∧
          after.1.1 = before.1.1 ∧ after.2 = before.2
      | .gather, none =>
        reply? = some (.shows (sorted others)) ∧ after.1.1 = before.1.1 ∧ after.2 = before.2
      | .gather, some source =>
        after.1.1 = before.1.1 ∧ after.2 = before.2 + 1 ∧
          ∃ shown, reply? = some (.shows shown) ∧
            shown.Pairwise (fun a b => compare a.name b.name = .lt) ∧
            (shown.filter (isOfMemory ·.name)).map (fun f => (f.name, f.value)) =
              rows (readings (gatherings (uses.take i)) source) ∧
            shown.filter (!isOfMemory ·.name) = sorted others := by
  intro fresh before after reply?
  have hregistry : before.1.1 = ⟨firstSource? (uses.take i), others⟩ :=
    registry_run readings fresh (uses.take i) 0
  have htaken : before.2 = gatherings (uses.take i) :=
    (taken_run readings fresh (uses.take i) 0).trans (Nat.zero_add _)
  have hreply : reply? = some (before.1.1.apply (taking readings) uses[i] before.2).1.2 :=
    reply_run readings fresh uses 0 i hi
  have hafter := run_concat readings fresh uses[i] (uses.take i) 0
  rw [← List.take_succ_eq_append_getElem hi] at hafter
  have hregistry' : after.1.1 = (before.1.1.apply (taking readings) uses[i] before.2).1.1 :=
    congrArg (·.1.1) hafter
  have htaken' : after.2 = (before.1.1.apply (taking readings) uses[i] before.2).2 :=
    congrArg (·.2) hafter
  refine ⟨hregistry, htaken, ?_⟩
  rw [hreply, hregistry', htaken', ← htaken, hregistry]
  cases uses[i] with
  | register source =>
      cases firstSource? (uses.take i) with
      | none => exact ⟨rfl, rfl, rfl⟩
      | some own => exact ⟨rfl, rfl, rfl⟩
  | gather =>
      cases firstSource? (uses.take i) with
      | none => exact ⟨rfl, rfl, rfl⟩
      | some own =>
          obtain ⟨hmemory, hothers⟩ := filter_sorted_collect (readings before.2 own) hothers
          refine ⟨rfl, rfl, _, rfl, rising_sorted _, ?_, hothers⟩
          rw [hmemory, sorted_collect]

/-- The first gathering comes too early, the second finds nothing to read, and the third shows all
numbers of its own reading next to a family that has no name. -/
theorem gatherings_show_one_reading_at_last :
    let others : List Family := [⟨"", "", 0⟩]
    let usage : Memory.Usage := .derive 1000 4000 600 200
    let readings : Nat → Unit → Except Failure Memory.Usage := fun taken _ =>
      if taken = 0 then .error (.io "gone") else .ok usage
    let uses : List (Use Unit) := [.gather, .register (), .gather, .register (), .gather]
    (∀ f ∈ others, isOfMemory f.name = false) ∧ 4 < uses.length ∧
      ∃ shown, (run { others } (taking readings) uses 0).1.2[4]? = some (.shows shown) ∧
        (shown.filter (isOfMemory ·.name)).map (fun f => (f.name, f.value)) = rows (.ok usage) := by
  intro others usage readings uses
  have hothers : ∀ f ∈ others, isOfMemory f.name = false := by
    simp only [others, List.forall_mem_singleton]
    decide
  have hi : 4 < uses.length := by decide
  obtain ⟨-, -, -, -, shown, hreply, -, hrows, -⟩ :=
    gatherings_show_one_reading readings hothers uses hi
  exact ⟨hothers, hi, shown, hreply, hrows⟩

end Registry

end BrokerWatch.Metrics
