import BrokerWatch.Cluster.LogDirs
import BrokerWatch.Cluster.Metadata
import BrokerWatch.Proofs.SortedMap

/-!
# What a snapshot and a scan say

The questions that are asked of a snapshot and of log directories, answered in terms of the brokers,
partitions, errors and placements themselves.
-/

namespace BrokerWatch.Cluster

namespace Metadata

theorem hasBroker_iff (m : Metadata) (id : Int32) :
    m.hasBroker id ↔ ∃ broker ∈ m.brokers, broker.id = id := by
  simp [hasBroker]

theorem hasController_iff (m : Metadata) : m.hasController ↔ 0 ≤ m.controller := by
  simp [hasController]

/-- A broker lags nowhere exactly if it is in sync wherever it has a replica. -/
theorem lagging_eq_zero_iff (m : Metadata) (id : Int32) :
    m.lagging id = 0 ↔
      ∀ topic ∈ m.topics, ∀ p ∈ topic.partitions, id ∈ p.replicas → id ∈ p.inSync := by
  simp only [lagging, List.countP_eq_zero, List.mem_flatMap, Partition.lags]
  grind

end Metadata

/-! ### Log directories -/

/-- A partition is still being moved to a directory. -/
def LogDir.Awaits (d : LogDir) (topic : String) (partition : Int32) : Prop :=
  ∃ placement ∈ d.placements,
    placement.isFuture ∧ placement.topic = topic ∧ placement.partition = partition

theorem LogDir.isHealthy_iff (d : LogDir) :
    d.isHealthy ↔ d.error = none ∧ ∀ topic partition, ¬d.Awaits topic partition := by
  simp only [isHealthy, Bool.and_eq_true, Option.isNone_iff_eq_none, Bool.not_eq_true',
    List.any_eq_false]
  refine and_congr_right fun _ => ⟨fun h topic partition hawaits => ?_, fun h placement hmem => ?_⟩
  · obtain ⟨placement, hmem, hfuture, -, -⟩ := hawaits
    exact h placement hmem hfuture
  · exact fun hfuture => h _ _ ⟨placement, hmem, hfuture, rfl, rfl⟩

namespace Findings

theorem mem_futures_addDir (f : Findings) (key : String) (d : LogDir) (p : FuturePlacement) :
    p ∈ (f.addDir key d).futures.keys ↔
      p ∈ f.futures.keys ∨ p.key = key ∧ d.Awaits p.topic p.partition := by
  rw [addDir, SortedMap.mem_keys_foldl_insert]
  refine or_congr_right ⟨fun h => ?_, fun h => ?_⟩
  · obtain ⟨placement, hmem, rfl⟩ := h
    obtain ⟨hmem, hfuture⟩ := List.mem_filter.1 hmem
    exact ⟨rfl, placement, hmem, hfuture, rfl, rfl⟩
  · obtain ⟨key, topic, partition⟩ := p
    obtain ⟨rfl, placement, hmem, hfuture, rfl, rfl⟩ := h
    exact ⟨placement, List.mem_filter.2 ⟨hmem, hfuture⟩, rfl⟩

/-- The errors that a scan finds are those of the directories, in the order of their keys. -/
theorem errors_scan (dirs : LogDirs) :
    (scan dirs).errors =
      dirs.entries.filterMap fun entry => entry.2.error.map (entry.1, ·) := by
  suffices h : ∀ (entries : List (String × LogDir)) (f : Findings),
      (entries.foldl (fun f entry => f.addDir entry.1 entry.2) f).errors =
        f.errors ++ entries.filterMap fun entry => entry.2.error.map (entry.1, ·) by
    rw [scan, h, List.nil_append]
  intro entries
  induction entries with
  | nil => simp
  | cons entry entries ih =>
      intro f
      rw [List.foldl_cons, ih, addDir, List.append_assoc, List.filterMap_cons]
      cases entry.2.error <;> rfl

/-- The placements that a scan finds are those that the directories await. -/
theorem mem_futures_scan (dirs : LogDirs) (p : FuturePlacement) :
    p ∈ (scan dirs).futures.keys ↔
      ∃ dir, (p.key, dir) ∈ dirs.entries ∧ dir.Awaits p.topic p.partition := by
  -- What was found before stays, and every further directory adds its own.
  suffices h : ∀ (entries : List (String × LogDir)) (f : Findings),
      p ∈ (entries.foldl (fun f entry => f.addDir entry.1 entry.2) f).futures.keys ↔
        p ∈ f.futures.keys ∨ ∃ dir, (p.key, dir) ∈ entries ∧ dir.Awaits p.topic p.partition by
    rw [scan, h]
    simp [SortedMap.keys, SortedMap.empty]
  intro entries
  induction entries with
  | nil => simp
  | cons entry entries ih =>
      intro f
      obtain ⟨key, dir⟩ := entry
      simp only [List.foldl_cons, ih, mem_futures_addDir, List.mem_cons, Prod.mk.injEq, or_assoc,
        or_and_right, exists_or, and_assoc, exists_and_left, exists_eq_left]

theorem isHealthy_iff (f : Findings) : f.isHealthy ↔ f.errors = [] ∧ ∀ p, p ∉ f.futures.keys := by
  simp [isHealthy, SortedMap.keys, List.eq_nil_iff_forall_not_mem]

/-- A scan finds nothing wrong exactly if every directory is healthy. -/
theorem isHealthy_scan (dirs : LogDirs) :
    (scan dirs).isHealthy ↔ ∀ entry ∈ dirs.entries, entry.2.isHealthy := by
  rw [isHealthy_iff, errors_scan, List.filterMap_eq_nil_iff]
  simp only [Option.map_eq_none_iff, mem_futures_scan, LogDir.isHealthy_iff]
  constructor
  · intro h entry hentry
    refine ⟨h.1 entry hentry, fun topic partition hawaits => ?_⟩
    exact h.2 ⟨entry.1, topic, partition⟩ ⟨entry.2, hentry, hawaits⟩
  · intro h
    refine ⟨fun entry hentry => (h entry hentry).1, fun p hfound => ?_⟩
    obtain ⟨dir, hentry, hawaits⟩ := hfound
    exact (h _ hentry).2 _ _ hawaits

/-- The errors stand in the order in which the keys do, so there is one a key at most. -/
theorem rising_errors_scan (dirs : LogDirs) :
    (scan dirs).errors.Pairwise fun a b => compare a.1 b.1 = .lt := by
  rw [errors_scan, List.pairwise_filterMap]
  refine dirs.rising.imp fun {a b} hlt found hfound found' hfound' => ?_
  obtain ⟨error, -, rfl⟩ := Option.map_eq_some_iff.1 hfound
  obtain ⟨error', -, rfl⟩ := Option.map_eq_some_iff.1 hfound'
  exact hlt

theorem mem_errors_scan (dirs : LogDirs) (key error : String) :
    (key, error) ∈ (scan dirs).errors ↔
      ∃ dir, (key, dir) ∈ dirs.entries ∧ dir.error = some error := by
  rw [errors_scan, List.mem_filterMap]
  constructor
  · intro h
    obtain ⟨⟨key', dir⟩, hentry, hfound⟩ := h
    obtain ⟨error', herror, hsame⟩ := Option.map_eq_some_iff.1 hfound
    cases hsame
    exact ⟨dir, hentry, herror⟩
  · intro h
    obtain ⟨dir, hentry, herror⟩ := h
    exact ⟨(key, dir), hentry, by rw [herror]; rfl⟩

/-- A scan finds nothing wrong exactly if each directory by itself is healthy. What it finds is the
error of every directory that has one, under its key, in the order of the keys and one a key; and
every placement that the directory of some key awaits, each once however often it is listed there.
The path that a directory gives for itself does not matter. -/
theorem scan_exact (dirs : LogDirs) :
    ((scan dirs).isHealthy ↔ ∀ key dir, dirs.get? key = some dir → dir.isHealthy) ∧
      (scan dirs).errors =
        dirs.entries.filterMap (fun entry => entry.2.error.map fun error => (entry.1, error)) ∧
      (scan dirs).errors.Pairwise (fun a b => compare a.1 b.1 = .lt) ∧
      (∀ key error, (key, error) ∈ (scan dirs).errors ↔
        ∃ dir, dirs.get? key = some dir ∧ dir.error = some error) ∧
      (scan dirs).futures.keys.Nodup ∧
      ∀ key topic partition, ⟨key, topic, partition⟩ ∈ (scan dirs).futures.keys ↔
        ∃ dir, dirs.get? key = some dir ∧ ∃ placement ∈ dir.placements,
          placement.isFuture ∧ placement.topic = topic ∧ placement.partition = partition := by
  refine ⟨?_, errors_scan dirs, rising_errors_scan dirs, fun key error => ?_,
    (scan dirs).futures.nodup_keys, fun key topic partition => ?_⟩
  · rw [isHealthy_scan, Prod.forall]
    simp only [SortedMap.mem_entries_iff]
  · rw [mem_errors_scan]
    simp only [SortedMap.mem_entries_iff]
  · rw [mem_futures_scan]
    simp only [SortedMap.mem_entries_iff, LogDir.Awaits]

/-- A placement that is listed twice is found once, under the key and not the path. -/
example :
    let moving : Placement := ⟨"orders", 3, 512, true⟩
    let dirs : LogDirs := .ofList [("k", ⟨"/b", some "e", [moving, { moving with size := 0 }]⟩)]
    (scan dirs).errors = [("k", "e")] ∧ (scan dirs).futures.keys = [⟨"k", "orders", 3⟩] := by
  decide

end Findings

end BrokerWatch.Cluster
