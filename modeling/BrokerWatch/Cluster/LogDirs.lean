import BrokerWatch.SortedMap

/-!
# Log directories

The directories in which a broker keeps its logs, each with the placements of partitions in it. A
directory is healthy when the broker reports no error for it and none of its placements is one that
is still being moved there. Scanning all directories collects what is wrong with them.
-/

namespace BrokerWatch.Cluster

structure Placement where
  topic : String
  partition : Int32
  /-- The bytes it takes. -/
  size : Int64
  /-- Whether it is still being moved there. -/
  isFuture : Bool
  deriving DecidableEq, Repr

structure LogDir where
  path : String
  /-- What the broker reports to be wrong with it. -/
  error : Option String
  placements : List Placement
  deriving DecidableEq, Repr

/-- No error and no placement that is still being moved. -/
def LogDir.isHealthy (d : LogDir) : Bool :=
  d.error.isNone && !d.placements.any (·.isFuture)

/-- The directories of a broker by a key, which is their path where a broker reported them. -/
abbrev LogDirs := SortedMap String LogDir

/-- A placement that is still being moved to the directory of a key. -/
structure FuturePlacement where
  key : String
  topic : String
  partition : Int32
  deriving DecidableEq, Repr

/-- Placements are ordered by key, then topic, then partition. -/
instance : Ord FuturePlacement where
  compare := compareLex (compareOn (·.key)) (compareLex (compareOn (·.topic)) (compareOn (·.partition)))

instance : Std.TransOrd FuturePlacement :=
  inferInstanceAs (Std.TransCmp (compareLex (compareOn FuturePlacement.key)
    (compareLex (compareOn FuturePlacement.topic) (compareOn FuturePlacement.partition))))

/-- No two placements share a place in the order. -/
instance : Std.LawfulEqOrd FuturePlacement where
  eq_of_compare {a b} h := by
    obtain ⟨hkey, h⟩ := compareLex_eq_eq.1 h
    obtain ⟨htopic, hpartition⟩ := compareLex_eq_eq.1 h
    cases a
    cases b
    obtain rfl := Std.compare_eq_iff_eq.1 hkey
    obtain rfl := Std.compare_eq_iff_eq.1 htopic
    obtain rfl := Std.compare_eq_iff_eq.1 hpartition
    rfl

structure Findings where
  /-- The key and error of every directory with an error, in the order of the keys. -/
  errors : List (String × String) := []
  /-- The placements that are still being moved, each once, in order. -/
  futures : SortedMap FuturePlacement Unit := .empty

namespace Findings

def addDir (f : Findings) (key : String) (d : LogDir) : Findings where
  errors := f.errors ++ (d.error.map (key, ·)).toList
  futures := (d.placements.filter (·.isFuture)).foldl
    (fun set p => set.insert ⟨key, p.topic, p.partition⟩ ()) f.futures

def scan (dirs : LogDirs) : Findings :=
  dirs.entries.foldl (fun f entry => f.addDir entry.1 entry.2) {}

def isHealthy (f : Findings) : Bool :=
  f.errors.isEmpty && f.futures.entries.isEmpty

end Findings

end BrokerWatch.Cluster
