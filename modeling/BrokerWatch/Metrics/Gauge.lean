import BrokerWatch.Failure
import BrokerWatch.Memory.Usage

/-!
# Gauges

A gauge shows one number that is taken from the memory in use. The gauges and the numbers are two
lists that go together by their order. All numbers of an exposition are taken from one reading.
-/

namespace BrokerWatch.Metrics

/-- A number with its name and what it is. -/
structure Family where
  name : String
  help : String
  value : Float

structure Gauge where
  /-- The last part of the name. -/
  suffix : String
  help : String

def Gauge.name (g : Gauge) : String :=
  "kafka_memory_" ++ g.suffix

/-- The gauges, in the order of `values`. -/
def Gauge.all : List Gauge :=
  [⟨"usage_bytes", "Total memory usage in bytes"⟩,
    ⟨"limit_bytes", "Memory limit in bytes (container limit)"⟩,
    ⟨"rss_bytes", "Resident set size (non-reclaimable memory) in bytes"⟩,
    ⟨"inactive_file_bytes", "Inactive file (reclaimable page cache) in bytes"⟩,
    ⟨"working_set_bytes", "Working set (usage - inactive_file) in bytes"⟩,
    ⟨"non_reclaimable_bytes", "Non-reclaimable memory (RSS only) in bytes"⟩,
    ⟨"oom_ratio", "OOM ratio (working_set / limit)"⟩,
    ⟨"oom_floor_ratio", "OOM floor ratio (rss / limit)"⟩]

/-- The numbers of a reading. -/
def values (u : Memory.Usage) : List Float :=
  [u.total.toFloat, u.limit.toFloat, u.resident.toFloat, u.inactiveFile.toFloat,
    u.workingSet.toFloat, u.resident.toFloat, u.oomRatio, u.oomFloorRatio]

def Gauge.family (g : Gauge) (value : Float) : Family :=
  ⟨g.name, g.help, value⟩

/-- What the gauges show of a reading: each of them the number in its place. -/
def families (u : Memory.Usage) : List Family :=
  (Gauge.all.zip (values u)).map fun (g, value) => g.family value

/-- What the gauges show if the reading fails: nothing. -/
def collect (reading : Except Failure Memory.Usage) : List Family :=
  match reading with
  | .ok u => families u
  | .error _ => []

end BrokerWatch.Metrics
