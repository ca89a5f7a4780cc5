/-!
# Snapshots of a cluster

A snapshot names the registered brokers, the controller and, for every partition of every topic, the
brokers that hold a replica and those whose replica is in sync.
-/

namespace BrokerWatch.Cluster

structure Broker where
  id : Int32
  host : String
  port : Int32
  deriving DecidableEq, Repr

def Broker.address (b : Broker) : String :=
  s!"{b.host}:{b.port.toInt}"

structure Partition where
  index : Int32
  /-- The brokers that a replica is assigned to. -/
  replicas : List Int32
  /-- The brokers whose replica is in sync. -/
  inSync : List Int32
  deriving DecidableEq, Repr

/-- Whether a broker is assigned a replica of the partition that is not in sync. -/
def Partition.lags (p : Partition) (id : Int32) : Bool :=
  p.replicas.contains id && !p.inSync.contains id

structure Topic where
  name : String
  partitions : List Partition
  deriving DecidableEq, Repr

def Topic.sorted (t : Topic) : Topic :=
  { t with partitions := t.partitions.mergeSort fun p q => p.index ≤ q.index }

structure Metadata where
  brokers : List Broker
  controller : Int32
  topics : List Topic
  deriving DecidableEq, Repr

/-- What stands before the first null character of a name. -/
def upToNull (name : String) : String :=
  String.ofList (name.toList.takeWhile (· != '\x00'))

def noController : Int32 := -1

namespace Metadata

def hasBroker (m : Metadata) (id : Int32) : Bool :=
  m.brokers.any (·.id == id)

def broker? (m : Metadata) (id : Int32) : Option Broker :=
  m.brokers.find? (·.id == id)

def hasController (m : Metadata) : Bool :=
  0 ≤ m.controller

/-- The number of partitions, over all topics, in which a broker lags. -/
def lagging (m : Metadata) (id : Int32) : Nat :=
  (m.topics.flatMap (·.partitions)).countP (·.lags id)

/-- The snapshot as a client reports it: every negative controller number is the one that stands for
none, the partitions of a topic are in the order of their numbers, and names end at a null
character. -/
def normalized (m : Metadata) : Metadata where
  brokers := m.brokers.map fun b => { b with host := upToNull b.host }
  controller := if m.controller < 0 then noController else m.controller
  topics := m.topics.map fun t => { t.sorted with name := upToNull t.name }

end Metadata

end BrokerWatch.Cluster
