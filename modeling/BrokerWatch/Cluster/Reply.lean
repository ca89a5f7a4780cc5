import BrokerWatch.Cluster.LogDirs
import BrokerWatch.Cluster.Metadata
import BrokerWatch.Duration.Basic
import BrokerWatch.Failure
import BrokerWatch.Turns

/-!
# How a cluster replies

A call of a cluster ends after some time with a value or a failure, or it never ends. A cluster's
behaviour lists the replies to each kind of call; they are given in turn and the last one is given
again and again.
-/

namespace BrokerWatch.Cluster

inductive Reply (α : Type)
  | after (delay : Duration) (result : Except Failure α)
  | never

def Reply.now {α : Type} (result : Except Failure α) : Reply α :=
  .after .zero result

/-- The replies of a cluster to calls of each kind. -/
structure Behaviour where
  connect : List (Reply Unit) := []
  metadata : List (Reply Metadata) := []
  logDirs : List (Reply LogDirs) := []

/-- What a call gets where no reply is listed. -/
def noReply : Failure := .connection "no reply"

end BrokerWatch.Cluster
