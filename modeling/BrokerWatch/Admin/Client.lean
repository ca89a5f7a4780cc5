import BrokerWatch.Admin.Factory
import BrokerWatch.Cluster.Metadata
import BrokerWatch.Connection.Dial
import BrokerWatch.Connection.Exchange

/-!
# The administrative client

Snapshots come from the cluster as a whole. The log directories are asked of the broker itself, on a
connection of its own to the address that the snapshot gives for it, authenticated first where there
is a credential.
-/

namespace BrokerWatch.Admin

open Connection

structure Client where
  /-- What the cluster reports when it is asked for a snapshot. -/
  snapshot : Except Failure Cluster.Metadata
  credentials : Option Sasl.Credentials
  /-- The nonce of the next authentication that needs one. -/
  nonce : String
  network : Network

/-- What a call did on connections of its own. -/
structure Traffic where
  /-- The addresses that connections were opened to, or tried to. -/
  dialled : List String := []
  /-- The requests that were sent. -/
  requests : List Wire.Request := []
  deriving DecidableEq

namespace Client

def fetchMetadata (c : Client) : Except Failure Cluster.Metadata :=
  c.snapshot.map (·.normalized)

def askForLogDirs (credentials : Option Sasl.Credentials) (nonce : String) :
    Exchange Cluster.LogDirs := do
  if let some credentials := credentials then
    authenticate credentials nonce
  Connection.describeLogDirs

/-- The log directories of a broker, and what was done on connections. -/
def describeLogDirs (c : Client) (id : Int32) : Except Failure Cluster.LogDirs × Traffic :=
  match c.fetchMetadata with
  | .error e => (.error e, {})
  | .ok metadata =>
    match metadata.broker? id with
    | none => (.error (.connection s!"broker {id.toInt} has no advertised address"), {})
    | some broker =>
      match c.network broker.address with
      | .error e => (.error (e.failure broker.address), { dialled := [broker.address] })
      | .ok incoming =>
        let (result, connection) :=
          (askForLogDirs c.credentials c.nonce).run (.opened clientId incoming)
        (result, { dialled := [broker.address], requests := connection.sent })

end Client

end BrokerWatch.Admin
