import BrokerWatch.Duration.Basic
import BrokerWatch.Logging
import BrokerWatch.Sasl.Mechanism

/-!
# Where administrative sessions come from

A factory holds what every session needs: the servers to start from, the credential and how long a
request may take. A bad mechanism is found when the factory is built; a time out of range and a
credential that no broker would take are found when a session is opened.
-/

namespace BrokerWatch.Admin

structure Factory where
  bootstrapServers : String
  credentials : Option Sasl.Credentials
  requestTimeout : Duration
  deriving DecidableEq

/-- The name under which the program introduces itself to brokers. -/
def clientId : String := "kafka-sidecar"

def Factory.build (servers : List String) (sasl : Sasl.Choice) (requestTimeout : Duration) :
    Except Failure Factory :=
  if servers.isEmpty then .error (.config "at least one bootstrap server is required")
  else (sasl.credentials).map fun credentials =>
    ⟨",".intercalate servers, credentials, requestTimeout⟩

/-- The time that a request may take in milliseconds, as it is written into the settings of a
session. -/
def Factory.socketTimeout (f : Factory) : Nat :=
  Nat.max 10 (f.requestTimeout.nanoseconds / 1000000)

/-- A number as the settings of a session hold it: the largest one of 64 bits at most, and of that the
last 32 bits. -/
def heldNumber (n : Nat) : Int32 :=
  Int32.ofNat (Nat.min n (Nat.pow 2 63 - 1))

/-- Whether sessions can be opened with what a factory holds. -/
def Factory.check (f : Factory) : Except Failure Unit := do
  let written := f.socketTimeout
  let value := heldNumber written
  if value < 10 ∨ 300000 < value then
    throw (.kafka ("Client config error: Configuration property \"socket.timeout.ms\" " ++
      s!"value {value.toInt} is outside allowed range 10..300000\n socket.timeout.ms {written}"))
  if let some c := f.credentials then
    if c.username.contains '\x00' || c.password.contains '\x00' then
      throw (.kafka "FFI null error")
    if c.username.isEmpty || c.password.isEmpty then
      throw (.kafka "Client creation error: sasl.username and sasl.password must be set")

def Factory.notice (f : Factory) : Logging.Record :=
  let mechanism := (f.credentials.map (·.mechanism.name)).getD "none"
  .of .info "kafka_sidecar::client"
    [("bootstrap_servers", .string f.bootstrapServers), ("sasl_mechanism", .string mechanism)]
    "admin client factory configured"

end BrokerWatch.Admin
