import BrokerWatch.Discovery
import BrokerWatch.Duration.Basic
import BrokerWatch.Logging
import BrokerWatch.Sasl.Mechanism
import BrokerWatch.Text.Blank

/-!
# Settings

Options are what a user gave; settings are what they come to once the broker's number and the
servers to start from are found. A list of servers that is given and not blank is taken as it is,
otherwise the addresses of the replicas are built from the names of their surroundings.
-/

namespace BrokerWatch

/-- The settings as a user gave them. -/
structure Options where
  brokerId : Option Int32 := none
  workloadName : Option String := none
  gvcAlias : Option String := none
  gvcName : Option String := none
  location : Option String := none
  replicaCount : Int32 := 1
  kafkaPort : UInt16 := 9092
  bootstrapServers : Option String := none
  saslEnabled : Bool := false
  saslMechanism : String := "PLAIN"
  saslUsername : Option String := none
  saslPassword : Option String := none
  checkTimeout : Duration := .ofSeconds 10
  port : UInt16 := 8080
  logLevel : String := "info"

/-- The names from which the replicas' addresses are built. -/
structure Topology where
  workloadName : String
  location : String
  gvcName : String
  gvcAlias : Option String
  replicaCount : Int32
  kafkaPort : UInt16
  deriving DecidableEq

def Topology.bootstrapServers (t : Topology) : String :=
  Discovery.bootstrapServers t.workloadName t.location t.gvcName t.replicaCount t.kafkaPort

/-- The settings that the program runs with. -/
structure Settings where
  brokerId : Int32
  bootstrapServers : List String
  topology : Option Topology
  sasl : Sasl.Choice
  checkTimeout : Duration
  port : UInt16
  logLevel : String
  deriving DecidableEq

/-! ### From options to settings -/

namespace Options

/-- The servers of a list with commas: trimmed, blank ones left out. -/
def splitServers (text : String) : List String :=
  ((Text.fields ',' text.toList).map Text.trimmed).filter (!·.isEmpty) |>.map String.ofList

/-- The servers that were given, if there is at least one. -/
def givenServers (options : Options) : Option (List String) :=
  (options.bootstrapServers.map splitServers).filter (!·.isEmpty)

/-- The names that the replicas' addresses are built from. The scope's former name may be missing. -/
def topology (options : Options) (environment : Discovery.Environment) :
    Except Discovery.SourceError Topology := do
  let workloadName ← Discovery.workload options.workloadName environment
  let location ← Discovery.location options.location environment
  let gvcName ← Discovery.gvc options.gvcName environment
  return {
    workloadName
    location
    gvcName
    gvcAlias := (Discovery.gvcAlias options.gvcAlias environment).toOption
    replicaCount := if options.replicaCount < 1 then 1 else options.replicaCount
    kafkaPort := options.kafkaPort }

/-- The servers to start from, with the topology if they were built from one. -/
def servers (options : Options) (environment : Discovery.Environment) :
    Except Failure (List String × Option Topology) :=
  match givenServers options with
  | some servers => .ok (servers, none)
  | none =>
    match topology options environment with
    | .ok t => .ok (splitServers t.bootstrapServers, some t)
    | .error e => .error e.failure

/-- The broker's number, once the log level and the timeout are known to be valid. -/
def identity (options : Options) (environment : Discovery.Environment) :
    Except Failure Int32 := do
  let _ ← Logging.Level.parse options.logLevel
  if options.checkTimeout = .zero then
    throw (.config "CHECK_TIMEOUT must be greater than zero")
  (Discovery.brokerId options.brokerId environment).mapError (·.failure)

def saslChoice (options : Options) : Sasl.Choice where
  enabled := options.saslEnabled
  mechanism := options.saslMechanism
  username := options.saslUsername.getD ""
  password := options.saslPassword.getD ""

def resolve (options : Options) (environment : Discovery.Environment) :
    Except Failure Settings := do
  let brokerId ← identity options environment
  let (bootstrapServers, topology) ← servers options environment
  return {
    brokerId
    bootstrapServers
    topology
    sasl := saslChoice options
    checkTimeout := options.checkTimeout
    port := options.port
    logLevel := options.logLevel }

/-- An environment in which empty variables count as absent. -/
def withoutEmpty (environment : Discovery.Environment) : Discovery.Environment :=
  fun key => (environment key).filter (!·.isEmpty)

end Options

/-- The settings on one line, with the password masked. -/
def Settings.summary (s : Settings) : String :=
  " ".intercalate ([
    "broker_id=" ++ toString s.brokerId.toInt,
    "bootstrap_servers=" ++ ",".intercalate s.bootstrapServers,
    "sasl_enabled=" ++ (if s.sasl.enabled then "true" else "false"),
    "sasl_mechanism=" ++ s.sasl.mechanism,
    "sasl_username=" ++ s.sasl.username,
    "sasl_password=" ++ (if s.sasl.password.isEmpty then "" else Sasl.mask),
    "check_timeout=" ++ s.checkTimeout.text,
    "port=" ++ s.port.toNat.repr,
    "log_level=" ++ s.logLevel] ++
    ((s.topology.bind (·.gvcAlias)).map ("gvc_alias=" ++ ·)).toList)

/-! ### What is logged on the way -/

namespace Options

/-- The part of the program that logs what was discovered. -/
def logTarget : String := "kafka_sidecar::config"

def identityNotice (id : Int32) (environment : Discovery.Environment) : Logging.Record :=
  let host :=
    match environment Discovery.Source.hostname.name with
    | some host => s!"Some({Text.Quoted.text host})"
    | none => "None"
  .of .info logTarget [("broker_id", .number id.toInt), ("hostname", .string host)]
    "auto-discovered broker ID from hostname"

def serversNotice (servers : List String) (t : Topology) : Logging.Record :=
  .of .info logTarget
    [("workload", .string t.workloadName), ("location", .string t.location),
      ("gvc", .string t.gvcName), ("bootstrap_servers", .string (",".intercalate servers))]
    "auto-built bootstrap servers"

/-- The lines that `resolve` logs, also when it fails. -/
def notices (options : Options) (environment : Discovery.Environment) : List Logging.Record :=
  match identity options environment with
  | .error _ => []
  | .ok id =>
    let first := if options.brokerId.isNone then [identityNotice id environment] else []
    match servers options environment with
    | .ok (servers, some t) => first ++ [serversNotice servers t]
    | _ => first

end Options

end BrokerWatch
