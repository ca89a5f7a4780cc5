import BrokerWatch.Duration.Parser
import BrokerWatch.Settings.Basic

/-!
# Options by name

Every option is a long flag and a variable, and reads its value in its own way.
-/

namespace BrokerWatch

/-- The settable options, in the order in which they are defined. -/
inductive Flag
  | brokerId
  | workloadName
  | gvcAlias
  | gvcName
  | location
  | replicaCount
  | kafkaPort
  | bootstrapServers
  | saslEnabled
  | saslMechanism
  | saslUsername
  | saslPassword
  | checkTimeout
  | port
  | logLevel
  deriving DecidableEq, Repr

namespace Flag

def all : List Flag :=
  [brokerId, workloadName, gvcAlias, gvcName, location, replicaCount, kafkaPort, bootstrapServers,
    saslEnabled, saslMechanism, saslUsername, saslPassword, checkTimeout, port, logLevel]

def words : Flag → List String
  | brokerId => ["broker", "id"]
  | workloadName => ["workload", "name"]
  | gvcAlias => ["gvc", "alias"]
  | gvcName => ["gvc", "name"]
  | location => ["location"]
  | replicaCount => ["replica", "count"]
  | kafkaPort => ["kafka", "port"]
  | bootstrapServers => ["bootstrap", "servers"]
  | saslEnabled => ["sasl", "enabled"]
  | saslMechanism => ["sasl", "mechanism"]
  | saslUsername => ["sasl", "username"]
  | saslPassword => ["sasl", "password"]
  | checkTimeout => ["check", "timeout"]
  | port => ["port"]
  | logLevel => ["log", "level"]

def name (f : Flag) : String :=
  "-".intercalate f.words

/-- The variable that stands in for the flag. -/
def envName (f : Flag) : String :=
  ("_".intercalate f.words).toUpper

/-- A flag with its value's place, as messages show it. -/
def usage (f : Flag) : String :=
  s!"--{f.name} <{f.envName}>"

def ofName? (name : String) : Option Flag :=
  all.find? (·.name == name)

/-- Whether a negative number in an argument of its own can be the option's value. -/
def takesNegative : Flag → Bool
  | brokerId => true
  | replicaCount => true
  | _ => false

/-! ### Values -/

/-- A number between bounds, or what is wrong with it. -/
def readBetween (low high : Int) (value : String) : Except String Int := do
  let n ← (Numeral.integer 64 value.toList).mapError (·.message)
  if n < low ∨ high < n then throw s!"{n} is not in {low}..={high}"
  return n

def readInt32 (value : String) : Except String Int32 :=
  Int32.ofInt <$> readBetween (-2147483648) 2147483647 value

def readPort (value : String) : Except String UInt16 :=
  (fun n => UInt16.ofNat n.toNat) <$> readBetween 0 65535 value

def readBool (value : String) : Except String Bool :=
  let word := value.toLower
  if ["y", "yes", "t", "true", "on", "1"].contains word then .ok true
  else if ["n", "no", "f", "false", "off", "0"].contains word then .ok false
  else .error "value was not a boolean"

/-- The options with one of them set, or what is wrong with its value. -/
def set (options : Options) (value : String) : Flag → Except String Options
  | brokerId => (fun id => { options with brokerId := some id }) <$> readInt32 value
  | workloadName => .ok { options with workloadName := some value }
  | gvcAlias => .ok { options with gvcAlias := some value }
  | gvcName => .ok { options with gvcName := some value }
  | location => .ok { options with location := some value }
  | replicaCount => (fun n => { options with replicaCount := n }) <$> readInt32 value
  | kafkaPort => (fun n => { options with kafkaPort := n }) <$> readPort value
  | bootstrapServers => .ok { options with bootstrapServers := some value }
  | saslEnabled => (fun b => { options with saslEnabled := b }) <$> readBool value
  | saslMechanism => .ok { options with saslMechanism := value }
  | saslUsername => .ok { options with saslUsername := some value }
  | saslPassword => .ok { options with saslPassword := some value }
  | checkTimeout => (fun d => { options with checkTimeout := d }) <$> Duration.read value
  | port => (fun n => { options with port := n }) <$> readPort value
  | logLevel => .ok { options with logLevel := value }

end Flag

end BrokerWatch
