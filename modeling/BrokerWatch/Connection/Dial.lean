import BrokerWatch.Bytes
import BrokerWatch.Failure
import BrokerWatch.Numeral
import BrokerWatch.Text.Split

/-!
# Opening connections

An address is a host and a port with a colon between them. The host is an address of four bytes, in
any of the ways in which one can be written, or a name that has to be looked up. A network says of
every address whether a connection to it opens and, if it does, what the broker there will say on it.
-/

namespace BrokerWatch.Connection

inductive DialError
  | badAddress
  | badPort
  | nullInHost
  | noAnswer
  | unknownHost
  | refused
  deriving DecidableEq, Repr

def DialError.message : DialError → String
  | badAddress => "invalid socket address"
  | badPort => "invalid port value"
  | nullInHost => "file name contained an unexpected NUL byte"
  | noAnswer => "failed to lookup address information: Temporary failure in name resolution"
  | unknownHost => "failed to lookup address information: Name or service not known"
  | refused => "Connection refused (os error 111)"

def DialError.failure (address : String) (e : DialError) : Failure :=
  .connection s!"failed to connect to broker {address}: {e.message}"

structure Endpoint where
  host : String
  port : UInt16
  deriving DecidableEq, Repr

/-- The endpoint of an address, whose port stands behind the last colon. -/
def Endpoint.ofAddress (address : String) : Except DialError Endpoint :=
  match Text.splitLast ':' address.toList with
  | none => .error .badAddress
  | some (host, port) =>
    match Numeral.natural 65535 port with
    | .ok n => .ok ⟨String.ofList host, UInt16.ofNat n⟩
    | .error _ => .error .badPort

/-! ### Finding a host -/

def digitIn? (base : Nat) (c : Char) : Option Nat :=
  (Bytes.hexValue? c).filter (· < base)

/-- The value of at least one digit of a base. -/
def valueIn? (base : Nat) (cs : List Char) : Option Nat :=
  if cs.isEmpty then none
  else cs.foldlM (fun value c => (digitIn? base c).map (base * value + ·)) 0

/-- The value of a number whose first characters tell its base: `0x` sixteen, another zero eight. -/
def value? : List Char → Option Nat
  | '0' :: 'x' :: cs => valueIn? 16 cs
  | '0' :: 'X' :: cs => valueIn? 16 cs
  | '0' :: c :: cs => valueIn? 8 (c :: cs)
  | cs => valueIn? 10 cs

/-- Whether a host is an address of four bytes: up to four numbers with points between them, of which
the last fills the bytes that the others leave. -/
def isNumeric (host : List Char) : Bool :=
  match (Text.fields '.' host).mapM value? with
  | none => false
  | some values =>
    values.length ≤ 4 && values.dropLast.all (· < 256) &&
      values.getLast?.all (· < Nat.pow 256 (5 - values.length))

def isLabel (label : List Char) : Bool :=
  !label.isEmpty && label.length ≤ 63 && label.head? != some '-' &&
    label.all fun c => c.isAlphanum || c == '-' || c == '_'

/-- Whether a host's name is well formed: parts with points between them, and one at the end maybe. -/
def isHostName (host : List Char) : Bool :=
  let labels := Text.fields '.' host
  let labels := if labels.getLast? = some [] then labels.dropLast else labels
  !labels.isEmpty && labels.all isLabel

def localName : String := "localhost"

/-- Finds a host where no name server answers: only addresses and the host itself are found. -/
def find (host : String) : Except DialError Unit :=
  if host.contains '\x00' then .error .nullInHost
  else if host.toLower == localName || isNumeric host.toList then .ok ()
  else if isHostName host.toList then .error .noAnswer
  else .error .unknownHost

/-! ### Networks -/

/-- What the broker at an address will say before it closes, if a connection opens. -/
abbrev Network := String → Except DialError (List UInt8)

/-- The network in which nobody listens. -/
def nobody : Network := fun address => do
  let endpoint ← Endpoint.ofAddress address
  find endpoint.host
  throw .refused

/-- The network in which one broker listens at one address. -/
def only (address : String) (incoming : List UInt8) : Network := fun other =>
  if other = address then .ok incoming else nobody other

end BrokerWatch.Connection
