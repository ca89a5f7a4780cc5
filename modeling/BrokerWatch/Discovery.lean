import BrokerWatch.Failure
import BrokerWatch.Numeral
import BrokerWatch.Text.Split

/-!
# Who the broker is and where its peers are

A replica's host name ends in its number, and the platform puts links into the environment that end
in the names of the workload and of the location. A setting that is given and not empty wins over the
environment; an empty variable counts as absent.
-/

namespace BrokerWatch.Discovery

abbrev Environment := String → Option String

/-- The variables that the platform sets. -/
inductive Source
  | hostname
  | workload
  | location
  | gvc
  | gvcAlias
  deriving DecidableEq, Repr

def Source.name : Source → String
  | hostname => "HOSTNAME"
  | workload => "CPLN_WORKLOAD"
  | location => "CPLN_LOCATION"
  | gvc => "CPLN_GVC"
  | gvcAlias => "CPLN_GVC_ALIAS"

def Source.all : List Source :=
  [hostname, workload, location, gvc, gvcAlias]

/-- The value of a variable that is set and not empty. -/
def nonEmpty? (environment : Environment) (source : Source) : Option String :=
  (environment source.name).filter (!·.isEmpty)

/-! ### The broker's number -/

inductive IdentityError
  | noHyphen (host : String)
  | trailingHyphen (host : String)
  | badIndex (host : String) (cause : NumeralError)
  | unset (source : Source)
  deriving DecidableEq, Repr

def IdentityError.message : IdentityError → String
  | noHyphen host => s!"invalid hostname format (no hyphen): {host}"
  | trailingHyphen host => s!"invalid hostname format (trailing hyphen): {host}"
  | badIndex host cause =>
    s!"failed to parse replica index from hostname {host}: {cause.message}"
  | unset source => s!"{source.name} environment variable not set"

def IdentityError.failure (e : IdentityError) : Failure :=
  .identity e.message

/-- The number behind the last hyphen of a host name. -/
def brokerIdOfHost (host : String) : Except IdentityError Int32 :=
  match Text.splitLast '-' host.toList with
  | none => .error (.noHyphen host)
  | some (_, index) =>
    if index.isEmpty then .error (.trailingHyphen host)
    else (Numeral.int32 index).mapError (.badIndex host)

/-- The broker's number: the given one, else that of the host name. -/
def brokerId (given : Option Int32) (environment : Environment) : Except IdentityError Int32 :=
  match given with
  | some id => .ok id
  | none =>
    match nonEmpty? environment .hostname with
    | some host => brokerIdOfHost host
    | none => .error (.unset .hostname)

/-! ### Names of the surroundings -/

inductive SourceError
  | noWorkload (link : String)
  | emptyWorkload (link : String)
  | emptyLocation (link : String)
  | unset (source : Source)
  deriving DecidableEq, Repr

def SourceError.message : SourceError → String
  | noWorkload link =>
    s!"invalid {Source.workload.name} format (missing /workload/): {link}"
  | emptyWorkload link =>
    s!"invalid {Source.workload.name} format (empty workload name): {link}"
  | emptyLocation link =>
    s!"invalid {Source.location.name} format (empty location): {link}"
  | unset source => s!"{source.name} environment variable not set"

def SourceError.failure (e : SourceError) : Failure :=
  .discovery e.message

/-- What stands in front of the workload's name in its link. -/
def workloadMarker : List Char :=
  ['/', 'w', 'o', 'r', 'k', 'l', 'o', 'a', 'd', '/']

/-- The segment behind the last workload marker of a link. -/
def workloadOfLink (link : String) : Except SourceError String :=
  match Text.afterLast workloadMarker link.toList with
  | none => .error (.noWorkload link)
  | some rest =>
    let name := rest.takeWhile (· != '/')
    if name.isEmpty then .error (.emptyWorkload link) else .ok (String.ofList name)

/-- The last segment of a link. -/
def locationOfLink (link : String) : Except SourceError String :=
  let name :=
    match Text.splitLast '/' link.toList with
    | some (_, name) => name
    | none => link.toList
  if name.isEmpty then .error (.emptyLocation link) else .ok (String.ofList name)

/-- The given name if it is not empty, else the one that `read` finds in a variable. -/
def givenOr (given : Option String) (environment : Environment) (source : Source)
    (read : String → Except SourceError String) : Except SourceError String :=
  match given.filter (!·.isEmpty) with
  | some name => .ok name
  | none =>
    match nonEmpty? environment source with
    | some raw => read raw
    | none => .error (.unset source)

def workload (given : Option String) (environment : Environment) : Except SourceError String :=
  givenOr given environment .workload workloadOfLink

def location (given : Option String) (environment : Environment) : Except SourceError String :=
  givenOr given environment .location locationOfLink

/-- The name of the network scope. -/
def gvc (given : Option String) (environment : Environment) : Except SourceError String :=
  givenOr given environment .gvc .ok

def gvcAlias (given : Option String) (environment : Environment) : Except SourceError String :=
  givenOr given environment .gvcAlias .ok

/-! ### Addresses of the replicas -/

def replicaAddress (workload location gvc : String) (port : UInt16) (index : Nat) : String :=
  s!"replica-{index}.{workload}.{location}.{gvc}.cpln.local:{port.toNat}"

/-- The number of replicas that a requested count stands for: one at least. -/
def replicas (count : Int32) : Nat :=
  max 1 count.toInt.toNat

/-- The addresses of all replicas in one text, with commas between them. -/
def bootstrapServers (workload location gvc : String) (count : Int32) (port : UInt16) : String :=
  ",".intercalate ((List.range (replicas count)).map (replicaAddress workload location gvc port))

end BrokerWatch.Discovery
