import BrokerWatch.Base64
import BrokerWatch.Digest.Hmac
import BrokerWatch.Numeral
import BrokerWatch.Sasl.Mechanism
import BrokerWatch.Text.Split

/-!
# The SCRAM mechanisms: the client

The client's side of RFC 5802 without channel binding. The client proves that it knows the password
by a keyed digest over the messages exchanged, and accepts the server only if the server's last
message carries the keyed digest that a holder of the password's keys would send.
-/

namespace BrokerWatch.Sasl.Scram

inductive Fault
  /-- The server's first message reports an error. -/
  | serverError (text : String)
  | noNonce
  | foreignNonce
  | noSalt
  | badSalt (cause : Base64.Fault)
  | noIterations
  | badIterations (cause : NumeralError)
  | zeroIterations
  /-- The server's last message reports an error. -/
  | rejected (text : String)
  | tooEarly
  | noVerifier
  | badVerifier (cause : Base64.Fault)
  | foreignSignature
  deriving DecidableEq, Repr

/-- The fault as a failure: of the connection where the server refuses or is not to be trusted, of
the protocol where a message is not as it should be. -/
def Fault.failure : Fault → Failure
  | serverError text => .connection s!"scram server error: {text}"
  | noNonce => .protocol "scram server-first without nonce"
  | foreignNonce => .protocol "scram server nonce does not extend client nonce"
  | noSalt => .protocol "scram server-first without salt"
  | badSalt cause => .protocol s!"scram salt: {cause.message}"
  | noIterations => .protocol "scram server-first without iteration count"
  | badIterations cause => .protocol s!"scram iteration count: {cause.message}"
  | zeroIterations => .protocol "scram iteration count must be positive"
  | rejected text => .connection s!"scram authentication failed: {text}"
  | tooEarly => .protocol "scram server-final before client-final"
  | noVerifier => .protocol "scram server-final without verifier"
  | badVerifier cause => .protocol s!"scram verifier: {cause.message}"
  | foreignSignature => .connection "scram server signature mismatch"

/-! ### Messages -/

/-- A user's name with `=` and `,` written by their numbers, so that it can stand in a message. -/
def escape (name : List Char) : List Char :=
  name.flatMap fun c =>
    if c = '=' then ['=', '3', 'D'] else if c = ',' then ['=', '2', 'C'] else [c]

/-- The attributes of a message: the fields with a `=`, as name and value. -/
def attributes (message : String) : List (String × String) :=
  (Text.fields ',' message.toList).filterMap fun field =>
    (Text.splitFirst '=' field).map fun (name, value) => (String.ofList name, String.ofList value)

def first? (name : String) (attributes : List (String × String)) : Option String :=
  (attributes.find? (·.1 == name)).map (·.2)

def last? (name : String) (attributes : List (String × String)) : Option String :=
  first? name attributes.reverse

/-- What the server's first message asks the client to work with. -/
structure Challenge where
  nonce : String
  salt : List UInt8
  iterations : Nat
  deriving DecidableEq

/-- A value that has to be there. -/
def present (value : Option String) (fault : Fault) : Except Fault String :=
  match value with
  | some value => .ok value
  | none => .error fault

/-- The challenge in the server's first message, whose nonce must begin with the client's. -/
def Challenge.read (clientNonce message : String) : Except Fault Challenge := do
  let attributes := attributes message
  if let some text := first? "e" attributes then
    throw (.serverError text)
  let nonce ← present (last? "r" attributes) .noNonce
  if !clientNonce.toList.isPrefixOf nonce.toList then
    throw .foreignNonce
  let encoded ← present (last? "s" attributes) .noSalt
  let salt ← (Base64.decode encoded).mapError .badSalt
  let count ← present (last? "i" attributes) .noIterations
  let iterations ← (Numeral.natural (UInt32.size - 1) count.toList).mapError .badIterations
  if iterations = 0 then
    throw .zeroIterations
  return ⟨nonce, salt, iterations⟩

/-- The client's last message without its proof, for the nonce of a challenge. -/
def withoutProof (nonce : String) : String :=
  s!"c=biws,r={nonce}"

/-- What both sides sign: the client's first message, the server's first, and the client's last
without its proof. -/
def authMessage (clientFirstBare serverFirst nonce : String) : List UInt8 :=
  Text.Utf8.encode (clientFirstBare ++ "," ++ serverFirst ++ "," ++ withoutProof nonce)

/-! ### Keys -/

/-- The digest of a mechanism, if it is one of these. -/
def algorithm? : Mechanism → Option Digest.Algorithm
  | .plain => none
  | .scramSha256 => some .sha256
  | .scramSha512 => some .sha512

/-- The keys that a password gives with a salt and a number of iterations. -/
structure Keys where
  client : List UInt8
  server : List UInt8

def Keys.of (a : Digest.Algorithm) (password : String) (salt : List UInt8) (iterations : Nat) :
    Keys :=
  let stretched := a.stretch (Text.Utf8.encode password) salt iterations
  ⟨a.hmac stretched (Text.Utf8.encode "Client Key"),
    a.hmac stretched (Text.Utf8.encode "Server Key")⟩

/-- The key that the server stores in place of the client's key. -/
def storedKey (a : Digest.Algorithm) (clientKey : List UInt8) : List UInt8 :=
  a.digest clientKey

def proof (a : Digest.Algorithm) (clientKey message : List UInt8) : List UInt8 :=
  Digest.xor clientKey (a.hmac (storedKey a clientKey) message)

def signature (a : Digest.Algorithm) (serverKey message : List UInt8) : List UInt8 :=
  a.hmac serverKey message

/-! ### The client -/

structure Client where
  algorithm : Digest.Algorithm
  password : String
  /-- The client's first message without its header. -/
  firstBare : String
  nonce : String
  /-- The signature that the server's last message must carry, once the proof is sent. -/
  expected : Option (List UInt8) := none
  deriving DecidableEq

def Client.new (mechanism : Mechanism) (username password nonce : String) :
    Except Failure Client :=
  match algorithm? mechanism with
  | some algorithm =>
    let name := String.ofList (escape username.toList)
    .ok ⟨algorithm, password, s!"n={name},r={nonce}", nonce, none⟩
  | none => .error (.mechanism s!"{mechanism.name} is not a SCRAM mechanism")

def Client.first (c : Client) : String :=
  "n,," ++ c.firstBare

/-- The client's last message in answer to the server's first, and the client that awaits the
server's last. -/
def Client.final (c : Client) (serverFirst : String) : Except Fault (String × Client) := do
  let challenge ← Challenge.read c.nonce serverFirst
  let keys := Keys.of c.algorithm c.password challenge.salt challenge.iterations
  let message := authMessage c.firstBare serverFirst challenge.nonce
  let proof := Base64.encode (proof c.algorithm keys.client message)
  return (withoutProof challenge.nonce ++ ",p=" ++ proof,
    { c with expected := some (signature c.algorithm keys.server message) })

/-- What follows an opening in a text. -/
def behind? (opening text : String) : Option String :=
  (opening.toList.isPrefixOf? text.toList).map String.ofList

def Client.verify (c : Client) (serverFinal : String) : Except Fault Unit := do
  if let some text := behind? "e=" serverFinal then
    throw (.rejected text)
  match c.expected with
  | none => throw .tooEarly
  | some expected =>
    let verifier ← present (behind? "v=" serverFinal) .noVerifier
    let received ← (Base64.decode verifier).mapError .badVerifier
    if received ≠ expected then
      throw .foreignSignature

/-! ### Uses of a client -/

inductive Use
  | first
  | final (serverFirst : String)
  | verify (serverFinal : String)
  deriving DecidableEq, Repr

inductive Reply
  | sends (message : String)
  | accepts
  | fails (fault : Fault)
  deriving DecidableEq, Repr

namespace Client

/-- A client after a use, and what it does. It is left as it is where the use fails. -/
def apply (c : Client) : Use → Client × Reply
  | .first => (c, .sends c.first)
  | .final serverFirst =>
    match c.final serverFirst with
    | .ok (message, awaiting) => (awaiting, .sends message)
    | .error fault => (c, .fails fault)
  | .verify serverFinal =>
    match c.verify serverFinal with
    | .ok () => (c, .accepts)
    | .error fault => (c, .fails fault)

/-- A client after uses in turn, and what it did in each of them. -/
def run (c : Client) : List Use → Client × List (Use × Reply)
  | [] => (c, [])
  | use :: uses =>
    let (next, reply) := c.apply use
    let (last, replies) := next.run uses
    (last, (use, reply) :: replies)

end Client

end BrokerWatch.Sasl.Scram
