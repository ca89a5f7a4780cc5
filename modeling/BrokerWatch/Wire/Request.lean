import BrokerWatch.Wire.Field
import BrokerWatch.Wire.Reader

/-!
# Requests

A request is framed by its size. Its header names the operation and its version, a number by which
the response is recognised, and the client; the operation's body follows. Reading takes a stream of
requests apart again.
-/

namespace BrokerWatch.Wire

structure Operation where
  key : Int16
  version : Int16
  deriving DecidableEq, Repr

namespace Operation

def saslHandshake : Operation := ⟨17, 1⟩

def saslAuthenticate : Operation := ⟨36, 0⟩

def describeLogDirs : Operation := ⟨35, 1⟩

end Operation

structure Request where
  operation : Operation
  correlation : Int32
  client : String
  body : List UInt8
  deriving DecidableEq, Repr

namespace Request

/-- A request without its size. -/
def payload (r : Request) : List UInt8 :=
  Field.int16 r.operation.key ++ Field.int16 r.operation.version ++ Field.int32 r.correlation ++
    Field.text r.client ++ r.body

/-- The size of a request's header: the operation and its version, the number, and the client behind
its length. -/
def headerSize (r : Request) : Nat :=
  2 + 2 + 4 + 2 + (Text.Utf8.encode r.client).length

/-- A request behind its size, which is counted apart from the fields. -/
def frame (r : Request) : List UInt8 :=
  Bytes.ofNat 4 (r.headerSize + r.body.length) ++ r.payload

def readPayload : Reader Request := do
  let key ← Reader.int16 "api key"
  let version ← Reader.int16 "api version"
  let correlation ← Reader.int32 "correlation id"
  let client ← Reader.text "client id"
  let body ← get
  set ([] : List UInt8)
  return { operation := ⟨key, version⟩, correlation, client, body }

def read : Reader Request := do
  let size ← Reader.int32 "request size"
  let content ← Reader.take "request" size.toNatClampNeg
  match readPayload.run content with
  | .ok (r, _) => return r
  | .error e => throw e

/-- The requests of a stream that holds at most `fuel` of them. -/
def readUpTo : Nat → List UInt8 → Except ReadError (List Request)
  | _, [] => .ok []
  | 0, bytes => .error (.truncated "request size" bytes.length 4)
  | fuel + 1, bytes => do
    let (r, rest) ← read.run bytes
    let more ← readUpTo fuel rest
    return r :: more

/-- The requests of a stream that holds nothing else. A request takes more than one byte. -/
def readAll (bytes : List UInt8) : Except ReadError (List Request) :=
  readUpTo bytes.length bytes

def handshakeBody (mechanism : String) : List UInt8 :=
  Field.text mechanism

def authenticateBody (message : List UInt8) : List UInt8 :=
  Field.block message

/-- The body that asks for the directories of every topic: a list of topics that is not there. -/
def describeAllBody : List UInt8 :=
  Field.int32 (-1)

def readHandshakeBody : Reader String :=
  Reader.text "mechanism"

def readAuthenticateBody : Reader (List UInt8) :=
  Reader.block "message"

end Request

end BrokerWatch.Wire
