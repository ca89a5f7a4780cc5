import BrokerWatch.Sasl.Plain
import BrokerWatch.Sasl.Scram
import BrokerWatch.Wire.Request
import BrokerWatch.Wire.Response

/-!
# Exchanges on a connection

A connection sends requests one at a time and reads the response to each before it sends the next.
Requests are numbered from one, and a response must carry the number of its request. All that the
broker says before it closes is known as a stream from the start; an exchange takes it from the
front and leaves a record of the requests it sent.
-/

namespace BrokerWatch.Connection

open Wire

/-- A connection in the course of its exchanges. -/
structure State where
  /-- The name that the client gives itself in requests. -/
  client : String
  /-- The number of the last request. -/
  correlation : Int32 := 0
  /-- What the broker says from here on. -/
  incoming : List UInt8
  /-- The requests sent so far. -/
  sent : List Request := []

def State.opened (client : String) (incoming : List UInt8) : State where
  client := client
  incoming := incoming

/-- A use of a connection. The connection is left as it is where the use fails. -/
abbrev Exchange (α : Type) := ExceptT Failure (StateM State) α

/-- The most bytes that a response may have behind its size. -/
def maxResponse : Int32 := 67108864

/-- Reads the response to the request of a number off a stream, with what the stream has left. -/
def receive (correlation : Int32) (incoming : List UInt8) :
    Except Failure (List UInt8) × List UInt8 :=
  let head := incoming.take 4
  let rest := incoming.drop 4
  if head.length < 4 then (.error (.io "unexpected end of file"), [])
  else
    let size := Int32.ofNat (Bytes.toNat head)
    if size < 4 ∨ maxResponse < size then
      (.error (.protocol s!"invalid response size {size.toInt}"), rest)
    else
      let frame := rest.take size.toNatClampNeg
      let rest := rest.drop size.toNatClampNeg
      if frame.length < size.toNatClampNeg then (.error (.io "early eof"), [])
      else
        let received := Int32.ofNat (Bytes.toNat (frame.take 4))
        if received = correlation then (.ok (frame.drop 4), rest)
        else
          (.error (.protocol ("correlation id mismatch: " ++
            s!"sent {correlation.toInt}, received {received.toInt}")), rest)

def State.send (s : State) (operation : Operation) (body : List UInt8) : State :=
  let correlation := s.correlation + 1
  { s with correlation, sent := s.sent ++ [⟨operation, correlation, s.client, body⟩] }

def roundTrip (operation : Operation) (body : List UInt8) : Exchange (List UInt8) :=
  fun s =>
    let s := s.send operation body
    let (result, incoming) := receive s.correlation s.incoming
    (result, { s with incoming })

/-- Goes on with a value that was read, or ends with the fault in reading. -/
def orReadFailure {α : Type} (result : Except ReadError α) : Exchange α :=
  liftExcept (result.mapError (·.failure))
where
  /-- A result that needs no connection. -/
  liftExcept {α : Type} : Except Failure α → Exchange α
    | .ok a => pure a
    | .error e => throw e

def handshakeFailure (r : HandshakeResponse) : Failure :=
  let supported := Text.Quoted.list r.mechanisms
  .connection
    s!"sasl handshake failed: {ErrorCode.name r.errorCode} (broker supports {supported})"

def authenticateFailure (r : AuthenticateResponse) : Failure :=
  let detail := match r.message with
    | some message => s!" ({message})"
    | none => ""
  .connection (s!"sasl authentication failed: {ErrorCode.name r.errorCode}" ++ detail)

def handshake (mechanism : Sasl.Mechanism) : Exchange Unit := do
  let body ← roundTrip .saslHandshake (Request.handshakeBody mechanism.name)
  let response ← orReadFailure (HandshakeResponse.decode body)
  if response.errorCode ≠ 0 then
    throw (handshakeFailure response)

/-- Passes a message of the mechanism and gives the broker's next one. -/
def pass (message : List UInt8) : Exchange (List UInt8) := do
  let body ← roundTrip .saslAuthenticate (Request.authenticateBody message)
  let response ← orReadFailure (AuthenticateResponse.decode body)
  if response.errorCode ≠ 0 then
    throw (authenticateFailure response)
  return response.payload

def messageText (name : String) (payload : List UInt8) : Exchange String :=
  match Text.Utf8.decode payload with
  | .ok text => return text
  | .error e => throw (.protocol s!"scram {name}: {e.message}")

def orScramFailure {α : Type} : Except Sasl.Scram.Fault α → Exchange α
  | .ok a => pure a
  | .error e => throw e.failure

def scram (client : Sasl.Scram.Client) : Exchange Unit := do
  let serverFirst ← messageText "server-first" (← pass (Text.Utf8.encode client.first))
  let (message, client) ← orScramFailure (client.final serverFirst)
  let serverFinal ← messageText "server-final" (← pass (Text.Utf8.encode message))
  orScramFailure (client.verify serverFinal)

/-- Authenticates with a credential; the nonce is used by the mechanisms that need one. -/
def authenticate (credentials : Sasl.Credentials) (nonce : String) : Exchange Unit := do
  let ⟨mechanism, username, password⟩ := credentials
  handshake mechanism
  match mechanism with
  | .plain => discard (pass (Sasl.plainToken username password))
  | .scramSha256 | .scramSha512 =>
    match Sasl.Scram.Client.new mechanism username password nonce with
    | .ok client => scram client
    | .error e => throw e

def describeLogDirs : Exchange Cluster.LogDirs := do
  let body ← roundTrip .describeLogDirs Request.describeAllBody
  orReadFailure (DescribeResponse.decode body)

end BrokerWatch.Connection
