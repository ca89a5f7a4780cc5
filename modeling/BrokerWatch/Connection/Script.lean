import BrokerWatch.Connection.Exchange
import BrokerWatch.Sasl.ScramServer

/-!
# Scripted brokers

A scripted broker answers the first request with the first item of its script, the second with the
second, and closes the connection when it has no answer to a request. It watches the authentication of
the client, so that a scripted message can carry the client's nonce and the server's signature, and it
checks the client's proof.
-/

namespace BrokerWatch.Connection

open Wire

inductive ScriptedMessage
  /-- A text in which `{nonce}` and `{signature}` stand for what the exchange makes them. -/
  | template (text : String)
  | bytes (bytes : List UInt8)

inductive ScriptItem
  /-- A body, with a number that is off by `delta` and maybe a size that is not its own. -/
  | body (bytes : List UInt8) (delta : Int32) (size : Option Int32)
  /-- Bytes as they are, behind which the broker closes. -/
  | raw (bytes : List UInt8)
  | handshake (response : HandshakeResponse)
  | authenticate (errorCode : Int16) (text : Option String) (message : ScriptedMessage)
  | close

/-- A scripted broker in the course of a connection. -/
structure ScriptedBroker where
  /-- The answers still to be given. -/
  script : List ScriptItem
  /-- Whether the broker has closed the connection. -/
  closed : Bool := false
  /-- The password that the broker knows the user by. -/
  password : String
  /-- The digest of the mechanism that the client proposed. -/
  algorithm : Digest.Algorithm := .sha256
  clientFirstBare : String := ""
  nonce : String := ""
  serverFirst : String := ""
  /-- The signature over the exchange so far. -/
  signature : String := ""
  /-- Whether the client's last proof was right. -/
  proofValid : Option Bool := none

namespace ScriptedBroker

/-- The account that a server's first message shows. -/
def account? (b : ScriptedBroker) : Option Sasl.Scram.Account :=
  match Sasl.Scram.Challenge.read b.nonce b.serverFirst with
  | .ok challenge =>
    some (.of b.algorithm b.password challenge.salt challenge.iterations)
  | .error _ => none

def hear (b : ScriptedBroker) (message : String) : ScriptedBroker :=
  match Sasl.Scram.behind? "n,," message with
  | some bare =>
    let nonce := (Sasl.Scram.last? "r" (Sasl.Scram.attributes bare)).getD ""
    { b with clientFirstBare := bare, nonce }
  | none =>
    match Sasl.Scram.behind? "c=" message, Sasl.Scram.ClientFinal.read? message, b.account? with
    | some _, some final, some account =>
      let signed := Base64.encode (account.signature b.clientFirstBare b.serverFirst final)
      let valid := account.accepts b.clientFirstBare b.serverFirst final
      { b with signature := signed, proofValid := some valid }
    | _, _, _ => b

def observe (b : ScriptedBroker) (r : Request) : ScriptedBroker :=
  if r.operation.key = Operation.saslHandshake.key then
    match Request.readHandshakeBody.decode r.body with
    | .ok name =>
      match (Sasl.Mechanism.parse name).toOption.bind Sasl.Scram.algorithm? with
      | some algorithm => { b with algorithm }
      | none => b
    | .error _ => b
  else if r.operation.key = Operation.saslAuthenticate.key then
    match Request.readAuthenticateBody.decode r.body with
    | .ok payload =>
      match Text.Utf8.decode payload with
      | .ok message => b.hear message
      | .error _ => b
    | .error _ => b
  else b

/-- A text with each occurrence of a marker replaced; the marker is not empty. -/
def fill (marker replacement : String) (text : String) : String :=
  text.replace marker replacement

/-- A message as the broker sends it, and the broker that sent it. -/
def say (b : ScriptedBroker) : ScriptedMessage → List UInt8 × ScriptedBroker
  | .bytes bytes => (bytes, b)
  | .template text =>
    let text := fill "\x7bsignature\x7d" b.signature (fill "\x7bnonce\x7d" b.nonce text)
    (Text.Utf8.encode text, { b with serverFirst := text })

/-- A response behind its size. -/
def frame (correlation : Int32) (body : List UInt8) : List UInt8 :=
  Field.block (Field.int32 correlation ++ body)

def close (b : ScriptedBroker) : ScriptedBroker :=
  { b with closed := true }

/-- What the broker sends in answer to a request, and the broker afterwards. -/
def answer (b : ScriptedBroker) (r : Request) : List UInt8 × ScriptedBroker :=
  let b := b.observe r
  match b.script with
  | [] => ([], b.close)
  | item :: script =>
    let b := { b with script }
    match item with
    | .body bytes delta none => (frame (r.correlation + delta) bytes, b)
    | .body bytes delta (some size) =>
      (Field.int32 size ++ Field.int32 (r.correlation + delta) ++ bytes, b.close)
    | .raw bytes => (bytes, b.close)
    | .handshake response => (frame r.correlation response.body, b)
    | .authenticate errorCode text message =>
      let (payload, b) := b.say message
      (frame r.correlation (AuthenticateResponse.body ⟨errorCode, text, payload⟩), b)
    | .close => ([], b.close)

end ScriptedBroker

/-- The outcome of a client's use of a connection to a scripted broker. -/
structure Conversation (α : Type) where
  result : α
  /-- The requests that the broker received. -/
  requests : List Request
  /-- The broker at the end. -/
  broker : ScriptedBroker

/-- Lets a client talk to a broker that has given the answers `incoming` to the first `answered`
requests. The client's next request depends on those answers only, so running the client on them
shows the request, and the answer to it is one more for the next run; `fuel` bounds their number. -/
def converseFrom {α : Type} (client : List UInt8 → α × List Request) :
    Nat → ScriptedBroker → List UInt8 → Nat → Conversation α
  | 0, broker, incoming, answered =>
    let (result, sent) := client incoming
    ⟨result, sent.take answered, broker⟩
  | fuel + 1, broker, incoming, answered =>
    let (result, sent) := client incoming
    match broker.closed, sent[answered]? with
    | false, some request =>
      let (bytes, broker) := broker.answer request
      converseFrom client fuel broker (incoming ++ bytes) (answered + 1)
    | _, _ => ⟨result, sent.take answered, broker⟩

/-- Lets a client talk to a broker until one of them ends it. The broker closes the connection on the
first request behind its script at the latest. -/
def converse {α : Type} (broker : ScriptedBroker) (client : List UInt8 → α × List Request) :
    Conversation α :=
  converseFrom client (broker.script.length + 1) broker [] 0

/-- A request with the characters of a proof hidden, as a record of the conversation shows it. -/
def hideProof (r : Request) : Request :=
  if r.operation.key = Operation.saslAuthenticate.key then
    match Request.readAuthenticateBody.decode r.body with
    | .ok payload =>
      match (Text.Utf8.decode payload).toOption.bind hidden? with
      | some text => { r with body := Request.authenticateBody (Text.Utf8.encode text) }
      | none => r
    | .error _ => r
  else r
where
  /-- A client's last message with its proof hidden. -/
  hidden? (message : String) : Option String := do
    let (front, last) ← Text.splitLast ',' message.toList
    let proof ← Sasl.Scram.behind? "p=" (String.ofList last)
    let _ ← Sasl.Scram.behind? "c=" message
    return String.ofList front ++ ",p=" ++ String.ofList (proof.toList.map fun _ => 'P')

end BrokerWatch.Connection
