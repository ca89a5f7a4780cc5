import BrokerWatch.Json

/-!
# Requests and responses

A request names a method and a target. A response has a status and a body, which is nothing, a text
of a media type, or a JSON value. A request that is not well formed is refused before anything else.
-/

namespace BrokerWatch.Http

structure Request where
  method : String
  target : String
  deriving DecidableEq, Repr

inductive Fault
  | malformed
  | tooLong
  deriving DecidableEq, Repr

namespace Request

def isMethodCharacter (c : Char) : Bool :=
  c.isAlphanum || "!#$&'*+-._~".contains c

/-- Whether a character of a target can be sent. -/
def isSendable (c : Char) : Bool :=
  0x20 < c.toNat && c != '\x7f'

def longestTarget : Nat := 65534

/-- Why a request is refused as soon as its first line is read, if it is. -/
def fault? (r : Request) : Option Fault :=
  if r.target.isEmpty || !r.target.all isSendable then some .malformed
  else if longestTarget < r.target.utf8ByteSize then some .tooLong
  else if r.method.isEmpty || !r.method.all isMethodCharacter then some .malformed
  else none

end Request

inductive Body
  | none
  | text (mediaType content : String)
  | json (value : Json)

def Body.mediaType? : Body → Option String
  | none => .none
  | text mediaType _ => some mediaType
  | json _ => some "application/json"

def Body.content : Body → String
  | none => ""
  | text _ content => content
  | json value => value.render

structure Response where
  status : Nat
  body : Body

namespace Response

def refusal : Fault → Response
  | .malformed => ⟨400, .none⟩
  | .tooLong => ⟨414, .none⟩

def notFound : Response := ⟨404, .none⟩

/-- The method is not one that is understood there. -/
def badMethod : Response := ⟨405, .text "text/plain; charset=utf-8" "HTTP method not allowed"⟩

def ofJson (status : Nat) (value : Json) : Response := ⟨status, .json value⟩

/-- A response as a connection carries it: one to `HEAD` keeps its media type and loses its content. -/
def carried (r : Response) (method : String) : Response :=
  match r.body.mediaType?, method with
  | some mediaType, "HEAD" => { r with body := .text mediaType "" }
  | _, _ => r

end Response

end BrokerWatch.Http
