import BrokerWatch.Text.Split

/-!
# Routes

The places that a request can be sent to. A slash at the end of the path may be left out or not.
Nothing else is made equal: the case of letters, escapes and further slashes all count.
-/

namespace BrokerWatch.Http

inductive Route
  | live
  | ready
  | metrics
  | about
  deriving DecidableEq, Repr

namespace Route

def all : List Route := [live, ready, metrics, about]

def segments : Route → List String
  | live => ["health", "live"]
  | ready => ["health", "ready"]
  | metrics => ["metrics"]
  | about => ["about"]

/-- The segments of a path, which starts with a slash and may end with one. -/
def split (path : List Char) : List String :=
  let inner := path.drop 1
  let inner := if inner.getLast? = some '/' then inner.dropLast else inner
  (Text.fields '/' inner).map String.ofList

/-- The place that a path leads to. -/
def ofPath? (path : List Char) : Option Route :=
  all.find? (·.segments == split path)

end Route

end BrokerWatch.Http
