import BrokerWatch.Json

/-!
# The build

What the program says of its own build. A build that was not stamped says so.
-/

namespace BrokerWatch

structure Build where
  version : String
  /-- The time of the build as a number, `-1` if it was not stamped. -/
  epoch : String
  build : String
  timestamp : String
  deriving DecidableEq, Repr

namespace Build

def current : Build where
  version := "0.3.0"
  epoch := "-1"
  build := "dev"
  timestamp := "dev"

def text (b : Build) : String :=
  s!"version={b.version} epoch={b.epoch} build={b.build} timestamp={b.timestamp}"

def toJson (b : Build) : Json :=
  .object [("version", .string b.version), ("epoch", .string b.epoch), ("build", .string b.build),
    ("timestamp", .string b.timestamp)]

end Build

end BrokerWatch
