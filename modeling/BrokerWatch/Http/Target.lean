/-!
# Targets

A target is a path with its query and fragment, a server alone, or both behind a scheme. What a
fragment holds is never looked at.
-/

namespace BrokerWatch.Http.Target

/-! ### Paths -/

/-- Whether a character has its code point in one of some ranges, ends included. -/
def isIn (ranges : List (Nat × Nat)) (c : Char) : Bool :=
  ranges.any fun (low, high) => low ≤ c.toNat && c.toNat ≤ high

def isPathCharacter (c : Char) : Bool :=
  isIn [(0x21, 0x22), (0x24, 0x3B), (0x3D, 0x3D), (0x40, 0x5F), (0x61, 0x7E)] c

def isQueryCharacter (c : Char) : Bool :=
  isIn [(0x21, 0x21), (0x24, 0x3B), (0x3D, 0x3D), (0x3F, 0x7E)] c

/-- The path of a path with its query and fragment, if those are well formed. -/
def bare? (cs : List Char) : Option (List Char) :=
  let place := cs.takeWhile (· != '#')
  let path := place.takeWhile (· != '?')
  let query := place.drop (path.length + 1)
  if path.all isPathCharacter && query.all isQueryCharacter then some path else none

/-! ### Servers -/

def isSchemeCharacter (c : Char) : Bool :=
  c.isAlphanum || c == '+' || c == '-' || c == '.' || c == '~'

/-- A scheme and what stands behind it and its mark. -/
def splitScheme? (cs : List Char) : Option (List Char × List Char) :=
  let scheme := cs.takeWhile isSchemeCharacter
  match cs.drop scheme.length with
  | ':' :: '/' :: '/' :: rest => some (scheme, rest)
  | _ => none

def longestScheme : Nat := 64

def endsServer (c : Char) : Bool :=
  c == '/' || c == '?' || c == '#'

/-- Whether a character can stand in the name of a server, apart from those with a meaning there. -/
def isServerCharacter (c : Char) : Bool :=
  c.isAlphanum || "!$&'()*+,-.;=_~".contains c

/-- What is known of a server's name after some of its characters. -/
structure ServerState where
  /-- The colons that were not explained by what came behind them. -/
  colons : Nat := 0
  /-- Whether a bracket was opened. -/
  opened : Bool := false
  /-- Whether the bracket was closed. -/
  closed : Bool := false
  /-- Whether there was an escape that was not explained by what came behind it. -/
  escaped : Bool := false
  /-- Whether the last character ended a user's name. -/
  userEnded : Bool := false
  deriving DecidableEq, Repr

/-- What is known after one more character, if it can stand there. The end of a user's name and a
closing bracket explain the colons and escapes in front of them. -/
def ServerState.step (s : ServerState) (c : Char) : Option ServerState :=
  let s := { s with userEnded := false }
  match c with
  | ':' => if 8 ≤ s.colons then none else some { s with colons := s.colons + 1 }
  | '[' => if s.escaped || s.opened then none else some { s with opened := true }
  | ']' =>
    if !s.opened || s.closed then none
    else some { s with closed := true, colons := 0, escaped := false }
  | '@' => some { s with colons := 0, escaped := false, userEnded := true }
  | '%' => some { s with escaped := true }
  | c => if isServerCharacter c then some s else none

/-- Whether a server's name is complete: one colon at most is left, no escape, no open bracket, and
something stands behind a user's name. -/
def ServerState.isComplete (s : ServerState) : Bool :=
  s.colons ≤ 1 && s.opened == s.closed && !s.escaped && !s.userEnded

/-- Whether a text is the name of a server, which may be empty. -/
def isServer (cs : List Char) : Bool :=
  (cs.foldlM ServerState.step {}).any (·.isComplete)

/-! ### Targets -/

/-- The path of a target that is well formed. The path of a server alone is empty. -/
def path? (target : String) : Option (List Char) :=
  match target.toList with
  | [] => none
  | ['*'] => some ['*']
  | '/' :: cs => bare? ('/' :: cs)
  | cs =>
    match splitScheme? cs with
    | none => if isServer cs then some [] else none
    | some (scheme, rest) =>
      let server := rest.takeWhile (!endsServer ·)
      if longestScheme < scheme.length || server.isEmpty || !isServer server then none
      else bare? (rest.drop server.length)

end BrokerWatch.Http.Target
