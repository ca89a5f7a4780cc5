import BrokerWatch.Logging
import BrokerWatch.Numeral
import BrokerWatch.Text.Split

/-!
# Which log lines are written

A filter is a list of directives with commas between them, such as `warn,kafka_sidecar::client=debug`.
A directive lets lines through from a level on. It may hold for the targets that start with a text,
and for lines or spans that have certain fields: `target[span{field=value}]=level`. Without a level
it lets everything through.

A line is judged by the most specific of the directives that are about lines, or let through by any
directive about the span in which it was written. Without a directive at all the configured level
decides.
-/

namespace BrokerWatch.Logging

/-- The activity within which lines are written. -/
structure Span where
  name : String
  target : String
  /-- The fields in order, some of them without a value. -/
  fields : List (String × Option String)
  deriving DecidableEq, Repr

structure Directive where
  /-- The least serious level that is let through, if any is. -/
  threshold : Option Level := some .trace
  /-- What the target starts with. -/
  target : Option String := none
  /-- The name of the span. -/
  span : Option String := none
  /-- The fields that there have to be, some of them with a value. -/
  fields : List (String × Option String) := []
  deriving DecidableEq, Repr

namespace Directive

/-! ### Reading -/

inductive Fault
  | form
  | level
  deriving DecidableEq, Repr

def Fault.message : Fault → String
  | form => "invalid filter directive"
  | level => "error parsing level filter: expected one of \"off\", \"error\", \"warn\", " ++
      "\"info\", \"debug\", \"trace\", or a number 0-5"

/-- What the numbers from 0 on stand for. -/
def numbered : List (Option Level) :=
  [none, some .error, some .warn, some .info, some .debug, some .trace]

/-- The level of a number or a name, the case of ASCII letters apart; `off` lets nothing through. -/
def threshold? (text : List Char) : Option (Option Level) :=
  match Numeral.natural (UInt64.size - 1) text with
  | .ok n => numbered[n]?
  | .error _ =>
    match String.ofList (text.map Char.toLower) with
    | "" | "error" => some (some .error)
    | "warn" => some (some .warn)
    | "info" => some (some .info)
    | "debug" => some (some .debug)
    | "trace" => some (some .trace)
    | "off" => some none
    | _ => none

/-- The directive with the level that stands behind the equals sign, if one does. -/
def withLevel (d : Directive) (text : List Char) : Except Fault Directive :=
  if text.isEmpty then .ok { d with threshold := some .trace }
  else match threshold? text with
    | some threshold => .ok { d with threshold }
    | none => .error .level

/-- A field, with its value behind an equals sign. -/
def readField (text : List Char) : Except Fault (String × Option String) :=
  match Text.fields '=' text with
  | [[]] => .error .form
  | name :: value :: _ => .ok (String.ofList name, some (String.ofList value))
  | [name] => .ok (String.ofList name, none)
  | [] => .error .form

/-- A directive in the course of its reading. What a part of it is can be told from the characters
without the blanks around them; what is taken for the part are the characters at the same places of
the whole text. Blanks in front thus shift everything that is taken. -/
structure Source where
  /-- The characters left to be read, each with the one at its place in the whole text. -/
  cells : List (Char × Char)
  /-- The end of the whole text, which has no character left to go with it. -/
  excess : List Char

namespace Source

def ofText (text : List Char) : Source :=
  let read := Text.trimmed text
  ⟨read.zip text, text.drop read.length⟩

/-- What is taken if nothing more is told apart. -/
def remainder (s : Source) : List Char :=
  s.cells.map (·.2) ++ s.excess

/-- What is taken in front of the first character of a kind, and the source from there. -/
def upTo (s : Source) (kind : Char → Bool) : List Char × Source :=
  let front := s.cells.takeWhile fun cell => !kind cell.1
  (front.map (·.2), { s with cells := s.cells.drop front.length })

def next? (s : Source) : Option (Char × Source) :=
  match s.cells with
  | [] => none
  | (c, _) :: cells => some (c, { s with cells })

end Source

/-- The directive with what stands behind the closing bracket. -/
def withEnd (d : Directive) (s : Source) : Except Fault Directive :=
  match s.next? with
  | none => .ok d
  | some ('=', s) => d.withLevel s.remainder
  | some _ => .error .form

/-- The directive with what stands behind the opening bracket: a span's name, a field in braces, the
closing bracket and the level. -/
def withSpan (d : Directive) (s : Source) : Except Fault Directive := do
  let (name, s) := s.upTo fun c => c == ']' || c == '\x7b'
  match s.next? with
  | none => throw .form
  | some (']', s) => withEnd { d with span := some (String.ofList name) } s
  | some (_, s) =>
    let (text, s) := s.upTo (· == '\x7d')
    match s.next? with
    | none => throw .form
    | some (_, s) =>
      let field ← readField text
      let span := if name.isEmpty then none else some (String.ofList name)
      match s.next? with
      | some (']', s) => withEnd { d with span, fields := [field] } s
      | _ => throw .form

/-- Whether a directive can start with a character other than the opening bracket. -/
def starts (c : Char) : Bool :=
  c == '-' || c == ':' || c == '_' || c.isAlphanum || 0x80 ≤ c.toNat

/-- Reads a directive. A text that is not followed by a level is one, if it can be, and a target
otherwise. -/
def read (text : List Char) : Except Fault Directive :=
  let whole := Source.ofText text
  match whole.next? with
  | none => .error .form
  | some ('[', s) => ({} : Directive).withSpan s
  | some (c, _) =>
    if !starts c then .error .form
    else
      let (target, s) := whole.upTo fun c => c == '=' || c == '['
      match s.next? with
      | some ('=', s) => withLevel { target := some (String.ofList target) } s.remainder
      | some (_, s) => withSpan { target := some (String.ofList target) } s
      | none =>
        match threshold? whole.remainder with
        | some threshold => .ok { threshold }
        | none => .ok { target := some (String.ofList whole.remainder) }

/-! ### Judging -/

def admits (d : Directive) (level : Level) : Bool :=
  d.threshold.any (·.rank ≤ level.rank)

def coversTarget (d : Directive) (target : String) : Bool :=
  d.target.all (·.toList.isPrefixOf target.toList)

/-- Whether the directive is about lines: it names no span and asks for no value. -/
def isAboutLines (d : Directive) : Bool :=
  d.span.isNone && d.fields.all (·.2.isNone)

/-- Whether the directive is about spans: it names one, or asks for fields. -/
def isAboutSpans (d : Directive) : Bool :=
  d.span.isSome || !d.fields.isEmpty

def covers (d : Directive) (r : Record) : Bool :=
  d.isAboutLines && d.coversTarget r.target &&
    d.fields.all fun (name, _) => r.fields.any (·.1 == name)

def coversSpan (d : Directive) (s : Span) : Bool :=
  d.isAboutSpans && d.coversTarget s.target && d.span.all (· == s.name) &&
    d.fields.all fun (name, value) =>
      (s.fields.lookup name).any fun actual => value.isNone || value == actual

/-- The length of the target that is meant; any target counts as less than the empty one. -/
def reach (d : Directive) : Nat :=
  (d.target.map (·.utf8ByteSize + 1)).getD 0

def fieldNames (d : Directive) : List String :=
  d.fields.map (·.1)

/-- How specific directives are: by the length of the target, then by the number of fields, and then by
the names of the fields so that any two differ that could decide about the same lines. -/
def specificity : Directive → Directive → Ordering :=
  compareLex (compareOn reach) (compareLex (compareOn (·.fields.length)) (compareOn fieldNames))

/-- Whether a directive decides where another one is about the same line and was given before. -/
def overrules (d other : Directive) : Bool :=
  (specificity d other).isGE

end Directive

structure Filter where
  directives : List Directive
  deriving DecidableEq, Repr

namespace Filter

def ofLevel (level : Level) : Filter :=
  ⟨[{ threshold := some level }]⟩

/-- What is said about a part of a filter that is no directive. -/
def complaint (text : List Char) (fault : Directive.Fault) : String :=
  s!"ignoring `{String.ofList text}`: {fault.message}"

/-- Reads a filter, which is that of a level if it has no directive, and what is said about the parts
that are ignored. -/
def read (level : Level) (text : String) : Filter × List String :=
  let parts := (Text.fields ',' text.toList).filter (!·.isEmpty)
  let results := parts.map fun part => (part, Directive.read part)
  let directives := results.filterMap (·.2.toOption)
  let complaints := results.filterMap fun
    | (part, .error fault) => some (complaint part fault)
    | (_, .ok _) => none
  (if directives.isEmpty then ofLevel level else ⟨directives⟩, complaints)

def decisive? (f : Filter) (r : Record) : Option Directive :=
  (f.directives.filter (·.covers r)).foldl (fun best d =>
    if best.all (d.overrules ·) then some d else best) none

/-- Whether a line is written that was given within a span or outside of any. -/
def shows (f : Filter) (span : Option Span) (r : Record) : Bool :=
  (f.decisive? r).any (·.admits r.level) ||
    span.any fun s => f.directives.any fun d => d.coversSpan s && d.admits r.level

/-- The lines that are written of those given within a span or outside of any. -/
def shown (f : Filter) (span : Option Span) (records : List Record) : List Record :=
  records.filter (f.shows span)

end Filter

end BrokerWatch.Logging
