import BrokerWatch.Failure
import BrokerWatch.Files.Basic
import BrokerWatch.Memory.Usage
import BrokerWatch.Numeral
import BrokerWatch.Text.Blank
import BrokerWatch.Text.Split
import BrokerWatch.Text.Utf8

/-!
# Memory files of control groups

A control group shows the memory of a container in three files: what is in use, what may be used, and
a table of numbers by name. Their names depend on the version of the hierarchy. The first two hold one
number or `max` for no limit. The table has a line for each number; a line that is not a name and a
number is passed over, and of two lines of one name the later one counts.
-/

namespace BrokerWatch.Memory

inductive Version
  | v1
  | v2
  deriving DecidableEq, Repr

namespace Version

def name : Version → String
  | v1 => "V1"
  | v2 => "V2"

def mount : Version → String
  | v1 => "/sys/fs/cgroup/memory"
  | v2 => "/sys/fs/cgroup"

def usageFile : Version → String
  | v1 => "memory.usage_in_bytes"
  | v2 => "memory.current"

def limitFile : Version → String
  | v1 => "memory.limit_in_bytes"
  | v2 => "memory.max"

/-- The name in the table of what cannot be taken back. -/
def residentName : Version → String
  | v1 => "rss"
  | v2 => "anon"

end Version

def tableFile : String := "memory.stat"

/-- The directory of the memory files of version 1 under a common root. -/
def legacyDirectory : String := "memory"

/-- The version whose files are under a root, if one is found; version 2 is looked for first. -/
def detect (files : Files) (root : String) : Option Version :=
  if files.hasEntry (Files.within root Version.v2.usageFile) then some .v2
  else if files.hasEntry (Files.within (Files.within root legacyDirectory) Version.v1.usageFile) then
    some .v1
  else none

/-! ### Reading -/

def readText (files : Files) (path : String) : Except Failure String :=
  let failed (reason : String) : Failure := .io s!"failed to read {path}: {reason}"
  match files path with
  | .error fault => .error (failed fault.message)
  | .ok bytes =>
    match Text.Utf8.decode bytes with
    | .ok text => .ok text
    | .error _ => .error (failed "stream did not contain valid UTF-8")

/-- The number that is the text of a file, blanks apart, or zero for no limit. -/
def readNumber (files : Files) (path : String) : Except Failure UInt64 := do
  let text := Text.trim (← readText files path)
  if text = "max" then
    return 0
  match Numeral.uint64 text.toList with
  | .ok n => return n
  | .error e => throw (.io s!"{path}: invalid value {Text.Quoted.text text}: {e.message}")

/-- The name and number of a line of the table, if it has just these. -/
def entry? (line : List Char) : Option (String × UInt64) :=
  match Text.words line with
  | [name, value] => (Numeral.uint64 value).toOption.map (String.ofList name, ·)
  | _ => none

/-- The last number of a name in a table, zero if there is none. -/
def lookUp (name : String) (table : String) : UInt64 :=
  let entries := (Text.fields '\n' table.toList).filterMap entry?
  ((entries.reverse.find? (·.1 == name)).map (·.2)).getD 0

/-- A reader of the memory files in a directory. -/
structure Reader where
  version : Version
  directory : String
  deriving DecidableEq, Repr

namespace Reader

/-- The reader of the files where the hierarchy is mounted. -/
def mounted (version : Version) : Reader := ⟨version, version.mount⟩

/-- The reader of the files that are found under a root, of version 2 if none are. -/
def underRoot (files : Files) (root : String) : Reader :=
  match detect files root with
  | some .v1 => ⟨.v1, Files.within root legacyDirectory⟩
  | _ => ⟨.v2, root⟩

def text (r : Reader) : String :=
  s!"Cgroup{r.version.name}Reader \x7b base_path: {Text.Quoted.text r.directory} \x7d"

def usagePath (r : Reader) : String :=
  Files.within r.directory r.version.usageFile

def limitPath (r : Reader) : String :=
  Files.within r.directory r.version.limitFile

def tablePath (r : Reader) : String :=
  Files.within r.directory tableFile

def read (r : Reader) (files : Files) : Except Failure Usage := do
  let total ← readNumber files r.usagePath
  let limit ← readNumber files r.limitPath
  let table ← readText files r.tablePath
  return .derive total limit (lookUp r.version.residentName table) (lookUp "inactive_file" table)

end Reader

end BrokerWatch.Memory
