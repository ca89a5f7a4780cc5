/-!
# Cutting a text at separators

Texts are cut as lists of characters. `fields` cuts at every separator and loses nothing: joining the
fields again with the separator gives the text back. `splitFirst` and `splitLast` cut once, and
`afterLast` gives what follows the last occurrence of a marker, overlapping occurrences included.
`firstLine` cuts at a line break.
-/

namespace BrokerWatch.Text

/-- The parts of a text between separators. There is always at least one, and parts may be empty. -/
def fields (sep : Char) : List Char → List (List Char)
  | [] => [[]]
  | c :: cs => if c = sep then [] :: fields sep cs else (fields sep cs).modifyHead (c :: ·)

/-- What stands before and after the first separator. -/
def splitFirst (sep : Char) : List Char → Option (List Char × List Char)
  | [] => none
  | c :: cs =>
    if c = sep then some ([], cs) else (splitFirst sep cs).map fun (a, b) => (c :: a, b)

/-- What stands before and after the last separator. -/
def splitLast (sep : Char) : List Char → Option (List Char × List Char)
  | [] => none
  | c :: cs =>
    match splitLast sep cs with
    | some (a, b) => some (c :: a, b)
    | none => if c = sep then some ([], cs) else none

/-- What follows the last occurrence of a marker. -/
def afterLast (marker : List Char) : List Char → Option (List Char)
  | [] => if marker.isEmpty then some [] else none
  | c :: cs =>
    match afterLast marker cs with
    | some rest => some rest
    | none => marker.isPrefixOf? (c :: cs)

/-- The text with every occurrence of one character replaced. -/
def replaced (c : Char) (replacement : List Char) (cs : List Char) : List Char :=
  cs.flatMap fun d => if d = c then replacement else [d]

/-- What stands before the first line break, which is a line feed with or without a carriage return
in front of it. -/
def firstLine (cs : List Char) : List Char :=
  match splitFirst '\n' cs with
  | none => cs
  | some (line, _) => if line.getLast? = some '\r' then line.dropLast else line

theorem fields_ne_nil (sep : Char) (cs : List Char) : fields sep cs ≠ [] := by
  induction cs with
  | nil => simp [fields]
  | cons c cs ih =>
    rw [fields]
    split
    · simp
    · cases h : fields sep cs with
      | nil => exact absurd h ih
      | cons f fs => simp

end BrokerWatch.Text
