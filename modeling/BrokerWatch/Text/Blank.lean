/-!
# Blank characters

A blank is a character of Unicode's `White_Space` property. Trimming takes the blanks off both ends
of a text and nothing from its middle.
-/

namespace BrokerWatch.Text

/-- The characters of Unicode's `White_Space` property. -/
def isBlank (c : Char) : Bool :=
  let n := c.toNat
  (9 ≤ n && n ≤ 13) || n == 0x20 || n == 0x85 || n == 0xA0 || n == 0x1680 ||
    (0x2000 ≤ n && n ≤ 0x200A) || n == 0x2028 || n == 0x2029 || n == 0x202F || n == 0x205F ||
    n == 0x3000

def trimRight (cs : List Char) : List Char :=
  (cs.reverse.dropWhile isBlank).reverse

/-- Takes the blanks off both ends. -/
def trimmed (cs : List Char) : List Char :=
  trimRight (cs.dropWhile isBlank)

def trim (s : String) : String :=
  String.ofList (trimmed s.toList)

def wordsFrom : List Char → List Char → List (List Char)
  | [], word => if word.isEmpty then [] else [word.reverse]
  | c :: cs, word =>
    if isBlank c then
      if word.isEmpty then wordsFrom cs [] else word.reverse :: wordsFrom cs []
    else wordsFrom cs (c :: word)

/-- The words of a text, in order: its longest runs without a blank. -/
def words (cs : List Char) : List (List Char) :=
  wordsFrom cs []

end BrokerWatch.Text
