import BrokerWatch.Memory.Cgroup
import BrokerWatch.Proofs.Numeral
import BrokerWatch.Proofs.Results
import BrokerWatch.Proofs.Text.Utf8
import BrokerWatch.Proofs.Text.Words
import Mathlib.Data.List.Forall2

/-!
# What the memory files show

The three files are described here as they stand there: a file has a text, its text is a number or
stands for none, and a line of the table is an entry or not. Reading gives the figures that these
descriptions fix, or the fault of the first file that does not answer to its own. Of the table
nothing counts but the last entry of each of two names, and between the versions nothing differs but
one of these names.
-/

namespace BrokerWatch

namespace Memory

/-! ### The texts of files -/

/-- There is a file at a path, and its bytes are those of a text. -/
def HasText (files : Files) (path text : String) : Prop :=
  files path = .ok (Text.Utf8.encode text)

/-- Why a file has no text. -/
inductive NoText (files : Files) (path : String) : String → Prop
  | unreadable {fault : FileFault} (h : files path = .error fault) :
    NoText files path fault.message
  | notUtf8 {bytes : List UInt8} (h : files path = .ok bytes)
    (hbytes : ∀ text, bytes ≠ Text.Utf8.encode text) :
    NoText files path "stream did not contain valid UTF-8"

/-- The failure of a reader that needs the text of a file. -/
def unread (path reason : String) : Failure :=
  .io s!"failed to read {path}: {reason}"

/-- A file's text is a number, or it says that there is no limit. -/
def HasNumber (files : Files) (path : String) (n : UInt64) : Prop :=
  ∃ text, HasText files path text ∧
    (Text.trim text = "max" ∧ n = 0 ∨ Numeral.IsNumeralOf (Text.trimmed text.toList) n.toNat)

/-- What is wrong with a file that has no number. -/
inductive NoNumber (files : Files) (path : String) : Failure → Prop
  | noText {reason : String} (h : NoText files path reason) :
    NoNumber files path (unread path reason)
  | noNumeral {text : String} (h : HasText files path text) (hmax : Text.trim text ≠ "max")
    (hnumeral : ∀ n : UInt64, ¬Numeral.IsNumeralOf (Text.trimmed text.toList) n.toNat)
    {cause : NumeralError} (hcause : Numeral.uint64 (Text.trimmed text.toList) = .error cause) :
    NoNumber files path
      (.io s!"{path}: invalid value {Text.Quoted.text (Text.trim text)}: {cause.message}")

section Reading

variable {files : Files} {path text : String} {n : UInt64}

theorem readText_of_hasText (h : HasText files path text) : readText files path = .ok text := by
  rw [HasText] at h
  simp only [readText, h, Text.Utf8.decode_encode]

theorem readText_of_noText {reason : String} (h : NoText files path reason) :
    readText files path = .error (unread path reason) := by
  cases h with
  | unreadable h =>
      simp only [readText, h]
      rfl
  | @notUtf8 bytes h hbytes =>
      simp only [readText, h]
      cases hdecode : Text.Utf8.decode bytes with
      | error _ => rfl
      | ok text => exact absurd (Text.Utf8.decode_eq_ok_iff.1 hdecode) (hbytes text)

theorem hasText_or_noText (files : Files) (path : String) :
    (∃ text, HasText files path text) ∨ ∃ reason, NoText files path reason := by
  cases h : files path with
  | error fault => exact .inr ⟨_, .unreadable h⟩
  | ok bytes =>
      by_cases htext : ∃ text, bytes = Text.Utf8.encode text
      · obtain ⟨text, rfl⟩ := htext
        exact .inl ⟨text, h⟩
      · exact .inr ⟨_, .notUtf8 h (not_exists.1 htext)⟩

theorem readNumber_of_hasText (h : HasText files path text) :
    readNumber files path =
      if Text.trim text = "max" then .ok 0
      else (Numeral.uint64 (Text.trimmed text.toList)).mapError fun cause =>
        .io s!"{path}: invalid value {Text.Quoted.text (Text.trim text)}: {cause.message}" := by
  have htrim : (Text.trim text).toList = Text.trimmed text.toList := String.toList_ofList
  simp only [readNumber, readText_of_hasText h, bind, Except.bind, htrim]
  split
  · rfl
  · cases Numeral.uint64 (Text.trimmed text.toList) <;> rfl

theorem readNumber_of_hasNumber (h : HasNumber files path n) : readNumber files path = .ok n := by
  obtain ⟨text, htext, hvalue⟩ := h
  rw [readNumber_of_hasText htext]
  rcases hvalue with ⟨hmax, rfl⟩ | hnumeral
  · rw [if_pos hmax]
  · have hmax : Text.trim text ≠ "max" := by
      intro hmax
      have htrimmed : Text.trimmed text.toList = ['m', 'a', 'x'] := by
        rw [← String.toList_ofList (l := Text.trimmed text.toList)]
        exact congrArg String.toList hmax
      rw [htrimmed, ← Numeral.uint64_eq_ok_iff] at hnumeral
      cases hnumeral
    rw [if_neg hmax, Numeral.uint64_eq_ok_iff.2 hnumeral]
    rfl

theorem readNumber_of_noNumber {failure : Failure} (h : NoNumber files path failure) :
    readNumber files path = .error failure := by
  cases h with
  | noText h =>
      rw [readNumber, readText_of_noText h]
      rfl
  | noNumeral htext hmax _ hcause =>
      rw [readNumber_of_hasText htext, if_neg hmax, hcause]
      rfl

theorem hasNumber_or_noNumber (files : Files) (path : String) :
    (∃ n, HasNumber files path n) ∨ ∃ failure, NoNumber files path failure := by
  rcases hasText_or_noText files path with ⟨text, htext⟩ | ⟨reason, hreason⟩
  · by_cases hmax : Text.trim text = "max"
    · exact .inl ⟨0, text, htext, .inl ⟨hmax, rfl⟩⟩
    · cases hread : Numeral.uint64 (Text.trimmed text.toList) with
      | ok n => exact .inl ⟨n, text, htext, .inr (Numeral.uint64_eq_ok_iff.1 hread)⟩
      | error cause =>
          refine .inr ⟨_, .noNumeral htext hmax (fun n hn => ?_) hread⟩
          rw [Numeral.uint64_eq_ok_iff.2 hn] at hread
          cases hread
  · exact .inr ⟨_, .noText hreason⟩

end Reading

/-! ### The entries of the table -/

/-- A line of the table is an entry if it has two words and nothing else but blanks: a name, and a
numeral for a number in range. -/
def IsEntry (line : List Char) (name : String) (n : UInt64) : Prop :=
  ∃ value, Text.IsPair line name.toList value ∧ Numeral.IsNumeralOf value n.toNat

/-- The number in the last line that is an entry of a name, zero if there is none. -/
def LastNumber (table name : String) (n : UInt64) : Prop :=
  (∃ front line back, Text.fields '\n' table.toList = front ++ line :: back ∧
    IsEntry line name n ∧ ∀ later ∈ back, ∀ m, ¬IsEntry later name m) ∨
  n = 0 ∧ ∀ line ∈ Text.fields '\n' table.toList, ∀ m, ¬IsEntry line name m

section Entries

variable {name table : String} {line : List Char} {n : UInt64}

def number? (name : String) (line : List Char) : Option UInt64 :=
  entry? line |>.filter (·.1 == name) |>.map (·.2)

theorem entry?_eq_some_iff : entry? line = some (name, n) ↔ IsEntry line name n := by
  simp only [IsEntry, ← Text.words_eq_pair_iff, ← Numeral.uint64_eq_ok_iff]
  constructor
  · intro h
    unfold entry? at h
    split at h
    · rename_i first value hline
      obtain ⟨m, hm, hsame⟩ := Option.map_eq_some_iff.1 h
      cases hsame
      rw [String.toList_ofList]
      exact ⟨value, hline, toOption_eq_some_iff.1 hm⟩
    · cases h
  · intro h
    obtain ⟨value, hline, hvalue⟩ := h
    simp only [hline, hvalue, entry?, Except.toOption, Option.map_some, String.ofList_toList]

theorem number?_eq_some_iff : number? name line = some n ↔ IsEntry line name n := by
  rw [number?, Option.map_eq_some_iff, ← entry?_eq_some_iff]
  simp only [Option.filter_eq_some_iff, beq_iff_eq]
  constructor
  · intro h
    obtain ⟨_, ⟨hentry, rfl⟩, rfl⟩ := h
    exact hentry
  · intro h
    exact ⟨(name, n), ⟨h, rfl⟩, rfl⟩

theorem number?_eq_none_iff : number? name line = none ↔ ∀ m, ¬IsEntry line name m := by
  simp only [← number?_eq_some_iff, Option.eq_none_iff_forall_ne_some, Ne]

theorem lookUp_eq (name table : String) :
    lookUp name table =
      ((Text.fields '\n' table.toList).reverse.findSome? (number? name)).getD 0 := by
  rw [lookUp, ← List.filterMap_reverse]
  congr 1
  induction (Text.fields '\n' table.toList).reverse with
  | nil => rfl
  | cons line lines ih =>
      rw [findSome?_cons_or, List.filterMap_cons, number?]
      cases entry? line with
      | none => exact ih
      | some entry =>
          show Option.map _ (List.find? _ (entry :: _)) = _
          cases hname : entry.1 == name with
          | true => simp [hname, Option.filter_some]
          | false => simpa [List.find?_cons, hname, Option.filter_some] using ih

theorem lookUp_of_lastNumber (h : LastNumber table name n) : lookUp name table = n := by
  rw [lookUp_eq]
  rcases h with ⟨front, line, back, hsplit, hline, hback⟩ | ⟨rfl, hnone⟩
  · have hfound : (Text.fields '\n' table.toList).reverse.findSome? (number? name) = some n := by
      rw [List.findSome?_eq_some_iff]
      refine ⟨back.reverse, line, front.reverse, by simp [hsplit], number?_eq_some_iff.2 hline, ?_⟩
      intro later hlater
      exact number?_eq_none_iff.2 (hback later (List.mem_reverse.1 hlater))
    rw [hfound, Option.getD_some]
  · have hfound : (Text.fields '\n' table.toList).reverse.findSome? (number? name) = none := by
      rw [List.findSome?_eq_none_iff]
      exact fun line hline => number?_eq_none_iff.2 (hnone line (List.mem_reverse.1 hline))
    rw [hfound, Option.getD_none]

theorem exists_lastNumber (table name : String) : ∃ n, LastNumber table name n := by
  cases hfound : (Text.fields '\n' table.toList).reverse.findSome? (number? name) with
  | none =>
      rw [List.findSome?_eq_none_iff] at hfound
      exact ⟨0, .inr ⟨rfl, fun line hline =>
        number?_eq_none_iff.1 (hfound line (List.mem_reverse.2 hline))⟩⟩
  | some n =>
      obtain ⟨back, line, front, hsplit, hline, hback⟩ := List.findSome?_eq_some_iff.1 hfound
      refine ⟨n, .inl ⟨front.reverse, line, back.reverse, ?_, number?_eq_some_iff.1 hline, ?_⟩⟩
      · rw [← List.reverse_reverse (Text.fields '\n' table.toList), hsplit]
        simp
      · exact fun later hlater =>
          number?_eq_none_iff.1 (hback later (List.mem_reverse.1 hlater))

end Entries

namespace Reader

/-- The figures that the files show. -/
inductive Shows (r : Reader) (files : Files) : Usage → Prop
  | intro {total limit resident inactiveFile : UInt64} {table : String}
    (htotal : HasNumber files r.usagePath total) (hlimit : HasNumber files r.limitPath limit)
    (htable : HasText files r.tablePath table)
    (hresident : LastNumber table r.version.residentName resident)
    (hinactive : LastNumber table "inactive_file" inactiveFile) :
    Shows r files (.derive total limit resident inactiveFile)

/-- What is wrong with the first file that is not as it has to be. -/
inductive Fails (r : Reader) (files : Files) : Failure → Prop
  | usage {failure : Failure} (h : NoNumber files r.usagePath failure) : Fails r files failure
  | limit {failure : Failure} {total : UInt64} (htotal : HasNumber files r.usagePath total)
    (h : NoNumber files r.limitPath failure) : Fails r files failure
  | table {reason : String} {total limit : UInt64} (htotal : HasNumber files r.usagePath total)
    (hlimit : HasNumber files r.limitPath limit) (h : NoText files r.tablePath reason) :
    Fails r files (unread r.tablePath reason)

variable {r : Reader} {files other : Files} {usage : Usage} {failure : Failure}

theorem read_of_shows (h : r.Shows files usage) : r.read files = .ok usage := by
  obtain ⟨htotal, hlimit, htable, hresident, hinactive⟩ := h
  rw [read, readNumber_of_hasNumber htotal, readNumber_of_hasNumber hlimit,
    readText_of_hasText htable, ← lookUp_of_lastNumber hresident, ← lookUp_of_lastNumber hinactive]
  rfl

theorem read_of_fails (h : r.Fails files failure) : r.read files = .error failure := by
  cases h with
  | usage h =>
      rw [read, readNumber_of_noNumber h]
      rfl
  | limit htotal h =>
      rw [read, readNumber_of_hasNumber htotal, readNumber_of_noNumber h]
      rfl
  | table htotal hlimit h =>
      rw [read, readNumber_of_hasNumber htotal, readNumber_of_hasNumber hlimit, readText_of_noText h]
      rfl

theorem shows_or_fails (r : Reader) (files : Files) :
    (∃ usage, r.Shows files usage) ∨ ∃ failure, r.Fails files failure := by
  rcases hasNumber_or_noNumber files r.usagePath with ⟨total, htotal⟩ | ⟨failure, h⟩
  · rcases hasNumber_or_noNumber files r.limitPath with ⟨limit, hlimit⟩ | ⟨failure, h⟩
    · rcases hasText_or_noText files r.tablePath with ⟨table, htable⟩ | ⟨reason, h⟩
      · obtain ⟨resident, hresident⟩ := exists_lastNumber table r.version.residentName
        obtain ⟨inactive, hinactive⟩ := exists_lastNumber table "inactive_file"
        exact .inl ⟨_, .intro htotal hlimit htable hresident hinactive⟩
      · exact .inr ⟨_, .table htotal hlimit h⟩
    · exact .inr ⟨_, .limit htotal h⟩
  · exact .inr ⟨_, .usage h⟩

theorem read_eq_ok_iff : r.read files = .ok usage ↔ r.Shows files usage := by
  refine ⟨fun hread => ?_, read_of_shows⟩
  rcases r.shows_or_fails files with ⟨usage', h⟩ | ⟨failure, h⟩
  · rw [read_of_shows h] at hread
    cases hread
    exact h
  · rw [read_of_fails h] at hread
    cases hread

end Reader

end Memory

end BrokerWatch
