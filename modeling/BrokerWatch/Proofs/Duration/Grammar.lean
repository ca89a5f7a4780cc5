import BrokerWatch.Duration.Parser
import BrokerWatch.Proofs.Text.Split

/-!
# What is written as a duration

A duration is written as components one after the other, each of them a number and the name of a
unit. The characters of numbers and those of names have nothing in common, so where one component
ends and the next one starts is never in doubt: the parts that reading finds are the only ones there
are, and where it finds none there are none.
-/

namespace BrokerWatch.Duration

/-! ### Components as they are written -/

/-- Digits, with a point among them or not, and the number that they stand for. -/
inductive IsNumber : List Char → Number → Prop
  | whole {digits : List Char} (hne : digits ≠ []) (h : ∀ c ∈ digits, c.isDigit = true) :
    IsNumber digits ⟨digitsValue digits, 0⟩
  | pointed {front back : List Char} (hne : front ++ back ≠ [])
    (h : ∀ c ∈ front ++ back, c.isDigit = true) :
    IsNumber (front ++ '.' :: back) ⟨digitsValue (front ++ back), back.length⟩

/-- The names that a unit goes by. -/
def Unit.names : Unit → List String
  | nanosecond => ["ns"]
  | microsecond => ["us", "µs"]
  | millisecond => ["ms"]
  | second => ["s"]
  | minute => ["m"]
  | hour => ["h"]

/-- A component as it is written. -/
structure Written where
  number : List Char
  unit : List Char
  deriving DecidableEq

def Written.text (w : Written) : List Char :=
  w.number ++ w.unit

/-- What a written component stands for. -/
structure Written.Means (w : Written) (part : Component) : Prop where
  number : IsNumber w.number part.number
  unit : String.ofList w.unit ∈ part.unit.names

/-- A text is written components one after the other. -/
inductive Splits : List Char → List Written → List Component → Prop
  | nil : Splits [] [] []
  | cons {w : Written} {part : Component} {rest : List Char} {written : List Written}
    {parts : List Component} (h : w.Means part) (hrest : Splits rest written parts) :
    Splits (w.text ++ rest) (w :: written) (part :: parts)

/-! ### Numbers and names -/

variable {cs name : List Char} {n : Number} {u : Unit}

theorem point_notMem {digits : List Char} (h : ∀ c ∈ digits, c.isDigit = true) : '.' ∉ digits :=
  fun hmem => absurd (h '.' hmem) (by decide)

theorem IsNumber.ne_nil (h : IsNumber cs n) : cs ≠ [] := by
  cases h with
  | whole hne _ => exact hne
  | pointed _ _ => simp

theorem IsNumber.numeric (h : IsNumber cs n) : ∀ c ∈ cs, isNumeric c = true := by
  intro c hc
  rw [isNumeric, Bool.or_eq_true, beq_iff_eq]
  cases h with
  | whole _ h => exact .inl (h c hc)
  | pointed _ h =>
      rw [List.mem_append, List.mem_cons] at hc
      rcases hc with hc | rfl | hc
      · exact .inl (h c (List.mem_append_left _ hc))
      · exact .inr rfl
      · exact .inl (h c (List.mem_append_right _ hc))

/-- What is asked of the digits of a number, with or without a point among them. -/
theorem isEmpty_or_not_all_eq_false_iff {digits : List Char} :
    (digits.isEmpty || !digits.all Char.isDigit) = false ↔
      digits ≠ [] ∧ ∀ c ∈ digits, c.isDigit = true := by
  simp [List.isEmpty_eq_false_iff]

theorem read?_eq_some_iff : Number.read? cs = some n ↔ IsNumber cs n := by
  constructor
  · intro h
    rw [Number.read?] at h
    split at h
    · obtain ⟨hdigits, hn⟩ := Option.ite_none_left_eq_some.1 h
      obtain ⟨hne, hall⟩ := isEmpty_or_not_all_eq_false_iff.1 (Bool.eq_false_iff.2 hdigits)
      cases hn
      exact .whole hne hall
    · rename_i front back hsplit
      obtain ⟨-, rfl⟩ := Text.splitFirst_eq_some_iff.1 hsplit
      obtain ⟨hdigits, hn⟩ := Option.ite_none_left_eq_some.1 h
      obtain ⟨hne, hall⟩ := isEmpty_or_not_all_eq_false_iff.1 (Bool.eq_false_iff.2 hdigits)
      cases hn
      exact .pointed hne hall
  · intro h
    cases h with
    | whole hne h =>
        simp only [Number.read?, Text.splitFirst_of_notMem (point_notMem h),
          isEmpty_or_not_all_eq_false_iff.2 ⟨hne, h⟩, Bool.false_eq_true, if_false]
    | @pointed front back hne h =>
        have hfront : '.' ∉ front := fun hmem => point_notMem h (List.mem_append_left back hmem)
        simp only [Number.read?, Text.splitFirst_append_cons hfront,
          isEmpty_or_not_all_eq_false_iff.2 ⟨hne, h⟩, Bool.false_eq_true, if_false]

theorem ofName?_eq_some_iff : Unit.ofName? name = some u ↔ String.ofList name ∈ u.names := by
  constructor
  · intro h
    unfold Unit.ofName? at h
    split_ifs at h with hname hname hname hname hname hname <;> cases h
    · subst hname
      decide
    · rcases hname with rfl | rfl <;> decide
    all_goals
      subst hname
      decide
  · intro h
    have hnames : ∀ text ∈ u.names, Unit.ofName? text.toList = some u := by cases u <;> decide
    have hname := hnames (String.ofList name) h
    rwa [String.toList_ofList] at hname

theorem name_ne_nil (h : String.ofList name ∈ u.names) : name ≠ [] := by
  have hnames : ∀ text ∈ u.names, text.toList ≠ [] := by cases u <;> decide
  have hname := hnames (String.ofList name) h
  rwa [String.toList_ofList] at hname

theorem not_numeric_of_name (h : String.ofList name ∈ u.names) :
    ∀ c ∈ name, isNumeric c = false := by
  have hnames : ∀ text ∈ u.names, text.toList.any isNumeric = false := by cases u <;> decide
  have hname := hnames (String.ofList name) h
  rw [String.toList_ofList, List.any_eq_false] at hname
  exact fun c hc => Bool.eq_false_iff.2 (hname c hc)

/-! ### Where a component ends -/

theorem forall_mem_head?_append {P : Char → Prop} {front : List Char} (hne : front ≠ [])
    (h : ∀ c ∈ front, P c) (rest : List Char) : ∀ c ∈ (front ++ rest).head?, P c := by
  obtain ⟨d, front, rfl⟩ := List.exists_cons_of_ne_nil hne
  intro c hc
  obtain rfl : d = c := Option.some.inj hc
  exact h d List.mem_cons_self

variable {w : Written} {part : Component} {rest : List Char} {written : List Written}
  {parts : List Component}

/-- The ends of a component can be seen where a number or nothing follows it. -/
structure Cuts (cs : List Char) (w : Written) (rest : List Char) : Prop where
  number : cs.takeWhile isNumeric = w.number
  behind : cs.dropWhile isNumeric = w.unit ++ rest
  unit : (w.unit ++ rest).takeWhile (!isNumeric ·) = w.unit
  rest : (w.unit ++ rest).dropWhile (!isNumeric ·) = rest

theorem Written.Means.cuts (h : w.Means part) (hrest : ∀ c ∈ rest.head?, isNumeric c = true) :
    Cuts (w.text ++ rest) w rest := by
  have hunit : ∀ c ∈ w.unit, (!isNumeric c) = true := fun c hc =>
    congrArg not (not_numeric_of_name h.unit c hc)
  have hbehind : ∀ c ∈ (w.unit ++ rest).head?, isNumeric c = false :=
    forall_mem_head?_append (name_ne_nil h.unit) (not_numeric_of_name h.unit) rest
  have hnext : ∀ c ∈ rest.head?, (!isNumeric c) = false := fun c hc => congrArg not (hrest c hc)
  rw [Written.text, List.append_assoc]
  exact ⟨Text.takeWhile_run h.number.numeric hbehind, Text.dropWhile_run h.number.numeric hbehind,
    Text.takeWhile_run hunit hnext, Text.dropWhile_run hunit hnext⟩

theorem Cuts.unique {w' : Written} {rest' : List Char} (h : Cuts cs w rest) (h' : Cuts cs w' rest') :
    w = w' ∧ rest = rest' := by
  have hbehind : w.unit ++ rest = w'.unit ++ rest' := h.behind.symm.trans h'.behind
  have hnumber : w.number = w'.number := h.number.symm.trans h'.number
  have hunit : w.unit = w'.unit := by rw [← h.unit, hbehind, h'.unit]
  have hrest : rest = rest' := by rw [← h.rest, hbehind, h'.rest]
  cases w
  cases w'
  cases hnumber
  cases hunit
  exact ⟨rfl, hrest⟩

theorem Written.Means.text_append_ne_nil (h : w.Means part) (rest : List Char) :
    w.text ++ rest ≠ [] := by
  rw [Written.text, List.append_assoc]
  exact List.append_ne_nil_of_left_ne_nil h.number.ne_nil _

theorem Written.Means.head?_numeric (h : w.Means part) (rest : List Char) :
    ∀ c ∈ (w.text ++ rest).head?, isNumeric c = true := by
  rw [Written.text, List.append_assoc]
  exact forall_mem_head?_append h.number.ne_nil h.number.numeric _

theorem Splits.head?_numeric (h : Splits cs written parts) :
    ∀ c ∈ cs.head?, isNumeric c = true := by
  cases h with
  | nil => exact fun c hc => nomatch hc
  | cons h _ => exact h.head?_numeric _

theorem Written.Means.unique {part' : Component} (h : w.Means part) (h' : w.Means part') :
    part = part' := by
  have hnumber := (read?_eq_some_iff.2 h.number).symm.trans (read?_eq_some_iff.2 h'.number)
  have hunit := (ofName?_eq_some_iff.2 h.unit).symm.trans (ofName?_eq_some_iff.2 h'.unit)
  cases part
  cases part'
  cases hnumber
  cases hunit
  rfl

/-- Written components are the only ones that their text splits into. -/
theorem Splits.unique {written' : List Written} {parts' : List Component}
    (h : Splits cs written parts) (h' : Splits cs written' parts') :
    written = written' ∧ parts = parts' := by
  induction h generalizing written' parts' with
  | nil =>
      -- The other split is taken apart with its text as a variable.
      generalize hcs : [] = cs at h'
      cases h' with
      | nil => exact ⟨rfl, rfl⟩
      | cons hw' _ => exact absurd hcs.symm (hw'.text_append_ne_nil _)
  | @cons w part rest written parts hw hrest ih =>
      generalize hcs : w.text ++ rest = cs at h'
      cases h' with
      | nil => exact absurd hcs (hw.text_append_ne_nil rest)
      | @cons w' part' rest' written' parts' hw' hrest' =>
          have hcuts : Cuts (w.text ++ rest) w' rest' := hcs ▸ hw'.cuts hrest'.head?_numeric
          obtain ⟨rfl, rfl⟩ := (hw.cuts hrest.head?_numeric).unique hcuts
          obtain ⟨rfl, rfl⟩ := ih hrest'
          exact ⟨rfl, congrArg (· :: _) (hw.unique hw')⟩

/-! ### Reading them -/

theorem components_append (h : w.Means part) (hrest : ∀ c ∈ rest.head?, isNumeric c = true) :
    components (w.text ++ rest) = (part :: ·) <$> components rest := by
  obtain ⟨c, cs, hcs⟩ := List.exists_cons_of_ne_nil (h.text_append_ne_nil rest)
  have hcuts := h.cuts hrest
  have hc : isNumeric c = true := h.head?_numeric rest c (by rw [hcs]; rfl)
  rw [hcs] at hcuts ⊢
  have hnumber : Number.read? (c :: cs.takeWhile isNumeric) = some part.number := by
    rw [← List.takeWhile_cons_of_pos hc, hcuts.number, read?_eq_some_iff.2 h.number]
  have hbehind : cs.dropWhile isNumeric = w.unit ++ rest := by
    rw [← List.dropWhile_cons_of_pos hc, hcuts.behind]
  rw [components, if_pos hc]
  simp only [hnumber, hbehind, hcuts.unit, hcuts.rest, ofName?_eq_some_iff.2 h.unit]

theorem components_of_splits (h : Splits cs written parts) : components cs = .ok parts := by
  induction h with
  | nil => rw [components]
  | cons hw hrest ih =>
      rw [components_append hw hrest.head?_numeric, ih]
      rfl

/-- A text either is written components or has a fault that the numbers in it have no part in. -/
theorem splits_or_fault (cs : List Char) :
    (∃ written parts, Splits cs written parts) ∨
      ∃ fault, components cs = .error fault ∧ fault ≠ .outOfRange := by
  fun_induction components cs with
  | case1 => exact .inl ⟨[], [], .nil⟩
  | case2 => exact .inr ⟨_, rfl, by decide⟩
  | case3 c cs hc rest number hnumber name unit hunit ih =>
      obtain ⟨written, parts, hsplits⟩ | ⟨fault, hfault, hne⟩ := ih
      · refine .inl ⟨⟨c :: cs.takeWhile isNumeric, name⟩ :: written, ⟨number, unit⟩ :: parts, ?_⟩
        have htext : c :: cs = c :: cs.takeWhile isNumeric ++ name ++
            rest.dropWhile (!isNumeric ·) := by
          rw [List.append_assoc, List.takeWhile_append_dropWhile, List.cons_append,
            List.takeWhile_append_dropWhile]
        have hmeans : Written.Means ⟨c :: cs.takeWhile isNumeric, name⟩ ⟨number, unit⟩ :=
          ⟨read?_eq_some_iff.1 hnumber, ofName?_eq_some_iff.1 hunit⟩
        rw [htext]
        exact .cons hmeans hsplits
      · exact .inr ⟨fault, by rw [hfault]; rfl, hne⟩
  | case4 => exact .inr ⟨_, rfl, by decide⟩
  | case5 => exact .inr ⟨_, rfl, fun h => nomatch h⟩
  | case6 => exact .inr ⟨_, rfl, by decide⟩

/-! ### The whole text -/

theorem parse_of_splits {s : String} (h : Splits (Text.trimmed s.toList) written parts)
    (hne : written ≠ []) : parse s = ofComponents parts := by
  have hcomponents := components_of_splits h
  have hempty : (Text.trimmed s.toList).isEmpty = false := by
    rw [List.isEmpty_eq_false_iff]
    intro hempty
    rw [hempty] at h
    exact hne (h.unique .nil).1
  have hzero : Text.trimmed s.toList ≠ ['0'] := by
    intro hzero
    have hunit : components ['0'] = .error .noUnit := by
      rw [components]
      rfl
    rw [hzero, hunit] at hcomponents
    cases hcomponents
  rw [parse, parseTrimmed, hempty, if_neg Bool.false_ne_true, if_neg hzero, hcomponents]
  rfl

theorem parse_of_not_splits {s : String} (hzero : Text.trimmed s.toList ≠ ['0'])
    (h : ∀ written parts, Splits (Text.trimmed s.toList) written parts → written = []) :
    ∃ fault, parse s = .error fault ∧ fault ≠ .outOfRange := by
  rw [parse, parseTrimmed, if_neg hzero]
  obtain ⟨written, parts, hsplits⟩ | ⟨fault, hfault, hne⟩ := splits_or_fault (Text.trimmed s.toList)
  · obtain rfl := h written parts hsplits
    have hempty : (Text.trimmed s.toList).isEmpty = true := by
      generalize Text.trimmed s.toList = cs at hsplits
      cases hsplits
      rfl
    rw [if_pos hempty]
    exact ⟨.empty, rfl, by decide⟩
  · split
    · exact ⟨.empty, rfl, by decide⟩
    · rw [hfault]
      exact ⟨fault, rfl, hne⟩

/-- Reading goes by what is written. A zero alone is no time at all. Of components that make up the
whole text the doubles are summed from the left, and all that can be wrong with them is that the sum
is out of range. Anything else has a fault of another kind. A text splits into components in one way
at most. -/
theorem parse_by_grammar (s : String) :
    (Text.trimmed s.toList = ['0'] → parse s = .ok zero) ∧
      (∀ written parts, Splits (Text.trimmed s.toList) written parts → written ≠ [] →
        parse s = match ofFloat? (parts.foldl
            (fun sum part => sum + part.number.toFloat * part.unit.seconds) 0.0) with
          | some d => .ok d
          | none => .error .outOfRange) ∧
      (Text.trimmed s.toList ≠ ['0'] →
        (∀ written parts, Splits (Text.trimmed s.toList) written parts → written = []) →
        ∃ fault, parse s = .error fault ∧ fault ≠ .outOfRange) ∧
      ∀ written parts written' parts', Splits (Text.trimmed s.toList) written parts →
        Splits (Text.trimmed s.toList) written' parts' → written = written' ∧ parts = parts' := by
  refine ⟨fun hzero => ?_, fun written parts h hne => parse_of_splits h hne, parse_of_not_splits,
    fun written parts written' parts' h h' => h.unique h'⟩
  rw [parse, parseTrimmed, hzero]
  rfl

/-- A point may stand at the start of a number, and a name alone is no component. -/
theorem parse_by_grammar_points :
    parse " 0\n" = .ok zero ∧
      (parse "1.5h.5ms " =
        match ofFloat? (0.0 + (⟨15, 1⟩ : Number).toFloat * 3600.0 +
            (⟨5, 1⟩ : Number).toFloat * 1e-3) with
        | some d => .ok d
        | none => .error .outOfRange) ∧
      (∀ written parts, Splits "1.5h.5ms".toList written parts → written.length = 2) ∧
      ∃ fault, parse "m" = .error fault ∧ fault ≠ .outOfRange := by
  have hhours : Written.Means ⟨"1.5".toList, "h".toList⟩ ⟨⟨15, 1⟩, .hour⟩ :=
    ⟨read?_eq_some_iff.1 rfl, by decide⟩
  have hrest : Written.Means ⟨".5".toList, "ms".toList⟩ ⟨⟨5, 1⟩, .millisecond⟩ :=
    ⟨read?_eq_some_iff.1 rfl, by decide⟩
  have hsplits : Splits "1.5h.5ms".toList _ _ := .cons hhours (.cons hrest .nil)
  obtain ⟨hzero, -, -, -⟩ := parse_by_grammar " 0\n"
  obtain ⟨-, hread, -, hunique⟩ := parse_by_grammar "1.5h.5ms "
  obtain ⟨-, -, hfault, -⟩ := parse_by_grammar "m"
  refine ⟨hzero rfl, hread _ _ hsplits (List.cons_ne_nil _ _), fun written parts h => ?_,
    hfault (by decide) fun written parts h => ?_⟩
  · rw [← (hunique _ _ _ _ hsplits h).1]
    rfl
  · exact absurd (h.head?_numeric 'm' rfl) (by decide)

end BrokerWatch.Duration
