import BrokerWatch.Text.Blank
import Mathlib.Data.List.TakeWhile

/-!
# The words of a text

A text is blanks, a word, and what follows it from a blank on, as long as it has a word at all. The
words are found by this alone, so how the blanks around them look makes no difference.
-/

namespace BrokerWatch.Text

variable {cs w : List Char}

def IsBlankText (cs : List Char) : Prop := ∀ c ∈ cs, isBlank c = true

/-- Something without a blank in it. -/
structure IsWord (w : List Char) : Prop where
  ne_nil : w ≠ []
  letters : ∀ c ∈ w, isBlank c = false

/-- Two words with blanks between them and nothing but blanks around them. -/
def IsPair (cs first second : List Char) : Prop :=
  ∃ before between after, cs = before ++ first ++ between ++ second ++ after ∧
    IsBlankText before ∧ IsBlankText between ∧ between ≠ [] ∧ IsBlankText after ∧
    IsWord first ∧ IsWord second

/-! ### One word after the other -/

theorem wordsFrom_append (h : ∀ c ∈ w, isBlank c = false) (cs word : List Char) :
    wordsFrom (w ++ cs) word = wordsFrom cs (w.reverse ++ word) := by
  induction w generalizing word with
  | nil => rfl
  | cons c w ih =>
      obtain ⟨hc, hw⟩ := List.forall_mem_cons.1 h
      rw [List.cons_append, wordsFrom, hc, if_neg Bool.false_ne_true, ih hw, List.reverse_cons,
        List.append_assoc, List.singleton_append]

theorem words_append_of_blank {blanks : List Char} (h : IsBlankText blanks) (cs : List Char) :
    words (blanks ++ cs) = words cs := by
  induction blanks with
  | nil => rfl
  | cons c blanks ih =>
      obtain ⟨hc, hblanks⟩ := List.forall_mem_cons.1 h
      rw [List.cons_append, words, wordsFrom, hc, if_pos rfl]
      exact ih hblanks

theorem words_of_blank (h : IsBlankText cs) : words cs = [] := by
  rw [← List.append_nil cs, words_append_of_blank h]
  rfl

/-- A word ends in front of the first blank. -/
theorem words_append_of_isWord (hw : IsWord w) {rest : List Char}
    (hrest : ∀ c ∈ rest.head?, isBlank c = true) : words (w ++ rest) = w :: words rest := by
  have hne : w.reverse.isEmpty = false := by simpa using hw.ne_nil
  rw [words, wordsFrom_append hw.letters, List.append_nil]
  cases rest with
  | nil => rw [wordsFrom, hne, if_neg Bool.false_ne_true, List.reverse_reverse]; rfl
  | cons c rest =>
      have hc : isBlank c = true := hrest c rfl
      rw [wordsFrom, hc, if_pos rfl, hne, if_neg Bool.false_ne_true, List.reverse_reverse]
      have hblank : IsBlankText [c] := by simpa [IsBlankText]
      exact congrArg (w :: ·) (words_append_of_blank hblank rest).symm

theorem words_of_first {before rest : List Char} (hbefore : IsBlankText before) (hw : IsWord w)
    (hrest : ∀ c ∈ rest.head?, isBlank c = true) :
    words (before ++ w ++ rest) = w :: words rest := by
  rw [List.append_assoc, words_append_of_blank hbefore, words_append_of_isWord hw hrest]

/-! ### How many words there are -/

theorem isBlankText_or_exists_first (cs : List Char) :
    IsBlankText cs ∨ ∃ before w rest, cs = before ++ w ++ rest ∧ IsBlankText before ∧ IsWord w ∧
      ∀ c ∈ rest.head?, isBlank c = true := by
  have hbefore : IsBlankText (cs.takeWhile isBlank) := fun c => List.mem_takeWhile_imp
  have hcs := List.takeWhile_append_dropWhile (p := isBlank) (l := cs)
  have hfirst := List.head?_dropWhile_not isBlank cs
  cases hd : cs.dropWhile isBlank with
  | nil =>
      rw [hd, List.append_nil] at hcs
      exact .inl (hcs ▸ hbefore)
  | cons c rest =>
      rw [hd] at hcs hfirst
      have hc : (!isBlank c) = true := by simpa using hfirst
      refine .inr ⟨_, (c :: rest).takeWhile (!isBlank ·), (c :: rest).dropWhile (!isBlank ·), ?_,
        hbefore, ⟨?_, fun d hd => ?_⟩, fun d hd => ?_⟩
      · rw [List.append_assoc, List.takeWhile_append_dropWhile, hcs]
      · rw [List.takeWhile_cons, if_pos hc]
        exact List.cons_ne_nil _ _
      · simpa using List.mem_takeWhile_imp hd
      · have hlast := List.head?_dropWhile_not (!isBlank ·) (c :: rest)
        rw [Option.mem_def.1 hd] at hlast
        simpa using hlast

theorem words_eq_nil_iff : words cs = [] ↔ IsBlankText cs := by
  refine ⟨fun h => ?_, words_of_blank⟩
  obtain hblank | ⟨before, w, rest, rfl, hbefore, hw, hrest⟩ := isBlankText_or_exists_first cs
  · exact hblank
  · rw [words_of_first hbefore hw hrest] at h
    cases h

theorem words_eq_cons_iff {ws : List (List Char)} :
    words cs = w :: ws ↔ ∃ before rest, cs = before ++ w ++ rest ∧ IsBlankText before ∧ IsWord w ∧
      (∀ c ∈ rest.head?, isBlank c = true) ∧ words rest = ws := by
  constructor
  · intro h
    obtain hblank | ⟨before, first, rest, rfl, hbefore, hfirst, hrest⟩ :=
      isBlankText_or_exists_first cs
    · rw [words_of_blank hblank] at h
      cases h
    · rw [words_of_first hbefore hfirst hrest] at h
      cases h
      exact ⟨before, rest, rfl, hbefore, hfirst, hrest, rfl⟩
  · intro h
    obtain ⟨before, rest, rfl, hbefore, hw, hrest, rfl⟩ := h
    exact words_of_first hbefore hw hrest

theorem words_eq_pair_iff {first second : List Char} :
    words cs = [first, second] ↔ IsPair cs first second := by
  rw [words_eq_cons_iff, IsPair]
  simp only [words_eq_cons_iff, words_eq_nil_iff]
  constructor
  · intro h
    obtain ⟨before, _, rfl, hbefore, hfirst, hrest, between, after, rfl, hbetween, hsecond, -,
      hafter⟩ := h
    refine ⟨before, between, after, by simp only [List.append_assoc], hbefore, hbetween, ?_, hafter,
      hfirst, hsecond⟩
    rintro rfl
    -- Without a blank between them the second word would start where the first has to end.
    obtain ⟨c, second, rfl⟩ := List.exists_cons_of_ne_nil hsecond.ne_nil
    have hblank := hrest c rfl
    rw [hsecond.letters c List.mem_cons_self] at hblank
    cases hblank
  · intro h
    obtain ⟨before, between, after, rfl, hbefore, hbetween, hne, hafter, hfirst, hsecond⟩ := h
    refine ⟨before, between ++ second ++ after, by simp only [List.append_assoc], hbefore, hfirst, ?_,
      between, after, rfl, hbetween, hsecond, ?_, hafter⟩
    · obtain ⟨c, between, rfl⟩ := List.exists_cons_of_ne_nil hne
      intro d hd
      cases hd
      exact hbetween c List.mem_cons_self
    · intro c hc
      exact hafter c (List.mem_of_mem_head? hc)

end BrokerWatch.Text
