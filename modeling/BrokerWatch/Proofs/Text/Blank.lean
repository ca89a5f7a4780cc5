import BrokerWatch.Text.Blank
import Mathlib.Data.List.DropRight

/-!
# What trimming leaves

A text is tight if no blank stands at either of its ends. Trimming gives a tight text that was part
of the one before, and leaves a tight one as it is. Nothing is left exactly of blanks.
-/

namespace BrokerWatch.Text

variable {cs : List Char}

/-- No blank stands at either end. -/
structure Tight (cs : List Char) : Prop where
  head : ∀ c ∈ cs.head?, isBlank c = false
  last : ∀ c ∈ cs.getLast?, isBlank c = false

theorem isBlank_of_isDigit {c : Char} (h : c.isDigit = true) : isBlank c = false := by
  obtain ⟨hlow, hhigh⟩ := Char.isDigit_iff_toNat.1 h
  simp only [isBlank]
  grind

theorem trimRight_eq (cs : List Char) : trimRight cs = cs.rdropWhile isBlank := rfl

theorem trimmed_infix (cs : List Char) : trimmed cs <:+: cs :=
  (List.rdropWhile_prefix ..).isInfix.trans (List.dropWhile_suffix ..).isInfix

theorem trimmed_eq_nil_iff : trimmed cs = [] ↔ ∀ c ∈ cs, isBlank c = true := by
  rw [trimmed, trimRight_eq, List.rdropWhile_eq_nil_iff]
  constructor
  · intro h c hc
    rw [← List.takeWhile_append_dropWhile (p := isBlank) (l := cs), List.mem_append] at hc
    exact hc.elim List.mem_takeWhile_imp (h c)
  · intro h c hc
    exact h c ((List.dropWhile_suffix isBlank).subset hc)

theorem tight_trimmed (cs : List Char) : Tight (trimmed cs) := by
  constructor
  · intro c hc
    -- What is taken off the right end does not change the first character.
    obtain ⟨blanks, hblanks⟩ := List.rdropWhile_prefix isBlank (cs.dropWhile isBlank)
    have hhead := List.head?_dropWhile_not isBlank cs
    rw [trimmed, trimRight_eq, Option.mem_def] at hc
    rw [← hblanks, List.head?_append, hc] at hhead
    exact hhead
  · intro c hc
    obtain ⟨hne, rfl⟩ := List.mem_getLast?_eq_getLast hc
    exact Bool.eq_false_iff.2 (List.rdropWhile_last_not _ _ hne)

theorem Tight.trimmed_eq (h : Tight cs) : trimmed cs = cs := by
  have hfront : cs.dropWhile isBlank = cs := by
    cases cs with
    | nil => rfl
    | cons c cs => exact List.dropWhile_cons_of_neg (by simp [h.head c rfl])
  rw [trimmed, hfront, trimRight_eq, List.rdropWhile_eq_self_iff]
  intro hne
  simp [h.last _ (List.getLast_mem_getLast? hne)]

end BrokerWatch.Text
