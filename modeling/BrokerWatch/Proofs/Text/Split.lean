import BrokerWatch.Text.Split
import Mathlib.Data.List.Basic
import Mathlib.Data.List.TakeWhile

/-!
# Cutting undoes joining

Parts in which no separator stands come back as they were when their joined text is cut again. A cut
at the first or the last separator, or behind the last occurrence of a marker, is told by the text
alone: what stands in front of it and what behind.
-/

namespace BrokerWatch.Text

variable {sep : Char}

theorem fields_append_cons {part : List Char} (h : sep ∉ part) (rest : List Char) :
    fields sep (part ++ sep :: rest) = part :: fields sep rest := by
  induction part with
  | nil => rw [List.nil_append, fields, if_pos rfl]
  | cons c cs ih =>
      obtain ⟨hc, hcs⟩ := List.ne_and_not_mem_of_not_mem_cons h
      rw [List.cons_append, fields, if_neg (Ne.symm hc), ih hcs, List.modifyHead_cons]

theorem fields_of_notMem {part : List Char} (h : sep ∉ part) : fields sep part = [part] := by
  induction part with
  | nil => rfl
  | cons c cs ih =>
      obtain ⟨hc, hcs⟩ := List.ne_and_not_mem_of_not_mem_cons h
      rw [fields, if_neg (Ne.symm hc), ih hcs, List.modifyHead_cons]

theorem fields_append_sep (front back : List Char) :
    fields sep (front ++ sep :: back) = fields sep front ++ fields sep back := by
  induction front with
  | nil =>
      rw [List.nil_append, ← List.nil_append (sep :: back), fields_append_cons List.not_mem_nil,
        fields, List.singleton_append]
  | cons c cs ih =>
      rw [List.cons_append, fields, ih, fields]
      split
      · rw [List.cons_append]
      · obtain ⟨first, others, hfields⟩ := List.exists_cons_of_ne_nil (fields_ne_nil sep cs)
        rw [hfields, List.cons_append, List.modifyHead_cons, List.modifyHead_cons, List.cons_append]

theorem mem_intercalate_cons {seps part : List Char} {c : Char} (h : c ∈ part)
    (parts : List (List Char)) : c ∈ seps.intercalate (part :: parts) := by
  cases parts with
  | nil => rwa [List.intercalate_singleton]
  | cons next parts =>
      rw [List.intercalate_cons_cons]
      exact List.mem_append_left _ (List.mem_append_left _ h)

theorem fields_intercalate {parts : List (List Char)} (hne : parts ≠ [])
    (h : ∀ part ∈ parts, sep ∉ part) : fields sep ([sep].intercalate parts) = parts := by
  induction parts with
  | nil => exact absurd rfl hne
  | cons part parts ih =>
      cases parts with
      | nil =>
          rw [List.intercalate_singleton, fields_of_notMem (h part List.mem_cons_self)]
      | cons next parts =>
          have hothers : ∀ other ∈ next :: parts, sep ∉ other := fun other hother =>
            h other (List.mem_cons_of_mem part hother)
          have htail : fields sep ([sep].intercalate (next :: parts)) = next :: parts :=
            ih (List.cons_ne_nil next parts) hothers
          rw [List.intercalate_cons_cons, List.append_assoc, List.singleton_append,
            fields_append_cons (h part List.mem_cons_self), htail]

/-! ### What stands in the parts -/

theorem notMem_of_mem_fields {part cs : List Char} (h : part ∈ fields sep cs) : sep ∉ part := by
  induction cs generalizing part with
  | nil =>
      rw [fields, List.mem_singleton] at h
      rw [h]
      exact List.not_mem_nil
  | cons c cs ih =>
      obtain ⟨first, others, hfields⟩ := List.exists_cons_of_ne_nil (fields_ne_nil sep cs)
      rw [hfields] at ih
      rw [fields, hfields] at h
      by_cases hc : c = sep
      · rw [if_pos hc] at h
        rcases List.mem_cons.1 h with rfl | h
        · exact List.not_mem_nil
        · exact ih h
      · rw [if_neg hc, List.modifyHead_cons] at h
        rcases List.mem_cons.1 h with rfl | h
        · exact List.not_mem_cons_of_ne_of_not_mem (Ne.symm hc) (ih List.mem_cons_self)
        · exact ih (List.mem_cons_of_mem _ h)

/-- The characters of the parts are those of the text that are no separators. -/
theorem exists_mem_fields_iff {c : Char} {cs : List Char} :
    (∃ part ∈ fields sep cs, c ∈ part) ↔ c ∈ cs ∧ c ≠ sep := by
  induction cs with
  | nil => simp [fields]
  | cons d cs ih =>
      obtain ⟨first, others, hfields⟩ := List.exists_cons_of_ne_nil (fields_ne_nil sep cs)
      rw [hfields] at ih
      rw [fields, hfields]
      by_cases hd : d = sep
      · rw [if_pos hd, List.exists_mem_cons_iff, List.mem_cons, ih, hd]
        simp only [List.not_mem_nil, false_or]
        exact ⟨fun h => ⟨.inr h.1, h.2⟩, fun h => ⟨h.1.resolve_left h.2, h.2⟩⟩
      · rw [if_neg hd, List.modifyHead_cons, List.exists_mem_cons_iff, List.mem_cons, or_assoc,
          ← List.exists_mem_cons_iff (p := (c ∈ ·)), ih, List.mem_cons]
        exact ⟨fun h => h.elim (fun hc => ⟨.inl hc, hc ▸ hd⟩) fun hc => ⟨.inr hc.1, hc.2⟩,
          fun h => h.1.imp_right fun hc => ⟨hc, h.2⟩⟩

/-! ### Cutting once -/

theorem splitFirst_append_cons {front : List Char} (h : sep ∉ front) (back : List Char) :
    splitFirst sep (front ++ sep :: back) = some (front, back) := by
  induction front with
  | nil => rw [List.nil_append, splitFirst, if_pos rfl]
  | cons c cs ih =>
      obtain ⟨hc, hcs⟩ := List.ne_and_not_mem_of_not_mem_cons h
      rw [List.cons_append, splitFirst, if_neg (Ne.symm hc), ih hcs, Option.map_some]

/-- A text is cut in front of its first separator and behind it. -/
theorem splitFirst_eq_some_iff {cs front back : List Char} :
    splitFirst sep cs = some (front, back) ↔ sep ∉ front ∧ cs = front ++ sep :: back := by
  constructor
  · intro h
    induction cs generalizing front with
    | nil => cases h
    | cons c cs ih =>
        rw [splitFirst] at h
        by_cases hc : c = sep
        · rw [if_pos hc] at h
          cases h
          exact ⟨List.not_mem_nil, by rw [hc, List.nil_append]⟩
        · rw [if_neg hc, Option.map_eq_some_iff] at h
          obtain ⟨⟨rest, _⟩, hrest, hsame⟩ := h
          cases hsame
          obtain ⟨hnot, rfl⟩ := ih hrest
          exact ⟨List.not_mem_cons_of_ne_of_not_mem (Ne.symm hc) hnot, rfl⟩
  · intro h
    obtain ⟨hfront, rfl⟩ := h
    exact splitFirst_append_cons hfront back

theorem splitFirst_of_notMem {cs : List Char} (h : sep ∉ cs) : splitFirst sep cs = none := by
  cases hsplit : splitFirst sep cs with
  | none => rfl
  | some cut =>
      obtain ⟨-, hcs⟩ := splitFirst_eq_some_iff.1 hsplit
      exact absurd (hcs ▸ List.mem_append_right _ List.mem_cons_self) h

theorem splitLast_of_notMem {part : List Char} (h : sep ∉ part) : splitLast sep part = none := by
  induction part with
  | nil => rfl
  | cons c cs ih =>
      obtain ⟨hc, hcs⟩ := List.ne_and_not_mem_of_not_mem_cons h
      simp only [splitLast, ih hcs, if_neg (Ne.symm hc)]

theorem splitLast_append_cons (front : List Char) {back : List Char} (h : sep ∉ back) :
    splitLast sep (front ++ sep :: back) = some (front, back) := by
  induction front with
  | nil => simp only [List.nil_append, splitLast, splitLast_of_notMem h, if_pos]
  | cons c cs ih => simp only [List.cons_append, splitLast, ih]

theorem splitLast_eq_none_iff {cs : List Char} : splitLast sep cs = none ↔ sep ∉ cs := by
  refine ⟨fun h => ?_, splitLast_of_notMem⟩
  induction cs with
  | nil => exact List.not_mem_nil
  | cons c cs ih =>
      rw [splitLast] at h
      cases hrest : splitLast sep cs with
      | some cut =>
          rw [hrest] at h
          cases h
      | none =>
          rw [hrest] at h
          have hc : c ≠ sep := fun hc => absurd h (by rw [hc]; simp)
          exact List.not_mem_cons_of_ne_of_not_mem (Ne.symm hc) (ih hrest)

/-- A text is cut in front of its last separator and behind it. -/
theorem splitLast_eq_some_iff {cs front back : List Char} :
    splitLast sep cs = some (front, back) ↔ sep ∉ back ∧ cs = front ++ sep :: back := by
  constructor
  · intro h
    induction cs generalizing front with
    | nil => cases h
    | cons c cs ih =>
        rw [splitLast] at h
        cases hrest : splitLast sep cs with
        | some cut =>
            rw [hrest] at h
            cases h
            obtain ⟨hback, rfl⟩ := ih hrest
            exact ⟨hback, rfl⟩
        | none =>
            rw [hrest] at h
            obtain ⟨rfl, hcut⟩ := Option.ite_none_right_eq_some.1 h
            cases hcut
            exact ⟨splitLast_eq_none_iff.1 hrest, rfl⟩
  · intro h
    obtain ⟨hback, rfl⟩ := h
    exact splitLast_append_cons front hback

/-! ### Behind a marker -/

section

variable {marker cs rest : List Char}

theorem afterLast_eq_none_iff : afterLast marker cs = none ↔ ¬marker <:+: cs := by
  induction cs with
  | nil => simp [afterLast]
  | cons c cs ih =>
      rw [List.infix_cons_iff, not_or, afterLast]
      cases hrest : afterLast marker cs with
      | some behind =>
          rw [hrest] at ih
          exact iff_of_false (fun h => nomatch h) fun h => nomatch ih.2 h.2
      | none =>
          rw [and_iff_left (ih.1 hrest), ← List.isPrefixOf_iff_prefix,
            ← List.isSome_isPrefixOf?_eq_isPrefixOf, Bool.not_eq_true, Option.isSome_eq_false_iff,
            Option.isNone_iff_eq_none]

/-- What is found stands behind an occurrence of the marker, and no occurrence begins later than that
one does, not even inside it. -/
theorem afterLast_eq_some_iff (hmarker : marker ≠ []) :
    afterLast marker cs = some rest ↔
      (∃ front, cs = front ++ marker ++ rest) ∧ ¬marker <:+: marker.tail ++ rest := by
  obtain ⟨m, ms, rfl⟩ := List.exists_cons_of_ne_nil hmarker
  rw [List.tail_cons]
  induction cs with
  | nil => simp [afterLast]
  | cons c cs ih =>
      rw [afterLast]
      cases hlater : afterLast (m :: ms) cs with
      | some behind =>
          have hmore : (m :: ms) <:+: cs := by
            rw [← not_not (a := (m :: ms) <:+: cs), ← afterLast_eq_none_iff, hlater]
            exact Option.some_ne_none behind
          rw [hlater] at ih
          refine ih.trans (and_congr_left fun hlast => ⟨fun h => ?_, fun h => ?_⟩)
          · obtain ⟨front, rfl⟩ := h
            exact ⟨c :: front, rfl⟩
          · obtain ⟨front, hcs⟩ := h
            cases front with
            | nil =>
                cases hcs
                exact absurd hmore hlast
            | cons d front =>
                cases hcs
                exact ⟨front, rfl⟩
      | none =>
          have hnone : ¬(m :: ms) <:+: cs := afterLast_eq_none_iff.1 hlater
          show (m :: ms).isPrefixOf? (c :: cs) = some rest ↔ _
          rw [List.isPrefixOf?_eq_some_iff_append_eq]
          constructor
          · intro h
            cases h
            exact ⟨⟨[], rfl⟩, hnone⟩
          · intro h
            obtain ⟨⟨front, hcs⟩, -⟩ := h
            cases front with
            | nil => exact hcs.symm
            | cons d front =>
                cases hcs
                exact absurd ⟨front, rest, rfl⟩ hnone

end

/-! ### Runs -/

/-- A run of one kind ends where something of the other kind follows. -/
theorem takeWhile_run {α : Type} {p : α → Bool} {run rest : List α} (hrun : ∀ c ∈ run, p c = true)
    (hrest : ∀ c ∈ rest.head?, p c = false) : (run ++ rest).takeWhile p = run := by
  rw [List.takeWhile_append_of_pos hrun]
  cases rest with
  | nil => simp
  | cons c rest => simp [hrest c rfl]

theorem dropWhile_run {α : Type} {p : α → Bool} {run rest : List α} (hrun : ∀ c ∈ run, p c = true)
    (hrest : ∀ c ∈ rest.head?, p c = false) : (run ++ rest).dropWhile p = rest := by
  rw [List.dropWhile_append_of_pos hrun]
  cases rest with
  | nil => rfl
  | cons c rest => simp [hrest c rfl]

/-- The first part of a text is what stands in front of a separator or of the end. -/
theorem takeWhile_ne_eq_iff {cs part : List Char} :
    cs.takeWhile (· != sep) = part ↔
      sep ∉ part ∧ ∃ rest, cs = part ++ rest ∧ (rest = [] ∨ ∃ more, rest = sep :: more) := by
  constructor
  · intro h
    subst h
    refine ⟨fun hmem => by simpa using List.mem_takeWhile_imp hmem, cs.dropWhile (· != sep),
      List.takeWhile_append_dropWhile.symm, ?_⟩
    cases hrest : cs.dropWhile (· != sep) with
    | nil => exact .inl rfl
    | cons c more =>
        have hc := List.head?_dropWhile_not (· != sep) cs
        rw [hrest] at hc
        obtain rfl : c = sep := by simpa using hc
        exact .inr ⟨more, rfl⟩
  · intro h
    obtain ⟨hpart, rest, rfl, hrest⟩ := h
    refine takeWhile_run (fun c hc => ?_) fun c hc => ?_
    · exact bne_iff_ne.2 fun hsep => hpart (hsep ▸ hc)
    · obtain rfl | ⟨more, rfl⟩ := hrest
      · cases hc
      · cases hc
        exact bne_self_eq_false sep

end BrokerWatch.Text
