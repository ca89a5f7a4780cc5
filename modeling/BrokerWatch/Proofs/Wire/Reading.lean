import BrokerWatch.Proofs.Bytes
import BrokerWatch.Proofs.Results
import BrokerWatch.Proofs.Text.Utf8
import BrokerWatch.Wire.Field
import BrokerWatch.Wire.Reader

/-!
# What readers read

A reader is told by the written forms of its values: it takes a value off the front of bytes exactly
if one of the value's written forms stands there, and leaves what stands behind it. A value can have
several written forms, since any negative length stands for a text, a block or a list that is not
there. Readers that are put together read written forms that are put together, so the readers of the
responses are never opened.
-/

namespace BrokerWatch.Wire

/-- A reader takes values off the front of bytes exactly where their written forms stand. -/
def Reads {α : Type} (reader : Reader α) (written : α → List UInt8 → Prop) : Prop :=
  ∀ input value rest, reader.run input = .ok (value, rest) ↔
    ∃ bytes, written value bytes ∧ input = bytes ++ rest

namespace Reads

variable {α β : Type} {reader : Reader α} {written : α → List UInt8 → Prop}

theorem run_append (h : Reads reader written) {value : α} {bytes : List UInt8}
    (hw : written value bytes) (rest : List UInt8) :
    reader.run (bytes ++ rest) = .ok (value, rest) :=
  (h _ _ _).2 ⟨bytes, hw, rfl⟩

theorem decode_append (h : Reads reader written) {value : α} {bytes : List UInt8}
    (hw : written value bytes) (rest : List UInt8) :
    reader.decode (bytes ++ rest) = .ok value := by
  rw [Reader.decode, h.run_append hw]
  rfl

theorem decode_eq_ok_iff (h : Reads reader written) {input : List UInt8} {value : α} :
    reader.decode input = .ok value ↔
      ∃ bytes rest, written value bytes ∧ input = bytes ++ rest := by
  constructor
  · intro hdecode
    cases hrun : reader.run input with
    | error e =>
        rw [Reader.decode, hrun] at hdecode
        cases hdecode
    | ok found =>
        rw [Reader.decode, hrun] at hdecode
        cases hdecode
        obtain ⟨bytes, hbytes⟩ := (h _ _ _).1 hrun
        exact ⟨bytes, _, hbytes⟩
  · intro hsplit
    obtain ⟨bytes, rest, hbytes, rfl⟩ := hsplit
    exact h.decode_append hbytes rest

/-- At the front of bytes stands one written form at most. -/
theorem front_unique (h : Reads reader written) {value value' : α}
    {bytes bytes' rest rest' : List UInt8} (hw : written value bytes)
    (hw' : written value' bytes') (hsame : bytes ++ rest = bytes' ++ rest') :
    value = value' ∧ bytes = bytes' := by
  have hrun := h.run_append hw rest
  rw [hsame, h.run_append hw' rest'] at hrun
  cases hrun
  exact ⟨rfl, List.append_cancel_right hsame⟩

theorem congr {written' : α → List UInt8 → Prop} (h : Reads reader written)
    (hsame : ∀ value bytes, written value bytes ↔ written' value bytes) :
    Reads reader written' := by
  intro input value rest
  rw [h]
  simp only [hsame]

theorem pure (a : α) : Reads (Pure.pure a) fun value bytes => value = a ∧ bytes = [] := by
  intro input value rest
  show Except.ok (a, input) = .ok (value, rest) ↔ _
  simp [eq_comm]

theorem throw (e : ReadError) : Reads (MonadExcept.throw e : Reader α) fun _ _ => False := by
  intro input value rest
  simp [MonadExcept.throw, throwThe, MonadExceptOf.throw, StateT.lift, StateT.run, bind, Except.bind]

theorem bind {next : α → Reader β} {written' : α → β → List UInt8 → Prop}
    (h : Reads reader written) (hnext : ∀ a, Reads (next a) (written' a)) :
    Reads (reader >>= next) fun value bytes =>
      ∃ a front back, written a front ∧ written' a value back ∧ bytes = front ++ back := by
  intro input value rest
  have hrun : (reader >>= next).run input = .ok (value, rest) ↔
      ∃ a left, reader.run input = .ok (a, left) ∧ (next a).run left = .ok (value, rest) := by
    rw [StateT.run_bind, bind_eq_ok_iff, Prod.exists]
  rw [hrun]
  simp only [h _ _ _, hnext _ _ _ _]
  constructor
  · intro hsplit
    obtain ⟨a, left, ⟨front, hfront, rfl⟩, back, hback, rfl⟩ := hsplit
    exact ⟨front ++ back, ⟨a, front, back, hfront, hback, rfl⟩, (List.append_assoc ..).symm⟩
  · intro hsplit
    obtain ⟨_, ⟨a, front, back, hfront, hback, rfl⟩, rfl⟩ := hsplit
    exact ⟨a, back ++ rest, ⟨front, hfront, List.append_assoc ..⟩, back, hback, rfl⟩

theorem ite {c : Prop} [Decidable c] {other : Reader α} {written' : α → List UInt8 → Prop}
    (h : c → Reads reader written) (hother : ¬c → Reads other written') :
    Reads (if c then reader else other) fun value bytes =>
      c ∧ written value bytes ∨ ¬c ∧ written' value bytes := by
  by_cases hc : c
  · rw [if_pos hc]
    exact (h hc).congr fun value bytes => by simp [hc]
  · rw [if_neg hc]
    exact (hother hc).congr fun value bytes => by simp [hc]

/-- A value made of one that was read. -/
theorem map (h : Reads reader written) (make : α → β) :
    Reads (reader >>= fun a => Pure.pure (make a)) fun value bytes =>
      ∃ a, written a bytes ∧ value = make a := by
  refine (h.bind fun a => pure (make a)).congr fun value bytes => ?_
  simp

end Reads

/-! ### Written forms -/

/-- A text is written behind its length, which is never negative. -/
def TextWritten (s : String) (bytes : List UInt8) : Prop :=
  (Text.Utf8.encode s).length < 2 ^ 15 ∧ bytes = Field.text s

/-- No text is written as any negative length. -/
def NullableTextWritten : Option String → List UInt8 → Prop
  | some s, bytes => TextWritten s bytes
  | none, bytes => ∃ length : Int16, length < 0 ∧ bytes = Field.int16 length

/-- A block is written behind its length; the empty one also as any negative length. -/
def BlockWritten (block bytes : List UInt8) : Prop :=
  (block.length < 2 ^ 31 ∧ bytes = Field.block block) ∨
    block = [] ∧ ∃ length : Int32, length < 0 ∧ bytes = Field.int32 length

/-- A list is written behind its length, its values one after the other; the empty one also as any
negative length. -/
def ListWritten {α : Type} (written : α → List UInt8 → Prop) (values : List α)
    (bytes : List UInt8) : Prop :=
  (values.length < 2 ^ 31 ∧ ∃ parts, List.Forall₂ written values parts ∧
      bytes = Bytes.ofNat 4 values.length ++ parts.flatten) ∨
    values = [] ∧ ∃ length : Int32, length < 0 ∧ bytes = Field.int32 length

namespace Reader

theorem take_reads (field : String) (n : Nat) :
    Reads (take field n) fun value bytes => bytes = value ∧ value.length = n := by
  intro input value rest
  change (if (input.take n).length < n then _ else _) = _ ↔ _
  rw [List.length_take]
  by_cases hshort : min n input.length < n
  · rw [if_pos hshort]
    constructor
    · intro h
      cases h
    · intro hsplit
      obtain ⟨bytes, ⟨rfl, rfl⟩, rfl⟩ := hsplit
      simp at hshort
  · rw [if_neg hshort]
    constructor
    · intro h
      cases h
      exact ⟨_, ⟨rfl, by rw [List.length_take]; omega⟩, (List.take_append_drop ..).symm⟩
    · intro hsplit
      obtain ⟨bytes, ⟨rfl, rfl⟩, rfl⟩ := hsplit
      rw [List.take_left, List.drop_left]

/-! ### Numbers -/

/-- A number of a fixed width is written as its bytes, when it is determined by its representation
and the representation keeps what fits into the bytes. -/
theorem number_reads {N : Type} {number : N → Nat} {ofNumber : Nat → N} {width : Nat}
    (hback : ∀ n, ofNumber (number n) = n) (hnumber : ∀ m, number (ofNumber m) = m % 256 ^ width)
    (field : String) :
    Reads (take field width >>= fun bytes => Pure.pure (ofNumber (Bytes.toNat bytes)))
      fun n bytes => bytes = Bytes.ofNat width (number n) := by
  refine ((take_reads field width).map _).congr fun n bytes => ?_
  constructor
  · intro h
    obtain ⟨_, ⟨rfl, hlength⟩, rfl⟩ := h
    have hlt := Bytes.toNat_lt bytes
    rw [hlength] at hlt
    rw [hnumber, Nat.mod_eq_of_lt hlt, ← hlength, Bytes.ofNat_toNat]
  · intro h
    subst h
    refine ⟨_, ⟨rfl, Bytes.length_ofNat ..⟩, ?_⟩
    rw [Bytes.toNat_ofNat, ← hnumber, hback, hback]

theorem byte_reads (field : String) :
    Reads (byte field) fun b bytes => bytes = Bytes.ofNat 1 b.toNat :=
  number_reads (by simp) (by simp) field

theorem int16_reads (field : String) :
    Reads (int16 field) fun n bytes => bytes = Field.int16 n :=
  number_reads (fun _ => congrArg Int16.ofUInt16 UInt16.ofNat_toNat) (by simp) field

theorem int32_reads (field : String) :
    Reads (int32 field) fun n bytes => bytes = Field.int32 n :=
  number_reads (fun _ => congrArg Int32.ofUInt32 UInt32.ofNat_toNat) (by simp) field

theorem int64_reads (field : String) :
    Reads (int64 field) fun n bytes => bytes = Field.int64 n :=
  number_reads (fun _ => congrArg Int64.ofUInt64 UInt64.ofNat_toNat) (by simp) field

/-! ### Texts, blocks and lists -/

/-- A length that is not negative is written as the number of what follows. -/
theorem int16_of_not_neg {length : Int16} (h : ¬length < 0) :
    Field.int16 length = Bytes.ofNat 2 length.toNatClampNeg := by
  rw [Field.int16, Int16.toNat_toUInt16_of_le (Int16.not_lt.1 h)]

theorem int32_of_not_neg {length : Int32} (h : ¬length < 0) :
    Field.int32 length = Bytes.ofNat 4 length.toNatClampNeg := by
  rw [Field.int32, Int32.toNat_toUInt32_of_le (Int32.not_lt.1 h)]

theorem exists_int16_length {n : Nat} (h : n < 2 ^ 15) :
    ∃ length : Int16, ¬length < 0 ∧ length.toNatClampNeg = n := by
  refine ⟨Int16.ofNat n, ?_, Int16.toNatClampNeg_ofNat_of_lt h⟩
  rw [Int16.lt_iff_toInt_lt, Int16.toInt_ofNat_of_lt h]
  simp

theorem exists_int32_length {n : Nat} (h : n < 2 ^ 31) :
    ∃ length : Int32, ¬length < 0 ∧ length.toNatClampNeg = n := by
  refine ⟨Int32.ofNat n, ?_, Int32.toNatClampNeg_ofNat_of_lt h⟩
  rw [Int32.lt_iff_toInt_lt, Int32.toInt_ofNat_of_lt h]
  simp

/-- A negative length counts as nothing. -/
theorem toNatClampNeg_of_neg {length : Int32} (h : length < 0) : length.toNatClampNeg = 0 := by
  rw [Int32.lt_iff_toInt_lt] at h
  exact Int.toNat_of_nonpos (Int.le_of_lt h)

theorem decoded_reads (field : String) (n : Nat) :
    Reads (do
        let bytes ← take field n
        match Text.Utf8.decode bytes with
        | .ok s => return some s
        | .error e => MonadExcept.throw (.badText field e))
      fun value bytes => ∃ s, value = some s ∧ bytes = Text.Utf8.encode s ∧ bytes.length = n := by
  have hdecode : ∀ front : List UInt8, Reads (match Text.Utf8.decode front with
      | .ok s => (return some s : Reader (Option String))
      | .error e => MonadExcept.throw (.badText field e))
      fun value bytes => ∃ s, front = Text.Utf8.encode s ∧ value = some s ∧ bytes = [] := by
    intro front
    cases hfront : Text.Utf8.decode front with
    | ok s =>
        rw [Text.Utf8.decode_eq_ok_iff] at hfront
        subst hfront
        refine (Reads.pure (some s)).congr fun value bytes => ?_
        constructor
        · intro h
          obtain ⟨rfl, rfl⟩ := h
          exact ⟨s, rfl, rfl, rfl⟩
        · intro h
          obtain ⟨t, ht, rfl, rfl⟩ := h
          rw [Text.Utf8.encode_injective ht]
          exact ⟨rfl, rfl⟩
    | error e =>
        refine (Reads.throw _).congr fun value bytes => ?_
        constructor
        · exact False.elim
        · intro h
          obtain ⟨s, rfl, -, -⟩ := h
          rw [Text.Utf8.decode_encode] at hfront
          cases hfront
  refine ((take_reads field n).bind hdecode).congr fun value bytes => ?_
  constructor
  · intro h
    obtain ⟨_, _, _, ⟨rfl, hlength⟩, ⟨s, rfl, rfl, rfl⟩, rfl⟩ := h
    exact ⟨s, rfl, List.append_nil _, by simpa using hlength⟩
  · intro h
    obtain ⟨s, rfl, rfl, hlength⟩ := h
    exact ⟨_, _, [], ⟨rfl, hlength⟩, ⟨s, rfl, rfl, rfl⟩, (List.append_nil _).symm⟩

theorem nullableText_reads (field : String) : Reads (nullableText field) NullableTextWritten := by
  refine ((int16_reads field).bind fun length =>
    Reads.ite (fun _ => Reads.pure none) fun _ =>
      decoded_reads field length.toNatClampNeg).congr fun value bytes => ?_
  constructor
  · intro hsplit
    obtain ⟨length, _, back, rfl, ⟨hneg, rfl, rfl⟩ | ⟨hpos, s, rfl, rfl, hlength⟩, rfl⟩ := hsplit
    · exact ⟨length, hneg, List.append_nil _⟩
    · refine ⟨hlength ▸ length.toNatClampNeg_lt, ?_⟩
      rw [int16_of_not_neg hpos, ← hlength, Field.text]
  · intro h
    cases value with
    | none =>
        obtain ⟨length, hneg, rfl⟩ := h
        exact ⟨length, _, [], rfl, .inl ⟨hneg, rfl, rfl⟩, (List.append_nil _).symm⟩
    | some s =>
        obtain ⟨hlt, rfl⟩ := h
        obtain ⟨length, hpos, hlength⟩ := exists_int16_length hlt
        refine ⟨length, _, Text.Utf8.encode s, rfl, .inr ⟨hpos, s, rfl, rfl, hlength.symm⟩, ?_⟩
        rw [int16_of_not_neg hpos, hlength, Field.text]

/-- A text that was read, or the fault that there is none. -/
def found (field : String) : Option String → Reader String
  | some s => return s
  | none => MonadExcept.throw (.unexpectedNull field)

theorem text_reads (field : String) : Reads (text field) TextWritten := by
  have hfound : ∀ got, Reads (found field got) fun value bytes =>
      got = some value ∧ bytes = [] := by
    intro got
    cases got with
    | none => exact (Reads.throw _).congr fun value bytes => by simp
    | some s => exact (Reads.pure s).congr fun value bytes => by simp [eq_comm]
  refine ((nullableText_reads field).bind hfound).congr fun value bytes => ?_
  constructor
  · intro hsplit
    obtain ⟨_, front, _, hfront, ⟨rfl, rfl⟩, rfl⟩ := hsplit
    rwa [List.append_nil]
  · intro h
    exact ⟨some value, bytes, [], h, ⟨rfl, rfl⟩, (List.append_nil _).symm⟩

theorem block_reads (field : String) : Reads (block field) BlockWritten := by
  refine ((int32_reads field).bind fun length =>
    take_reads field length.toNatClampNeg).congr fun value bytes => ?_
  constructor
  · intro h
    obtain ⟨length, _, _, rfl, ⟨rfl, hlength⟩, rfl⟩ := h
    by_cases hneg : length < 0
    · rw [toNatClampNeg_of_neg hneg, List.length_eq_zero_iff] at hlength
      exact .inr ⟨hlength, length, hneg, by rw [hlength, List.append_nil]⟩
    · refine .inl ⟨hlength ▸ length.toNatClampNeg_lt, ?_⟩
      rw [int32_of_not_neg hneg, ← hlength, Field.block]
  · intro h
    rcases h with ⟨hlt, rfl⟩ | ⟨rfl, length, hneg, rfl⟩
    · obtain ⟨length, hpos, hlength⟩ := exists_int32_length hlt
      refine ⟨length, _, value, rfl, ⟨rfl, hlength.symm⟩, ?_⟩
      rw [int32_of_not_neg hpos, hlength, Field.block]
    · exact ⟨length, _, [], rfl, ⟨rfl, (toNatClampNeg_of_neg hneg).symm⟩,
        (List.append_nil _).symm⟩

variable {α : Type} {item : Reader α} {written : α → List UInt8 → Prop}

theorem repeated_reads (h : Reads item written) (n : Nat) :
    Reads (repeated item n) fun values bytes =>
      values.length = n ∧ ∃ parts, List.Forall₂ written values parts ∧ bytes = parts.flatten := by
  induction n with
  | zero =>
      refine (Reads.pure []).congr fun values bytes => ?_
      constructor
      · intro hsplit
        obtain ⟨rfl, rfl⟩ := hsplit
        exact ⟨rfl, [], .nil, rfl⟩
      · intro hsplit
        obtain ⟨hlength, parts, hparts, rfl⟩ := hsplit
        rw [List.length_eq_zero_iff] at hlength
        subst hlength
        cases hparts
        exact ⟨rfl, rfl⟩
  | succ n ih =>
      refine (h.bind fun first => ih.map (first :: ·)).congr fun values bytes => ?_
      constructor
      · intro hsplit
        obtain ⟨first, front, _, hfirst, ⟨values, ⟨hlength, parts, hparts, rfl⟩, rfl⟩, rfl⟩ := hsplit
        exact ⟨congrArg (· + 1) hlength, front :: parts, .cons hfirst hparts, rfl⟩
      · intro hsplit
        obtain ⟨hlength, _, hparts, rfl⟩ := hsplit
        cases hparts with
        | nil => cases hlength
        | cons hfirst hparts =>
            exact ⟨_, _, _, hfirst, ⟨_, ⟨Nat.succ.inj hlength, _, hparts, rfl⟩, rfl⟩, rfl⟩

theorem list_reads (field : String) (h : Reads item written) :
    Reads (list field item) (ListWritten written) := by
  refine ((int32_reads field).bind fun length =>
    repeated_reads h length.toNatClampNeg).congr fun values bytes => ?_
  constructor
  · intro hsplit
    obtain ⟨length, _, _, rfl, ⟨hlength, parts, hparts, rfl⟩, rfl⟩ := hsplit
    by_cases hneg : length < 0
    · rw [toNatClampNeg_of_neg hneg, List.length_eq_zero_iff] at hlength
      subst hlength
      cases hparts
      exact .inr ⟨rfl, length, hneg, List.append_nil _⟩
    · refine .inl ⟨hlength ▸ length.toNatClampNeg_lt, parts, hparts, ?_⟩
      rw [int32_of_not_neg hneg, hlength]
  · intro hsplit
    rcases hsplit with ⟨hlt, parts, hparts, rfl⟩ | ⟨rfl, length, hneg, rfl⟩
    · obtain ⟨length, hpos, hlength⟩ := exists_int32_length hlt
      refine ⟨length, _, _, rfl, ⟨hlength.symm, parts, hparts, rfl⟩, ?_⟩
      rw [int32_of_not_neg hpos, hlength]
    · exact ⟨length, _, [], rfl, ⟨(toNatClampNeg_of_neg hneg).symm, [], .nil, rfl⟩,
        (List.append_nil _).symm⟩

end Reader

end BrokerWatch.Wire
