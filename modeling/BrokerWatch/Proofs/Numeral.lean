import BrokerWatch.Numeral
import BrokerWatch.Proofs.Results

/-!
# The numbers that numerals stand for

A run of digits is read as the number it stands for in base ten, as long as that is in range. So the
decimal form of every number in range is read back.
-/

namespace BrokerWatch.Numeral

theorem le_ofDigitChars (cs : List Char) (acc : Nat) : acc ≤ Nat.ofDigitChars 10 cs acc := by
  have hpow : 0 < 10 ^ cs.length := Nat.pow_pos (by decide)
  have hmul : 1 * acc ≤ 10 ^ cs.length * acc := Nat.mul_le_mul_right acc hpow
  rw [Nat.ofDigitChars_eq_ofDigitChars_zero]
  omega

/-- Digits are taken exactly if they are digits and their number is in range. -/
theorem magnitude_eq_ok_iff {limit n acc : Nat} {excess : NumeralError} {cs : List Char}
    (hacc : acc ≤ limit) :
    magnitude limit excess cs acc = .ok n ↔
      (∀ c ∈ cs, c.isDigit) ∧ Nat.ofDigitChars 10 cs acc = n ∧ n ≤ limit := by
  induction cs generalizing acc with
  | nil =>
      rw [magnitude, Nat.ofDigitChars_nil]
      constructor
      · intro h
        cases h
        exact ⟨fun c hc => absurd hc List.not_mem_nil, rfl, hacc⟩
      · intro hvalue
        obtain ⟨-, rfl, -⟩ := hvalue
        rfl
  | cons c cs ih =>
      rw [magnitude, digit?, Nat.ofDigitChars_cons]
      by_cases hdigit : c.isDigit
      · rw [if_pos hdigit]
        show (if limit < 10 * acc + (c.toNat - 48) then _ else _) = _ ↔ _
        by_cases hlimit : limit < 10 * acc + (c.toNat - 48)
        · -- A value out of range stays out of range, since further digits only make it larger.
          rw [if_pos hlimit]
          refine iff_of_false (fun h => nomatch h) ?_
          intro hvalue
          obtain ⟨-, rfl, hle⟩ := hvalue
          have hgrow := le_ofDigitChars cs (10 * acc + (c.toNat - 48))
          exact absurd (Nat.le_trans hgrow hle) (Nat.not_le.2 hlimit)
        · rw [if_neg hlimit, ih (Nat.not_lt.1 hlimit)]
          simp [hdigit]
      · rw [if_neg hdigit]
        refine iff_of_false (fun h => nomatch h) ?_
        intro hvalue
        obtain ⟨hall, -⟩ := hvalue
        exact hdigit (hall c List.mem_cons_self)

/-- A text of digits, at least one, that stand for a number in base ten. -/
def AreDigitsOf (cs : List Char) (n : Nat) : Prop :=
  cs ≠ [] ∧ (∀ c ∈ cs, c.isDigit) ∧ Nat.ofDigitChars 10 cs 0 = n

theorem digits_eq_ok_iff {limit n : Nat} {excess : NumeralError} {cs : List Char} :
    digits limit excess cs = .ok n ↔ AreDigitsOf cs n ∧ n ≤ limit := by
  cases cs with
  | nil => exact iff_of_false (fun h => nomatch h) (fun h => h.1.1 rfl)
  | cons c cs =>
      rw [digits, magnitude_eq_ok_iff (Nat.zero_le limit), AreDigitsOf,
        and_iff_right (List.cons_ne_nil c cs), and_assoc]

/-- A text of digits for a number, with a plus sign in front of them or not. -/
def IsNumeralOf (cs : List Char) (n : Nat) : Prop :=
  AreDigitsOf cs n ∨ ∃ others, cs = '+' :: others ∧ AreDigitsOf others n

theorem natural_eq_ok_iff {limit n : Nat} {cs : List Char} :
    natural limit cs = .ok n ↔ IsNumeralOf cs n ∧ n ≤ limit := by
  rw [IsNumeralOf]
  match cs with
  | [] => simp [natural, AreDigitsOf]
  | c :: others =>
      by_cases hplus : c = '+'
      · subst hplus
        have hsign : ¬AreDigitsOf ('+' :: others) n := by
          intro h
          exact absurd (h.2.1 '+' List.mem_cons_self) (by decide)
        rw [natural, digits_eq_ok_iff]
        simp [hsign]
      · have hread : natural limit (c :: others) = digits limit .tooLarge (c :: others) := by
          rw [natural]
          · intro hnil
            cases hnil
          · intro cs' hsame
            cases hsame
            exact hplus rfl
        rw [hread, digits_eq_ok_iff]
        simp [hplus]

theorem uint64_eq_ok_iff {cs : List Char} {n : UInt64} :
    uint64 cs = .ok n ↔ IsNumeralOf cs n.toNat := by
  have hread : uint64 cs = .ok n ↔
      ∃ m, natural (UInt64.size - 1) cs = .ok m ∧ UInt64.ofNat m = n := map_eq_ok_iff
  rw [hread]
  simp only [natural_eq_ok_iff]
  constructor
  · intro h
    obtain ⟨m, ⟨hm, hle⟩, rfl⟩ := h
    have hsize : m < UInt64.size := Nat.lt_of_le_of_lt hle (by decide)
    rwa [UInt64.toNat_ofNat_of_lt' hsize]
  · intro h
    exact ⟨n.toNat, ⟨h, Nat.le_sub_one_of_lt n.toNat_lt⟩, UInt64.ofNat_toNat⟩

/-- Without a minus sign an integer is read as a natural number. -/
theorem integer_eq_natural {bits : Nat} {cs : List Char} (h : '-' ∉ cs) :
    integer bits cs = (natural (Nat.pow 2 (bits - 1) - 1) cs).map Int.ofNat := by
  rw [integer.eq_def, natural.eq_def]
  split
  · rfl
  · rfl
  · exact absurd List.mem_cons_self h
  · rename_i hne hplus hminus
    split
    · exact absurd rfl hne
    · exact absurd rfl (hplus _)
    · rfl

theorem int32_eq_ok_iff {cs : List Char} {i : Int32} (h : '-' ∉ cs) :
    int32 cs = .ok i ↔ ∃ n : Nat, IsNumeralOf cs n ∧ n ≤ 2147483647 ∧ i.toInt = n := by
  have hread : int32 cs = (natural 2147483647 cs).map fun n => Int32.ofInt (Int.ofNat n) := by
    rw [int32, integer_eq_natural h]
    show Int32.ofInt <$> (natural 2147483647 cs).map Int.ofNat = _
    cases natural 2147483647 cs <;> rfl
  rw [hread, map_eq_ok_iff]
  refine exists_congr fun n => ?_
  rw [natural_eq_ok_iff, and_assoc, and_congr_right_iff, and_congr_right_iff]
  intro _ hle
  have hvalue : (Int32.ofInt (Int.ofNat n)).toInt = n := by
    refine Int32.toInt_ofInt_of_le (Int.le_trans (by decide) (Int.natCast_nonneg n)) ?_
    exact Int.ofNat_lt.2 (Nat.lt_succ_of_le hle)
  rw [← Int32.toInt_inj, hvalue, eq_comm]

theorem areDigitsOf_repr (n : Nat) : AreDigitsOf n.repr.toList n := by
  rw [Nat.toList_repr]
  exact ⟨Nat.toDigits_ne_nil,
    fun _ hc => Nat.isDigit_of_mem_toDigits (by decide) (by decide) hc,
    Nat.ofDigitChars_ten_toDigits⟩

/-- The decimal form of a number in range is read as that number. -/
theorem natural_repr {limit n : Nat} (h : n ≤ limit) : natural limit n.repr.toList = .ok n :=
  natural_eq_ok_iff.2 ⟨.inl (areDigitsOf_repr n), h⟩

theorem notMem_repr {c : Char} (h : c.isDigit = false) (n : Nat) : c ∉ n.repr.toList :=
  fun hc => absurd ((areDigitsOf_repr n).2.1 c hc) (Bool.eq_false_iff.1 h)

theorem comma_notMem_repr (n : Nat) : ',' ∉ n.repr.toList :=
  notMem_repr (by decide) n

end BrokerWatch.Numeral
