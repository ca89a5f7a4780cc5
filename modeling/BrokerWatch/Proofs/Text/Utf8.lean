import BrokerWatch.Text.Utf8
import Mathlib.Tactic.SplitIfs

/-!
# Texts and their bytes determine each other

A text is read back from its bytes, and from no others. A zero byte among them stands for a null
character, so such a byte can separate texts that have none.
-/

namespace BrokerWatch.Text.Utf8

theorem encode_injective {s t : String} (h : encode s = encode t) : s = t := by
  have hdecode := congrArg decode h
  rw [decode_encode, decode_encode] at hdecode
  exact Except.ok.inj hdecode

/-- Bytes are read as a text exactly if they are its written form. -/
theorem decode_eq_ok_iff {bytes : List UInt8} {s : String} :
    decode bytes = .ok s ↔ bytes = encode s := by
  constructor
  · intro h
    rw [decode, String.fromUTF8?] at h
    by_cases hvalid : (⟨bytes.toArray⟩ : ByteArray).IsValidUTF8
    · rw [dif_pos hvalid] at h
      cases h
      simp [encode, String.fromUTF8]
    · rw [dif_neg hvalid] at h
      cases h
  · intro hbytes
    subst hbytes
    exact decode_encode s

/-! ### The bytes of a character -/

theorem encode_eq_flatMap (s : String) : encode s = s.toList.flatMap String.utf8EncodeChar := by
  rw [encode, String.toUTF8, ← String.utf8Encode_toList, List.utf8Encode,
    List.toList_data_toByteArray]

/-- Every byte of a character beyond ASCII has its top bit set. -/
theorem le_toNat_of_mem {c : Char} {b : UInt8} (hc : 127 < c.val.toNat)
    (h : b ∈ String.utf8EncodeChar c) : 128 ≤ b.toNat := by
  rw [String.utf8EncodeChar, if_neg (Nat.not_le.2 hc)] at h
  split_ifs at h
  all_goals
    simp only [List.mem_cons, List.not_mem_nil, or_false] at h
    rcases h with rfl | h
    · rw [UInt8.toNat_ofNat']
      omega
  · rw [h, UInt8.toNat_ofNat']
    omega
  · rcases h with rfl | rfl <;> rw [UInt8.toNat_ofNat'] <;> omega
  · rcases h with rfl | rfl | rfl <;> rw [UInt8.toNat_ofNat'] <;> omega

/-- Of the characters of a text only the null character brings a zero byte. -/
theorem zero_notMem_encode {s : String} (h : '\x00' ∉ s.toList) : 0 ∉ encode s := by
  rw [encode_eq_flatMap, List.mem_flatMap]
  intro hzero
  obtain ⟨c, hc, hbyte⟩ := hzero
  by_cases hlarge : 127 < c.val.toNat
  · exact absurd (le_toNat_of_mem hlarge hbyte) (by decide)
  · have hsmall : c.val.toNat ≤ 127 := Nat.not_lt.1 hlarge
    rw [String.utf8EncodeChar, if_pos hsmall, List.mem_singleton] at hbyte
    have hvalue := congrArg UInt8.toNat hbyte
    rw [UInt8.toNat_ofNat', Nat.mod_eq_of_lt (by omega)] at hvalue
    obtain rfl : c = '\x00' := Char.ext (UInt32.toNat_inj.1 hvalue.symm)
    exact h hc

end BrokerWatch.Text.Utf8
