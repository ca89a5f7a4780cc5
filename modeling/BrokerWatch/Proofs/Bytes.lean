import BrokerWatch.Bytes
import Mathlib.Tactic.Linarith
import Mathlib.Tactic.Ring

/-!
# Numbers in bytes

Writing a number in so many bytes and reading it back gives the number's remainder, and reading bytes
and writing the number in as many gives the bytes. So a number of fixed width and its bytes determine
each other.
-/

namespace BrokerWatch.Bytes

@[simp] theorem toNat_nil : toNat [] = 0 := rfl

private theorem foldl_eq (bytes : List UInt8) (n : Nat) :
    bytes.foldl (fun n b => n * 256 + b.toNat) n =
      n * 256 ^ bytes.length + bytes.foldl (fun n b => n * 256 + b.toNat) 0 := by
  induction bytes generalizing n with
  | nil => simp
  | cons c bytes ih =>
      rw [List.foldl_cons, List.foldl_cons, ih, ih (0 * 256 + c.toNat), List.length_cons,
        Nat.pow_succ]
      ring

theorem toNat_cons (b : UInt8) (bytes : List UInt8) :
    toNat (b :: bytes) = b.toNat * 256 ^ bytes.length + toNat bytes := by
  rw [toNat, List.foldl_cons, foldl_eq, Nat.zero_mul, Nat.zero_add, toNat]

theorem toNat_lt (bytes : List UInt8) : toNat bytes < 256 ^ bytes.length := by
  induction bytes with
  | nil => decide
  | cons b bytes ih =>
      have hb := b.toNat_lt
      rw [toNat_cons, List.length_cons, Nat.pow_succ]
      nlinarith

theorem toNat_ofNat (k n : Nat) : toNat (ofNat k n) = n % 256 ^ k := by
  induction k with
  | zero => simp [ofNat, Nat.mod_one]
  | succ k ih =>
      have hbyte : (UInt8.ofNat (n / 256 ^ k)).toNat = n / 256 ^ k % 256 := by simp
      rw [ofNat, Nat.pow_eq, toNat_cons, ih, length_ofNat, hbyte, Nat.pow_succ, Nat.mod_mul]
      ring

/-- What lies above the written bytes is cut off. -/
theorem ofNat_add_mul (k n m : Nat) :
    ofNat k (m * 256 ^ k + n) = ofNat k n := by
  induction k generalizing m with
  | zero => rfl
  | succ k ih =>
      have hsplit : m * 256 ^ (k + 1) = m * 256 * 256 ^ k := by ring
      have hhead : (m * 256 * 256 ^ k + n) / 256 ^ k = m * 256 + n / 256 ^ k := by
        rw [Nat.mul_comm _ (256 ^ k), Nat.mul_add_div (Nat.pow_pos (by decide))]
      rw [ofNat, ofNat, hsplit, ih, Nat.pow_eq, hhead]
      congr 1
      apply UInt8.toNat_inj.1
      simp

theorem ofNat_toNat (bytes : List UInt8) : ofNat bytes.length (toNat bytes) = bytes := by
  induction bytes with
  | nil => rfl
  | cons b bytes ih =>
      have hlt := toNat_lt bytes
      have hhead : (b.toNat * 256 ^ bytes.length + toNat bytes) / 256 ^ bytes.length = b.toNat := by
        rw [Nat.mul_comm, Nat.mul_add_div (Nat.pow_pos (by decide)), Nat.div_eq_of_lt hlt,
          Nat.add_zero]
      rw [List.length_cons, toNat_cons, ofNat, Nat.pow_eq, hhead, ofNat_add_mul, ih]
      simp

end BrokerWatch.Bytes
