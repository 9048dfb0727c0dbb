import Mathlib.Data.Nat.Digits.Lemmas
import Mathlib.Tactic.Common

/-! Unsigned numbers as big-endian bytes of a fixed width. -/
namespace Bytes

/-- The number that the bytes spell, most significant byte first. -/
def value : List UInt8 → ℕ
  | [] => 0
  | b :: bs => b.toNat * 256 ^ bs.length + value bs

/-- The low `width` bytes of `n`, most significant byte first. -/
def bigEndian : ℕ → ℕ → List UInt8
  | 0, _ => []
  | width + 1, n => UInt8.ofNat (n / 256 ^ width) :: bigEndian width n

@[simp] theorem length_bigEndian (width n : ℕ) : (bigEndian width n).length = width := by
  induction width with
  | zero => rfl
  | succ width ih => simp [bigEndian, ih]

theorem value_lt (bs : List UInt8) : value bs < 256 ^ bs.length := by
  induction bs with
  | nil => simp [value]
  | cons b bs ih =>
    have hb : b.toNat + 1 ≤ 256 := b.toNat_lt
    calc value (b :: bs) < b.toNat * 256 ^ bs.length + 256 ^ bs.length := by
          simpa [value] using ih
      _ = (b.toNat + 1) * 256 ^ bs.length := by ring
      _ ≤ 256 * 256 ^ bs.length := Nat.mul_le_mul_right _ hb
      _ = 256 ^ (b :: bs).length := by simp [pow_succ, Nat.mul_comm]

theorem value_mod {bs : List UInt8} {m : ℕ} (h : 256 ^ bs.length ≤ m) : value bs % m = value bs :=
  Nat.mod_eq_of_lt (lt_of_lt_of_le (value_lt bs) h)

theorem value_bigEndian (width n : ℕ) : value (bigEndian width n) = n % 256 ^ width := by
  induction width with
  | zero => simp [bigEndian, value, Nat.mod_one]
  | succ width ih =>
    rw [bigEndian, value, ih, length_bigEndian, Nat.mod_pow_succ, UInt8.toNat_ofNat']
    norm_num
    ring

theorem value_bigEndian_of_lt {width n : ℕ} (h : n < 256 ^ width) :
    value (bigEndian width n) = n := by
  rw [value_bigEndian, Nat.mod_eq_of_lt h]

theorem bigEndian_mul_add {width k : ℕ} (h : width ≤ k) (m n : ℕ) :
    bigEndian width (m * 256 ^ k + n) = bigEndian width n := by
  induction width with
  | zero => rfl
  | succ width ih =>
    have hsplit : m * 256 ^ k = 256 ^ width * (256 * (m * 256 ^ (k - (width + 1)))) := by
      have hk : 256 ^ k = 256 ^ width * 256 * 256 ^ (k - (width + 1)) := by
        rw [← pow_succ, ← pow_add, Nat.add_sub_cancel' h]
      rw [hk]
      ring
    have hhead : UInt8.ofNat ((m * 256 ^ k + n) / 256 ^ width) = UInt8.ofNat (n / 256 ^ width) := by
      rw [hsplit, Nat.mul_add_div (by positivity)]
      apply UInt8.toNat_inj.mp
      simp
    rw [bigEndian, bigEndian, hhead, ih (by omega)]

theorem bigEndian_value (bs : List UInt8) : bigEndian bs.length (value bs) = bs := by
  induction bs with
  | nil => rfl
  | cons b bs ih =>
    have hhead : (b.toNat * 256 ^ bs.length + value bs) / 256 ^ bs.length = b.toNat := by
      rw [Nat.mul_comm, Nat.mul_add_div (by positivity), Nat.div_eq_of_lt (value_lt bs)]
      rfl
    rw [List.length_cons, bigEndian, value, hhead, bigEndian_mul_add le_rfl, ih]
    simp

end Bytes
