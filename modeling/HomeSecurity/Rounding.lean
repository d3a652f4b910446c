import Mathlib.Algebra.Order.Ring.Int
import Mathlib.Data.Nat.Size
import Mathlib.Tactic.Common
import Mathlib.Tactic.Ring

/-!
# Rounding to a number of bits

What a floating-point format keeps of a natural number, or of a fraction on a given
scale: so many significant bits, the nearest such number, the even one of two that are
equally near.
-/

namespace Rounding

/-- The integer nearest to `a / b`; of two, the even one. -/
def nearestEven (a b : Nat) : Nat :=
  if 2 * (a % b) < b then a / b
  else if b < 2 * (a % b) then a / b + 1
  else if a / b % 2 = 0 then a / b
  else a / b + 1

/-- Half a unit up. -/
theorem two_mul_nearestEven_mul_le (a b : Nat) : 2 * (nearestEven a b * b) ≤ 2 * a + b := by
  have hdiv := Nat.div_add_mod' a b
  unfold nearestEven
  split
  · omega
  · split
    · rw [Nat.add_mul]
      omega
    · split
      · omega
      · rw [Nat.add_mul]
        omega

/-- Half a unit down. -/
theorem two_mul_le_nearestEven_mul (a : Nat) {b : Nat} (hb : 0 < b) :
    2 * a ≤ 2 * (nearestEven a b * b) + b := by
  have hdiv := Nat.div_add_mod' a b
  have hmod := Nat.mod_lt a hb
  unfold nearestEven
  split
  · omega
  · split
    · rw [Nat.add_mul]
      omega
    · split
      · omega
      · rw [Nat.add_mul]
        omega

/-- `n` to `bits` significant bits. -/
def roundBits (bits n : Nat) : Nat := nearestEven n (2 ^ (n.size - bits)) * 2 ^ (n.size - bits)

/-- The last bit kept is worth at most `2 * n / 2 ^ bits`. -/
theorem pow_mul_unit_le {bits n : Nat} (h : bits < n.size) :
    2 ^ bits * 2 ^ (n.size - bits) ≤ 2 * n := by
  have hlow : 2 ^ (n.size - 1) ≤ n := Nat.lt_size.mp (by omega)
  calc 2 ^ bits * 2 ^ (n.size - bits) = 2 ^ (n.size - 1 + 1) := by
        rw [← Nat.pow_add]
        congr 1
        omega
    _ = 2 * 2 ^ (n.size - 1) := by rw [Nat.pow_succ, Nat.mul_comm]
    _ ≤ 2 * n := Nat.mul_le_mul_left 2 hlow

theorem nearestEven_one (n : Nat) : nearestEven n 1 = n := by
  simp [nearestEven, Nat.mod_one]

theorem roundBits_eq_self {bits n : Nat} (h : n.size ≤ bits) : roundBits bits n = n := by
  rw [roundBits, Nat.sub_eq_zero_of_le h, Nat.pow_zero, nearestEven_one, Nat.mul_one]

/-- The relative error up. -/
theorem pow_mul_roundBits_le (bits n : Nat) : 2 ^ bits * roundBits bits n ≤ 2 ^ bits * n + n := by
  rcases Nat.lt_or_ge bits n.size with h | h
  · have hround := Nat.mul_le_mul_left (2 ^ bits)
      (two_mul_nearestEven_mul_le n (2 ^ (n.size - bits)))
    have hunit := pow_mul_unit_le h
    rw [Nat.mul_add] at hround
    rw [roundBits]
    have hl : 2 ^ bits * (2 * (nearestEven n (2 ^ (n.size - bits)) * 2 ^ (n.size - bits)))
        = 2 * (2 ^ bits * (nearestEven n (2 ^ (n.size - bits)) * 2 ^ (n.size - bits))) := by ring
    have hr : 2 ^ bits * (2 * n) = 2 * (2 ^ bits * n) := by ring
    omega
  · rw [roundBits_eq_self h]
    exact Nat.le_add_right _ _

/-- The relative error down. -/
theorem pow_mul_le_roundBits (bits n : Nat) : 2 ^ bits * n ≤ 2 ^ bits * roundBits bits n + n := by
  rcases Nat.lt_or_ge bits n.size with h | h
  · have hround := Nat.mul_le_mul_left (2 ^ bits)
      (two_mul_le_nearestEven_mul n (Nat.two_pow_pos (n.size - bits)))
    have hunit := pow_mul_unit_le h
    rw [Nat.mul_add] at hround
    rw [roundBits]
    have hl : 2 ^ bits * (2 * (nearestEven n (2 ^ (n.size - bits)) * 2 ^ (n.size - bits)))
        = 2 * (2 ^ bits * (nearestEven n (2 ^ (n.size - bits)) * 2 ^ (n.size - bits))) := by ring
    have hr : 2 ^ bits * (2 * n) = 2 * (2 ^ bits * n) := by ring
    omega
  · rw [roundBits_eq_self h]
    exact Nat.le_add_right _ _

end Rounding
