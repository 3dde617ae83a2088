import Mathlib.Data.Nat.Bitwise
import Mathlib.Tactic.Ring

namespace WireframeGpu.Data.SerialArithmetic

/-! One bit of a serial multiplication and of a restoring division, over the
natural numbers. -/

/-- Adding the shifted multiplier where the multiplicand has a bit extends the
product of the low bits by one bit. -/
theorem product_step (a b bit : Nat) :
    a % 2 ^ (bit + 1) * b = a % 2 ^ bit * b + if a.testBit bit then b * 2 ^ bit else 0 := by
  rw [Nat.mod_pow_succ, ← Nat.toNat_testBit]
  cases a.testBit bit
  · simp
  · simp only [Bool.toNat_true, Nat.mul_one, ↓reduceIte]
    ring

/-- Halving the divisor multiple decides one more bit of the quotient. -/
theorem quotient_step {multiple : Nat} (positive : 0 < multiple) (a : Nat) :
    a / multiple = 2 * (a / (2 * multiple)) + (if multiple ≤ a % (2 * multiple) then 1 else 0) ∧
      a % multiple = a % (2 * multiple) -
        (if multiple ≤ a % (2 * multiple) then multiple else 0) := by
  have parts := Nat.div_add_mod a (2 * multiple)
  have small : a % (2 * multiple) < 2 * multiple := Nat.mod_lt _ (by omega)
  split
  · rename_i fits
    have value :
        a = multiple * (2 * (a / (2 * multiple)) + 1) + (a % (2 * multiple) - multiple) := by
      have expand : multiple * (2 * (a / (2 * multiple)) + 1) =
          2 * multiple * (a / (2 * multiple)) + multiple := by ring
      omega
    have below : a % (2 * multiple) - multiple < multiple := by omega
    exact (Nat.div_mod_unique positive).mpr ⟨by omega, below⟩
  · rename_i short
    have value : a = multiple * (2 * (a / (2 * multiple))) + a % (2 * multiple) := by
      have expand : multiple * (2 * (a / (2 * multiple))) =
          2 * multiple * (a / (2 * multiple)) := by ring
      omega
    exact (Nat.div_mod_unique positive).mpr ⟨by rw [Nat.add_zero, Nat.sub_zero]; omega, by omega⟩

theorem set_bit (high bit : Nat) :
    (high * 2 ^ (bit + 1)) ||| 2 ^ bit = high * 2 ^ (bit + 1) + 2 ^ bit := by
  rw [Nat.mul_comm]
  exact (Nat.two_pow_add_eq_or_of_lt (Nat.pow_lt_pow_right (by omega) (by omega)) high).symm

end WireframeGpu.Data.SerialArithmetic
