import Mathlib.Data.Rat.Cast.Order
import Mathlib.Tactic.FieldSimp
import Mathlib.Tactic.Linarith
import Mathlib.Tactic.Positivity
import Mathlib.Tactic.Ring

namespace WireframeGpu.Data.FixedPoint

/-! Fixed-point arithmetic on integers: division of magnitudes under a sign, and
rounding to the nearest multiple of the scale. -/

variable {a b : Int} {d scale : Nat}

/-- Dividing the magnitude and restoring the sign rounds towards zero. -/
theorem tdiv_of_sign (a : Int) (d : Nat) :
    a.tdiv d = if a < 0 then -((a.natAbs / d : Nat) : Int) else (a.natAbs / d : Nat) := by
  split <;> rename_i negative
  · have value : a = -(a.natAbs : Int) := by omega
    conv_lhs => rw [value, Int.neg_tdiv, ← Int.ofNat_tdiv]
  · have value : a = (a.natAbs : Int) := by omega
    conv_lhs => rw [value, ← Int.ofNat_tdiv]

theorem tmod_of_sign (a : Int) (d : Nat) :
    a.tmod d = if a < 0 then -((a.natAbs % d : Nat) : Int) else (a.natAbs % d : Nat) := by
  split <;> rename_i negative
  · have value : a = -(a.natAbs : Int) := by omega
    conv_lhs => rw [value, Int.neg_tmod, ← Int.ofNat_tmod]
  · have value : a = (a.natAbs : Int) := by omega
    conv_lhs => rw [value, ← Int.ofNat_tmod]

theorem tmod_of_lt (small : a.natAbs < d) : a.tmod d = a := by
  rw [tmod_of_sign, Nat.mod_eq_of_lt small]
  split <;> omega

theorem tdiv_error (positive : 0 < d) : |(d : Int) * a.tdiv d - a| < d := by
  have parts := Int.mul_tdiv_add_tmod a d
  have size : (a.tmod d).natAbs = a.natAbs % d := Int.natAbs_tmod a d
  have small := Nat.mod_lt a.natAbs positive
  rw [abs_lt]
  omega

/-- The error of a numerator is divided along with it. -/
theorem scaled_tdiv_error {s : Nat} {t e : ℚ} (positive : 0 < d)
    (numerator : |(a : ℚ) - t * d| ≤ e) :
    |(((a * s).tdiv d : Int) : ℚ) - t * s| ≤ 1 + s * e / d := by
  have denominator : (0 : ℚ) < d := by exact_mod_cast positive
  have truncation : |(d : ℚ) * ((a * s).tdiv d : Int) - a * s| ≤ d := by
    exact_mod_cast Int.le_of_lt (tdiv_error (a := a * s) positive)
  have shares : (((a * s).tdiv d : Int) : ℚ) - t * s =
      ((d : ℚ) * ((a * s).tdiv d : Int) - a * s) / d + s * (a - t * d) / d := by
    field_simp
    ring
  have first : |((d : ℚ) * ((a * s).tdiv d : Int) - a * s) / d| ≤ 1 := by
    rw [abs_div, abs_of_pos denominator]
    exact div_le_one_of_le₀ truncation denominator.le
  have second : |s * ((a : ℚ) - t * d) / d| ≤ s * e / d := by
    rw [abs_div, abs_mul, Nat.abs_cast, abs_of_pos denominator]
    gcongr
  rw [shares]
  exact (abs_add_le _ _).trans (add_le_add first second)

/-- The integer nearest to `a / scale`; halves are rounded up. -/
def nearest (scale : Nat) (a : Int) : Int := (2 * a + scale) / (2 * scale)

theorem nearest_mono (positive : 0 < scale) (ordered : a ≤ b) : nearest scale a ≤ nearest scale b :=
  Int.ediv_le_ediv (by omega) (by omega)

theorem nearest_error (positive : 0 < scale) :
    2 * |(scale : Int) * nearest scale a - a| ≤ scale := by
  have parts := Int.mul_ediv_add_emod (2 * a + scale) (2 * scale)
  have lower := Int.emod_nonneg (2 * a + scale) (show (2 * scale : Int) ≠ 0 by omega)
  have upper := Int.emod_lt_of_pos (2 * a + scale) (show (0 : Int) < 2 * scale by omega)
  have split : (scale : Int) * nearest scale a * 2 =
      2 * scale * ((2 * a + scale) / (2 * scale)) := by
    rw [nearest]; ring
  rcases abs_cases ((scale : Int) * nearest scale a - a) with ⟨size, _⟩ | ⟨size, _⟩ <;>
    rw [size] <;>
    omega

theorem nearest_close (positive : 0 < scale) : |(nearest scale a : ℚ) - a / scale| ≤ 1 / 2 := by
  have denominator : (0 : ℚ) < scale := by exact_mod_cast positive
  have error : 2 * |(scale : ℚ) * nearest scale a - a| ≤ scale := by
    exact_mod_cast nearest_error (a := a) positive
  have quotient : (nearest scale a : ℚ) - a / scale = (scale * nearest scale a - a) / scale := by
    field_simp
  rw [quotient, abs_div, abs_of_pos denominator, div_le_iff₀ denominator]
  linarith

end WireframeGpu.Data.FixedPoint
