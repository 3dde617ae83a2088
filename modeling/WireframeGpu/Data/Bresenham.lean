import Mathlib.Tactic.Ring
import Mathlib.Tactic.Linarith

namespace WireframeGpu.Data.Bresenham

/-! The midpoint line over the integers.

`offset` is the rounded ordinate of the line of slope `minor / major` after
`step` columns, and `error` the decision term that an incremental rasteriser
carries: its sign says whether the next column moves to the next row.
-/

variable {major minor step : Nat}

def offset (major minor step : Nat) : Nat :=
  (2 * step * minor + major) / (2 * major)

def error (major minor step : Nat) : Int :=
  2 * minor * (step + 1) - major - 2 * major * offset major minor step

theorem offset_zero (major minor : Nat) : offset major minor 0 = 0 := by
  simp only [offset, Nat.mul_zero, Nat.zero_mul, Nat.zero_add]
  exact Nat.div_eq_zero_iff.mpr (by omega)

theorem error_zero (major minor : Nat) : error major minor 0 = 2 * minor - major := by
  simp [error, offset_zero]

/-- The rounded ordinate is within half a row of the exact one. -/
theorem offset_bounds (positive : 0 < major) (minor step : Nat) :
    2 * major * offset major minor step ≤ 2 * step * minor + major ∧
      2 * step * minor + major < 2 * major * offset major minor step + 2 * major := by
  constructor
  · exact Nat.mul_div_le _ _
  · have below := Nat.lt_mul_div_succ (2 * step * minor + major) (b := 2 * major) (by omega)
    rw [Nat.mul_add, Nat.mul_one] at below
    exact below

theorem offset_unique {row : Nat}
    (lower : 2 * major * row ≤ 2 * step * minor + major)
    (upper : 2 * step * minor + major < 2 * major * row + 2 * major) :
    offset major minor step = row := by
  apply Nat.div_eq_of_lt_le
  · rwa [Nat.mul_comm]
  · rw [Nat.add_mul, Nat.one_mul, Nat.mul_comm row]
    exact upper

theorem error_bounds (flat : minor ≤ major) (step : Nat) :
    2 * (minor : Int) - 2 * major ≤ error major minor step ∧
      error major minor step ≤ 2 * minor := by
  rcases Nat.eq_zero_or_pos major with none | positive
  · subst major
    obtain rfl : minor = 0 := Nat.le_zero.mp flat
    simp [error]
  · obtain ⟨lower, upper⟩ := offset_bounds positive minor step
    have lower : 2 * (major : Int) * offset major minor step ≤ 2 * step * minor + major := by
      exact_mod_cast lower
    have upper : 2 * (step : Int) * minor + major <
        2 * major * offset major minor step + 2 * major := by exact_mod_cast upper
    simp only [error]
    constructor <;> linarith

theorem offset_succ (positive : 0 < major) (flat : minor ≤ major) (step : Nat) :
    offset major minor (step + 1) =
      offset major minor step + if 0 ≤ error major minor step then 1 else 0 := by
  obtain ⟨lower, upper⟩ := offset_bounds positive minor step
  have next : 2 * (step + 1) * minor = 2 * step * minor + 2 * minor := by ring
  by_cases rises : 0 ≤ error major minor step
  · rw [if_pos rises]
    have reached : 2 * major * offset major minor step + major ≤ 2 * step * minor + 2 * minor := by
      have decision := rises
      simp only [error] at decision
      have : 2 * (major : Int) * offset major minor step + major ≤
          2 * step * minor + 2 * minor := by linarith
      exact_mod_cast this
    apply offset_unique <;> rw [next, Nat.mul_add, Nat.mul_one] <;> omega
  · rw [if_neg rises]
    have short : 2 * step * minor + 2 * minor < 2 * major * offset major minor step + major := by
      have decision := rises
      simp only [error, not_le] at decision
      have : 2 * (step : Int) * minor + 2 * minor <
          2 * major * offset major minor step + major := by linarith
      exact_mod_cast this
    apply offset_unique <;> rw [next, Nat.add_zero] <;> omega

/-- The incremental update of the decision term, one column on. -/
theorem error_succ (flat : minor ≤ major) (step : Nat) :
    error major minor (step + 1) = error major minor step + 2 * minor -
      if 0 ≤ error major minor step then 2 * (major : Int) else 0 := by
  rcases Nat.eq_zero_or_pos major with none | positive
  · subst major
    obtain rfl : minor = 0 := Nat.le_zero.mp flat
    simp [error]
  · have advanced := offset_succ positive flat step
    by_cases rises : 0 ≤ error major minor step
    · rw [if_pos rises] at advanced ⊢
      simp only [error, advanced]
      push_cast
      ring
    · rw [if_neg rises] at advanced ⊢
      simp only [error, advanced]
      push_cast
      ring

theorem offset_last (positive : 0 < major) : offset major minor major = minor := by
  apply offset_unique
  · rw [Nat.mul_right_comm, Nat.mul_assoc]; nlinarith
  · nlinarith

theorem offset_mono (major minor : Nat) {first last : Nat} (ordered : first ≤ last) :
    offset major minor first ≤ offset major minor last := by
  apply Nat.div_le_div_right
  have scaled : 2 * first * minor ≤ 2 * last * minor :=
    Nat.mul_le_mul_right _ (Nat.mul_le_mul_left _ ordered)
  omega

theorem offset_le (flat : minor ≤ major) (inside : step ≤ major) :
    offset major minor step ≤ minor := by
  rcases Nat.eq_zero_or_pos major with none | positive
  · subst major
    simp [offset]
  · exact (offset_mono major minor inside).trans_eq (offset_last positive)

end WireframeGpu.Data.Bresenham
