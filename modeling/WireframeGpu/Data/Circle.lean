import Mathlib.Analysis.Complex.Trigonometric
import Mathlib.Analysis.Complex.Basic

namespace WireframeGpu.Data.Circle

open Complex (I exp)

/-! Sines and cosines of the multiples of one angle, by turning a vector in integer
arithmetic: what each turn rounds away only adds up. -/

/-- A turn by the angle whose cosine and sine are `step`, all in units of `one`. -/
def turn (one : Int) (step p : Int × Int) : Int × Int :=
  ((p.1 * step.1 - p.2 * step.2) / one, (p.1 * step.2 + p.2 * step.1) / one)

def turns (one : Int) (step : Int × Int) : Nat → Int × Int
  | 0 => (one, 0)
  | n + 1 => turn one step (turns one step n)

noncomputable def point (one : Int) (p : Int × Int) : ℂ := ⟨(p.1 : ℝ) / one, (p.2 : ℝ) / one⟩

variable {one : Int} {step p : Int × Int} {θ δ : ℝ}

theorem quotient_close (positive : 0 < one) (a : Int) :
    |((a / one : Int) : ℝ) / one - (a : ℝ) / one / one| ≤ 1 / one := by
  have width : (0 : ℝ) < one := by exact_mod_cast positive
  have parts : one * (a / one) + a % one = a := Int.mul_ediv_add_emod a one
  have parts' : (one : ℝ) * (a / one : Int) + (a % one : Int) = a := by exact_mod_cast parts
  have lower : (0 : ℝ) ≤ (a % one : Int) := by exact_mod_cast Int.emod_nonneg a positive.ne'
  have upper : ((a % one : Int) : ℝ) ≤ one := by exact_mod_cast (Int.emod_lt_of_pos a positive).le
  have share : ((a / one : Int) : ℝ) / one - (a : ℝ) / one / one =
      -((a % one : Int) : ℝ) / one / one := by
    rw [← parts']
    field_simp
    ring
  rw [share, abs_div, abs_div, abs_neg, abs_of_nonneg lower, abs_of_pos width]
  gcongr
  exact (div_le_one width).mpr upper

theorem turn_close (positive : 0 < one) :
    ‖point one (turn one step p) - point one p * point one step‖ ≤ 2 / one := by
  have across := quotient_close positive (p.1 * step.1 - p.2 * step.2)
  have up := quotient_close positive (p.1 * step.2 + p.2 * step.1)
  have re : (point one (turn one step p) - point one p * point one step).re =
      ((p.1 * step.1 - p.2 * step.2) / one : Int) / one -
        ((p.1 * step.1 - p.2 * step.2 : Int) : ℝ) / one / one := by
    simp only [point, turn, Complex.sub_re, Complex.mul_re]
    push_cast
    ring
  have im : (point one (turn one step p) - point one p * point one step).im =
      ((p.1 * step.2 + p.2 * step.1) / one : Int) / one -
        ((p.1 * step.2 + p.2 * step.1 : Int) : ℝ) / one / one := by
    simp only [point, turn, Complex.sub_im, Complex.mul_im]
    push_cast
    ring
  calc ‖point one (turn one step p) - point one p * point one step‖ ≤ _ :=
        Complex.norm_le_abs_re_add_abs_im _
    _ ≤ 1 / one + 1 / one := by
        rw [re, im]
        exact add_le_add across up
    _ = 2 / one := by ring

/-- A step inside the circle lets no error grow. -/
theorem turns_close (positive : 0 < one) (inside : ‖point one step‖ ≤ 1)
    (close : ‖point one step - exp (θ * I)‖ ≤ δ) (n : Nat) :
    ‖point one (turns one step n) - exp ((n * θ : ℝ) * I)‖ ≤ n * (δ + 2 / one) := by
  have width : (one : ℝ) ≠ 0 := by exact_mod_cast positive.ne'
  induction n with
  | zero =>
      have start : point one (one, 0) = 1 := by
        apply Complex.ext <;> simp [point, width]
      simp [turns, start]
  | succ n ih =>
      have next : exp ((↑(n + 1) * θ : ℝ) * I) = exp ((n * θ : ℝ) * I) * exp (θ * I) := by
        rw [← Complex.exp_add]
        push_cast
        ring_nf
      have parts : point one (turns one step (n + 1)) - exp ((↑(n + 1) * θ : ℝ) * I) =
          (point one (turn one step (turns one step n)) -
              point one (turns one step n) * point one step) +
            ((point one (turns one step n) - exp ((n * θ : ℝ) * I)) * point one step +
              exp ((n * θ : ℝ) * I) * (point one step - exp (θ * I))) := by
        rw [next, turns]
        ring
      have before : ‖(point one (turns one step n) - exp ((n * θ : ℝ) * I)) * point one step‖ ≤
          n * (δ + 2 / one) := by
        rw [norm_mul]
        exact (mul_le_of_le_one_right (norm_nonneg _) inside).trans ih
      have onto : ‖exp ((n * θ : ℝ) * I) * (point one step - exp (θ * I))‖ ≤ δ := by
        rw [norm_mul, Complex.norm_exp_ofReal_mul_I, one_mul]
        exact close
      rw [parts]
      calc _ ≤ 2 / one + (n * (δ + 2 / one) + δ) :=
            norm_add_le_of_le (turn_close positive) (norm_add_le_of_le before onto)
        _ = ↑(n + 1) * (δ + 2 / one) := by
            push_cast
            ring

/-- Each of the two coordinates on its own. -/
theorem turns_cos_sin (positive : 0 < one) (inside : ‖point one step‖ ≤ 1)
    (close : ‖point one step - exp (θ * I)‖ ≤ δ) (n : Nat) :
    |((turns one step n).1 : ℝ) / one - Real.cos (n * θ)| ≤ n * (δ + 2 / one) ∧
      |((turns one step n).2 : ℝ) / one - Real.sin (n * θ)| ≤ n * (δ + 2 / one) := by
  have near := turns_close positive inside close n
  have across := (Complex.abs_re_le_norm _).trans near
  have up := (Complex.abs_im_le_norm _).trans near
  rw [Complex.sub_re, Complex.exp_ofReal_mul_I_re] at across
  rw [Complex.sub_im, Complex.exp_ofReal_mul_I_im] at up
  exact ⟨across, up⟩

theorem inside_circle (positive : 0 < one) (small : step.1 ^ 2 + step.2 ^ 2 ≤ one ^ 2) :
    ‖point one step‖ ≤ 1 := by
  have width : (0 : ℝ) < one := by exact_mod_cast positive
  have small' : (step.1 : ℝ) ^ 2 + (step.2 : ℝ) ^ 2 ≤ (one : ℝ) ^ 2 := by exact_mod_cast small
  have square : ‖point one step‖ ^ 2 = ((step.1 : ℝ) ^ 2 + (step.2 : ℝ) ^ 2) / (one : ℝ) ^ 2 := by
    rw [Complex.sq_norm, Complex.normSq_apply]
    simp only [point]
    ring
  refine (sq_le_one_iff₀ (norm_nonneg _)).mp ?_
  rw [square, div_le_one (by positivity)]
  exact small'

/-- A small angle, from the first terms of the two series. -/
theorem step_close (small : |θ| ≤ 1)
    (across : |(step.1 : ℝ) / one - (1 - θ ^ 2 / 2)| + |θ| ^ 4 * (5 / 96) +
      (|(step.2 : ℝ) / one - (θ - θ ^ 3 / 6)| + |θ| ^ 5 / 100) ≤ δ) :
    ‖point one step - exp (θ * I)‖ ≤ δ := by
  have cos := abs_sub_le ((step.1 : ℝ) / one) (1 - θ ^ 2 / 2) (Real.cos θ)
  have sin := abs_sub_le ((step.2 : ℝ) / one) (θ - θ ^ 3 / 6) (Real.sin θ)
  have cos' := Real.cos_bound small
  have sin' := Real.sin_bound small
  rw [abs_sub_comm] at cos' sin'
  have parts := Complex.norm_le_abs_re_add_abs_im (point one step - exp (θ * I))
  rw [Complex.sub_re, Complex.exp_ofReal_mul_I_re, Complex.sub_im,
    Complex.exp_ofReal_mul_I_im] at parts
  change _ ≤ |(step.1 : ℝ) / one - Real.cos θ| + |(step.2 : ℝ) / one - Real.sin θ| at parts
  linarith

end WireframeGpu.Data.Circle
