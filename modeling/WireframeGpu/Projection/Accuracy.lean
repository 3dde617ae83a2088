import WireframeGpu.Projection.Exact
import WireframeGpu.Projection.Outcome

namespace WireframeGpu.Projection

open WireframeGpu.Data

/-! How far the pixel of a vertex is from its exact place on the screen. -/

/-- The number that a word with fifteen fraction bits stands for. -/
def value (w : BitVec 32) : ℚ := w.toInt / 2 ^ 15

@[simp] theorem value_zero : value 0 = 0 := by
  rw [value, show (0 : BitVec 32).toInt = 0 from rfl, Int.cast_zero, zero_div]

@[simp] theorem value_one : value one = 1 := by
  rw [value, show one.toInt = 2 ^ 15 from rfl]
  norm_num

def exactColumn (v : Vertex) : ℚ := (3 / 4 * value v.x / (value v.z + 3) + 1) * (319 / 2)

def exactRow (v : Vertex) : ℚ := (value v.y / (value v.z + 3) + 1) * (239 / 2)

/-- The vertex lies in front of the eye, and not too far off the screen for the
word that its pixel is delivered in. -/
structure Depicted (v : Vertex) : Prop where
  columnInRange : -2 ^ 31 < v.x.toInt
  rowInRange : -2 ^ 31 < v.y.toInt
  ahead : 0 < v.z.toInt + 3 * 2 ^ 15
  depthInRange : v.z.toInt + 3 * 2 ^ 15 < 2 ^ 31
  wide : |exactColumn v| ≤ 65000
  tall : |exactRow v| ≤ 65000

variable {a : Int} {d last : Nat} {t error : ℚ} {v : Vertex}

/-- The numerator of a coordinate is at most three quarters of a unit off; the
quotient loses less than a unit of its own. -/
theorem position_error (last : Nat) (positive : 0 < d) (numerator : |(a : ℚ) - t * d| ≤ 3 / 4) :
    |(position last a d : ℚ) / 2 ^ 15 - (t + 1) * (last / 2)| ≤
      (last : ℚ) * (1 + 12288 / d) / 2 ^ 15 := by
  have quotient := FixedPoint.scaled_tdiv_error (s := 2 ^ 14) positive numerator
  have expand : (position last a d : ℚ) / 2 ^ 15 - (t + 1) * (last / 2) =
      last * (((a * (2 ^ 14 : Nat)).tdiv d : Int) - t * (2 ^ 14 : Nat)) / 2 ^ 15 := by
    simp only [position]
    push_cast
    ring
  rw [expand, abs_div, abs_mul, Nat.abs_cast, abs_of_pos (show (0 : ℚ) < 2 ^ 15 by norm_num)]
  gcongr
  calc _ ≤ _ := quotient
    _ = _ := by push_cast; ring

theorem nearest_place (last : Nat) (positive : 0 < d) (numerator : |(a : ℚ) - t * d| ≤ 3 / 4) :
    |(FixedPoint.nearest (2 ^ 15) (position last a d) : ℚ) - (t + 1) * (last / 2)| ≤
      1 / 2 + (last : ℚ) * (1 + 12288 / d) / 2 ^ 15 := by
  have place := position_error last positive numerator
  have rounding := FixedPoint.nearest_close (a := position last a d) (show 0 < 2 ^ 15 by decide)
  rw [Nat.cast_pow, Nat.cast_ofNat] at rounding
  have split := abs_sub_le (FixedPoint.nearest (2 ^ 15) (position last a d) : ℚ)
    ((position last a d : ℚ) / 2 ^ 15) ((t + 1) * (last / 2))
  linarith

theorem position_fits (last : Nat) (small : last < 2 ^ 9) (positive : 0 < d)
    (numerator : |(a : ℚ) - t * d| ≤ 3 / 4) (seen : |(t + 1) * (last / 2)| ≤ 65000) :
    |position last a d| < 2 ^ 31 - 2 ^ 14 := by
  have place := position_error last positive numerator
  have unit : (1 : ℚ) ≤ d := by exact_mod_cast positive
  have width : (last : ℚ) ≤ 511 := by exact_mod_cast Nat.le_of_lt_succ small
  have share : (12288 / d : ℚ) ≤ 12288 := div_le_self (by norm_num) unit
  have error : (last : ℚ) * (1 + 12288 / d) / 2 ^ 15 ≤ 192 := by
    rw [div_le_iff₀ (by norm_num)]
    nlinarith [Nat.cast_nonneg (α := ℚ) last]
  have size : |(position last a d : ℚ)| < 2 ^ 31 - 2 ^ 14 := by
    have total := abs_sub_abs_le_abs_sub ((position last a d : ℚ) / 2 ^ 15) ((t + 1) * (last / 2))
    rw [abs_div, abs_of_pos (show (0 : ℚ) < 2 ^ 15 by norm_num)] at total
    have bound : |(position last a d : ℚ)| / 2 ^ 15 ≤ 65192 := by linarith
    rw [div_le_iff₀ (by norm_num)] at bound
    linarith
  exact_mod_cast size

theorem column_numerator (x : BitVec 32) {depth : ℚ} (nonzero : depth ≠ 0) :
    |((3 * x.toInt).tdiv 4 : Int) - 3 / 4 * value x / depth * (2 ^ 15 * depth)| ≤ 3 / 4 := by
  have error : |((4 : Nat) : Int) * (3 * x.toInt).tdiv (4 : Nat) - 3 * x.toInt| ≤ 3 :=
    Int.le_of_lt_add_one (FixedPoint.tdiv_error (by decide))
  have error' : |(4 : ℚ) * ((3 * x.toInt).tdiv 4 : Int) - 3 * x.toInt| ≤ 3 := by
    exact_mod_cast error
  have exact : 3 / 4 * value x / depth * (2 ^ 15 * depth) = 3 / 4 * x.toInt := by
    rw [value]
    field_simp
  rw [exact]
  rw [abs_le] at error' ⊢
  constructor <;> linarith

theorem row_numerator (y : BitVec 32) {depth : ℚ} (nonzero : depth ≠ 0) :
    |(y.toInt : ℚ) - value y / depth * (2 ^ 15 * depth)| ≤ 3 / 4 := by
  have exact : value y / depth * (2 ^ 15 * depth) = y.toInt := by
    rw [mul_left_comm, div_mul_cancel₀ _ nonzero, value]
    exact mul_div_cancel₀ _ (by norm_num)
  rw [exact, sub_self, abs_zero]
  norm_num

namespace Depicted

theorem depth (depicted : Depicted v) :
    0 < (v.z + three).toNat ∧ (v.z + three).toNat < 2 ^ 31 ∧
      ((v.z + three).toNat : ℚ) = 2 ^ 15 * (value v.z + 3) := by
  have ahead := depicted.ahead
  obtain ⟨exact_d, small_d⟩ := depth_toNat depicted.ahead depicted.depthInRange
  have exact_q : ((v.z + three).toNat : ℚ) = (v.z.toInt : ℚ) + 3 * 2 ^ 15 := by
    exact_mod_cast exact_d
  refine ⟨by omega, small_d, ?_⟩
  rw [exact_q, value]
  ring

theorem nonzero (depicted : Depicted v) : v.z + three ≠ 0 := by
  intro zero
  have positive := depicted.depth.1
  rw [zero] at positive
  exact absurd positive (by decide)

theorem column_close (depicted : Depicted v) :
    |((3 * v.x.toInt).tdiv 4 : Int) - 3 / 4 * value v.x / (value v.z + 3) * (v.z + three).toNat|
      ≤ (3 / 4 : ℚ) := by
  obtain ⟨positive, _, exact_d⟩ := depicted.depth
  have positive' : (0 : ℚ) < (v.z + three).toNat := by exact_mod_cast positive
  rw [exact_d] at positive' ⊢
  exact column_numerator v.x (by linarith)

theorem row_close (depicted : Depicted v) :
    |(v.y.toInt : ℚ) - value v.y / (value v.z + 3) * (v.z + three).toNat| ≤ 3 / 4 := by
  obtain ⟨positive, _, exact_d⟩ := depicted.depth
  have positive' : (0 : ℚ) < (v.z + three).toNat := by exact_mod_cast positive
  rw [exact_d] at positive' ⊢
  exact row_numerator v.y (by linarith)

theorem column_toInt (depicted : Depicted v) :
    (column v).toInt = 2 ^ 15 * FixedPoint.nearest (2 ^ 15)
      (position 319 ((3 * v.x.toInt).tdiv 4) (v.z + three).toNat) := by
  obtain ⟨positive, divisor, _⟩ := depicted.depth
  have fits := position_fits 319 (by decide) positive depicted.column_close depicted.wide
  have bounded := (scaled_exact depicted.columnInRange).2
  rw [column, screen_toInt 319 (by decide) (by decide) rfl bounded positive divisor
    (by rwa [scaled_toInt depicted.columnInRange]), scaled_toInt depicted.columnInRange]

theorem row_toInt (depicted : Depicted v) :
    (row v).toInt = 2 ^ 15 * FixedPoint.nearest (2 ^ 15)
      (position 239 v.y.toInt (v.z + three).toNat) := by
  obtain ⟨positive, divisor, _⟩ := depicted.depth
  have fits := position_fits 239 (by decide) positive depicted.row_close depicted.tall
  exact screen_toInt 239 (by decide) (by decide) rfl depicted.rowInRange positive divisor
    fits

end Depicted

theorem pixel_of_toInt {w : BitVec 32} {pixel : Int} (whole : w.toInt = 2 ^ 15 * pixel) :
    w.setWidth 15 = 0 ∧ value w = pixel := by
  constructor
  · apply BitVec.eq_of_toNat_eq
    have sign := w.toInt_eq_toNat_cond
    have zero : (0 : BitVec 15).toNat = 0 := rfl
    rw [BitVec.toNat_setWidth, zero]
    split at sign <;> omega
  · rw [value, whole]
    push_cast
    exact mul_div_cancel_left₀ _ (by norm_num)

variable {inputs inputs' : Nat → Inputs} {first first' : Nat} {v' : Vertex}

/-- At a depth of one or more, a vertex is drawn within 0.52 pixels of its exact
place: half a pixel is the rounding, the rest the two truncating divisions. -/
theorem projection_accurate (request : Request inputs first v) (depicted : Depicted v)
    (far : 2 ^ 15 ≤ v.z.toInt + 3 * 2 ^ 15) :
    ∃ last, Finishes inputs first last ∧
      (run inputs last).newx.setWidth 15 = 0 ∧ (run inputs last).newy.setWidth 15 = 0 ∧
      |value (run inputs last).newx - exactColumn v| < 0.52 ∧
      |value (run inputs last).newy - exactRow v| < 0.52 := by
  obtain ⟨last, finishes, _, delivered, _⟩ := request.finishes
  obtain ⟨positive, _, exact_d⟩ := depicted.depth
  obtain ⟨newx, newy⟩ := projected_of_depth depicted.nonzero (run inputs first).quotients
  rw [← delivered] at newx newy
  have column : (run inputs last).newx.toInt = _ := newx ▸ depicted.column_toInt
  have row : (run inputs last).newy.toInt = _ := newy ▸ depicted.row_toInt
  obtain ⟨whole_x, pixel_x⟩ := pixel_of_toInt column
  obtain ⟨whole_y, pixel_y⟩ := pixel_of_toInt row
  have share : (12288 / ((v.z + three).toNat : ℚ)) ≤ 3 / 8 := by
    have far' : (2 ^ 15 : ℚ) ≤ 2 ^ 15 * (value v.z + 3) := by
      have far_q : (2 ^ 15 : ℚ) ≤ (v.z.toInt : ℚ) + 3 * 2 ^ 15 := by exact_mod_cast far
      rw [value]
      linarith
    rw [exact_d, div_le_iff₀ (by linarith)]
    linarith
  refine ⟨last, finishes, whole_x, whole_y, ?_, ?_⟩
  · have close := nearest_place 319 positive depicted.column_close
    rw [Nat.cast_ofNat] at close
    rw [pixel_x]
    calc |_ - exactColumn v|
      _ ≤ 1 / 2 + 319 * (1 + 12288 / ((v.z + three).toNat : ℚ)) / 2 ^ 15 := close
      _ ≤ 1 / 2 + 319 * (1 + 3 / 8) / 2 ^ 15 := by gcongr
      _ < 0.52 := by norm_num
  · have close := nearest_place 239 positive depicted.row_close
    rw [Nat.cast_ofNat] at close
    rw [pixel_y]
    calc |_ - exactRow v| ≤ 1 / 2 + 239 * (1 + 12288 / ((v.z + three).toNat : ℚ)) / 2 ^ 15 := close
      _ ≤ 1 / 2 + 239 * (1 + 3 / 8) / 2 ^ 15 := by gcongr
      _ < 0.52 := by norm_num

/-- A vertex to the right of the centre, above it and nearer than it. -/
theorem aside_depicted : Depicted ⟨one, -16384, -32768⟩ where
  columnInRange := by decide
  rowInRange := by decide
  ahead := by decide
  depthInRange := by decide
  wide := by
    have toInt : (-32768 : BitVec 32).toInt = -32768 := by decide
    rw [exactColumn, value, value, toInt, show one.toInt = 32768 from rfl]
    norm_num [abs_le]
  tall := by
    have toInt : (-32768 : BitVec 32).toInt = -32768 ∧ (-16384 : BitVec 32).toInt = -16384 := by
      decide
    rw [exactRow, value, value, toInt.1, toInt.2]
    norm_num [abs_le]

theorem projection_accurate_aside :
    ∃ last, Finishes (steady ⟨one, -16384, -32768⟩) 0 last ∧
      (run (steady ⟨one, -16384, -32768⟩) last).newx.setWidth 15 = 0 ∧
      (run (steady ⟨one, -16384, -32768⟩) last).newy.setWidth 15 = 0 ∧
      |value (run (steady ⟨one, -16384, -32768⟩) last).newx - exactColumn ⟨one, -16384, -32768⟩| <
        0.52 ∧
      |value (run (steady ⟨one, -16384, -32768⟩) last).newy - exactRow ⟨one, -16384, -32768⟩| <
        0.52 :=
  projection_accurate (steady_request _) aside_depicted (by decide)

theorem nearest_position_mono {b : Int} (positive : 0 < d) (ordered : a ≤ b) :
    2 ^ 15 * FixedPoint.nearest (2 ^ 15) (position last a d) ≤
      2 ^ 15 * FixedPoint.nearest (2 ^ 15) (position last b d) := by
  have scaled : a * 2 ^ 14 ≤ b * 2 ^ 14 := by omega
  have quotients : (a * 2 ^ 14).tdiv d ≤ (b * 2 ^ 14).tdiv d :=
    Int.tdiv_le_tdiv (by exact_mod_cast positive) scaled
  have positions : position last a d ≤ position last b d :=
    Int.mul_le_mul_of_nonneg_left (by omega) (Int.natCast_nonneg last)
  have pixels := FixedPoint.nearest_mono (show 0 < 2 ^ 15 by decide) positions
  omega

/-- At one depth, vertices keep their order on the screen, from left to right and
from top to bottom. -/
theorem projection_monotone (request : Request inputs first v)
    (request' : Request inputs' first' v') (depicted : Depicted v) (depicted' : Depicted v')
    (depth : v.z = v'.z) :
    ∃ last last', Finishes inputs first last ∧ Finishes inputs' first' last' ∧
      (v.x.toInt ≤ v'.x.toInt →
        (run inputs last).newx.toInt ≤ (run inputs' last').newx.toInt) ∧
      (v.y.toInt ≤ v'.y.toInt →
        (run inputs last).newy.toInt ≤ (run inputs' last').newy.toInt) := by
  obtain ⟨last, finishes, _, delivered, _⟩ := request.finishes
  obtain ⟨last', finishes', _, delivered', _⟩ := request'.finishes
  have positive := depicted'.depth.1
  obtain ⟨newx, newy⟩ := projected_of_depth depicted.nonzero (run inputs first).quotients
  obtain ⟨newx', newy'⟩ := projected_of_depth depicted'.nonzero (run inputs' first').quotients
  rw [← delivered] at newx newy
  rw [← delivered'] at newx' newy'
  have column : (run inputs last).newx.toInt = _ := newx ▸ depicted.column_toInt
  have row : (run inputs last).newy.toInt = _ := newy ▸ depicted.row_toInt
  have column' : (run inputs' last').newx.toInt = _ := newx' ▸ depicted'.column_toInt
  have row' : (run inputs' last').newy.toInt = _ := newy' ▸ depicted'.row_toInt
  rw [depth] at column row
  refine ⟨last, last', finishes, finishes', fun ordered => ?_, fun ordered => ?_⟩
  · rw [column, column']
    have quarters : (3 * v.x.toInt).tdiv 4 ≤ (3 * v'.x.toInt).tdiv 4 :=
      Int.tdiv_le_tdiv (by decide) (by omega)
    exact nearest_position_mono positive quarters
  · rw [row, row']
    exact nearest_position_mono positive ordered

theorem centre_depicted : Depicted ⟨0, 0, 0⟩ where
  columnInRange := by decide
  rowInRange := by decide
  ahead := by decide
  depthInRange := by decide
  wide := by norm_num [exactColumn]
  tall := by norm_num [exactRow]

theorem corner_depicted : Depicted ⟨one, one, 0⟩ where
  columnInRange := by decide
  rowInRange := by decide
  ahead := by decide
  depthInRange := by decide
  wide := by norm_num [exactColumn]
  tall := by norm_num [exactRow]

theorem projection_monotone_corner :
    ∃ last last', Finishes (steady ⟨0, 0, 0⟩) 0 last ∧ Finishes (steady ⟨one, one, 0⟩) 0 last' ∧
      ((0 : BitVec 32).toInt ≤ one.toInt →
        (run (steady ⟨0, 0, 0⟩) last).newx.toInt ≤ (run (steady ⟨one, one, 0⟩) last').newx.toInt) ∧
      ((0 : BitVec 32).toInt ≤ one.toInt →
        (run (steady ⟨0, 0, 0⟩) last).newy.toInt ≤ (run (steady ⟨one, one, 0⟩) last').newy.toInt) :=
  projection_monotone (steady_request _) (steady_request _) centre_depicted corner_depicted rfl

end WireframeGpu.Projection
