import WireframeGpu.Data.Circle
import WireframeGpu.Polygon.Cube
import WireframeGpu.Projection.Accuracy

namespace WireframeGpu.PolygonRaster

open WireframeGpu.Data WireframeGpu.Projection

/-! The rows of the tables are sines and cosines, so that a turned vertex is a rotated
one: to a few units of the last place, and modulo 4.0. -/

/-- The unit in which the multiples of the angle are followed, and the cosine and the
sine of a fiftieth of a radian in it. -/
def turnUnit : Int := 2 ^ 40

def turnStep : Int × Int := (1099291732780, 21988766569)

/-- A row is within 1.6 units of its last place of a vector. -/
def beside (p : Int × Int) : BitVec 32 × BitVec 32 × BitVec 32 → Bool :=
  fun (sinOut, cosOut, negSinOut) =>
    5 * |sinOut.toInt * 2 ^ 25 - p.2| ≤ 2 ^ 28 && 5 * |cosOut.toInt * 2 ^ 25 - p.1| ≤ 2 ^ 28 &&
      5 * |negSinOut.toInt * 2 ^ 25 + p.2| ≤ 2 ^ 28

/-- Every row is beside the vector that has been turned on from row to row. -/
def follows (p : Int × Int) : List (BitVec 32 × BitVec 32 × BitVec 32) → Bool
  | [] => true
  | row :: rows => beside p row && follows (Circle.turn turnUnit turnStep p) rows

theorem angleRows_follow : follows (turnUnit, 0) angleRows = true := by
  decide +kernel

theorem follows_at {rows : List (BitVec 32 × BitVec 32 × BitVec 32)} {n i : Nat}
    (followed : follows (Circle.turns turnUnit turnStep n) rows = true) (inside : i < rows.length) :
    beside (Circle.turns turnUnit turnStep (n + i)) rows[i] = true := by
  induction rows generalizing n i with
  | nil => simp at inside
  | cons row rows ih =>
      rw [follows, Bool.and_eq_true] at followed
      cases i with
      | zero => exact followed.1
      | succ i =>
          have rest := ih (n := n + 1) followed.2 (Nat.lt_of_succ_lt_succ inside)
          rwa [Nat.add_right_comm] at rest

/-- The fiftieths of a radian that a row stands for. -/
noncomputable def radians (row : Nat) : ℝ := row * (1 / 50)

theorem turns_radians {row : Nat} (inside : row < 315) :
    |((Circle.turns turnUnit turnStep row).1 : ℝ) / turnUnit - Real.cos (radians row)| ≤
        1 / 5 / 2 ^ 15 ∧
      |((Circle.turns turnUnit turnStep row).2 : ℝ) / turnUnit - Real.sin (radians row)| ≤
        1 / 5 / 2 ^ 15 := by
  have close : ‖Circle.point turnUnit turnStep - Complex.exp ((1 / 50 : ℝ) * Complex.I)‖ ≤
      1 / 60000000 := by
    refine Circle.step_close (abs_le.mpr ⟨by norm_num, by norm_num⟩) ?_
    norm_num [turnUnit, turnStep, abs_of_pos, abs_of_neg]
  have near :=
    Circle.turns_cos_sin (by decide) (Circle.inside_circle (by decide) (by decide)) close row
  have count : (row : ℝ) ≤ 315 := by exact_mod_cast inside.le
  have budget : (row : ℝ) * (1 / 60000000 + 2 / turnUnit) ≤ 1 / 5 / 2 ^ 15 := by
    rw [turnUnit]
    push_cast
    linarith
  exact ⟨near.1.trans budget, near.2.trans budget⟩

/-- The entries of a row are the cosine and the sine of an angle. -/
structure TrueTo (θ : ℝ) (sinOut cosOut negSinOut : BitVec 32) : Prop where
  sin : |(value sinOut : ℝ) - Real.sin θ| ≤ 9 / 5 / 2 ^ 15
  cos : |(value cosOut : ℝ) - Real.cos θ| ≤ 9 / 5 / 2 ^ 15
  negSin : |(value negSinOut : ℝ) + Real.sin θ| ≤ 9 / 5 / 2 ^ 15

theorem entry_close {w : BitVec 32} {q : Int} {exact : ℝ}
    (beside : 5 * |w.toInt * 2 ^ 25 - q| ≤ 2 ^ 28)
    (close : |(q : ℝ) / turnUnit - exact| ≤ 1 / 5 / 2 ^ 15) :
    |(value w : ℝ) - exact| ≤ 9 / 5 / 2 ^ 15 := by
  have beside' : 5 * |(w.toInt : ℝ) * 2 ^ 25 - q| ≤ 2 ^ 28 := by exact_mod_cast beside
  have entry : |(value w : ℝ) - q / turnUnit| ≤ 8 / 5 / 2 ^ 15 := by
    have share : (value w : ℝ) - q / turnUnit = ((w.toInt : ℝ) * 2 ^ 25 - q) / 2 ^ 40 := by
      rw [value, turnUnit]
      push_cast
      ring
    rw [share, abs_div, abs_of_pos (by positivity : (0 : ℝ) < 2 ^ 40), div_le_iff₀ (by positivity)]
    calc |(w.toInt : ℝ) * 2 ^ 25 - q| ≤ 2 ^ 28 / 5 := by rwa [le_div_iff₀' (by norm_num)]
      _ = 8 / 5 / 2 ^ 15 * 2 ^ 40 := by norm_num
  calc |(value w : ℝ) - exact| ≤ _ := abs_sub_le _ ((q : ℝ) / turnUnit) _
    _ ≤ 8 / 5 / 2 ^ 15 + 1 / 5 / 2 ^ 15 := add_le_add entry close
    _ = 9 / 5 / 2 ^ 15 := by ring

theorem rows_true {row : BitVec 9} (inside : row.toNat < 315) :
    TrueTo (radians row.toNat) (Megafunctions.initFiles.sin row) (Megafunctions.initFiles.cos row)
      (Megafunctions.initFiles.negSin row) := by
  have bound : row.toNat < angleRows.length := by rwa [angleRows_length]
  have followed := follows_at (n := 0) angleRows_follow bound
  rw [Nat.zero_add, angleRows_at bound] at followed
  simp only [beside, Bool.and_eq_true, decide_eq_true_eq] at followed
  obtain ⟨⟨sin, cos⟩, negSin⟩ := followed
  obtain ⟨across, up⟩ := turns_radians inside
  refine ⟨entry_close sin up, entry_close cos across, ?_⟩
  rw [← sub_neg_eq_add]
  refine entry_close (q := -(Circle.turns turnUnit turnStep row.toNat).2) ?_ ?_
  · rwa [sub_neg_eq_add]
  · have down := up
    rw [← abs_neg] at down
    push_cast
    convert down using 2
    ring

/-- A coordinate that is right to `e` and to a multiple of 4.0, read as one below 4.0. -/
structure Wraps (w : BitVec 32) (exact e : ℝ) : Prop where
  lower : 0 ≤ value w
  upper : value w < 4
  near : ∃ k : ℤ, |(value w : ℝ) - (exact + 4 * k)| ≤ e

/-- The errors of two entries, and what the shift drops. -/
noncomputable def slack (a c : BitVec 32) : ℝ :=
  (9 / 5 * (|(value a : ℝ)| + |(value c : ℝ)|) + 1) / 2 ^ 15

theorem products_wrap {a b c d : BitVec 32} {β δ : ℝ}
    (first : |(value b : ℝ) - β| ≤ 9 / 5 / 2 ^ 15) (second : |(value d : ℝ) - δ| ≤ 9 / 5 / 2 ^ 15) :
    Wraps ((a * b + d * c) >>> 15) (value a * β + value c * δ) (slack a c) := by
  have exact := shifted_modulo a b d c
  generalize (a * b + d * c) >>> 15 = w at exact ⊢
  generalize products : a.toInt * b.toInt + d.toInt * c.toInt = e at exact
  have parts := Int.mul_ediv_add_emod e (2 ^ 15)
  have wraps := Int.mul_ediv_add_emod (e / 2 ^ 15) (2 ^ 17)
  rw [← exact] at wraps
  have rest : 0 ≤ e % 2 ^ 15 ∧ e % 2 ^ 15 < 2 ^ 15 := by omega
  generalize e % 2 ^ 15 = dropped at parts rest
  generalize e / 2 ^ 15 / 2 ^ 17 = turns at wraps
  have range : 0 ≤ w.toInt ∧ w.toInt < 2 ^ 17 := by omega
  have whole : (2 ^ 15 * w.toInt : ℝ) =
      a.toInt * b.toInt + d.toInt * c.toInt - dropped - 2 ^ 32 * turns := by
    have whole : 2 ^ 15 * w.toInt = e - dropped - 2 ^ 32 * turns := by omega
    rw [← products] at whole
    exact_mod_cast whole
  have value_w : (value w : ℝ) = value a * value b + value d * value c - dropped / 2 ^ 30 -
      4 * turns := by
    simp only [value]
    push_cast
    linarith
  have low : |(dropped : ℝ) / 2 ^ 30| ≤ 1 / 2 ^ 15 := by
    have lower : (0 : ℝ) ≤ dropped := by exact_mod_cast rest.1
    have upper : (dropped : ℝ) ≤ 2 ^ 15 := by exact_mod_cast rest.2.le
    rw [abs_of_nonneg (by positivity), div_le_iff₀ (by positivity)]
    linarith
  have across : |(value a : ℝ) * (value b - β)| ≤ |(value a : ℝ)| * (9 / 5 / 2 ^ 15) := by
    rw [abs_mul]
    gcongr
  have up : |(value c : ℝ) * (value d - δ)| ≤ |(value c : ℝ)| * (9 / 5 / 2 ^ 15) := by
    rw [abs_mul]
    gcongr
  refine ⟨?_, ?_, -turns, ?_⟩
  · have lower : (0 : ℚ) ≤ w.toInt := by exact_mod_cast range.1
    rw [value]
    positivity
  · have upper : (w.toInt : ℚ) < 2 ^ 17 := by exact_mod_cast range.2
    rw [value, div_lt_iff₀ (by positivity)]
    linarith
  · have sum : (value w : ℝ) - (value a * β + value c * δ + 4 * (-turns : ℤ)) =
        value a * (value b - β) + value c * (value d - δ) - dropped / 2 ^ 30 := by
      rw [value_w]
      push_cast
      ring
    rw [sum]
    calc _ ≤ |(value a : ℝ) * (value b - β) + value c * (value d - δ)| + |(dropped : ℝ) / 2 ^ 30| :=
          abs_sub _ _
      _ ≤ |(value a : ℝ)| * (9 / 5 / 2 ^ 15) + |(value c : ℝ)| * (9 / 5 / 2 ^ 15) + 1 / 2 ^ 15 :=
          add_le_add ((abs_add_le _ _).trans (add_le_add across up)) low
      _ = slack a c := by
          rw [slack]
          ring

/-- Rotated about the x axis, as far as the registers can tell. -/
structure Rotated (θ : ℝ) (p q : Vertex) : Prop where
  x : q.x = p.x
  y : Wraps q.y (value p.y * Real.cos θ + value p.z * Real.sin θ) (slack p.y p.z)
  z : Wraps q.z (value p.z * Real.cos θ + value p.y * -Real.sin θ) (slack p.z p.y)

theorem turned_rotated {row : BitVec 9} (inside : row.toNat < 315) (p : Vertex) :
    Rotated (radians row.toNat) p (turned .initFiles row p) := by
  obtain ⟨sin, cos, negSin⟩ := rows_true inside
  refine ⟨rfl, products_wrap cos sin, products_wrap cos ?_⟩
  rwa [sub_neg_eq_add]

end WireframeGpu.PolygonRaster
