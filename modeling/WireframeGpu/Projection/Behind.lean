import WireframeGpu.Projection.Accuracy

namespace WireframeGpu.Projection

open WireframeGpu.Data

/-! Vertices behind the eye.  `S8` negates a negative `Z + 3` for one state only:
the dividers, started in `S9`, see it with its sign, and take its low 31 bits
for its magnitude. -/

/-- Where a coordinate of magnitude `n` comes to lie at the depth `-p`, in units
of `2 ^ -15` pixels. -/
def misplaced (last n p : Nat) : Int :=
  ((last : Int) * ((n * 2 ^ 14 / (2 ^ 31 - p) % 2 ^ 30 : Nat) - 2 ^ 30 + 2 ^ 14)).tmod (2 ^ 31)

/-- The coordinate `a` at the depth `p` and its opposite at the depth `-p` are drawn at
one pixel.  Up to the depth 32768.0 the latter is drawn where its magnitude would be
at the depth 65536.0 - `p`, but 32768 pixels before; up to 65280.0 it is still drawn far
before the screen, and the former is not; beyond, its quotient overflows. -/
def Coincident (last : Nat) (a : Int) (p : Nat) : Prop :=
  if p ≤ 2 ^ 30 then
    FixedPoint.nearest (2 ^ 15) (position last a p) =
      FixedPoint.nearest (2 ^ 15) (position last a.natAbs (2 ^ 31 - p)) - 2 ^ 15
  else
    2 ^ 31 - 2 ^ 23 < p ∧
      FixedPoint.nearest (2 ^ 15) (position last a p) =
        FixedPoint.nearest (2 ^ 15) (misplaced last a.natAbs p)

instance (last : Nat) (a : Int) (p : Nat) : Decidable (Coincident last a p) :=
  inferInstanceAs (Decidable (ite _ _ _))

variable {a d w half x y : BitVec 32} {last p : Nat}

theorem position_magnitude (last n p : Nat) :
    position last n p = (last * (n * 2 ^ 14 / p + 2 ^ 14) : Nat) := by
  rw [position]
  push_cast
  rfl

section

variable {n : Nat} (odd : last % 2 = 1) (inside : last * n ≤ 957 * 2 ^ 29)

include inside in
theorem magnitude_le (e : Nat) (low : e ≤ 43) (divisor : 2 ^ e ≤ p) :
    last * (n * 2 ^ 14 / p) ≤ 957 * 2 ^ (43 - e) :=
  calc
    last * (n * 2 ^ 14 / p) ≤ last * (n * 2 ^ 14) / p := Nat.mul_div_le_mul_div_assoc _ _ _
    _ ≤ 957 * 2 ^ 43 / 2 ^ e :=
      Nat.div_le_div (by rw [← Nat.mul_assoc]; omega) divisor (by positivity)
    _ = 957 * 2 ^ (43 - e) := by
      rw [Nat.mul_div_assoc _ (Nat.pow_dvd_pow 2 low), Nat.pow_div low (by decide)]

include odd inside in
/-- As long as the quotient does not overflow, its product with the size of the screen
wraps around once. -/
theorem misplaced_eq (small_last : last < 2 ^ 9) (small : p ≤ 2 ^ 31 - 2 ^ 23) :
    misplaced last n p = position last n (2 ^ 31 - p) - 2 ^ 30 := by
  have product := magnitude_le inside 23 (by decide) (show 2 ^ 23 ≤ 2 ^ 31 - p by omega)
  rw [position_magnitude, misplaced]
  generalize n * 2 ^ 14 / (2 ^ 31 - p) = k at product ⊢
  have share : k ≤ last * k := Nat.le_mul_of_pos_left k (by omega)
  have whole : ((last * (k + 2 ^ 14) : Nat) : Int) = (last * k : Nat) + last * 2 ^ 14 := by
    push_cast
    ring
  have wrapped : (last : Int) * (k - 2 ^ 30 + 2 ^ 14) =
      (last * k : Nat) - last * 2 ^ 30 + last * 2 ^ 14 := by
    push_cast
    ring
  rw [Nat.mod_eq_of_lt (by omega), whole, wrapped]
  generalize last * k = product' at product share ⊢
  rw [show (2 ^ 31 : Int) = (2 ^ 31 : Nat) from rfl, FixedPoint.tmod_of_sign, if_pos (by omega)]
  omega

end

theorem nearest_sub (v : Int) :
    FixedPoint.nearest (2 ^ 15) (v - 2 ^ 30) = FixedPoint.nearest (2 ^ 15) v - 2 ^ 15 := by
  simp only [FixedPoint.nearest]
  omega

theorem position_ge (far : 2 ^ 30 ≤ p) {a : Int} (inside : last * a.natAbs ≤ 957 * 2 ^ 29) :
    -2 ^ 23 ≤ position last a p := by
  have product := magnitude_le inside 30 (by decide) far
  have quotient := FixedPoint.tdiv_of_sign (a * 2 ^ 14) p
  rw [Int.natAbs_mul, show (2 ^ 14 : Int).natAbs = 2 ^ 14 from rfl] at quotient
  rw [position, quotient]
  generalize a.natAbs * 2 ^ 14 / p = k at product ⊢
  have product' : (last : Int) * k ≤ 957 * 2 ^ 13 := by exact_mod_cast product
  split
  · rw [Int.mul_add, Int.mul_neg]
    omega
  · rw [Int.mul_add]
    omega

theorem magnitude_position_le (small_last : last < 2 ^ 9) (small : p ≤ 2 ^ 31 - 2 ^ 23) {n : Nat}
    (inside : last * n ≤ 957 * 2 ^ 29) : position last n (2 ^ 31 - p) ≤ 2 ^ 30 - 2 ^ 25 := by
  have product := magnitude_le inside 23 (by decide) (show 2 ^ 23 ≤ 2 ^ 31 - p by omega)
  rw [position_magnitude, Nat.mul_add]
  omega

/-- The two pictures meet exactly where the quotients say so. -/
theorem coincident_iff (odd : last % 2 = 1) (small_last : last < 2 ^ 9) {a : Int}
    (inside : last * a.natAbs ≤ 957 * 2 ^ 29) :
    FixedPoint.nearest (2 ^ 15) (position last a p) =
        FixedPoint.nearest (2 ^ 15) (misplaced last a.natAbs p) ↔
      Coincident last a p := by
  rw [Coincident]
  split
  case isTrue near => rw [misplaced_eq odd inside small_last (by omega), nearest_sub]
  case isFalse far =>
    rcases Nat.lt_or_ge (2 ^ 31 - 2 ^ 23) p with beyond | small
    · exact (and_iff_right beyond).symm
    · refine iff_of_false (fun same => ?_) fun beyond => absurd beyond.1 (Nat.not_lt.mpr small)
      have front := position_ge (Nat.le_of_not_le far) inside
      have back := magnitude_position_le small_last small inside
      rw [misplaced_eq odd inside small_last small] at same
      simp only [FixedPoint.nearest] at same
      omega

theorem ratio_behind (bounded : -2 ^ 31 < a.toInt) (positive : 0 < p) (small : p < 2 ^ 31)
    (behind : d.toNat = 2 ^ 32 - p) :
    (ratio a d).toInt = 2 * ((a.toInt.natAbs * 2 ^ 14 / (2 ^ 31 - p) % 2 ^ 30 : Nat) - 2 ^ 30) := by
  obtain ⟨exact_a, small_a⟩ := magnitude_exact bounded
  have sign : d.msb = true := by
    rw [BitVec.msb_eq_decide, decide_eq_true_eq]
    omega
  have low : d.toNat % 2 ^ 31 = 2 ^ 31 - p := by omega
  have halves : a.toInt.natAbs * 2 ^ 15 / ((2 ^ 31 - p) * 2) =
      a.toInt.natAbs * 2 ^ 14 / (2 ^ 31 - p) := by
    rw [show a.toInt.natAbs * 2 ^ 15 = a.toInt.natAbs * 2 ^ 14 * 2 by ring]
    exact Nat.mul_div_mul_right _ _ (by decide)
  have quotient : (ratio a d).toNat =
      2 ^ 31 + a.toInt.natAbs * 2 ^ 14 / (2 ^ 31 - p) % 2 ^ 30 * 2 := by
    simp only [ratio, sign, Bool.not_true, Bool.and_false, signed, Bool.false_eq_true, ↓reduceIte,
      Divider.quotient, msb_false_of_lt (w := magnitude a) (by omega), Bool.xor_true,
      Bool.not_false]
    rw [BitVec.toNat_cons', BitVec.toNat_ofNat, exact_a, Nat.mod_eq_of_lt small_a, low,
      Divider.upperQuotient, if_neg (by omega), Nat.pow_one, halves]
    simp only [Bool.toNat_true, Nat.shiftLeft_eq]
    omega
  have value := (ratio a d).toInt_eq_toNat_cond
  rw [quotient] at value
  split at value <;> omega

theorem placed_behind (positive_last : 0 < last) (small_last : last < 2 ^ 9)
    (halved : half.toNat = last * 2 ^ 14) (bounded : -2 ^ 31 < a.toInt) (positive : 0 < p)
    (small : p < 2 ^ 31) (behind : d.toNat = 2 ^ 32 - p) :
    (placed half (ratio a d)).toInt = misplaced last a.toInt.natAbs p := by
  have divided := ratio_behind bounded positive small behind
  have part : a.toInt.natAbs * 2 ^ 14 / (2 ^ 31 - p) % 2 ^ 30 < 2 ^ 30 := Nat.mod_lt _ (by decide)
  rw [misplaced]
  generalize a.toInt.natAbs * 2 ^ 14 / (2 ^ 31 - p) % 2 ^ 30 = k at divided part ⊢
  have even : (ratio a d + one).toInt = 2 * ((k : Int) - 2 ^ 30 + 2 ^ 14) := by
    rw [in_range_toInt (by rw [divided, abs_lt]; omega), divided]
    omega
  exact placed_toInt positive_last small_last halved even (by omega)

/-- Down to the depth -32768.0, a coordinate behind the eye is drawn in a strip as wide
as the screen, 32768 pixels before it. -/
theorem screen_behind (last : Nat) (half : BitVec 32) (odd : last % 2 = 1)
    (small_last : last < 2 ^ 9)
    (halved : half.toNat = last * 2 ^ 14) (inside : last * a.toInt.natAbs ≤ 957 * 2 ^ 29)
    (bounded : -2 ^ 31 < a.toInt) (positive : 0 < p) (near : p ≤ 2 ^ 30)
    (behind : d.toNat = 2 ^ 32 - p) :
    2 ^ 15 * (FixedPoint.nearest (2 ^ 15) (last * 2 ^ 14) - 2 ^ 15) ≤ (screen half a d).toInt ∧
      (screen half a d).toInt ≤
        2 ^ 15 * (FixedPoint.nearest (2 ^ 15) (957 * 2 ^ 13 + last * 2 ^ 14) - 2 ^ 15) := by
  have whole := placed_behind (by omega) small_last halved bounded positive (by omega) behind
  rw [misplaced_eq odd inside small_last (by omega)] at whole
  have product := magnitude_le inside 30 (by decide) (show 2 ^ 30 ≤ 2 ^ 31 - p by omega)
  have place := position_magnitude last a.toInt.natAbs (2 ^ 31 - p)
  rw [Nat.mul_add] at place
  rw [screen, rounded_toInt (by omega), whole, nearest_sub]
  simp only [FixedPoint.nearest]
  omega

/-- A coordinate in front of the eye and its mirror image behind it. -/
theorem screen_eq_iff (last : Nat) (half : BitVec 32) {a' d' : BitVec 32}
    (odd : last % 2 = 1) (large : 2 ^ 7 ≤ last) (small_last : last < 2 ^ 9)
    (halved : half.toNat = last * 2 ^ 14) (inside : last * a.toInt.natAbs ≤ 957 * 2 ^ 29)
    (bounded : -2 ^ 31 < a.toInt) (opposite : a'.toInt = -a.toInt) (positive : 0 < p)
    (small : p < 2 ^ 31) (ahead : d.toNat = p) (behind : d'.toNat = 2 ^ 32 - p)
    (fits : |position last a.toInt p| < 2 ^ 31 - 2 ^ 14) :
    screen half a d = screen half a' d' ↔ Coincident last a.toInt p := by
  have bounded' : -2 ^ 31 < a'.toInt := by
    have limit := a.toInt_lt
    omega
  have front := placed_ratio_toInt (d := d) large small_last halved bounded (by omega) (by omega)
    (by rwa [ahead])
  have back := placed_behind (by omega) small_last halved bounded' positive small behind
  rw [ahead] at front
  rw [opposite, Int.natAbs_neg] at back
  rw [screen, screen, rounded_eq_iff (by rwa [front]), front, back]
  exact coincident_iff odd small_last inside

/-- A vertex in front of the eye and the opposite one behind it. -/
theorem mirror_iff {x' y' z z' : BitVec 32} (columns : x'.toInt = -x.toInt)
    (rows : y'.toInt = -y.toInt) (bounded_x : -2 ^ 31 < x.toInt) (bounded_y : -2 ^ 31 < y.toInt)
    (positive : 0 < p) (small : p < 2 ^ 31) (ahead : (z + three).toNat = p)
    (behind : (z' + three).toNat = 2 ^ 32 - p)
    (wide : |(3 / 4 * value x / (p / 2 ^ 15) + 1) * (319 / 2)| ≤ 65000)
    (tall : |(value y / (p / 2 ^ 15) + 1) * (239 / 2)| ≤ 65000) :
    (column ⟨x, y, z⟩ = column ⟨x', y', z'⟩ ∧ row ⟨x, y, z⟩ = row ⟨x', y', z'⟩) ↔
      Coincident 319 ((3 * x.toInt).tdiv 4) p ∧ Coincident 239 y.toInt p := by
  have nonzero : (p / 2 ^ 15 : ℚ) ≠ 0 := by positivity
  have whole : (2 ^ 15 * (p / 2 ^ 15) : ℚ) = p := by ring
  have close_x := column_numerator x nonzero
  have close_y := row_numerator y nonzero
  rw [whole] at close_x close_y
  have fits_x := position_fits 319 (by decide) positive close_x (by exact_mod_cast wide)
  have fits_y := position_fits 239 (by decide) positive close_y (by exact_mod_cast tall)
  have limit := x.toInt_lt
  have limit_y := y.toInt_lt
  have scaled_x := scaled_toInt bounded_x
  have quarters : ((3 * x.toInt).tdiv 4).natAbs = (3 * x.toInt).natAbs / 4 := Int.natAbs_tdiv _ _
  have scaled_x' : (scaled x').toInt = -(scaled x).toInt := by
    rw [scaled_toInt (by omega), scaled_x, columns, Int.mul_neg, Int.neg_tdiv]
  have columns_eq := screen_eq_iff 319 width (by decide) (by decide) (by decide) rfl
    (by rw [scaled_x]; omega) (scaled_exact bounded_x).2 scaled_x' positive small ahead behind
    (by rwa [scaled_x])
  have rows_eq := screen_eq_iff 239 height (by decide) (by decide) (by decide) rfl (by omega)
    bounded_y rows positive small ahead behind fits_y
  rw [scaled_x] at columns_eq
  exact and_congr columns_eq rows_eq

/-- Coordinates to be projected at the depth `-d`, and mirrored at the depth `d`. -/
structure Mirrorable (x y d : BitVec 32) : Prop where
  columnInRange : -2 ^ 31 < x.toInt
  rowInRange : -2 ^ 31 < y.toInt
  depthInRange : -2 ^ 31 < d.toInt
  far : 2 ^ 15 ≤ |d.toInt|
  wide : |(3 / 4 * value x / -value d + 1) * (319 / 2)| ≤ 65000
  tall : |(value y / -value d + 1) * (239 / 2)| ≤ 65000

/-- The coordinate that meets the positive one of the two depths. -/
def facing (d a : Int) : Int := if 0 < d then -a else a

theorem neg_toInt (bounded : -2 ^ 31 < w.toInt) : (-w).toInt = -w.toInt := by
  apply BitVec.toInt_neg_of_ne_intMin
  intro extreme
  rw [extreme] at bounded
  exact absurd bounded (by decide)

theorem value_neg (bounded : -2 ^ 31 < w.toInt) : value (-w) = -value w := by
  rw [value, value, neg_toInt bounded, Int.cast_neg, neg_div]

theorem Mirrorable.depths (mirrorable : Mirrorable x y d) :
    -d - three + three ≠ 0 ∧ d - three + three ≠ 0 := by
  have far := mirrorable.far
  rw [BitVec.sub_add_cancel, BitVec.sub_add_cancel]
  constructor <;> intro zero
  · obtain rfl : d = 0 := BitVec.neg_eq_zero_iff.mp zero
    exact absurd far (by decide)
  · obtain rfl : d = 0 := zero
    exact absurd far (by decide)

/-- The words of a depth in front of the eye and of the opposite one. -/
theorem toNat_of_ahead (ahead : 0 < d.toInt) :
    d.toNat = d.toInt.natAbs ∧ (-d).toNat = 2 ^ 32 - d.toInt.natAbs := by
  have word := d.toInt_eq_toNat_cond
  have bound := d.isLt
  rw [BitVec.toNat_neg]
  split at word <;> omega

theorem Mirrorable.outcomes (mirrorable : Mirrorable x y d) :
    (column ⟨x, y, -d - three⟩ = column ⟨-x, -y, d - three⟩ ∧
      row ⟨x, y, -d - three⟩ = row ⟨-x, -y, d - three⟩) ↔
      Coincident 319 ((3 * facing d.toInt x.toInt).tdiv 4) d.toInt.natAbs ∧
        Coincident 239 (facing d.toInt y.toInt) d.toInt.natAbs := by
  obtain ⟨bounded_x, bounded_y, bounded_d, far, wide, tall⟩ := mirrorable
  have opposite_d := neg_toInt bounded_d
  have opposite_x := neg_toInt bounded_x
  have opposite_y := neg_toInt bounded_y
  have limit := d.toInt_lt
  have limit_x := x.toInt_lt
  have limit_y := y.toInt_lt
  have depth : -d - three + three = -d := BitVec.sub_add_cancel _ _
  have depth' : d - three + three = d := BitVec.sub_add_cancel _ _
  rw [Int.abs_eq_natAbs] at far
  have magnitude : (d.toInt.natAbs : ℚ) = |(d.toInt : ℚ)| := by rw [Nat.cast_natAbs, Int.cast_abs]
  rcases lt_or_ge 0 d.toInt with positive | negative
  · -- The mirrored vertex is the one in front of the eye.
    obtain ⟨ahead, behind⟩ := toNat_of_ahead positive
    rw [facing, facing, if_pos positive, if_pos positive, ← opposite_x, ← opposite_y]
    have share : (d.toInt.natAbs : ℚ) / 2 ^ 15 = value d := by
      rw [magnitude, abs_of_pos (by exact_mod_cast positive), value]
    refine (and_congr eq_comm eq_comm).trans ?_
    exact mirror_iff (by omega) (by omega) (by omega) (by omega) (by omega) (by omega)
      (by rw [depth', ahead]) (by rw [depth, behind])
      (by rwa [share, value_neg bounded_x, mul_neg, neg_div, ← div_neg])
      (by rwa [share, value_neg bounded_y, neg_div, ← div_neg])
  · have positive' : 0 < (-d).toInt := by
      rw [opposite_d]
      omega
    obtain ⟨ahead, behind⟩ := toNat_of_ahead positive'
    rw [opposite_d, Int.natAbs_neg] at ahead behind
    rw [BitVec.neg_neg] at behind
    rw [facing, facing, if_neg (not_lt.mpr negative), if_neg (not_lt.mpr negative)]
    have share : (d.toInt.natAbs : ℚ) / 2 ^ 15 = -value d := by
      rw [magnitude, abs_of_nonpos (by exact_mod_cast negative), value, neg_div]
    exact mirror_iff (by omega) (by omega) (by omega) (by omega) (by omega) (by omega)
      (by rw [depth, ahead]) (by rw [depth', behind]) (by rwa [share]) (by rwa [share])

/-- Where a vertex behind the eye is drawn: far to the left of the screen and far above it. -/
def FarOff (newx newy : BitVec 32) : Prop :=
  -32608 * 2 ^ 15 ≤ newx.toInt ∧ newx.toInt ≤ -32369 * 2 ^ 15 ∧
    -32648 * 2 ^ 15 ≤ newy.toInt ∧ newy.toInt ≤ -32409 * 2 ^ 15

theorem far_off {v : Vertex} (bounded_x : -2 ^ 31 < v.x.toInt) (bounded_y : -2 ^ 31 < v.y.toInt)
    (positive : 0 < p) (near : p ≤ 2 ^ 30) (behind : (v.z + three).toNat = 2 ^ 32 - p) :
    FarOff (column v) (row v) := by
  have limit := v.x.toInt_lt
  have limit_y := v.y.toInt_lt
  have quarters : ((3 * v.x.toInt).tdiv 4).natAbs = (3 * v.x.toInt).natAbs / 4 :=
    Int.natAbs_tdiv _ _
  obtain ⟨left, right⟩ := screen_behind 319 width (by decide) (by decide) rfl
    (by rw [scaled_toInt bounded_x]; omega) (scaled_exact bounded_x).2 positive near behind
  obtain ⟨above, below⟩ := screen_behind 239 height (by decide) (by decide) rfl (by omega)
    bounded_y positive near behind
  exact ⟨left, right, above, below⟩

variable {inputs inputs' : Nat → Inputs} {first first' : Nat}

theorem Mirrorable.farOff (mirrorable : Mirrorable x y d) (near : |d.toInt| ≤ 2 ^ 30) :
    if 0 < d.toInt then FarOff (column ⟨x, y, -d - three⟩) (row ⟨x, y, -d - three⟩)
    else FarOff (column ⟨-x, -y, d - three⟩) (row ⟨-x, -y, d - three⟩) := by
  obtain ⟨bounded_x, bounded_y, bounded_d, far, -, -⟩ := mirrorable
  have opposite_x := neg_toInt bounded_x
  have opposite_y := neg_toInt bounded_y
  have limit_x := x.toInt_lt
  have limit_y := y.toInt_lt
  rw [Int.abs_eq_natAbs] at far near
  split
  case isTrue positive =>
    refine far_off (p := d.toInt.natAbs) bounded_x bounded_y (by omega) (by omega) ?_
    rw [BitVec.sub_add_cancel]
    exact (toNat_of_ahead positive).2
  case isFalse negative =>
    refine far_off (p := d.toInt.natAbs) (show -2 ^ 31 < (-x).toInt by omega)
      (show -2 ^ 31 < (-y).toInt by omega) (by omega) (by omega) ?_
    have word := d.toInt_eq_toNat_cond
    have bound := d.isLt
    rw [BitVec.sub_add_cancel]
    split at word <;> omega

/-- A projection at the depth `-d` and the mirrored one at the depth `d` end in one pixel
only by coincidence: up to the depth 32768.0 the one behind the eye always ends far off the
screen. -/
theorem mirrored_iff (mirrorable : Mirrorable x y d)
    (request : Request inputs first ⟨x, y, -d - three⟩)
    (request' : Request inputs' first' ⟨-x, -y, d - three⟩) :
    ((∃ last last', Finishes inputs first last ∧ Finishes inputs' first' last' ∧
        (run inputs last).newx = (run inputs' last').newx ∧
        (run inputs last).newy = (run inputs' last').newy) ↔
      Coincident 319 ((3 * facing d.toInt x.toInt).tdiv 4) d.toInt.natAbs ∧
        Coincident 239 (facing d.toInt y.toInt) d.toInt.natAbs) ∧
    (|d.toInt| ≤ 2 ^ 30 → ∃ last last', Finishes inputs first last ∧ Finishes inputs' first' last' ∧
      if 0 < d.toInt then FarOff (run inputs last).newx (run inputs last).newy
      else FarOff (run inputs' last').newx (run inputs' last').newy) := by
  obtain ⟨last, finishes, _, delivered, _⟩ := request.finishes
  obtain ⟨last', finishes', _, delivered', _⟩ := request'.finishes
  obtain ⟨depth, depth'⟩ := mirrorable.depths
  obtain ⟨newx, newy⟩ := projected_of_depth (v := ⟨x, y, -d - three⟩) depth
    (run inputs first).quotients
  obtain ⟨newx', newy'⟩ := projected_of_depth (v := ⟨-x, -y, d - three⟩) depth'
    (run inputs' first').quotients
  rw [← delivered] at newx newy
  rw [← delivered'] at newx' newy'
  constructor
  · rw [← mirrorable.outcomes, ← newx, ← newy, ← newx', ← newy']
    constructor
    · rintro ⟨other, other', ends, ends', same⟩
      rwa [finishes.unique ends, finishes'.unique ends']
    · intro same
      exact ⟨last, last', finishes, finishes', same⟩
  · intro near
    have off := mirrorable.farOff near
    rw [← newx, ← newy, ← newx', ← newy'] at off
    exact ⟨last, last', finishes, finishes', off⟩

/-- A vertex at 273.9 and 274.2, for the depth 1.0. -/
theorem distant_mirrorable : Mirrorable 8975750 8985150 one where
  columnInRange := by decide
  rowInRange := by decide
  depthInRange := by decide
  far := by decide
  wide := by
    have toInt : (8975750 : BitVec 32).toInt = 8975750 := by decide
    rw [value, value, toInt, show one.toInt = 32768 from rfl]
    norm_num [abs_le]
  tall := by
    have toInt : (8985150 : BitVec 32).toInt = 8985150 := by decide
    rw [value, value, toInt, show one.toInt = 32768 from rfl]
    norm_num [abs_le]

/-- A vertex at 1.0 and -0.5, for the depth -2.0. -/
theorem aside_mirrorable : Mirrorable one (-16384) (-65536) where
  columnInRange := by decide
  rowInRange := by decide
  depthInRange := by decide
  far := by decide
  wide := by
    have toInt : (-65536 : BitVec 32).toInt = -65536 := by decide
    rw [value, value, toInt, show one.toInt = 32768 from rfl]
    norm_num [abs_le]
  tall := by
    have toInt : (-65536 : BitVec 32).toInt = -65536 ∧ (-16384 : BitVec 32).toInt = -16384 := by
      decide
    rw [value, value, toInt.1, toInt.2]
    norm_num [abs_le]

/-- The former vertex ends in one pixel with its mirror image, far off the screen, and the
latter does not. -/
theorem mirrored_iff_sides :
    (∃ last last', Finishes (steady ⟨8975750, 8985150, -one - three⟩) 0 last ∧
      Finishes (steady ⟨-8975750, -8985150, one - three⟩) 0 last' ∧
      (run (steady ⟨8975750, 8985150, -one - three⟩) last).newx =
        (run (steady ⟨-8975750, -8985150, one - three⟩) last').newx ∧
      (run (steady ⟨8975750, 8985150, -one - three⟩) last).newy =
        (run (steady ⟨-8975750, -8985150, one - three⟩) last').newy) ∧
    ¬ (∃ last last', Finishes (steady ⟨one, -16384, -(-65536) - three⟩) 0 last ∧
      Finishes (steady ⟨-one, -(-16384), -65536 - three⟩) 0 last' ∧
      (run (steady ⟨one, -16384, -(-65536) - three⟩) last).newx =
        (run (steady ⟨-one, -(-16384), -65536 - three⟩) last').newx ∧
      (run (steady ⟨one, -16384, -(-65536) - three⟩) last).newy =
        (run (steady ⟨-one, -(-16384), -65536 - three⟩) last').newy) ∧
    ∃ last, Finishes (steady ⟨-one, -(-16384), -65536 - three⟩) 0 last ∧
      FarOff (run (steady ⟨-one, -(-16384), -65536 - three⟩) last).newx
        (run (steady ⟨-one, -(-16384), -65536 - three⟩) last).newy := by
  refine ⟨?_, fun same => ?_, ?_⟩
  · refine (mirrored_iff distant_mirrorable (steady_request _) (steady_request _)).1.mpr ?_
    decide +kernel
  · have met := (mirrored_iff aside_mirrorable (steady_request _) (steady_request _)).1.mp same
    revert met
    decide +kernel
  · obtain ⟨_, last, -, finishes, off⟩ :=
      (mirrored_iff aside_mirrorable (steady_request _) (steady_request _)).2 (by decide)
    rw [if_neg (by decide)] at off
    exact ⟨last, finishes, off⟩

theorem centre_mirrorable : Mirrorable 0 0 one where
  columnInRange := by decide
  rowInRange := by decide
  depthInRange := by decide
  far := le_of_eq rfl
  wide := by norm_num
  tall := by norm_num

/-- At the depth `-1`, the centre of the screen is drawn far to the left of it. -/
theorem negative_depth_misplaced :
    ¬ ∀ (x y d : BitVec 32) (inputs inputs' : Nat → Inputs) (first first' : Nat),
      Mirrorable x y d → Request inputs first ⟨x, y, -d - three⟩ →
        Request inputs' first' ⟨-x, -y, d - three⟩ →
          ∃ last last', Finishes inputs first last ∧ Finishes inputs' first' last' ∧
            (run inputs last).newx = (run inputs' last').newx ∧
            (run inputs last).newy = (run inputs' last').newy := by
  intro mirrored
  have same := (mirrored_iff centre_mirrorable (steady_request _) (steady_request _)).1.mp
    (mirrored 0 0 one _ _ _ _ centre_mirrorable (steady_request _) (steady_request _))
  revert same
  decide

end WireframeGpu.Projection
