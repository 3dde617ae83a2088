import Mathlib.Analysis.Normed.Field.Lemmas
import Mathlib.Analysis.Normed.Group.AddTorsor
import WireframeGpu.Data.Chord
import WireframeGpu.Polygon.Projected
import WireframeGpu.Projection.Accuracy

namespace WireframeGpu.Projection

open WireframeGpu.Data WireframeGpu.PolygonRaster AffineMap

/-! A drawn side beside the true one: the picture of a line in space is a line on the
screen, and the points of the side keep to it. -/

/-- A place in the space of the model, in its units. -/
structure Place where
  x : ℚ
  y : ℚ
  z : ℚ

def place (v : Vertex) : Place := ⟨value v.x, value v.y, value v.z⟩

namespace Place

/-- Where a place is seen on the screen, by an eye three units in front of the origin. -/
def column (p : Place) : ℚ := (3 / 4 * p.x / (p.z + 3) + 1) * (319 / 2)

def row (p : Place) : ℚ := (p.y / (p.z + 3) + 1) * (239 / 2)

def between (p q : Place) (t : ℚ) : Place :=
  ⟨lineMap p.x q.x t, lineMap p.y q.y t, lineMap p.z q.z t⟩

variable {p q : Place} {t u : ℚ}

/-- How far along the picture of the line a place of the line is seen. -/
def share (p q : Place) (t : ℚ) : ℚ := t * (q.z + 3) / lineMap (p.z + 3) (q.z + 3) t

theorem depth_between (p q : Place) (t : ℚ) :
    (between p q t).z + 3 = lineMap (p.z + 3) (q.z + 3) t := by
  simp only [between, lineMap_apply_ring']
  ring

section

variable (ahead : 0 < p.z + 3) (ahead' : 0 < q.z + 3)

include ahead ahead'

theorem share_bounds (lower : 0 ≤ t) (upper : t ≤ 1) : 0 ≤ share p q t ∧ share p q t ≤ 1 := by
  have depth := Chord.lineMap_pos ahead ahead' lower upper
  refine ⟨by rw [share]; positivity, ?_⟩
  rw [share, div_le_one depth, lineMap_apply_ring']
  have rest := mul_nonneg (sub_nonneg.mpr upper) ahead.le
  linarith

/-- The picture of a line in space is a line on the screen. -/
theorem between_seen (lower : 0 ≤ t) (upper : t ≤ 1) :
    (between p q t).column = lineMap p.column q.column (share p q t) ∧
      (between p q t).row = lineMap p.row q.row (share p q t) := by
  have across : (between p q t).x / ((between p q t).z + 3) =
      lineMap (p.x / (p.z + 3)) (q.x / (q.z + 3)) (share p q t) := by
    rw [depth_between]
    exact Chord.lineMap_div ahead ahead' lower upper
  have down : (between p q t).y / ((between p q t).z + 3) =
      lineMap (p.y / (p.z + 3)) (q.y / (q.z + 3)) (share p q t) := by
    rw [depth_between]
    exact Chord.lineMap_div ahead ahead' lower upper
  constructor
  · rw [column, mul_div_assoc, across]
    simp only [column, lineMap_apply_ring']
    ring
  · rw [row, down]
    simp only [row, lineMap_apply_ring']
    ring

/-- Each place of that line on the screen is the picture of a place in space. -/
theorem share_onto (lower : 0 ≤ u) (upper : u ≤ 1) : ∃ t, (0 ≤ t ∧ t ≤ 1) ∧ share p q t = u := by
  have depth := Chord.lineMap_pos ahead' ahead lower upper
  have depth' := depth.ne'
  refine ⟨u * (p.z + 3) / lineMap (q.z + 3) (p.z + 3) u, ?_, ?_⟩
  · exact share_bounds ahead' ahead lower upper
  · rw [lineMap_apply_ring'] at depth'
    have near := ahead'.ne'
    simp only [share, lineMap_apply_ring']
    have whole : u * (p.z + 3) / (u * (p.z + 3 - (q.z + 3)) + (q.z + 3)) * (q.z + 3 - (p.z + 3)) +
        (p.z + 3) = (p.z + 3) * (q.z + 3) / (u * (p.z + 3 - (q.z + 3)) + (q.z + 3)) := by
      field_simp
      ring
    have far := ahead.ne'
    rw [whole]
    field_simp

end

end Place

variable {v a b : Vertex}

theorem quotient_bounds {c d : ℚ} (positive : 0 < d) (within : |c| ≤ d) :
    0 ≤ c / d + 1 ∧ c / d + 1 ≤ 2 := by
  have size : |c / d| ≤ 1 := by
    rw [abs_div, abs_of_pos positive]
    exact div_le_one_of_le₀ within positive.le
  rw [abs_le] at size
  exact ⟨by linarith [size.1], by linarith [size.2]⟩

theorem value_abs (w : BitVec 32) : |value w| = |(w.toInt : ℚ)| / 2 ^ 15 := by
  rw [value, abs_div, abs_of_pos (show (0 : ℚ) < 2 ^ 15 by norm_num)]

/-- A visible vertex is seen on the screen. -/
theorem Visible.seen (visible : Visible v) : (0 ≤ exactColumn v ∧ exactColumn v ≤ 319) ∧
    0 ≤ exactRow v ∧ exactRow v ≤ 239 := by
  obtain ⟨d, exact_d⟩ : ∃ d : ℚ, d = (v.z.toInt + 3 * 2 ^ 15 : Int) := ⟨_, rfl⟩
  have depth : value v.z + 3 = d / 2 ^ 15 := by
    rw [value, exact_d]
    push_cast
    ring
  have ahead : 0 < d := by
    rw [exact_d]
    exact_mod_cast visible.ahead
  have positive : 0 < value v.z + 3 := by rw [depth]; positivity
  have wide : 3 * |(v.x.toInt : ℚ)| ≤ 4 * d := by
    rw [exact_d]
    exact_mod_cast visible.wide
  have tall : |(v.y.toInt : ℚ)| ≤ d := by
    rw [exact_d]
    exact_mod_cast visible.tall
  have across : |3 / 4 * value v.x| ≤ value v.z + 3 := by
    have narrow : 3 / 4 * |(v.x.toInt : ℚ)| ≤ d := by linarith
    rw [abs_mul, value_abs, abs_of_pos (show (0 : ℚ) < 3 / 4 by norm_num), depth, ← mul_div_assoc]
    gcongr
  have down : |value v.y| ≤ value v.z + 3 := by
    rw [value_abs, depth]
    gcongr
  obtain ⟨left, right⟩ := quotient_bounds positive across
  obtain ⟨top, bottom⟩ := quotient_bounds positive down
  rw [exactColumn, exactRow]
  exact ⟨⟨by linarith, by linarith⟩, by linarith, by linarith⟩

theorem Visible.depicted (visible : Visible v) : Depicted v := by
  obtain ⟨⟨left, right⟩, top, bottom⟩ := visible.seen
  refine ⟨visible.columnInRange, visible.rowInRange, visible.ahead, visible.depthInRange, ?_, ?_⟩
  · rw [abs_of_nonneg left]
    linarith
  · rw [abs_of_nonneg top]
    linarith

theorem slice_of_toInt {w : BitVec 32} {n : Int} (whole : w.toInt = 2 ^ 15 * n) (lower : 0 ≤ n)
    (upper : n < 2 ^ 9) : ((w.extractLsb' 15 9).toNat : Int) = n := by
  have sign := w.toInt_eq_toNat_cond
  have small := w.isLt
  rw [BitVec.extractLsb'_toNat, Nat.shiftRight_eq_div_pow]
  split at sign <;> omega

/-- The pixel of a coordinate that is seen at `exact`. -/
theorem slice_close {w : BitVec 32} {n : Int} {last : Nat} {exact : ℚ} (small : last < 2 ^ 9)
    (whole : w.toInt = 2 ^ 15 * n) (seen : 0 ≤ exact ∧ exact ≤ last)
    (close : |(n : ℚ) - exact| ≤ 0.52) : |((w.extractLsb' 15 9).toNat : ℚ) - exact| ≤ 0.52 := by
  have bounds := abs_le.mp close
  have above : (-1 : ℚ) < n := by linarith [bounds.1, seen.1]
  have below : (n : ℚ) < last + 1 := by linarith [bounds.2, seen.2]
  have above' : -1 < n := by exact_mod_cast above
  have below' : n < last + 1 := by exact_mod_cast below
  have pixel := slice_of_toInt whole (by omega) (by omega)
  have pixel' : ((w.extractLsb' 15 9).toNat : ℚ) = n := by exact_mod_cast pixel
  rwa [pixel']

theorem value_deep {w : BitVec 32} (deep : 0 ≤ w.toInt) : 0 ≤ value w := by
  have back : (0 : ℚ) ≤ w.toInt := by exact_mod_cast deep
  rw [value]
  positivity

/-- From the origin backwards, a visible vertex is drawn within 0.52 pixels of its place. -/
theorem pixel_close (visible : Visible v) (deep : 0 ≤ v.z.toInt) :
    |((pixel v).1 : ℚ) - (place v).column| ≤ 0.52 ∧ |((pixel v).2 : ℚ) - (place v).row| ≤ 0.52 := by
  have depicted := visible.depicted
  obtain ⟨across, down⟩ := visible.seen
  obtain ⟨positive, -, exact_d⟩ := depicted.depth
  have far : (2 ^ 15 * 3 : ℚ) ≤ (v.z + three).toNat := by
    rw [exact_d]
    linarith [value_deep deep]
  have part : (12288 / ((v.z + three).toNat : ℚ)) ≤ 1 / 8 := by
    rw [div_le_iff₀ (by linarith)]
    linarith
  have wide := nearest_place 319 positive depicted.column_close
  have tall := nearest_place 239 positive depicted.row_close
  rw [Nat.cast_ofNat] at wide tall
  constructor
  · refine slice_close (show 319 < 2 ^ 9 by decide) depicted.column_toInt across (wide.trans ?_)
    linarith
  · refine slice_close (show 239 < 2 ^ 9 by decide) depicted.row_toInt down (tall.trans ?_)
    linarith

theorem place_ahead (deep : 0 ≤ v.z.toInt) : 0 < (place v).z + 3 :=
  add_pos_of_nonneg_of_pos (value_deep deep) (by norm_num)

/-! Of a side, both ends of which are close to their places. -/

section

variable (first : Visible a ∧ 0 ≤ a.z.toInt) (second : Visible b ∧ 0 ≤ b.z.toInt)

include first second

theorem ends_close {u : ℚ} (lower : 0 ≤ u) (upper : u ≤ 1) :
    |lineMap ((edge a b).x0 : ℚ) ((edge a b).x1 : ℚ) u -
        lineMap (place a).column (place b).column u| ≤ 0.52 ∧
      |lineMap ((edge a b).y0 : ℚ) ((edge a b).y1 : ℚ) u -
        lineMap (place a).row (place b).row u| ≤ 0.52 := by
  obtain ⟨across, down⟩ := pixel_close first.1 first.2
  obtain ⟨across', down'⟩ := pixel_close second.1 second.2
  exact ⟨Chord.lineMap_close across across' lower upper, Chord.lineMap_close down down' lower upper⟩

/-- Every point of the drawn side is within 1.02 pixels of the picture of the true one. -/
theorem edge_near {p : Nat × Nat} (drawn : p ∈ (edge a b).points) : ∃ t : ℚ, (0 ≤ t ∧ t ≤ 1) ∧
    |(p.1 : ℚ) - (Place.between (place a) (place b) t).column| ≤ 1.02 ∧
      |(p.2 : ℚ) - (Place.between (place a) (place b) t).row| ≤ 1.02 := by
  obtain ⟨u, ⟨lower, upper⟩, near, near'⟩ := Chord.near (K := ℚ) (edge a b) drawn
  obtain ⟨t, ⟨early, late⟩, seen⟩ :=
    Place.share_onto (place_ahead first.2) (place_ahead second.2) lower upper
  obtain ⟨column, row⟩ :=
    Place.between_seen (place_ahead first.2) (place_ahead second.2) early late
  obtain ⟨close, close'⟩ := ends_close first second lower upper
  rw [seen] at column row
  refine ⟨t, ⟨early, late⟩, ?_, ?_⟩
  · rw [column]
    have total := (abs_sub_le _ _ _).trans (add_le_add near close)
    norm_num at total ⊢
    exact total
  · rw [row]
    have total := (abs_sub_le _ _ _).trans (add_le_add near' close')
    norm_num at total ⊢
    exact total

/-- Every place of the true side is seen within 1.52 pixels of a drawn point. -/
theorem edge_covered {t : ℚ} (early : 0 ≤ t) (late : t ≤ 1) : ∃ p ∈ (edge a b).points,
    |(p.1 : ℚ) - (Place.between (place a) (place b) t).column| ≤ 1.52 ∧
      |(p.2 : ℚ) - (Place.between (place a) (place b) t).row| ≤ 1.52 := by
  obtain ⟨lower, upper⟩ :=
    Place.share_bounds (place_ahead first.2) (place_ahead second.2) early late
  obtain ⟨column, row⟩ :=
    Place.between_seen (place_ahead first.2) (place_ahead second.2) early late
  obtain ⟨p, drawn, near, near'⟩ := Chord.covered (edge a b) lower upper
  obtain ⟨close, close'⟩ := ends_close first second lower upper
  refine ⟨p, drawn, ?_, ?_⟩
  · rw [column]
    have total := (abs_sub_le _ _ _).trans (add_le_add near close)
    norm_num at total ⊢
    exact total
  · rw [row]
    have total := (abs_sub_le _ _ _).trans (add_le_add near' close')
    norm_num at total ⊢
    exact total

end

end WireframeGpu.Projection
