import Mathlib.Analysis.Convex.Segment
import Mathlib.Tactic.FieldSimp
import WireframeGpu.Data.Segment

namespace WireframeGpu.Chord

open AffineMap Data

/-! Straight lines in the plane: how far the points of a midpoint line are from the
line they stand for, and what a central projection makes of a line in space. -/

variable {K : Type*} [Field K] [LinearOrder K] [IsStrictOrderedRing K]

section

variable {a b a' b' d d' t e : K}

/-- Ends that are off by `e` move no place between them by more. -/
theorem lineMap_close (first : |a' - a| ≤ e) (second : |b' - b| ≤ e) (lower : 0 ≤ t)
    (upper : t ≤ 1) : |lineMap a' b' t - lineMap a b t| ≤ e := by
  rw [lineMap_apply_ring', lineMap_apply_ring']
  have parts : t * (b' - a') + a' - (t * (b - a) + a) = (1 - t) * (a' - a) + t * (b' - b) := by ring
  have rest : 0 ≤ 1 - t := sub_nonneg.mpr upper
  rw [parts]
  calc |(1 - t) * (a' - a) + t * (b' - b)| ≤ |(1 - t) * (a' - a)| + |t * (b' - b)| := abs_add_le _ _
    _ = (1 - t) * |a' - a| + t * |b' - b| := by
      rw [abs_mul, abs_mul, abs_of_nonneg rest, abs_of_nonneg lower]
    _ ≤ (1 - t) * e + t * e := by gcongr
    _ = e := by ring

theorem lineMap_pos (positive : 0 < d) (positive' : 0 < d') (lower : 0 ≤ t) (upper : t ≤ 1) :
    0 < lineMap d d' t := by
  rw [lineMap_apply_ring']
  rcases eq_or_lt_of_le upper with rfl | inside
  · linarith
  · nlinarith [mul_pos (sub_pos.mpr inside) positive, mul_nonneg lower positive'.le]

/-- Seen from a point, a place between two others is between them. -/
theorem lineMap_div (positive : 0 < d) (positive' : 0 < d') (lower : 0 ≤ t) (upper : t ≤ 1) :
    lineMap a b t / lineMap d d' t = lineMap (a / d) (b / d') (t * d' / lineMap d d' t) := by
  have depth := (lineMap_pos positive positive' lower upper).ne'
  rw [lineMap_apply_ring'] at depth
  simp only [lineMap_apply_ring']
  field_simp
  ring

/-- Half the width of a pixel for each side. -/
theorem offset_close {major minor step : Nat} (positive : 0 < major) :
    |(Bresenham.offset major minor step : K) - step * minor / major| ≤ 1 / 2 := by
  have width : (0 : K) < major := by exact_mod_cast positive
  obtain ⟨lower, upper⟩ := Bresenham.offset_bounds positive minor step
  have lower' : (2 : K) * major * Bresenham.offset major minor step ≤ 2 * step * minor + major := by
    exact_mod_cast lower
  have upper' : (2 : K) * step * minor + major <
      2 * major * Bresenham.offset major minor step + 2 * major := by exact_mod_cast upper
  have share : (Bresenham.offset major minor step : K) - step * minor / major =
      (major * Bresenham.offset major minor step - step * minor) / major := by
    field_simp
  rw [share, abs_div, abs_of_pos width, div_le_iff₀ width, abs_le]
  constructor <;> linarith

end

section

variable (s : Segment) {column : Nat} {t e : K}

theorem ordinate_cast (inside : column ≤ s.major) : (s.ordinate column : K) =
    s.minorStart + (if s.falling then -1 else 1) * Bresenham.offset s.major s.minor column := by
  cases falling : s.falling
  · simp only [Segment.ordinate, falling, Bool.false_eq_true, ↓reduceIte, one_mul]
    push_cast
    rfl
  · have exact := s.ordinate_falling falling inside
    have exact' :
        (s.ordinate column : K) + Bresenham.offset s.major s.minor column = s.minorStart := by
      exact_mod_cast exact
    rw [← exact', if_pos rfl]
    ring

/-- The shorter axis, beside the line between the ends. -/
theorem ordinate_along (inside : column ≤ s.major) (close : |(column : K) - t * s.major| ≤ e) :
    |(s.ordinate column : K) - lineMap (s.ordinate 0 : K) (s.ordinate s.major : K) t| ≤
      1 / 2 + e := by
  have margin : 0 ≤ e := (abs_nonneg _).trans close
  have parts : (s.ordinate column : K) - lineMap (s.ordinate 0 : K) (s.ordinate s.major : K) t =
      (if s.falling then -1 else 1) * (Bresenham.offset s.major s.minor column - t * s.minor) := by
    rw [lineMap_apply_ring', ordinate_cast s inside, ordinate_cast s (Nat.zero_le _),
      ordinate_cast s le_rfl, Bresenham.offset_zero, s.offset_end, Nat.cast_zero]
    ring
  have sign : |(if s.falling then -1 else 1 : K)| = 1 := by split <;> simp
  rw [parts, abs_mul, sign, one_mul]
  rcases Nat.eq_zero_or_pos s.major with none | positive
  · have flat := s.minor_le_major
    have empty : s.minor = 0 := by omega
    have start : column = 0 := by omega
    rw [start, empty, Bresenham.offset_zero, Nat.cast_zero, mul_zero, sub_zero, abs_zero]
    positivity
  · have width : (0 : K) < s.major := by exact_mod_cast positive
    have flat : (s.minor : K) / s.major ≤ 1 := by
      rw [div_le_one width]
      exact_mod_cast s.minor_le_major
    have slope : (0 : K) ≤ s.minor / s.major := by positivity
    have moved : |(column : K) * s.minor / s.major - t * s.minor| ≤ e := by
      have share : (column : K) * s.minor / s.major - t * s.minor =
          (column - t * s.major) * (s.minor / s.major) := by field_simp
      rw [share, abs_mul, abs_of_nonneg slope]
      calc _ ≤ e * 1 := mul_le_mul close flat slope margin
        _ = e := mul_one e
    calc |(Bresenham.offset s.major s.minor column : K) - t * s.minor| ≤ _ :=
          abs_sub_le _ ((column : K) * s.minor / s.major) _
      _ ≤ 1 / 2 + e := add_le_add (offset_close positive) moved

theorem point_along (inside : column ≤ s.major) (close : |(column : K) - t * s.major| ≤ e) :
    |((s.point column).1 : K) - lineMap ((s.point 0).1 : K) ((s.point s.major).1 : K) t| ≤
      1 / 2 + e ∧
      |((s.point column).2 : K) - lineMap ((s.point 0).2 : K) ((s.point s.major).2 : K) t| ≤
        1 / 2 + e := by
  have minor := ordinate_along s inside close
  have major : |((s.majorMin + column : Nat) : K) -
      lineMap ((s.majorMin + 0 : Nat) : K) ((s.majorMin + s.major : Nat) : K) t| ≤ 1 / 2 + e := by
    have parts : ((s.majorMin + column : Nat) : K) -
        lineMap ((s.majorMin + 0 : Nat) : K) ((s.majorMin + s.major : Nat) : K) t =
        column - t * s.major := by
      rw [lineMap_apply_ring']
      push_cast
      ring
    rw [parts]
    linarith
  simp only [Segment.point]
  cases s.steep
  · exact ⟨major, minor⟩
  · exact ⟨minor, major⟩

omit [LinearOrder K] [IsStrictOrderedRing K] in
/-- The points are drawn from one corner to the other, in either direction. -/
theorem corners : (∀ t : K,
      lineMap ((s.point 0).1 : K) ((s.point s.major).1 : K) t = lineMap (s.x0 : K) (s.x1 : K) t ∧
      lineMap ((s.point 0).2 : K) ((s.point s.major).2 : K) t = lineMap (s.y0 : K) (s.y1 : K) t) ∨
    ∀ t : K,
      lineMap ((s.point 0).1 : K) ((s.point s.major).1 : K) t =
        lineMap (s.x0 : K) (s.x1 : K) (1 - t) ∧
      lineMap ((s.point 0).2 : K) ((s.point s.major).2 : K) t =
        lineMap (s.y0 : K) (s.y1 : K) (1 - t) := by
  rcases s.ends_cases with ⟨start, finish⟩ | ⟨start, finish⟩ <;> rw [start, finish]
  · exact .inl fun t => ⟨rfl, rfl⟩
  · exact .inr fun t => ⟨(lineMap_apply_one_sub _ _ t).symm, (lineMap_apply_one_sub _ _ t).symm⟩

/-- Every drawn point is within half a pixel of the line between the corners. -/
theorem near {p : Nat × Nat} (drawn : p ∈ s.points) : ∃ u : K, (0 ≤ u ∧ u ≤ 1) ∧
    |(p.1 : K) - lineMap (s.x0 : K) (s.x1 : K) u| ≤ 1 / 2 ∧
      |(p.2 : K) - lineMap (s.y0 : K) (s.y1 : K) u| ≤ 1 / 2 := by
  obtain ⟨column, inside, rfl⟩ := s.mem_points.mp drawn
  have inside' : (column : K) ≤ s.major := by exact_mod_cast inside
  have lower : (0 : K) ≤ column / s.major := by positivity
  have upper : (column / s.major : K) ≤ 1 := div_le_one_of_le₀ inside' (Nat.cast_nonneg _)
  have close : |(column : K) - column / s.major * s.major| ≤ 0 := by
    rcases Nat.eq_zero_or_pos s.major with none | positive
    · have start : column = 0 := by omega
      simp [start]
    · have width : (s.major : K) ≠ 0 := by exact_mod_cast positive.ne'
      rw [div_mul_cancel₀ _ width, sub_self, abs_zero]
  have along := point_along s inside close
  rw [add_zero] at along
  rcases corners (K := K) s with forward | backward
  · rw [(forward _).1, (forward _).2] at along
    exact ⟨_, ⟨lower, upper⟩, along⟩
  · rw [(backward _).1, (backward _).2] at along
    exact ⟨_, ⟨sub_nonneg.mpr upper, sub_le_self 1 lower⟩, along⟩

theorem column_near {n : Nat} {x : K} (lower : 0 ≤ x) (upper : x ≤ n) :
    ∃ column ≤ n, |(column : K) - x| ≤ 1 / 2 := by
  induction n with
  | zero =>
      have start : x = 0 := le_antisymm (by simpa using upper) lower
      exact ⟨0, le_rfl, by simp [start]⟩
  | succ n ih =>
      rcases le_total x n with before | after
      · obtain ⟨column, inside, close⟩ := ih before
        exact ⟨column, Nat.le_succ_of_le inside, close⟩
      · rw [Nat.cast_succ] at upper
        rcases le_total x (n + 1 / 2) with left | right
        · exact ⟨n, Nat.le_succ n, abs_le.mpr ⟨by linarith, by linarith⟩⟩
        · refine ⟨n + 1, le_rfl, abs_le.mpr ?_⟩
          rw [Nat.cast_succ]
          exact ⟨by linarith, by linarith⟩

/-- Every place of the line between the corners is within a pixel of a drawn point. -/
theorem covered {u : K} (lower : 0 ≤ u) (upper : u ≤ 1) : ∃ p ∈ s.points,
    |(p.1 : K) - lineMap (s.x0 : K) (s.x1 : K) u| ≤ 1 ∧
      |(p.2 : K) - lineMap (s.y0 : K) (s.y1 : K) u| ≤ 1 := by
  have reached : ∀ t : K, 0 ≤ t → t ≤ 1 → ∃ p ∈ s.points,
      |(p.1 : K) - lineMap ((s.point 0).1 : K) ((s.point s.major).1 : K) t| ≤ 1 ∧
        |(p.2 : K) - lineMap ((s.point 0).2 : K) ((s.point s.major).2 : K) t| ≤ 1 := by
    intro t lower upper
    have width : (0 : K) ≤ s.major := Nat.cast_nonneg _
    obtain ⟨column, inside, close⟩ :=
      column_near (mul_nonneg lower width) (mul_le_of_le_one_left width upper)
    have along := point_along s inside close
    rw [add_halves] at along
    exact ⟨_, s.mem_points.mpr ⟨column, inside, rfl⟩, along⟩
  rcases corners (K := K) s with forward | backward
  · obtain ⟨p, drawn, along⟩ := reached u lower upper
    rw [(forward _).1, (forward _).2] at along
    exact ⟨p, drawn, along⟩
  · obtain ⟨p, drawn, along⟩ := reached (1 - u) (sub_nonneg.mpr upper) (sub_le_self 1 lower)
    rw [(backward _).1, (backward _).2, sub_sub_cancel] at along
    exact ⟨p, drawn, along⟩

end

end WireframeGpu.Chord
