import WireframeGpu.Data.Bresenham

namespace WireframeGpu.Data

/-! The midpoint line between two points of the plane, in all eight octants.

The longer axis is walked from its smaller end, one column at a time; the
shorter one starts at the end that lies over that column and moves away from
it by `Bresenham.offset`.
-/

structure Segment where
  x0 : Nat
  y0 : Nat
  x1 : Nat
  y1 : Nat

namespace Segment

variable (s : Segment) {column : Nat}

def minX : Nat := min s.x0 s.x1
def maxX : Nat := max s.x0 s.x1
def minY : Nat := min s.y0 s.y1
def maxY : Nat := max s.y0 s.y1
def dx : Nat := s.maxX - s.minX
def dy : Nat := s.maxY - s.minY

/-- The vertical axis is the longer one. -/
def steep : Bool := s.dx < s.dy

/-- One coordinate grows while the other shrinks. -/
def falling : Bool := (s.x0 < s.x1 && s.y1 < s.y0) || (s.x1 < s.x0 && s.y0 < s.y1)

def major : Nat := max s.dx s.dy
def minor : Nat := min s.dx s.dy
def majorMin : Nat := if s.steep then s.minY else s.minX
def majorMax : Nat := if s.steep then s.maxY else s.maxX
def minorMin : Nat := if s.steep then s.minX else s.minY
def minorMax : Nat := if s.steep then s.maxX else s.maxY
def minorStart : Nat := if s.falling then s.minorMax else s.minorMin

def ordinate (column : Nat) : Nat :=
  if s.falling then s.minorStart - Bresenham.offset s.major s.minor column
  else s.minorStart + Bresenham.offset s.major s.minor column

def point (column : Nat) : Nat × Nat :=
  if s.steep then (s.ordinate column, s.majorMin + column)
  else (s.majorMin + column, s.ordinate column)

def points : List (Nat × Nat) := (List.range (s.major + 1)).map s.point

theorem major_eq : s.major = if s.steep then s.dy else s.dx := by
  simp only [major, steep, decide_eq_true_eq]
  split <;> omega

theorem minor_eq : s.minor = if s.steep then s.dx else s.dy := by
  simp only [minor, steep, decide_eq_true_eq]
  split <;> omega

theorem minor_le_major : s.minor ≤ s.major := by
  simp only [minor, major]
  omega

theorem majorMax_eq : s.majorMax = s.majorMin + s.major := by
  rw [major_eq]
  simp only [majorMax, majorMin, dx, dy, minX, maxX, minY, maxY]
  split <;> omega

theorem majorMax_le : s.majorMax ≤ max s.maxX s.maxY := by
  simp only [majorMax]
  split <;> omega

theorem minorMax_eq : s.minorMax = s.minorMin + s.minor := by
  rw [minor_eq]
  simp only [minorMax, minorMin, dx, dy, minX, maxX, minY, maxY]
  split <;> omega

theorem mem_points {p : Nat × Nat} : p ∈ s.points ↔ ∃ column ≤ s.major, s.point column = p := by
  simp only [points, List.mem_map, List.mem_range, Nat.lt_succ_iff]

/-- Every ordinate lies between the two ends of the shorter axis, so the
subtraction of a falling line is exact. -/
theorem ordinate_bounds (inside : column ≤ s.major) :
    s.minorMin ≤ s.ordinate column ∧ s.ordinate column ≤ s.minorMax := by
  have small := Bresenham.offset_le s.minor_le_major inside
  have width := s.minorMax_eq
  simp only [ordinate, minorStart]
  split <;> omega

theorem ordinate_falling (falling : s.falling) (inside : column ≤ s.major) :
    s.ordinate column + Bresenham.offset s.major s.minor column = s.minorStart := by
  have small := Bresenham.offset_le s.minor_le_major inside
  have width := s.minorMax_eq
  simp only [ordinate, minorStart, falling, if_true]
  omega

/-- One column on, the ordinate moves by one exactly when the decision term
is not negative. -/
theorem ordinate_succ (inside : column < s.major) :
    s.ordinate (column + 1) =
      if 0 ≤ Bresenham.error s.major s.minor column then
        (if s.falling then s.ordinate column - 1 else s.ordinate column + 1)
      else s.ordinate column := by
  have next := Bresenham.offset_succ (Nat.zero_lt_of_lt inside) s.minor_le_major column
  have small : Bresenham.offset s.major s.minor (column + 1) ≤ s.minor :=
    Bresenham.offset_le s.minor_le_major inside
  have width := s.minorMax_eq
  split at next <;> rename_i rises <;> simp only [ordinate, rises, ↓reduceIte, next] <;>
    split <;> omega

theorem ordinate_pos (falling : s.falling) (inside : column < s.major)
    (rises : 0 ≤ Bresenham.error s.major s.minor column) : 0 < s.ordinate column := by
  have next := Bresenham.offset_succ (Nat.zero_lt_of_lt inside) s.minor_le_major column
  rw [if_pos rises] at next
  have small : Bresenham.offset s.major s.minor (column + 1) ≤ s.minor :=
    Bresenham.offset_le s.minor_le_major inside
  have exact := s.ordinate_falling falling (Nat.le_of_lt inside)
  have width := s.minorMax_eq
  simp only [minorStart, falling, if_true] at exact
  omega

theorem point_bounds (inside : column ≤ s.major) :
    (s.minX ≤ (s.point column).1 ∧ (s.point column).1 ≤ s.maxX) ∧
      s.minY ≤ (s.point column).2 ∧ (s.point column).2 ≤ s.maxY := by
  have minor := s.ordinate_bounds inside
  have major := s.majorMax_eq
  simp only [point, minorMin, minorMax, majorMin, majorMax] at minor major ⊢
  cases steep : s.steep <;>
    simp only [steep, Bool.false_eq_true, ↓reduceIte] at minor major ⊢ <;>
    omega

theorem points_bounds {p : Nat × Nat} (drawn : p ∈ s.points) :
    (s.minX ≤ p.1 ∧ p.1 ≤ s.maxX) ∧ s.minY ≤ p.2 ∧ p.2 ≤ s.maxY := by
  obtain ⟨column, inside, rfl⟩ := s.mem_points.mp drawn
  exact s.point_bounds inside

theorem ordinate_zero : s.ordinate 0 = s.minorStart := by
  simp [ordinate, Bresenham.offset_zero]

theorem offset_end : Bresenham.offset s.major s.minor s.major = s.minor := by
  rcases Nat.eq_zero_or_pos s.major with none | positive
  · have flat := s.minor_le_major
    have empty : s.minor = 0 := by omega
    simp [none, empty, Bresenham.offset]
  · exact Bresenham.offset_last positive

private theorem ordinate_last :
    s.ordinate s.major = if s.falling then s.minorMin else s.minorMax := by
  have width := s.minorMax_eq
  simp only [ordinate, minorStart, s.offset_end]
  split <;> omega

/-- The first and the last point are the corners, in either order. -/
theorem ends_cases :
    (s.point 0 = (s.x0, s.y0) ∧ s.point s.major = (s.x1, s.y1)) ∨
      (s.point 0 = (s.x1, s.y1) ∧ s.point s.major = (s.x0, s.y0)) := by
  have major := s.majorMax_eq
  simp only [point, ordinate_zero, ordinate_last, ← major, minorStart, Nat.add_zero]
  simp only [majorMin, majorMax, minorMin, minorMax]
  cases steep : s.steep <;> cases falling : s.falling <;>
    simp only [Bool.false_eq_true, ↓reduceIte, Prod.mk.injEq] <;>
    simp only [Segment.steep, Segment.falling, decide_eq_true_eq, decide_eq_false_iff_not,
      Bool.or_eq_true, Bool.or_eq_false_iff, Bool.and_eq_true, Bool.and_eq_false_iff,
      dx, dy, minX, maxX, minY, maxY] at steep falling ⊢ <;>
    omega

theorem endpoints_mem : (s.x0, s.y0) ∈ s.points ∧ (s.x1, s.y1) ∈ s.points := by
  have first : s.point 0 ∈ s.points := s.mem_points.mpr ⟨0, Nat.zero_le _, rfl⟩
  have last : s.point s.major ∈ s.points := s.mem_points.mpr ⟨s.major, Nat.le_refl _, rfl⟩
  rcases s.ends_cases with ⟨start, finish⟩ | ⟨start, finish⟩
  · rw [start] at first
    rw [finish] at last
    exact ⟨first, last⟩
  · rw [start] at first
    rw [finish] at last
    exact ⟨last, first⟩

/-! The line does not depend on which of its ends is named first. -/

def swap : Segment := ⟨s.x1, s.y1, s.x0, s.y0⟩

theorem points_swap : s.swap.points = s.points := by
  have left : s.swap.minX = s.minX := min_comm _ _
  have right : s.swap.maxX = s.maxX := max_comm _ _
  have top : s.swap.minY = s.minY := min_comm _ _
  have bottom : s.swap.maxY = s.maxY := max_comm _ _
  have falls : s.swap.falling = s.falling := Bool.or_comm _ _
  have width : s.swap.dx = s.dx := by rw [dx, dx, left, right]
  have height : s.swap.dy = s.dy := by rw [dy, dy, top, bottom]
  have leans : s.swap.steep = s.steep := decide_eq_decide.mpr (by rw [width, height])
  have ordinates : s.swap.ordinate = s.ordinate := by
    funext column
    rw [ordinate, ordinate, minorStart, minorStart, minorMin, minorMin, minorMax, minorMax,
      major, major, minor, minor, leans, falls, left, right, top, bottom, width, height]
  have places : s.swap.point = s.point := by
    funext column
    rw [point, point, majorMin, majorMin, leans, ordinates, left, top]
  rw [points, points, major, major, places, width, height]

end Segment

end WireframeGpu.Data
