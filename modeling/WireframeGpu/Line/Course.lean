import WireframeGpu.Data.Segment
import WireframeGpu.Line.Rasterize

namespace WireframeGpu.Linerasterize

open WireframeGpu.Data

/-! The course of one run of the line FSM, from the clock after `start` to its
return to `INITIAL`, against the midpoint line of its endpoints. -/

def Endpoints.segment (e : Endpoints) : Segment :=
  ⟨e.x0.toNat, e.y0.toNat, e.x1.toNat, e.y1.toNat⟩

/-- The FIFO word `{x, y}` of a point. -/
def pixelWord (p : Nat × Nat) : BitVec 18 := BitVec.ofNat 9 p.1 ++ BitVec.ofNat 9 p.2

def drawn (s : Segment) (count : Nat) : List (BitVec 18) :=
  (List.range count).map fun column => pixelWord (s.point column)

theorem drawn_succ (s : Segment) (count : Nat) :
    drawn s (count + 1) = drawn s count ++ [pixelWord (s.point count)] := by
  simp [drawn, List.range_succ]

theorem drawn_all (s : Segment) : drawn s (s.major + 1) = s.points.map pixelWord := by
  simp [drawn, Segment.points]

@[simp] theorem drawn_length (s : Segment) (count : Nat) : (drawn s count).length = count := by
  simp [drawn]

def Working (r : Registers) : Prop := r.isDone = false ∧ r.isCalculating = true

structure Prepared (s : Segment) (r : Registers) : Prop where
  minX : r.minX.toNat = s.minX
  maxX : r.maxX.toNat = s.maxX
  minY : r.minY.toNat = s.minY
  maxY : r.maxY.toNat = s.maxY
  dx : r.dx.toNat = s.dx
  dy : r.dy.toNat = s.dy
  negslope : r.negslope = s.falling

/-- The loop registers: `column` is the next point to draw, or in `S2` the one
just drawn, and `count` the number of points drawn. -/
structure Loop (s : Segment) (r : Registers) (column count : Nat) : Prop where
  prepared : Prepared s r
  bigslope : r.bigslope = s.steep
  x : r.x.toNat = s.majorMin + count
  y : column ≤ s.major → r.y.toNat = s.ordinate column
  p : r.p = BitVec.ofInt 32 (Bresenham.error s.major s.minor column)
  size : r.size.toNat = count

def Course (s : Segment) (r : Registers) (count : Nat) : Prop :=
  match r.state with
  | .t1 => Working r ∧ count = 0
  | .t2 => Working r ∧ count = 0 ∧ r.minX.toNat = s.minX ∧ r.maxX.toNat = s.maxX
  | .t3 => Working r ∧ count = 0 ∧ r.minX.toNat = s.minX ∧ r.maxX.toNat = s.maxX ∧
      r.minY.toNat = s.minY ∧ r.maxY.toNat = s.maxY
  | .t4 => Working r ∧ count = 0 ∧ Prepared s r
  | .begin => Working r ∧ count = 0 ∧ Prepared s r ∧ r.bigslope = s.steep
  | .s1 => Working r ∧ count ≤ s.major + 1 ∧ Loop s r count count
  | .s2 => Working r ∧ ∃ column, count = column + 1 ∧ column ≤ s.major ∧ Loop s r column count
  | .done => Working r ∧ count = s.major + 1 ∧ r.size.toNat = count
  | .clearCalc => r.isDone = true ∧ r.isCalculating = true ∧
      count = s.major + 1 ∧ r.size.toNat = count
  | .initial => r.isDone = true ∧ r.isCalculating = false ∧
      count = s.major + 1 ∧ r.size.toNat = count
  | .s3 | .s4 | .wait1 | .wait2 => False

/-- The loop of a line that reaches the top of the coordinate range: its guard
compares a 9-bit counter with 511 and never fails. -/
structure Endless (s : Segment) (r : Registers) : Prop where
  working : Working r
  looping : r.state = .s1 ∨ r.state = .s2
  prepared : Prepared s r
  bigslope : r.bigslope = s.steep
  top : s.majorMax = 511

variable {e : Endpoints} {s : Segment} {r : Registers} {count column : Nat}

theorem Loop.point_word (loop : Loop s r count count) (inside : count ≤ s.major)
    (range : s.majorMax ≤ 511) :
    (if r.bigslope then r.y ++ r.x else r.x ++ r.y) = pixelWord (s.point count) := by
  have width := s.majorMax_eq
  have x : r.x = BitVec.ofNat 9 (s.majorMin + count) := by
    apply BitVec.eq_of_toNat_eq
    rw [loop.x, BitVec.toNat_ofNat]
    omega
  have y : r.y = BitVec.ofNat 9 (s.ordinate count) := by
    apply BitVec.eq_of_toNat_eq
    have small := r.y.isLt
    rw [loop.y inside] at small
    rw [loop.y inside, BitVec.toNat_ofNat, Nat.mod_eq_of_lt small]
  rw [loop.bigslope, x, y]
  simp only [pixelWord, Segment.point]
  split <;> rfl

theorem Loop.guard (loop : Loop s r count count) :
    (if r.bigslope then r.x ≤ r.maxY else r.x ≤ r.maxX) ↔ count ≤ s.major := by
  have width := s.majorMax_eq
  have x := loop.x
  have maxX := loop.prepared.maxX
  have maxY := loop.prepared.maxY
  simp only [Segment.majorMax] at width
  rw [loop.bigslope]
  split <;> rename_i steep <;> simp only [steep, ↓reduceIte, Bool.false_eq_true] at width <;>
    rw [BitVec.le_def] <;> omega

theorem Loop.exact_p (loop : Loop s r column count) (range : s.major ≤ 511) :
    r.p.toInt = Bresenham.error s.major s.minor column ∧
      r.p[31] = decide (r.p.toInt < 0) := by
  obtain ⟨lower, upper⟩ := Bresenham.error_bounds s.minor_le_major column
  have flat := s.minor_le_major
  constructor
  · rw [loop.p]
    exact BitVec.toInt_ofInt_eq_self (by decide) (by omega) (by omega)
  · rw [← BitVec.msb_eq_toInt, BitVec.msb_eq_getLsbD_last]
    rfl

theorem setWidth_eq (d : BitVec 9) : d.setWidth 32 = BitVec.ofInt 32 d.toNat := by
  apply BitVec.eq_of_toNat_eq
  simp

theorem twice_eq (d : BitVec 9) : Registers.twice d = BitVec.ofInt 32 (2 * d.toNat) := by
  apply BitVec.eq_of_toNat_eq
  simp [Registers.twice, BitVec.toNat_ofInt]
  omega

/-- One clock of a run: it draws at most the next point, and stays on course
unless the line reaches coordinate 511. -/
structure Advance (e : Endpoints) (r : Registers) (count : Nat) : Prop where
  next : (∃ next, Course e.segment (r.clock ⟨e, false⟩) next ∧
      drawn e.segment next = drawn e.segment count ++ (r.push ⟨e, false⟩).toList) ∨
    Endless e.segment (r.clock ⟨e, false⟩)

theorem maxX_le (e : Endpoints) : e.segment.maxX ≤ 511 := by
  have := e.x0.isLt
  have := e.x1.isLt
  simp only [Segment.maxX, Endpoints.segment]
  omega

theorem maxY_le (e : Endpoints) : e.segment.maxY ≤ 511 := by
  have := e.y0.isLt
  have := e.y1.isLt
  simp only [Segment.maxY, Endpoints.segment]
  omega

theorem majorMax_le (e : Endpoints) : e.segment.majorMax ≤ 511 := by
  simp only [Segment.majorMax]
  split
  · exact maxY_le e
  · exact maxX_le e

theorem major_le (e : Endpoints) : e.segment.major ≤ 511 := by
  have := e.segment.majorMax_eq
  have := majorMax_le e
  omega

theorem course_s1 (state : r.state = .s1) (working : Working r)
    (short : count ≤ e.segment.major + 1) (loop : Loop e.segment r count count) :
    Advance e r count := by
  have range := majorMax_le e
  have width := e.segment.majorMax_eq
  constructor
  by_cases inside : count ≤ e.segment.major
  · obtain ⟨next, pushed⟩ := r.clock_s1_draw (e := e) state (loop.guard.mpr inside)
    rw [next, pushed, loop.point_word inside range]
    by_cases top : e.segment.majorMin + count = 511
    · right
      exact ⟨working, .inr rfl, { loop.prepared with }, loop.bigslope, by omega⟩
    · left
      refine ⟨count + 1, ⟨working, count, rfl, inside, ?_⟩, drawn_succ _ _⟩
      have x := loop.x
      have size := loop.size
      exact ⟨{ loop.prepared with }, loop.bigslope, by simp [BitVec.toNat_add, x]; omega,
        loop.y, loop.p, by simp [BitVec.toNat_add, size]; omega⟩
  · obtain ⟨next, pushed⟩ := r.clock_s1_stop (e := e) state (mt loop.guard.mp inside)
    rw [next, pushed]
    left
    exact ⟨count, ⟨working, by omega, loop.size⟩, by simp⟩

theorem Loop.spans (loop : Loop s r column count) :
    (if r.bigslope then Registers.twice r.dx else Registers.twice r.dy) =
        BitVec.ofInt 32 (2 * s.minor) ∧
      (if r.bigslope then Registers.twice r.dy else Registers.twice r.dx) =
        BitVec.ofInt 32 (2 * s.major) := by
  rw [loop.bigslope, s.major_eq, s.minor_eq, twice_eq, twice_eq, loop.prepared.dx, loop.prepared.dy]
  split <;> exact ⟨rfl, rfl⟩

theorem Loop.next_p (loop : Loop s r column count) (range : s.major ≤ 511) :
    (if r.p[31] then (if r.bigslope then r.p + Registers.twice r.dx else r.p + Registers.twice r.dy)
      else (if r.bigslope then r.p + Registers.twice r.dx - Registers.twice r.dy
        else r.p + Registers.twice r.dy - Registers.twice r.dx)) =
      BitVec.ofInt 32 (Bresenham.error s.major s.minor (column + 1)) := by
  obtain ⟨minor, major⟩ := loop.spans
  have sum : BitVec.ofInt 32 (Bresenham.error s.major s.minor column + 2 * s.minor) =
      r.p + BitVec.ofInt 32 (2 * s.minor) := by rw [BitVec.ofInt_add, loop.p]
  have difference : BitVec.ofInt 32 (Bresenham.error s.major s.minor column + 2 * s.minor -
      2 * s.major) = r.p + BitVec.ofInt 32 (2 * s.minor) - BitVec.ofInt 32 (2 * s.major) := by
    rw [Int.sub_eq_add_neg, BitVec.ofInt_add, sum, BitVec.ofInt_neg, BitVec.sub_eq_add_neg]
  obtain ⟨exact_p, sign⟩ := loop.exact_p range
  rw [Bresenham.error_succ s.minor_le_major, sign, exact_p]
  by_cases rises : 0 ≤ Bresenham.error s.major s.minor column
  · rw [if_pos rises, difference, ← minor, ← major]
    simp only [Int.not_lt.mpr rises, decide_false, Bool.false_eq_true, ↓reduceIte]
    split <;> rfl
  · rw [if_neg rises, Int.sub_zero, sum, ← minor]
    simp only [Int.not_le.mp rises, decide_true, ↓reduceIte]
    split <;> rfl

theorem Loop.next_y (loop : Loop s r column count) (range : s.major ≤ 511)
    (inside : column < s.major) (room : s.minorMax ≤ 511) :
    (if r.p[31] then r.y else (if r.negslope then r.y - 1 else r.y + 1)).toNat =
      s.ordinate (column + 1) := by
  have y := loop.y (Nat.le_of_lt inside)
  have bounds : s.minorMin ≤ s.ordinate (column + 1) ∧ s.ordinate (column + 1) ≤ s.minorMax :=
    s.ordinate_bounds inside
  have next := s.ordinate_succ inside
  have one : (1 : BitVec 9).toNat = 1 := rfl
  obtain ⟨exact_p, sign⟩ := loop.exact_p range
  rw [sign, exact_p, loop.prepared.negslope]
  by_cases rises : 0 ≤ Bresenham.error s.major s.minor column
  · rw [if_pos rises] at next
    simp only [Int.not_lt.mpr rises, decide_false, Bool.false_eq_true, ↓reduceIte]
    cases falling : s.falling <;> simp only [falling, Bool.false_eq_true, ↓reduceIte] at next ⊢
    · rw [BitVec.toNat_add, y, one]
      omega
    · have positive := s.ordinate_pos falling inside rises
      rw [BitVec.toNat_sub, y, one]
      omega
  · rw [if_neg rises] at next
    simp only [Int.not_le.mp rises, decide_true, ↓reduceIte]
    rw [y, next]

theorem minorMax_le (e : Endpoints) : e.segment.minorMax ≤ 511 := by
  simp only [Segment.minorMax]
  split
  · exact maxX_le e
  · exact maxY_le e

theorem course_s2 (state : r.state = .s2) (working : Working r)
    (inside : column ≤ e.segment.major) (loop : Loop e.segment r column (column + 1)) :
    Advance e r (column + 1) := by
  have range := major_le e
  obtain ⟨clocked, pushed⟩ := r.clock_s2 (e := e) state
  constructor
  left
  rw [clocked, pushed]
  refine ⟨column + 1, ⟨working, by omega, { loop.prepared with }, loop.bigslope, loop.x, ?_, ?_,
    loop.size⟩, by simp⟩
  · intro later
    exact loop.next_y range later (minorMax_le e)
  · exact loop.next_p range

theorem toNat_ite_lt (a b : BitVec 9) : (if a < b then a else b).toNat = min a.toNat b.toNat := by
  split <;> rename_i order <;> rw [BitVec.lt_def] at order <;> omega

theorem toNat_ite_gt (a b : BitVec 9) : (if a > b then a else b).toNat = max a.toNat b.toNat := by
  split <;> rename_i order <;> rw [gt_iff_lt, BitVec.lt_def] at order <;> omega

theorem course_t3 (state : r.state = .t3) (working : Working r)
    (minX : r.minX.toNat = e.segment.minX) (maxX : r.maxX.toNat = e.segment.maxX)
    (minY : r.minY.toNat = e.segment.minY) (maxY : r.maxY.toNat = e.segment.maxY) :
    Advance e r 0 := by
  obtain ⟨clocked, pushed⟩ := r.clock_t3 (e := e) state
  constructor
  left
  rw [clocked, pushed]
  refine ⟨0, ⟨working, rfl, minX, maxX, minY, maxY, ?_, ?_, ?_⟩, by simp⟩
  · rw [BitVec.toNat_sub, minX, maxX]
    have := maxX_le e
    simp only [Segment.dx, Segment.minX, Segment.maxX] at this ⊢
    omega
  · rw [BitVec.toNat_sub, minY, maxY]
    have := maxY_le e
    simp only [Segment.dy, Segment.minY, Segment.maxY] at this ⊢
    omega
  · rfl

theorem course_begin (state : r.state = .begin) (working : Working r)
    (prepared : Prepared e.segment r) (bigslope : r.bigslope = e.segment.steep) :
    Advance e r 0 := by
  obtain ⟨clocked, pushed⟩ := r.clock_begin (e := e) state
  have dx := prepared.dx
  have dy := prepared.dy
  constructor
  left
  rw [clocked, pushed]
  refine ⟨0, ⟨working, Nat.zero_le _, { prepared with }, bigslope, ?_, ?_, ?_, rfl⟩, by simp⟩
  · simp only [Segment.majorMin, ← bigslope, Nat.add_zero]
    split
    · exact prepared.minY
    · exact prepared.minX
  · intro _
    simp only [Segment.ordinate, Bresenham.offset_zero, Segment.minorStart, Segment.minorMin,
      Segment.minorMax, ← bigslope, ← prepared.negslope, Nat.sub_zero, Nat.add_zero, ite_self]
    cases r.negslope <;> cases r.bigslope
    · exact prepared.minY
    · exact prepared.minX
    · exact prepared.maxY
    · exact prepared.maxX
  · rw [Bresenham.error_zero, e.segment.major_eq, e.segment.minor_eq, ← bigslope,
      Int.sub_eq_add_neg, BitVec.ofInt_add, BitVec.ofInt_neg, ← BitVec.sub_eq_add_neg]
    simp only [twice_eq, setWidth_eq, dx, dy]
    split <;> rfl

/-- Every clock of a run, one case per state. -/
theorem Course.step (course : Course e.segment r count) : Advance e r count := by
  cases state : r.state <;> simp only [Course, state] at course
  case initial =>
    obtain ⟨clocked, pushed⟩ := r.clock_initial (e := e) state
    exact ⟨.inl ⟨count, by rw [clocked]; simpa only [Course, state] using course, by simp [pushed]⟩⟩
  case t1 =>
    obtain ⟨working, rfl⟩ := course
    obtain ⟨clocked, pushed⟩ := r.clock_t1 (e := e) state
    refine ⟨.inl ⟨0, ?_, by simp [pushed]⟩⟩
    rw [clocked]
    exact ⟨working, rfl, toNat_ite_lt _ _, toNat_ite_gt _ _⟩
  case t2 =>
    obtain ⟨working, rfl, minX, maxX⟩ := course
    obtain ⟨clocked, pushed⟩ := r.clock_t2 (e := e) state
    refine ⟨.inl ⟨0, ?_, by simp [pushed]⟩⟩
    rw [clocked]
    exact ⟨working, rfl, minX, maxX, toNat_ite_lt _ _, toNat_ite_gt _ _⟩
  case t3 =>
    obtain ⟨working, rfl, minX, maxX, minY, maxY⟩ := course
    exact course_t3 state working minX maxX minY maxY
  case t4 =>
    obtain ⟨working, rfl, prepared⟩ := course
    obtain ⟨clocked, pushed⟩ := r.clock_t4 (e := e) state
    refine ⟨.inl ⟨0, ?_, by simp [pushed]⟩⟩
    rw [clocked]
    refine ⟨working, rfl, { prepared with }, ?_⟩
    simp only [gt_iff_lt, BitVec.lt_def, prepared.dx, prepared.dy, Segment.steep]
  case begin =>
    obtain ⟨working, rfl, prepared, bigslope⟩ := course
    exact course_begin state working prepared bigslope
  case s1 =>
    obtain ⟨working, short, loop⟩ := course
    exact course_s1 state working short loop
  case s2 =>
    obtain ⟨working, column, rfl, inside, loop⟩ := course
    exact course_s2 state working inside loop
  case done =>
    obtain ⟨working, whole, size⟩ := course
    obtain ⟨clocked, pushed⟩ := r.clock_done (e := e) state
    refine ⟨.inl ⟨count, ?_, by simp [pushed]⟩⟩
    rw [clocked]
    exact ⟨rfl, working.2, whole, size⟩
  case clearCalc =>
    obtain ⟨finished, _, whole, size⟩ := course
    obtain ⟨clocked, pushed⟩ := r.clock_clearCalc (e := e) state
    refine ⟨.inl ⟨count, ?_, by simp [pushed]⟩⟩
    rw [clocked]
    exact ⟨finished, rfl, whole, size⟩

theorem Course.start (s : Segment) (e : Endpoints) (state : r.state = .initial) :
    Course s (r.clock ⟨e, true⟩) 0 ∧ r.push ⟨e, true⟩ = none := by
  obtain ⟨clocked, pushed⟩ := r.clock_start (e := e) state
  rw [clocked]
  exact ⟨⟨⟨rfl, rfl⟩, rfl⟩, pushed⟩

def remaining (s : Segment) (r : Registers) (count : Nat) : Nat :=
  match r.state with
  | .t1 => 2 * (s.major + 1 - count) + 8
  | .t2 => 2 * (s.major + 1 - count) + 7
  | .t3 => 2 * (s.major + 1 - count) + 6
  | .t4 => 2 * (s.major + 1 - count) + 5
  | .begin => 2 * (s.major + 1 - count) + 4
  | .s1 => 2 * (s.major + 1 - count) + 3
  | .s2 => 2 * (s.major + 1 - count) + 4
  | .done => 2
  | .clearCalc => 1
  | .initial | .s3 | .s4 | .wait1 | .wait2 => 0

theorem Course.progress {next : Nat} (course : Course e.segment r count)
    (moving : r.state ≠ .initial)
    (pushed : drawn e.segment next = drawn e.segment count ++ (r.push ⟨e, false⟩).toList) :
    remaining e.segment (r.clock ⟨e, false⟩) next < remaining e.segment r count := by
  have lengths := congrArg List.length pushed
  simp only [drawn_length, List.length_append] at lengths
  cases state : r.state <;> simp only [Course, state] at course
  case initial => exact (moving state).elim
  case s1 =>
    obtain ⟨_, _, loop⟩ := course
    by_cases inside : count ≤ e.segment.major
    · obtain ⟨clocked, word⟩ := r.clock_s1_draw (e := e) state (loop.guard.mpr inside)
      simp only [word, Option.toList, List.length_singleton] at lengths
      simp only [remaining, state, clocked]
      omega
    · obtain ⟨clocked, word⟩ := r.clock_s1_stop (e := e) state (mt loop.guard.mp inside)
      simp only [remaining, state, clocked]
      omega
  all_goals
    obtain ⟨clocked, quiet⟩ := r.clock_state (e := e) (by simp [state])
    simp only [quiet, Option.toList, List.length_nil, Nat.add_zero] at lengths
    simp only [remaining, clocked, state, State.successor, lengths]
    omega

theorem Endless.step (endless : Endless s r) : Endless s (r.clock ⟨e, false⟩) := by
  have passes : if r.bigslope then r.x ≤ r.maxY else r.x ≤ r.maxX := by
    have top := endless.top
    have x := r.x.isLt
    simp only [Segment.majorMax, ← endless.bigslope] at top
    split <;> rename_i steep <;> rw [BitVec.le_def]
    · rw [if_pos steep] at top
      rw [endless.prepared.maxY]
      omega
    · rw [if_neg steep] at top
      rw [endless.prepared.maxX]
      omega
  have prepared := endless.prepared
  rcases endless.looping with state | state
  · rw [(r.clock_s1_draw state passes).1]
    exact ⟨endless.working, .inr rfl, { prepared with }, endless.bigslope, endless.top⟩
  · rw [(r.clock_s2 state).1]
    exact ⟨endless.working, .inl rfl, { prepared with }, endless.bigslope, endless.top⟩

end WireframeGpu.Linerasterize
