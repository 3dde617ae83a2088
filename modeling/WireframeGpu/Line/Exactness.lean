import WireframeGpu.Line.Run

namespace WireframeGpu.Linerasterize

open WireframeGpu.Data

variable {r : Registers} {e : Endpoints} {s : Segment}

def majorOf (s : Segment) (word : BitVec 18) : Nat :=
  if s.steep then (word.extractLsb' 0 9).toNat else (word.extractLsb' 9 9).toNat

def minorOf (s : Segment) (word : BitVec 18) : Nat :=
  if s.steep then (word.extractLsb' 9 9).toNat else (word.extractLsb' 0 9).toNat

theorem pixelWord_x {p : Nat × Nat} (small : p.1 ≤ 511) :
    ((pixelWord p).extractLsb' 9 9).toNat = p.1 := by
  have high : (pixelWord p).extractLsb' 9 9 = BitVec.ofNat 9 p.1 := by
    simp only [pixelWord]
    exact BitVec.extractLsb'_append_eq_left
  rw [high, BitVec.toNat_ofNat]
  omega

theorem pixelWord_y {p : Nat × Nat} (small : p.2 ≤ 511) :
    ((pixelWord p).extractLsb' 0 9).toNat = p.2 := by
  have low : (pixelWord p).extractLsb' 0 9 = BitVec.ofNat 9 p.2 := by
    simp only [pixelWord]
    exact BitVec.extractLsb'_append_eq_right
  rw [low, BitVec.toNat_ofNat]
  omega

theorem majorOf_point {column : Nat} (inside : column ≤ s.major)
    (room : s.majorMax ≤ 511 ∧ s.minorMax ≤ 511) :
    majorOf s (pixelWord (s.point column)) = s.majorMin + column ∧
      minorOf s (pixelWord (s.point column)) = s.ordinate column := by
  have width := s.majorMax_eq
  have bounds := s.ordinate_bounds inside
  simp only [majorOf, minorOf, Segment.point]
  split
  · exact ⟨pixelWord_y (by simp only; omega), pixelWord_x (by simp only; omega)⟩
  · exact ⟨pixelWord_x (by simp only; omega), pixelWord_y (by simp only; omega)⟩

theorem ordinate_signed {column : Nat} (inside : column ≤ s.major) :
    (s.ordinate column : Int) =
      if s.falling then s.minorStart - ((2 * column * s.minor + s.major) / (2 * s.major) : Nat)
      else s.minorStart + ((2 * column * s.minor + s.major) / (2 * s.major) : Nat) := by
  cases falling : s.falling
  · simp [Segment.ordinate, falling, Bresenham.offset]
  · have exact := s.ordinate_falling falling inside
    simp only [Bresenham.offset] at exact
    simp only [↓reduceIte]
    omega

theorem endpoint_words (e : Endpoints) :
    e.x0 ++ e.y0 ∈ drawn e.segment (e.segment.major + 1) ∧
      e.x1 ++ e.y1 ∈ drawn e.segment (e.segment.major + 1) := by
  obtain ⟨first, last⟩ := e.segment.endpoints_mem
  rw [drawn_all]
  constructor
  · exact List.mem_map.mpr ⟨_, first, by simp [pixelWord, Endpoints.segment]⟩
  · exact List.mem_map.mpr ⟨_, last, by simp [pixelWord, Endpoints.segment]⟩

theorem Course.drawn_prefix {count : Nat} (course : Course s r count) :
    drawn s count <+: drawn s (s.major + 1) := by
  have short : count ≤ s.major + 1 := by
    cases state : r.state <;> simp only [Course, state] at course <;> omega
  obtain ⟨rest, total⟩ := Nat.exists_eq_add_of_le short
  rw [total]
  simp only [drawn, List.range_add, List.map_append]
  exact List.prefix_append _ _

theorem is_done_rises (idle : r.state = .initial) (below : e.segment.majorMax ≠ 511) :
    ∃ cycle, (run r e (cycle + 1)).state = .done ∧ (run r e (cycle + 1)).isDone = false ∧
      (run r e (cycle + 2)).isDone = true := by
  obtain ⟨cycle, done⟩ := reaches_done (e := e) idle below
  obtain ⟨count, course, _⟩ := run_course_below (e := e) idle below cycle
  simp only [Course, done] at course
  refine ⟨cycle, done, course.1.1, ?_⟩
  rw [run_succ, (Registers.clock_done done).1]

theorem majorMax_of_bounded (bounded : (e.x0 ≤ 510 ∧ e.y0 ≤ 510) ∧ e.x1 ≤ 510 ∧ e.y1 ≤ 510) :
    e.segment.majorMax ≠ 511 := by
  have top : (510 : BitVec 9).toNat = 510 := rfl
  simp only [BitVec.le_def, top] at bounded
  have maxX : e.segment.maxX ≤ 510 := by simp only [Segment.maxX, Endpoints.segment]; omega
  have maxY : e.segment.maxY ≤ 510 := by simp only [Segment.maxY, Endpoints.segment]; omega
  simp only [Segment.majorMax]
  split <;> omega

/-- `linerasterize` draws the midpoint line of its endpoints: every run from
`INITIAL` writes those words and no others, in order, and counts them. -/
theorem draws_midpoint_line (r : Registers) (e : Endpoints) (idle : r.state = .initial)
    (bounded : (e.x0 ≤ 510 ∧ e.y0 ≤ 510) ∧ e.x1 ≤ 510 ∧ e.y1 ≤ 510) :
    ∃ words : List (BitVec 18), words.length = e.segment.major + 1 ∧
      (∀ column ≤ e.segment.major, ∃ word, words[column]? = some word ∧
        majorOf e.segment word = e.segment.majorMin + column ∧
        (minorOf e.segment word : Int) =
          if e.segment.falling then e.segment.minorStart -
            ((2 * column * e.segment.minor + e.segment.major) / (2 * e.segment.major) : Nat)
          else e.segment.minorStart +
            ((2 * column * e.segment.minor + e.segment.major) / (2 * e.segment.major) : Nat)) ∧
      (e.x0 ++ e.y0 ∈ words ∧ e.x1 ++ e.y1 ∈ words) ∧
      (∀ cycle, pushed r e cycle <+: words) ∧
      (∃ cycle, (run r e (cycle + 1)).isDone = false ∧ (run r e (cycle + 2)).isDone = true) ∧
      (∀ cycle, (run r e (cycle + 1)).isDone = true →
        pushed r e (cycle + 1) = words ∧
          (run r e (cycle + 1)).fifoSize.toNat = e.segment.major + 1) ∧
      ∀ cycle column, (run r e (cycle + 1)).state = .s2 →
        (pushed r e (cycle + 1)).length = column + 1 →
        (run r e (cycle + 1)).p.toInt =
          Bresenham.error e.segment.major e.segment.minor column ∧
        (run r e (cycle + 1)).p.getLsbD 31 = decide ((run r e (cycle + 1)).p.toInt < 0) := by
  have below := majorMax_of_bounded bounded
  refine ⟨drawn e.segment (e.segment.major + 1), drawn_length _ _, ?_, endpoint_words e, ?_,
    ?_, ?_, ?_⟩
  · intro column inside
    obtain ⟨major, minor⟩ := majorOf_point inside ⟨majorMax_le e, minorMax_le e⟩
    refine ⟨pixelWord (e.segment.point column), ?_, major, ?_⟩
    · simp [drawn, Nat.lt_succ_of_le inside]
    · rw [minor]
      exact ordinate_signed inside
  · intro cycle
    cases cycle with
    | zero => exact List.nil_prefix
    | succ cycle =>
        obtain ⟨count, course, words⟩ := run_course_below (e := e) idle below cycle
        rw [words]
        exact course.drawn_prefix
  · obtain ⟨cycle, _, low, high⟩ := is_done_rises (e := e) idle below
    exact ⟨cycle, low, high⟩
  · intro cycle done
    obtain ⟨count, course, words⟩ := run_course_below (e := e) idle below cycle
    obtain ⟨whole, size, _⟩ := course.finished done
    rw [words, whole]
    exact ⟨rfl, size⟩
  · intro cycle column state length
    obtain ⟨count, course, words⟩ := run_course_below (e := e) idle below cycle
    simp only [Course, state] at course
    obtain ⟨_, last, rfl, _, loop⟩ := course
    rw [words, drawn_length, Nat.add_right_cancel_iff] at length
    subst column
    exact loop.exact_p (major_le e)

theorem draws_midpoint_line_sample :
    (⟨7, 9, 2, 6⟩ : Endpoints).segment.major + 1 = 6 ∧
    ∃ words : List (BitVec 18), words.length = (⟨7, 9, 2, 6⟩ : Endpoints).segment.major + 1 ∧
      ∀ cycle, pushed {} ⟨7, 9, 2, 6⟩ cycle <+: words := by
  obtain ⟨words, length, _, _, order, _⟩ :=
    draws_midpoint_line {} ⟨7, 9, 2, 6⟩ rfl (by decide)
  exact ⟨rfl, words, length, order⟩

end WireframeGpu.Linerasterize
