import WireframeGpu.Polygon.Frames

namespace WireframeGpu.PolygonRaster

open WireframeGpu.Data TriangleProjection Linerasterize

/-! How long a frame takes the raster core. -/

variable {m : Megafunctions} {r : Registers} {i : Inputs} {pushed : Pushed} {line : Fin 36}

/-- A bound on the clocks a line still takes; while it is on course, its FIFO
counts the points it has drawn. -/
def lineEffort (r : Registers) (line : Fin 36) : Nat :=
  remaining (segment r line) (r.lines line) (r.fifos line).words.length

def effort (r : Registers) : Nat :=
  match r.state with
  | .test4 => 42203
  | .test3 => 42202
  | .test2 => 42201
  | .test1 => 42200
  | .startproj => 37301 + projDelay r
  | .startrast => 37300
  | .start => ∑ line, lineEffort r line + (3 * (36 - r.counter.toNat) + 1)
  | .s3 => ∑ line, lineEffort r line + 3 * (36 - r.counter.toNat)
  | .s1 => ∑ line, lineEffort r line + (3 * (36 - r.counter.toNat) + 2)
  | .s4 => 1
  | _ => 0

def stored (r : Registers) : Nat := ∑ line, (r.fifos line).words.length

theorem remaining_le (e : Endpoints) (l : Linerasterize.Registers) (count : Nat) :
    remaining e.segment l count ≤ 1032 := by
  have short := major_le e
  simp only [remaining]
  split <;> omega

theorem lineEffort_sum_le (r : Registers) : ∑ line, lineEffort r line ≤ 37152 :=
  Finset.sum_le_card_nsmul _ _ 1032 fun line _ => remaining_le (r.ends line) _ _

theorem Drawing.lineEffort_step (drawing : Drawing r pushed line) (quiet : r.state ≠ .startrast)
    (unread : r.state ≠ .s5) (idle : i.startRaster = false)
    (same : (r.clock m i).triangles = r.triangles) (below : (segment r line).majorMax ≠ 511) :
    lineEffort (r.clock m i) line ≤ lineEffort r line ∧
      ((r.lines line).isDone = false →
        lineEffort (r.clock m i) line < lineEffort r line) := by
  obtain ⟨next, after, _, stored'⟩ := drawing.step (i := i) quiet unread idle same below
  obtain ⟨count, course, words, stored⟩ := drawing
  obtain ⟨clocked, wire⟩ := line_clock (m := m) (i := i) quiet line
  have held := segment_congr same line
  rw [held] at after stored'
  have lengths : ((r.clock m i).fifos line).words.length = next ∧
      (r.fifos line).words.length = count := by
    rw [stored', stored, drawn_length, drawn_length]
    exact ⟨rfl, rfl⟩
  simp only [lineEffort, held, lengths.1, lengths.2, clocked]
  by_cases resting : (r.lines line).state = .initial
  · have rests := Linerasterize.Registers.clock_initial (e := r.ends line) resting
    simp only [Course, resting] at course
    rw [rests.1]
    simp [remaining, resting, course.1]
  · have grown : drawn (segment r line) next =
        drawn (segment r line) count ++ ((r.lines line).push ⟨r.ends line, false⟩).toList := by
      rw [← stored', ← stored, fifo_clock_unread unread, wire]
      cases word : (r.lines line).push ⟨r.ends line, false⟩ with
      | none => simp
      | some word' =>
          have room := Drawing.room (i := i) ⟨count, course, words, stored⟩ quiet
            (by rw [wire, word]; rfl)
          rw [Lineoutput.Registers.clock_push room]
          rfl
    have less := course.progress resting grown
    exact ⟨Nat.le_of_lt less, fun _ => less⟩

theorem Scanning.effort_step {seen : Nat} (scanning : Scanning r pushed seen)
    (quiet : r.state ≠ .startrast) (unread : r.state ≠ .s5) (idle : i.startRaster = false)
    (same : (r.clock m i).triangles = r.triangles) :
    ∑ line, lineEffort (r.clock m i) line ≤ ∑ line, lineEffort r line ∧
      ((∃ line, (r.lines line).isDone = false) →
        ∑ line, lineEffort (r.clock m i) line < ∑ line, lineEffort r line) := by
  have each := fun line => (scanning.drawing line).lineEffort_step (m := m) quiet unread idle same
    (scanning.below line)
  exact ⟨Finset.sum_le_sum fun line _ => (each line).1, fun ⟨line, undone⟩ =>
    Finset.sum_lt_sum (fun line _ => (each line).1)
      ⟨line, Finset.mem_univ line, (each line).2 undone⟩⟩

theorem effort_startproj_le (phased : Phased r) (state : r.state = .startproj) :
    effort r ≤ 42161 := by
  have small := projDelay_le phased state
  simp only [effort, state]
  omega

theorem effort_scan (sound : Sound r pushed) (idle : i.startRaster = false)
    (scan : r.state = .start ∨ r.state = .s3 ∨ r.state = .s1) :
    effort (r.clock m i) < effort r := by
  have framed := sound.framed
  have settled := sound.settled (by rcases scan with state | state | state <;> simp [state])
  have same := triangles_hold (m := m) (i := i) settled
    (by rcases scan with state | state | state <;> simp [state])
  rcases scan with state | state | state <;> simp only [Framed, state] at framed <;>
    obtain ⟨inside, scanning⟩ := framed <;>
    obtain ⟨total, strict⟩ := scanning.effort_step (m := m) (i := i) (by simp [state])
      (by simp [state]) idle same
  · obtain ⟨_, counter, next⟩ := clock_start (m := m) idle state inside
    cases done : (r.lines ⟨r.counter.toNat, inside⟩).isDone
    · have less := strict ⟨_, done⟩
      have stays : (r.clock m i).state = .start ∨ (r.clock m i).state = .s3 := by
        rw [next]
        split <;> simp
      rcases stays with next | next <;> simp only [effort, state, next, counter] <;> omega
    · simp only [done, Bool.true_or, ↓reduceIte] at next
      simp only [effort, state, next, counter]
      omega
  · obtain ⟨_, next, counter⟩ := clock_s3 (m := m) idle state inside
    simp only [effort, state, next, counter]
    omega
  · by_cases all : r.counter.toNat = 36
    · have next := (clock_s1_last (m := m) idle state all).2.1
      simp only [effort, state, next]
      omega
    · obtain ⟨_, next, counter⟩ := clock_s1_next (m := m) idle state all
      simp only [effort, state, next, counter]
      omega

theorem Sound.effort_step (sound : Sound r pushed) (idle : i.startRaster = false)
    (filling : r.state.filling = true) : effort (r.clock m i) < effort r := by
  cases state : r.state <;> simp only [state, State.filling, Bool.false_eq_true] at filling
  case start | s3 | s1 => exact effort_scan sound idle (by simp [state])
  case startproj =>
    rcases startproj_progress (m := m) (i := i) sound.phased state with next | ⟨next, less⟩
    · simp only [effort, state, next]
      omega
    · simp only [effort, state, next]
      omega
  case startrast =>
    have framed := sound.framed
    simp only [Framed, state] at framed
    obtain ⟨_, next, counter⟩ := clock_startrast (m := m) idle state
    have zero : (r.clock m i).counter.toNat = 0 := by rw [counter, framed.1.counter]; rfl
    have total := lineEffort_sum_le (r.clock m i)
    simp only [effort, state, next, zero]
    omega
  case test1 =>
    have next : (r.clock m i).state = .startproj := by
      simp only [clock_state, Registers.comb, state]
    have small := effort_startproj_le (sound.phased.step (m := m) (i := i)) next
    have now : effort r = 42200 := by simp only [effort, state]
    omega
  all_goals simp [effort, state, clock_state, Registers.comb]

theorem Sound.effort_le (sound : Sound r pushed) : effort r ≤ 42203 := by
  have total := lineEffort_sum_le r
  cases state : r.state
  case startproj => exact Nat.le_trans (effort_startproj_le sound.phased state) (by decide)
  all_goals
    simp only [effort, state]
    omega

/-! The read-out. -/

theorem stored_le (sound : Sound r pushed) (reading : r.state = .s5 ∨ r.state = .s6) :
    stored r ≤ 18432 := by
  have framed := sound.framed
  obtain ⟨mux, current⟩ : ∃ mux, Reading r pushed mux := by
    rcases reading with state | state <;> simp only [Framed, state] at framed <;>
      exact ⟨framed.choose, framed.choose_spec.1⟩
  have each : ∀ line ∈ Finset.univ, (r.fifos line).words.length ≤ 512 := by
    intro line _
    have size := (current.drawn line).size
    have small := (r.lines line).size.isLt
    rw [(current.drawn line).words, List.length_drop, drawn_length]
    omega
  exact Finset.sum_le_card_nsmul _ _ 512 each

theorem stored_pop (sound : Sound r pushed) (idle : i.startRaster = false)
    (state : r.state = .s5) (asked : i.readCoord = true) :
    stored (r.clock m i) + 1 = stored r := by
  have settled := sound.settled (by simp [state])
  have same := triangles_hold (m := m) (i := i) settled (by simp [state])
  have framed := sound.framed
  simp only [Framed, state] at framed
  obtain ⟨mux, reading, more⟩ := framed
  have current := reading.current
  have held := segment_congr same mux
  have read : ((r.clock m i).fifos mux).words.length + 1 = (r.fifos mux).words.length := by
    have after := (current.pop (m := m) more state asked reading.muxselect idle same).1.words
    rw [after, current.words, held, List.length_drop, List.length_drop, drawn_length]
    omega
  have rest : ∀ line ∈ Finset.univ.erase mux,
      ((r.clock m i).fifos line).words.length = (r.fifos line).words.length := by
    intro line other
    have apart : line.val ≠ mux.val := fun equal => Finset.ne_of_mem_erase other (Fin.ext equal)
    rw [((reading.drawn line).hold (m := m) (by simp [state]) idle same
      (by simp [reading.muxselect, apart])).2]
  rw [stored, stored, ← Finset.add_sum_erase _ _ (Finset.mem_univ mux),
    ← Finset.add_sum_erase _ _ (Finset.mem_univ mux), Finset.sum_congr rfl rest, ← read]
  exact Nat.add_right_comm _ _ _

theorem stored_kept (sound : Sound r pushed) (idle : i.startRaster = false)
    (reading : r.state = .s6 ∨ (r.state = .s5 ∧ i.readCoord = false)) :
    stored (r.clock m i) = stored r := by
  have framed := sound.framed
  have late : r.state = .s5 ∨ r.state = .s6 := by
    rcases reading with state | ⟨state, _⟩ <;> simp [state]
  have quiet : r.state ≠ .startrast := by rcases late with state | state <;> simp [state]
  have settled := sound.settled (by rcases late with state | state <;> simp [state])
  have same := triangles_hold (m := m) (i := i) settled
    (by rcases late with state | state <;> simp [state])
  obtain ⟨mux, current⟩ : ∃ mux, Reading r pushed mux := by
    rcases late with state | state <;> simp only [Framed, state] at framed <;>
      exact ⟨framed.choose, framed.choose_spec.1⟩
  have unread : ∀ line : Fin 36,
      (r.state == .s5 && i.readCoord && line.val == r.muxselect.toNat) = false := by
    intro line
    rcases reading with state | ⟨state, unasked⟩
    · simp [state]
    · simp [unasked]
  simp only [stored, ((current.drawn _).hold (m := m) quiet idle same (unread _)).2]

/-- The points of the lines of a frame. -/
def total (r : Registers) : Nat := ∑ line, ((segment r line).major + 1)

theorem total_kept (same : (r.clock m i).triangles = r.triangles) :
    total (r.clock m i) = total r := by
  simp only [total, segment_congr same]

/-- Before the first word is read, the FIFOs hold all points. -/
theorem stored_unread (sound : Sound r pushed) (state : r.state = .s5)
    (unread : ∀ word, ¬ Shown r word) : stored r = total r := by
  have framed := sound.framed
  simp only [Framed, state] at framed
  obtain ⟨mux, reading, more⟩ := framed
  refine Finset.sum_congr rfl fun line _ => ?_
  have none : popped r mux r.counter.toNat line = 0 := by
    by_contra some
    have first : 0 < ((drawn (segment r line) ((segment r line).major + 1)).take
        (popped r mux r.counter.toNat line)).length := by
      rw [List.length_take, drawn_length]
      omega
    obtain ⟨word, read⟩ := List.exists_mem_of_length_pos first
    refine unread word ?_
    simp only [Shown, state, reading.muxselect]
    exact ⟨line, read⟩
  rw [(reading.drawn line).words, none, List.drop_zero, drawn_length]

end WireframeGpu.PolygonRaster
