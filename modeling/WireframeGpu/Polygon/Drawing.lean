import WireframeGpu.Line.Termination
import WireframeGpu.Polygon.Freshness

namespace WireframeGpu.PolygonRaster

open WireframeGpu.Data TriangleProjection Linerasterize

/-! The raster core and one of its thirty-six lines: what the line has drawn and
what its FIFO still holds. -/

variable {m : Megafunctions} {r : Registers} {i : Inputs} {line : Fin 36}

/-- The words pushed by each line since the last `startRaster`. -/
abbrev Pushed := Fin 36 → List (BitVec 18)

def pushes (r : Registers) (i : Inputs) (line : Fin 36) : Option (BitVec 18) :=
  (r.lines line).push ⟨r.ends line, (r.comb i).start line⟩

def record (r : Registers) (i : Inputs) (pushed : Pushed) : Pushed :=
  fun line => if i.startRaster then [] else pushed line ++ (pushes r i line).toList

def segment (r : Registers) (line : Fin 36) : Segment := (r.ends line).segment

/-! The wires to one line. -/

theorem start_eq (line : Fin 36) : (r.comb i).start line = (r.state == .startrast) := by
  cases state : r.state <;> simp only [Registers.comb, Registers.defaults, state] <;>
    (repeat' split) <;> rfl

theorem readFifo_eq (line : Fin 36) :
    (r.comb i).readFifo line =
      (r.state == .s5 && i.readCoord && line.val == r.muxselect.toNat) := by
  cases state : r.state <;> simp only [Registers.comb, Registers.defaults, state] <;>
    (repeat' split) <;> simp_all

theorem line_clock (quiet : r.state ≠ .startrast) (line : Fin 36) :
    (r.clock m i).lines line = (r.lines line).clock ⟨r.ends line, false⟩ ∧
      pushes r i line = (r.lines line).push ⟨r.ends line, false⟩ := by
  have low : (r.comb i).start line = false := by rw [start_eq, beq_false_of_ne quiet]
  rw [← low]
  exact ⟨rfl, rfl⟩

theorem fifo_clock (line : Fin 36) :
    (r.clock m i).fifos line = (r.fifos line).clock m.misuse (pushes r i line)
      (r.state == .s5 && i.readCoord && line.val == r.muxselect.toNat) := by
  rw [← readFifo_eq (i := i) line]
  rfl

theorem fifo_clock_unread (unread : r.state ≠ .s5) (line : Fin 36) :
    (r.clock m i).fifos line = (r.fifos line).clock m.misuse (pushes r i line) false := by
  rw [fifo_clock, beq_false_of_ne unread, Bool.false_and, Bool.false_and]

theorem ends_congr {r' : Registers} (same : r'.triangles = r.triangles) (line : Fin 36) :
    r'.ends line = r.ends line := by
  simp only [Registers.ends, Registers.screenX, Registers.screenY, same]

theorem segment_congr {r' : Registers} (same : r'.triangles = r.triangles) (line : Fin 36) :
    segment r' line = segment r line := by
  rw [segment, segment, ends_congr same]

theorem select_inside {α : Type} (a : Fin 36 → α) {index : BitVec 9} (outside : α)
    (inside : index.toNat < 36) : select a index outside = a ⟨index.toNat, inside⟩ :=
  dif_pos inside

/-! Where one line stands. -/

structure Empty (r : Registers) (line : Fin 36) : Prop where
  state : (r.lines line).state = .initial
  words : (r.fifos line).words = []

/-- The line is on course, and everything it drew is in its FIFO. -/
def Drawing (r : Registers) (pushed : Pushed) (line : Fin 36) : Prop :=
  ∃ count, Course (segment r line) (r.lines line) count ∧
    pushed line = drawn (segment r line) count ∧
    (r.fifos line).words = drawn (segment r line) count

/-- The line has drawn all its points, and `popped` of them have been read. -/
structure Drawn (r : Registers) (pushed : Pushed) (popped : Nat) (line : Fin 36) : Prop where
  state : (r.lines line).state = .initial
  isDone : (r.lines line).isDone = true
  size : (r.lines line).size.toNat = (segment r line).major + 1
  pushed : pushed line = drawn (segment r line) ((segment r line).major + 1)
  words : (r.fifos line).words =
    (drawn (segment r line) ((segment r line).major + 1)).drop popped

theorem Empty.hold (empty : Empty r line) (quiet : r.state ≠ .startrast) (unread : r.state ≠ .s5) :
    Empty (r.clock m i) line ∧ pushes r i line = none := by
  obtain ⟨clocked, wire⟩ := line_clock (m := m) (i := i) quiet line
  obtain ⟨same, none⟩ := Linerasterize.Registers.clock_initial (e := r.ends line) empty.state
  have silent : pushes r i line = .none := wire.trans none
  refine ⟨⟨?_, ?_⟩, silent⟩
  · rw [clocked, same]
    exact empty.state
  · rw [fifo_clock_unread unread, silent, Lineoutput.Registers.clock_idle]
    exact empty.words

theorem Drawing.room {pushed : Pushed} (drawing : Drawing r pushed line)
    (quiet : r.state ≠ .startrast) (pushing : (pushes r i line).isSome) :
    (r.fifos line).words.length < Lineoutput.depth := by
  obtain ⟨count, course, _, words⟩ := drawing
  have short := major_le (r.ends line)
  rw [words, drawn_length]
  rw [(line_clock (m := .initFiles) quiet line).2] at pushing
  by_cases looping : (r.lines line).state = .s1
  · simp only [Course, looping] at course
    obtain ⟨_, bound, loop⟩ := course
    by_cases inside : count ≤ (segment r line).major
    · exact Nat.lt_succ_of_le (Nat.le_trans inside short)
    · have stopped := (Linerasterize.Registers.clock_s1_stop (e := r.ends line) looping
        (mt loop.guard.mp inside)).2
      rw [stopped] at pushing
      cases pushing
  · rw [(Linerasterize.Registers.clock_state (e := r.ends line) looping).2] at pushing
    cases pushing

theorem Drawing.step {pushed : Pushed} (drawing : Drawing r pushed line)
    (quiet : r.state ≠ .startrast) (unread : r.state ≠ .s5) (idle : i.startRaster = false)
    (same : (r.clock m i).triangles = r.triangles) (below : (segment r line).majorMax ≠ 511) :
    Drawing (r.clock m i) (record r i pushed) line := by
  have room := drawing.room (i := i) quiet
  obtain ⟨count, course, words, stored⟩ := drawing
  obtain ⟨clocked, wire⟩ := line_clock (m := m) (i := i) quiet line
  have held := segment_congr same line
  rcases course.step.next with ⟨next, after, grown⟩ | endless
  · refine ⟨next, ?_, ?_, ?_⟩
    · rw [held, clocked]
      exact after
    · simp only [record, idle, Bool.false_eq_true, ↓reduceIte, held]
      rw [words, wire]
      exact grown.symm
    · rw [fifo_clock_unread unread, held]
      cases word : pushes r i line with
      | none =>
          rw [Lineoutput.Registers.clock_idle, stored]
          rw [← wire, word] at grown
          exact (grown.trans (List.append_nil _)).symm
      | some word' =>
          rw [word] at room
          rw [Lineoutput.Registers.clock_push (room rfl), stored]
          rw [← wire, word] at grown
          exact grown.symm
  · exact (below endless.top).elim

theorem Drawing.finish {pushed : Pushed} (drawing : Drawing r pushed line)
    (done : (r.lines line).isDone = true) (quiet : r.state ≠ .startrast) (unread : r.state ≠ .s5)
    (idle : i.startRaster = false) (same : (r.clock m i).triangles = r.triangles) :
    Drawn (r.clock m i) (record r i pushed) 0 line := by
  obtain ⟨count, course, words, stored⟩ := drawing
  obtain ⟨clocked, wire⟩ := line_clock (m := m) (i := i) quiet line
  obtain ⟨rfl, size, _⟩ := course.finished done
  have held := segment_congr same line
  obtain ⟨state', done', size', none⟩ := course.rests (e := r.ends line) done
  have silent : pushes r i line = .none := wire.trans none
  refine ⟨by rw [clocked, state'], by rw [clocked, done'], by rw [clocked, size', held, size],
    ?_, ?_⟩
  · simp [record, idle, silent, held, words]
  · rw [fifo_clock_unread unread, silent, Lineoutput.Registers.clock_idle, held, stored,
      List.drop_zero]

theorem Drawn.hold {pushed : Pushed} {popped : Nat} (done : Drawn r pushed popped line)
    (quiet : r.state ≠ .startrast) (idle : i.startRaster = false)
    (same : (r.clock m i).triangles = r.triangles)
    (unread : (r.state == .s5 && i.readCoord && line.val == r.muxselect.toNat) = false) :
    Drawn (r.clock m i) (record r i pushed) popped line ∧
      (r.clock m i).fifos line = r.fifos line := by
  obtain ⟨clocked, wire⟩ := line_clock (m := m) (i := i) quiet line
  obtain ⟨rests, none⟩ := Linerasterize.Registers.clock_initial (e := r.ends line) done.state
  have silent : pushes r i line = .none := wire.trans none
  have held := segment_congr same line
  have fifo : (r.clock m i).fifos line = r.fifos line := by
    rw [fifo_clock, silent, unread, Lineoutput.Registers.clock_idle]
  have recorded : record r i pushed line = pushed line := by
    simp [record, idle, silent]
  refine ⟨⟨?_, ?_, ?_, ?_, ?_⟩, fifo⟩
  · rw [clocked, rests]
    exact done.state
  · rw [clocked, rests]
    exact done.isDone
  · rw [clocked, rests, held]
    exact done.size
  · rw [recorded, held]
    exact done.pushed
  · rw [fifo, held]
    exact done.words

end WireframeGpu.PolygonRaster
