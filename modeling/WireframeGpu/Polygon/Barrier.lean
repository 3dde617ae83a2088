import WireframeGpu.Polygon.Control

namespace WireframeGpu.PolygonRaster

open WireframeGpu.Data TriangleProjection Linerasterize

/-! The scan of the thirty-six lines as a barrier.  Nothing is assumed of the
ports: `startRaster` may come in any cycle, and lines may be endless. -/

/-- What a line has done since `STARTRAST`. -/
structure Tally where
  pushed : List (BitVec 18) := []
  passedDone : Bool := false

def tally (r : Registers) (i : Inputs) (t : Fin 36 → Tally) (line : Fin 36) : Tally :=
  if r.state = .startrast then {}
  else
    { pushed := (t line).pushed ++ (pushes r i line).toList
      passedDone := (t line).passedDone || (r.lines line).state == .done }

variable {m : Megafunctions} {r : Registers} {i : Inputs} {line : Fin 36} {t : Fin 36 → Tally}

/-- The line is on the course that `STARTRAST` sent it on, which may be endless. -/
def Going (r : Registers) (t : Tally) (line : Fin 36) : Prop :=
  (∃ count, Course (segment r line) (r.lines line) count ∧
    t.pushed = drawn (segment r line) count ∧
    ((r.lines line).isDone = true → t.passedDone = true)) ∨
  Endless (segment r line) (r.lines line)

/-- The line has pushed its last point and is at rest again. -/
structure Passed (r : Registers) (t : Tally) (line : Fin 36) : Prop where
  state : (r.lines line).state = .initial
  isDone : (r.lines line).isDone = true
  passedDone : t.passedDone = true
  pushed : t.pushed = drawn (segment r line) ((segment r line).major + 1)
  size : (r.lines line).fifoSize.toNat = (segment r line).major + 1

structure Scanned (r : Registers) (t : Fin 36 → Tally) (seen : Nat) : Prop where
  going : ∀ line, Going r (t line) line
  passed : ∀ line, line.val < seen → Passed r (t line) line

/-- What the lines have done in each state of the core. -/
def Barrier (r : Registers) (t : Fin 36 → Tally) : Prop :=
  match r.state with
  | .initial => (∀ line, (r.lines line).state = .initial) ∧ (r.rasterDone = true →
      (∀ t, Settled (r.triangles t)) ∧ ∀ line, Passed r (t line) line)
  | .test4 | .test3 | .test2 | .test1 | .startproj | .startrast =>
      (∀ line, (r.lines line).state = .initial) ∧ r.rasterDone = false ∧ r.counter = 0
  | .start => r.rasterDone = false ∧ r.counter.toNat < 36 ∧ Scanned r t r.counter.toNat
  | .s3 => r.rasterDone = false ∧ r.counter.toNat < 36 ∧ Scanned r t (r.counter.toNat + 1)
  | .s1 => r.rasterDone = false ∧ r.counter.toNat ≤ 36 ∧ Scanned r t r.counter.toNat
  | .s4 | .s5 | .s6 => ∀ line, Passed r (t line) line
  | .s2 | .s7 => False

/-! One line. -/

theorem Going.flags {t : Tally} (going : Going r t line) :
    (r.lines line).isDone = true ∨ (r.lines line).isCalculating = true := by
  rcases going with ⟨count, course, _⟩ | endless
  · cases state : (r.lines line).state <;> simp only [Course, state, Working] at course <;>
      simp only [course, Bool.false_eq_true, or_true, true_or]
  · exact .inr endless.working.2

theorem Going.passedDone {t : Tally} (going : Going r t line)
    (isDone : (r.lines line).isDone = true) : t.passedDone = true := by
  rcases going with ⟨_, _, _, passed⟩ | endless
  · exact passed isDone
  · cases endless.working.1.symm.trans isDone

/-- Only the state `DONE` raises `is_done`. -/
theorem isDone_rises {l : Linerasterize.Registers} {e : Endpoints} (low : l.isDone = false)
    (high : (l.clock ⟨e, false⟩).isDone = true) : l.state = .done := by
  cases state : l.state <;>
    simp only [Linerasterize.Registers.clock, Linerasterize.Registers.comb,
      Linerasterize.Registers.defaults, state, low] at high <;>
    (repeat' split at high) <;> simp_all

theorem going_of_startrast (state : r.state = .startrast)
    (rests : (r.lines line).state = .initial) (same : (r.clock m i).triangles = r.triangles) :
    Going (r.clock m i) (tally r i t line) line := by
  have high : (r.comb i).start line = true := by rw [start_eq, state]; rfl
  have clocked : (r.clock m i).lines line = (r.lines line).clock ⟨r.ends line, true⟩ := by
    rw [← high]
    rfl
  have isDone : ((r.lines line).clock ⟨r.ends line, true⟩).isDone = false := by
    rw [(Linerasterize.Registers.clock_start (e := r.ends line) rests).1]
  left
  rw [segment_congr same line, clocked, tally, if_pos state, isDone]
  exact ⟨0, (Course.start _ _ rests).1, rfl, nofun⟩

theorem Going.step (going : Going r (t line) line) (quiet : r.state ≠ .startrast)
    (same : (r.clock m i).triangles = r.triangles) :
    Going (r.clock m i) (tally r i t line) line := by
  obtain ⟨clocked, wire⟩ := line_clock (m := m) (i := i) quiet line
  rw [Going, segment_congr same line, clocked, tally, if_neg quiet]
  rcases going with ⟨count, course, words, passed⟩ | endless
  · rcases course.step.next with ⟨next, after, grown⟩ | endless
    · refine .inl ⟨next, after, ?_, fun high => ?_⟩
      · rw [words, wire]
        exact grown.symm
      · cases before : (r.lines line).isDone
        · rw [isDone_rises before high]
          exact Bool.or_true _
        · rw [passed before]
          rfl
    · exact .inr endless
  · exact .inr endless.step

/-- A line that shows `is_done` has drawn everything and rests from the next clock on. -/
theorem Going.pass (going : Going r (t line) line) (isDone : (r.lines line).isDone = true)
    (quiet : r.state ≠ .startrast) (same : (r.clock m i).triangles = r.triangles) :
    Passed (r.clock m i) (tally r i t line) line := by
  have passedDone := going.passedDone isDone
  obtain ⟨clocked, wire⟩ := line_clock (m := m) (i := i) quiet line
  have held := segment_congr same line
  rcases going with ⟨count, course, words, _⟩ | endless
  · obtain ⟨state', isDone', size', none⟩ := course.rests (e := r.ends line) isDone
    obtain ⟨rfl, size, _⟩ := course.finished isDone
    have silent : pushes r i line = .none := wire.trans none
    refine ⟨by rw [clocked, state'], by rw [clocked, isDone'], ?_, ?_, ?_⟩
    · simp [tally, quiet, passedDone]
    · simp [tally, quiet, silent, held, words]
    · rw [Linerasterize.Registers.fifoSize, clocked, size', held, size]
  · cases endless.working.1.symm.trans isDone

theorem Passed.hold (passed : Passed r (t line) line) (quiet : r.state ≠ .startrast)
    (same : (r.clock m i).triangles = r.triangles) :
    Passed (r.clock m i) (tally r i t line) line := by
  obtain ⟨clocked, wire⟩ := line_clock (m := m) (i := i) quiet line
  obtain ⟨rests, none⟩ := Linerasterize.Registers.clock_initial (e := r.ends line) passed.state
  have silent : pushes r i line = .none := wire.trans none
  have held := segment_congr same line
  have recorded : tally r i t line = t line := by
    cases kept : t line
    simp [tally, quiet, silent, passed.state, kept]
  rw [recorded]
  refine ⟨?_, ?_, passed.passedDone, ?_, ?_⟩
  · rw [clocked, rests]
    exact passed.state
  · rw [clocked, rests]
    exact passed.isDone
  · rw [held]
    exact passed.pushed
  · rw [clocked, rests, held]
    exact passed.size

/-! The core.  `startRaster` clears `counter` and `rasterDone` in any state. -/

theorem counter_le (i : Inputs) :
    (r.clock m i).counter.toNat ≤ (r.comb i).counterIn.toNat := by
  simp only [Registers.clock]
  split
  · exact Nat.zero_le _
  · exact le_rfl

theorem rasterDone_low (low : (r.comb i).rasterDoneIn = false) :
    (r.clock m i).rasterDone = false := by
  simp only [Registers.clock, low, ite_self]

theorem Scanned.weaken {seen fewer : Nat} (scanned : Scanned r t seen) (less : fewer ≤ seen) :
    Scanned r t fewer :=
  ⟨scanned.going, fun line below => scanned.passed line (Nat.lt_of_lt_of_le below less)⟩

theorem Scanned.step {seen : Nat} (scanned : Scanned r t seen) (quiet : r.state ≠ .startrast)
    (same : (r.clock m i).triangles = r.triangles) :
    Scanned (r.clock m i) (tally r i t) seen :=
  ⟨fun line => (scanned.going line).step quiet same,
    fun line below => (scanned.passed line below).hold quiet same⟩

/-- A line that shows `is_done` when its turn comes joins the lines that have passed. -/
theorem Scanned.extend {seen : Nat} (scanned : Scanned r t seen) (inside : seen < 36)
    (isDone : (r.lines ⟨seen, inside⟩).isDone = true) (quiet : r.state ≠ .startrast)
    (same : (r.clock m i).triangles = r.triangles) :
    Scanned (r.clock m i) (tally r i t) (seen + 1) := by
  have kept := scanned.step (m := m) (i := i) quiet same
  refine ⟨kept.going, fun line below => ?_⟩
  rcases Nat.lt_or_eq_of_le (Nat.le_of_lt_succ below) with earlier | here
  · exact kept.passed line earlier
  · obtain rfl : line = ⟨seen, inside⟩ := Fin.ext here
    exact (scanned.going _).pass isDone quiet same

theorem resting_step (rests : ∀ line, (r.lines line).state = .initial)
    (quiet : r.state ≠ .startrast) (line : Fin 36) :
    ((r.clock m i).lines line).state = .initial := by
  rw [(line_clock quiet line).1, (Linerasterize.Registers.clock_initial (rests line)).1]
  exact rests line

theorem barrier_early (early : r.state = .test4 ∨ r.state = .test3 ∨ r.state = .test2 ∨
    r.state = .test1 ∨ r.state = .startproj) (barrier : Barrier r t) :
    Barrier (r.clock m i) (tally r i t) := by
  have before : (∀ line, (r.lines line).state = .initial) ∧ r.rasterDone = false ∧
      r.counter = 0 := by
    rcases early with state | state | state | state | state <;>
      simpa only [Barrier, state] using barrier
  obtain ⟨rests, rasterDone, counter⟩ := before
  have quiet : r.state ≠ .startrast := by
    rcases early with state | state | state | state | state <;> simp [state]
  have after : (∀ line, ((r.clock m i).lines line).state = .initial) ∧
      (r.clock m i).rasterDone = false ∧ (r.clock m i).counter = 0 := by
    refine ⟨resting_step rests quiet, ?_, ?_⟩
    · apply rasterDone_low
      rcases early with state | state | state | state | state <;>
        simpa only [Registers.comb, Registers.defaults, state] using rasterDone
    · rcases early with state | state | state | state | state <;>
        simp [Registers.clock, Registers.comb, Registers.defaults, state, counter]
  have next : (r.clock m i).state = .test3 ∨ (r.clock m i).state = .test2 ∨
      (r.clock m i).state = .test1 ∨ (r.clock m i).state = .startproj ∨
      (r.clock m i).state = .startrast := by
    rcases early with state | state | state | state | state <;>
      simp only [Registers.clock, Registers.comb, state] <;> (try split) <;> simp
  rcases next with next | next | next | next | next <;> simpa only [Barrier, next] using after

theorem barrier_initial (state : r.state = .initial) (barrier : Barrier r t) :
    Barrier (r.clock m i) (tally r i t) := by
  simp only [Barrier, state] at barrier
  obtain ⟨rests, finished⟩ := barrier
  have rests' := resting_step (m := m) (i := i) rests (by simp [state])
  cases starts : i.startRaster
  · have next : (r.clock m i).state = .initial := by
      simp [Registers.clock, Registers.comb, state, starts]
    have kept : (r.clock m i).rasterDone = r.rasterDone := by
      simp [Registers.clock, Registers.comb, Registers.defaults, state, starts]
    simp only [Barrier, next, kept]
    refine ⟨rests', fun rasterDone => ?_⟩
    obtain ⟨settled, passed⟩ := finished rasterDone
    have same := triangles_hold (m := m) (i := i) settled (by simp [state])
    rw [same]
    exact ⟨settled, fun line => (passed line).hold (by simp [state]) same⟩
  · have next : (r.clock m i).state = .test4 := by
      simp [Registers.clock, Registers.comb, state, starts]
    simp only [Barrier, next]
    exact ⟨rests', by simp [Registers.clock, starts], by simp [Registers.clock, starts]⟩

/-- Every path out of `START` leads past a line that has passed `DONE`. -/
theorem Scanned.look (scanned : Scanned r t r.counter.toNat) (inside : r.counter.toNat < 36)
    (state : r.state = .start) :
    ((r.comb i).nextState = .start ∨
      (r.comb i).nextState = .s3 ∧ (r.lines ⟨r.counter.toNat, inside⟩).isDone = true) := by
  simp only [Registers.comb, state, select_inside _ _ inside]
  rcases (scanned.going ⟨r.counter.toNat, inside⟩).flags with isDone | calculating
  · simp [isDone]
  · cases isDone : (r.lines ⟨r.counter.toNat, inside⟩).isDone <;> simp [calculating]

theorem barrier_scan (scan : r.state = .start ∨ r.state = .s3 ∨ r.state = .s1)
    (settled : ∀ t, Settled (r.triangles t)) (barrier : Barrier r t) :
    Barrier (r.clock m i) (tally r i t) := by
  have quiet : r.state ≠ .startrast ∧ r.state ≠ .test1 := by
    rcases scan with state | state | state <;> simp [state]
  have same := triangles_hold (m := m) (i := i) settled quiet.2
  have counted := counter_le (m := m) (r := r) i
  have low : (r.comb i).rasterDoneIn = r.rasterDone := by
    rcases scan with state | state | state <;>
      simp only [Registers.comb, Registers.defaults, state]
    split <;> rfl
  rcases scan with state | state | state <;> simp only [Barrier, state] at barrier <;>
    obtain ⟨rasterDone, inside, scanned⟩ := barrier <;>
    have rasterDone' := rasterDone_low (m := m) (low.trans rasterDone) <;>
    have scanned' := scanned.step (m := m) (i := i) quiet.1 same
  · have counter : (r.comb i).counterIn = r.counter := by
      simp only [Registers.comb, Registers.defaults, state]
    rw [counter] at counted
    rcases scanned.look (i := i) inside state with next | ⟨next, isDone⟩ <;>
      simp only [Barrier, clock_state, next]
    · exact ⟨rasterDone', Nat.lt_of_le_of_lt counted inside, scanned'.weaken counted⟩
    · have extended := scanned.extend (m := m) (i := i) inside isDone quiet.1 same
      exact ⟨rasterDone', Nat.lt_of_le_of_lt counted inside,
        extended.weaken (Nat.succ_le_succ counted)⟩
  · have counter : (r.comb i).counterIn.toNat = r.counter.toNat + 1 := by
      have one : (1 : BitVec 9).toNat = 1 := rfl
      simp only [Registers.comb, Registers.defaults, state, BitVec.toNat_add, one]
      omega
    have next : (r.clock m i).state = .s1 := by
      simp only [clock_state, Registers.comb, state]
    rw [counter] at counted
    simp only [Barrier, next]
    exact ⟨rasterDone', by omega, scanned'.weaken counted⟩
  · by_cases all : r.counter.toNat = 36
    · have next : (r.clock m i).state = .s4 := by
        simp [clock_state, Registers.comb, state, counter_last, all]
      simp only [Barrier, next]
      exact fun line => scanned'.passed line (by omega)
    · have next : (r.clock m i).state = .start := by
        simp [clock_state, Registers.comb, Registers.defaults, state, counter_last, all]
      have counter : (r.comb i).counterIn = r.counter := by
        simp [Registers.comb, Registers.defaults, state, counter_last, all]
      rw [counter] at counted
      simp only [Barrier, next]
      exact ⟨rasterDone', by omega, scanned'.weaken counted⟩

theorem barrier_read (read : r.state = .s4 ∨ r.state = .s5 ∨ r.state = .s6)
    (settled : ∀ t, Settled (r.triangles t)) (barrier : Barrier r t) :
    Barrier (r.clock m i) (tally r i t) := by
  have quiet : r.state ≠ .startrast ∧ r.state ≠ .test1 := by
    rcases read with state | state | state <;> simp [state]
  have same := triangles_hold (m := m) (i := i) settled quiet.2
  have passed : ∀ line, Passed r (t line) line := by
    rcases read with state | state | state <;> simpa only [Barrier, state] using barrier
  have passed' := fun line => (passed line).hold (m := m) (i := i) quiet.1 same
  have next : (r.clock m i).state = .s5 ∨ (r.clock m i).state = .s6 ∨
      (r.clock m i).state = .initial := by
    rcases read with state | state | state <;> simp only [clock_state, Registers.comb, state] <;>
      (repeat' split) <;> simp
  rcases next with next | next | next <;> simp only [Barrier, next]
  · exact passed'
  · exact passed'
  · rw [same]
    exact ⟨fun line => (passed' line).state, fun _ => ⟨settled, passed'⟩⟩

theorem Barrier.step (barrier : Barrier r t) (phased : Phased r) :
    Barrier (r.clock m i) (tally r i t) := by
  cases state : r.state <;> simp only [Phased, state] at phased
  case initial => exact barrier_initial state barrier
  case test4 | test3 | test2 | test1 | startproj => exact barrier_early (by simp [state]) barrier
  case start | s3 | s1 => exact barrier_scan (by simp [state]) phased barrier
  case s4 | s5 | s6 => exact barrier_read (by simp [state]) phased barrier
  case startrast =>
    simp only [Barrier, state] at barrier
    obtain ⟨rests, rasterDone, counter⟩ := barrier
    have same := triangles_hold (m := m) (i := i) phased (by simp [state])
    have next : (r.clock m i).state = .start := by simp only [clock_state, Registers.comb, state]
    have counter' : (r.clock m i).counter = 0 := by
      simp [Registers.clock, Registers.comb, Registers.defaults, state, counter]
    simp only [Barrier, next, counter']
    refine ⟨rasterDone_low ?_, by decide, fun line => going_of_startrast state (rests line) same,
      fun line below => absurd below (Nat.not_lt_zero _)⟩
    simpa only [Registers.comb, Registers.defaults, state] using rasterDone

/-! ## Runs -/

def tallies (m : Megafunctions) (inputs : Nat → Inputs) : Nat → Fin 36 → Tally
  | 0 => fun _ => {}
  | cycle + 1 => tally (run m inputs cycle) (inputs cycle) (tallies m inputs cycle)

theorem run_barrier (m : Megafunctions) (inputs : Nat → Inputs) (cycle : Nat) :
    Barrier (run m inputs cycle) (tallies m inputs cycle) := by
  induction cycle with
  | zero => exact ⟨fun _ => rfl, nofun⟩
  | succ cycle ih =>
      rw [run_succ]
      exact ih.step (run_phased m inputs cycle)

/-- Past the scan, each line has pushed every point since `STARTRAST`, as many as
`fifoSize` says, and gone through `DONE`.  The scan itself never goes on from a
line, nor sees its `is_done`, that has not gone through `DONE` since then. -/
theorem raster_barrier (m : Megafunctions) (inputs : Nat → Inputs) (cycle : Nat) (line : Fin 36) :
    ((run m inputs cycle).rasterDone = true ∨ (run m inputs cycle).state = .s4 ∨
        (run m inputs cycle).state = .s5 ∨ (run m inputs cycle).state = .s6 →
      (tallies m inputs cycle line).pushed =
          (segment (run m inputs cycle) line).points.map pixelWord ∧
        (tallies m inputs cycle line).passedDone = true ∧
        ((run m inputs cycle).lines line).fifoSize.toNat =
          (tallies m inputs cycle line).pushed.length) ∧
    ((run m inputs cycle).state = .start ∨ (run m inputs cycle).state = .s3 ∨
        (run m inputs cycle).state = .s1 →
      ((run m inputs cycle).lines line).isDone = true →
        (tallies m inputs cycle line).passedDone = true) ∧
    ((run m inputs cycle).state = .start → (run m inputs cycle).counter.toNat = line.val →
      (run m inputs (cycle + 1)).state = .s3 →
        (tallies m inputs cycle line).passedDone = true) := by
  have barrier := run_barrier m inputs cycle
  generalize tallies m inputs cycle = t at barrier ⊢
  rw [run_succ]
  generalize run m inputs cycle = r at barrier ⊢
  refine ⟨fun past => ?_, fun scan isDone => ?_, fun state here leaves => ?_⟩
  · have passed : Passed r (t line) line := by
      cases state : r.state <;> simp only [Barrier, state] at barrier <;>
        simp only [state, reduceCtorEq, or_false] at past
      case initial => exact (barrier.2 past).2 line
      case s4 | s5 | s6 => exact barrier line
      case start | s3 | s1 => cases barrier.1.symm.trans past
      all_goals cases barrier.2.1.symm.trans past
    refine ⟨?_, passed.passedDone, ?_⟩
    · rw [passed.pushed, drawn_all]
    · rw [passed.size, passed.pushed, drawn_length]
  · have going : Going r (t line) line := by
      rcases scan with state | state | state <;> simp only [Barrier, state] at barrier <;>
        exact barrier.2.2.going line
    exact going.passedDone isDone
  · simp only [Barrier, state] at barrier
    obtain ⟨_, inside, scanned⟩ := barrier
    rcases scanned.look (i := inputs cycle) inside state with next | ⟨_, isDone⟩
    · rw [clock_state, next] at leaves
      cases leaves
    · obtain rfl : line = ⟨r.counter.toNat, inside⟩ := Fin.ext here.symm
      exact (scanned.going _).passedDone isDone

end WireframeGpu.PolygonRaster
