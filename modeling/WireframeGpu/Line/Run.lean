import WireframeGpu.Data.Trace
import WireframeGpu.Line.Course

namespace WireframeGpu.Linerasterize

open WireframeGpu.Data

/-! One run of the line FSM by itself: `start` is high in the first cycle
only, and the endpoint ports are held. -/

def held (e : Endpoints) (cycle : Nat) : Inputs := ⟨e, cycle == 0⟩

def run (r : Registers) (e : Endpoints) : Nat → Registers :=
  trace Registers.clock r (held e)

def pushed (r : Registers) (e : Endpoints) : Nat → List (BitVec 18) :=
  emitted fun cycle => (run r e cycle).push (held e cycle)

variable {r : Registers} {e : Endpoints} {cycle : Nat}

theorem run_start (idle : r.state = .initial) :
    Course e.segment (run r e 1) 0 ∧ pushed r e 1 = [] := by
  obtain ⟨course, none⟩ := Course.start e.segment e idle
  exact ⟨course, by
    show [] ++ (r.push ⟨e, true⟩).toList = []
    simp [none]⟩

theorem run_succ (cycle : Nat) :
    run r e (cycle + 2) = (run r e (cycle + 1)).clock ⟨e, false⟩ :=
  trace_succ _ _ _ _

theorem pushed_succ (cycle : Nat) :
    pushed r e (cycle + 2) =
      pushed r e (cycle + 1) ++ ((run r e (cycle + 1)).push ⟨e, false⟩).toList := rfl

theorem run_course (idle : r.state = .initial) (cycle : Nat) :
    (∃ count, Course e.segment (run r e (cycle + 1)) count ∧
      pushed r e (cycle + 1) = drawn e.segment count) ∨
    Endless e.segment (run r e (cycle + 1)) := by
  induction cycle with
  | zero =>
      obtain ⟨course, none⟩ := run_start (e := e) idle
      exact .inl ⟨0, course, none⟩
  | succ cycle ih =>
      rw [run_succ, pushed_succ]
      rcases ih with ⟨count, course, words⟩ | endless
      · rcases course.step.next with ⟨next, after, words'⟩ | endless
        · exact .inl ⟨next, after, by rw [words, words']⟩
        · exact .inr endless
      · exact .inr endless.step

theorem Endless.persists {first : Nat} (endless : Endless e.segment (run r e (first + 1)))
    (later : Nat) : Endless e.segment (run r e (first + later + 1)) := by
  induction later with
  | zero => exact endless
  | succ later ih => exact ih.step

theorem run_course_below (idle : r.state = .initial) (below : e.segment.majorMax ≠ 511)
    (cycle : Nat) :
    ∃ count, Course e.segment (run r e (cycle + 1)) count ∧
      pushed r e (cycle + 1) = drawn e.segment count := by
  rcases run_course (e := e) idle cycle with onCourse | endless
  · exact onCourse
  · exact (below endless.top).elim

def UnderWay (r : Registers) : Prop :=
  r.state ≠ .done ∧ r.state ≠ .clearCalc ∧ r.state ≠ .initial

theorem UnderWay.step (moving : UnderWay r) :
    (r.clock ⟨e, false⟩).state = .done ∨ UnderWay (r.clock ⟨e, false⟩) := by
  by_cases drawing : r.state = .s1
  · by_cases passes : if r.bigslope then r.x ≤ r.maxY else r.x ≤ r.maxX
    · simp [UnderWay, (r.clock_s1_draw drawing passes).1]
    · simp [(r.clock_s1_stop drawing passes).1]
  · right
    rw [UnderWay, (r.clock_state drawing).1]
    obtain ⟨undone, calculating, running⟩ := moving
    cases state : r.state <;> simp_all [State.successor]

/-- A run that has drawn the first `count` points and is not yet through. -/
def Tracing (s : Segment) (r : Registers) (words : List (BitVec 18)) : Prop :=
  UnderWay r ∧ ∃ count, Course s r count ∧ words = drawn s count

theorem tracing_start (idle : r.state = .initial) :
    Tracing e.segment (run r e 1) (pushed r e 1) := by
  obtain ⟨course, none⟩ := run_start (e := e) idle
  have state : (run r e 1).state = .t1 :=
    congrArg Registers.state (r.clock_start (e := e) idle).1
  exact ⟨by simp [UnderWay, state], 0, course, none⟩

theorem Tracing.step (idle : r.state = .initial) (below : e.segment.majorMax ≠ 511)
    (tracing : Tracing e.segment (run r e (cycle + 1)) (pushed r e (cycle + 1))) :
    (run r e (cycle + 2)).state = .done ∨
      (Tracing e.segment (run r e (cycle + 2)) (pushed r e (cycle + 2)) ∧
        remaining e.segment (run r e (cycle + 2)) (pushed r e (cycle + 2)).length <
          remaining e.segment (run r e (cycle + 1)) (pushed r e (cycle + 1)).length) := by
  obtain ⟨moving, count, course, words⟩ := tracing
  obtain ⟨next, after, words'⟩ := run_course_below (e := e) idle below (cycle + 1)
  have pushes := words'
  rw [pushed_succ, words] at pushes
  have less := course.progress moving.2.2 pushes.symm
  rw [words, words', drawn_length, drawn_length]
  exact moving.step.imp id fun moving' => ⟨⟨moving', next, after, rfl⟩, less⟩

theorem reaches_done (idle : r.state = .initial) (below : e.segment.majorMax ≠ 511) :
    ∃ cycle, (run r e (cycle + 1)).state = .done := by
  obtain ⟨last, -, -, done, -⟩ := reaches_of_rank
    (fun cycle => (run r e (cycle + 1), pushed r e (cycle + 1)))
    (fun drawing => Tracing e.segment drawing.1 drawing.2)
    (fun drawing => drawing.1.state = .done)
    (fun drawing => remaining e.segment drawing.1 drawing.2.length)
    (fun _ tracing => tracing.step idle below) (tracing_start idle)
  exact ⟨last + 1, done⟩

/-- `is_done` is only ever seen with the whole line drawn and counted. -/
theorem Course.finished {s : Segment} {r : Registers} {count : Nat} (course : Course s r count)
    (done : r.isDone = true) :
    count = s.major + 1 ∧ r.size.toNat = s.major + 1 ∧
      (r.state = .clearCalc ∨ r.state = .initial ∧ r.isCalculating = false) := by
  cases state : r.state <;> simp only [Course, state, Working] at course <;> simp_all

/-- A line that shows `is_done` is at rest from the next clock on. -/
theorem Course.rests {s : Segment} {r : Registers} {count : Nat} (course : Course s r count)
    (done : r.isDone = true) :
    (r.clock ⟨e, false⟩).state = .initial ∧ (r.clock ⟨e, false⟩).isDone = true ∧
      (r.clock ⟨e, false⟩).size = r.size ∧ r.push ⟨e, false⟩ = none := by
  obtain ⟨_, _, resting⟩ := course.finished done
  rcases resting with state | ⟨state, _⟩
  · obtain ⟨next, none⟩ := r.clock_clearCalc (e := e) state
    rw [next]
    exact ⟨rfl, done, rfl, none⟩
  · obtain ⟨next, none⟩ := r.clock_initial (e := e) state
    rw [next]
    exact ⟨state, done, rfl, none⟩

end WireframeGpu.Linerasterize
