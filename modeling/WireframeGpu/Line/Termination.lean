import WireframeGpu.Line.Exactness

namespace WireframeGpu.Linerasterize

open WireframeGpu.Data

variable {r : Registers} {e : Endpoints} {s : Segment} {count : Nat}

/-- While a line that ends at coordinate 511 is on course, its 9-bit counter
has not passed the end, so the guard of `S1` holds. -/
theorem Course.underWay_at_top (course : Course s r count) (top : s.majorMax = 511)
    (moving : UnderWay r) : UnderWay (r.clock ⟨e, false⟩) := by
  by_cases drawing : r.state = .s1
  · simp only [Course, drawing] at course
    obtain ⟨_, _, loop⟩ := course
    have width := s.majorMax_eq
    have x := loop.x
    have small := r.x.isLt
    rw [UnderWay, (r.clock_s1_draw drawing (loop.guard.mpr (by omega))).1]
    simp
  · rw [UnderWay, (r.clock_state drawing).1]
    obtain ⟨undone, calculating, running⟩ := moving
    cases state : r.state <;> simp_all [State.successor]

theorem Endless.underWay (endless : Endless s r) : UnderWay r := by
  rcases endless.looping with state | state <;> simp [UnderWay, state]

structure Unending (e : Endpoints) (r : Registers) : Prop where
  top : e.segment.majorMax = 511
  moving : UnderWay r
  travelling : (∃ count, Course e.segment r count) ∨ Endless e.segment r

theorem unending_of_start (idle : r.state = .initial) (top : e.segment.majorMax = 511) :
    Unending e (r.clock ⟨e, true⟩) := by
  have state : (r.clock ⟨e, true⟩).state = .t1 :=
    congrArg Registers.state (r.clock_start (e := e) idle).1
  exact ⟨top, by simp [UnderWay, state], .inl ⟨0, (Course.start e.segment e idle).1⟩⟩

theorem Unending.step (unending : Unending e r) : Unending e (r.clock ⟨e, false⟩) := by
  obtain ⟨top, moving, ⟨count, course⟩ | endless⟩ := unending
  · refine ⟨top, course.underWay_at_top top moving, ?_⟩
    exact course.step.next.imp (fun ⟨next, after, _⟩ => ⟨next, after⟩) id
  · exact ⟨top, endless.step.underWay, .inr endless.step⟩

theorem Unending.working (unending : Unending e r) : Working r := by
  obtain ⟨_, ⟨undone, calculating, running⟩, ⟨count, course⟩ | endless⟩ := unending
  · cases state : r.state <;> simp only [Course, state] at course <;>
      simp_all only [ne_eq, not_true_eq_false]
  · exact endless.working

theorem underWay_at_top (idle : r.state = .initial) (top : e.segment.majorMax = 511)
    (cycle : Nat) : UnderWay (run r e (cycle + 1)) := by
  suffices unending : Unending e (run r e (cycle + 1)) from unending.moving
  induction cycle with
  | zero => exact unending_of_start idle top
  | succ cycle ih => exact ih.step

/-- A run ends exactly when the line stays below coordinate 511 on its longer
axis: the guard `x <= max` of `S1` cannot fail when `max` is the largest 9-bit
number. -/
theorem terminates_iff_below_top (r : Registers) (e : Endpoints) (idle : r.state = .initial) :
    (∃ cycle, (run r e cycle).state = .done ∧ (run r e (cycle + 1)).isDone = true) ↔
      e.segment.majorMax ≠ 511 := by
  constructor
  · rintro ⟨cycle, done, _⟩ top
    cases cycle with
    | zero =>
        rw [show run r e 0 = r from rfl, idle] at done
        cases done
    | succ cycle => exact (underWay_at_top idle top cycle).1 done
  · intro below
    obtain ⟨cycle, done, _, high⟩ := is_done_rises (e := e) idle below
    exact ⟨cycle + 1, done, high⟩

theorem terminates_iff_below_top_sample :
    (∃ cycle, (run {} ⟨160, 120, 10, 20⟩ cycle).state = .done ∧
      (run {} ⟨160, 120, 10, 20⟩ (cycle + 1)).isDone = true) ↔
    (⟨160, 120, 10, 20⟩ : Endpoints).segment.majorMax ≠ 511 :=
  terminates_iff_below_top {} ⟨160, 120, 10, 20⟩ rfl

/-- A vertex one pixel left of the screen is sliced to column 511, and the edge
from it to the middle of the screen is never finished. -/
theorem endless_off_screen_edge :
    ¬ ∀ (r : Registers) (e : Endpoints), r.state = .initial →
      ∃ cycle, (run r e cycle).state = .done := by
  intro always
  obtain ⟨cycle, done⟩ := always {} ⟨511, 120, 160, 120⟩ rfl
  cases cycle with
  | zero => cases done
  | succ cycle => exact (underWay_at_top (e := ⟨511, 120, 160, 120⟩) rfl (by decide) cycle).1 done

end WireframeGpu.Linerasterize
