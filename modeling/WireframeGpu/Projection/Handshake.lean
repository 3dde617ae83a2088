import Mathlib.Algebra.Order.BigOperators.Group.Finset
import Mathlib.Tactic.FinCases
import WireframeGpu.Projection.Control
import WireframeGpu.Projection.Triangle

namespace WireframeGpu

namespace Projection

/-! A computation of one projection, as its cycles show it. -/

variable {c : Nat → Registers} {v : Nat → Vertex} {first n : Nat}

/-- Left alone, a projection is busy up to some cycle `last`, loads its
coordinates there, and then keeps them under a raised `DONE`. -/
structure Delivered (c : Nat → Registers) (first last n : Nat) : Prop where
  ordered : first ≤ last ∧ last < n
  busy : ∀ k, first ≤ k → k ≤ last → Busy (c k)
  loads : (c last).state = .donestate1
  completed : ∀ k, last < k → k ≤ n → Completed (c k)
  held : ∀ k, last < k → k ≤ n → c k = c (last + 1)

theorem computation (busy : Busy (c first)) (ordered : first ≤ n)
    (clocked : ∀ k, first ≤ k → k < n → c (k + 1) = (c k).clock ⟨v k, false⟩) :
    (∀ k, first ≤ k → k ≤ n → Busy (c k)) ∨ ∃ last, Delivered c first last n := by
  induction n, ordered using Nat.le_induction with
  | base =>
      left
      intro k lower upper
      rwa [Nat.le_antisymm upper lower]
  | succ n ordered ih =>
      have next := clocked n ordered (Nat.lt_succ_self n)
      rcases ih fun k lower upper => clocked k lower (Nat.lt_succ_of_lt upper) with
        working | ⟨last, delivered⟩
      · rcases (working n ordered le_rfl).step (i := ⟨v n, false⟩) with
          ⟨_, busy', _⟩ | ⟨loads, completed⟩
        · left
          intro k lower upper
          rcases Nat.le_succ_iff.mp upper with earlier | rfl
          · exact working k lower earlier
          · rwa [next]
        · right
          refine ⟨n, ⟨ordered, Nat.lt_succ_self n⟩, working, loads, ?_, ?_⟩ <;>
            intro k lower upper <;>
            obtain rfl : k = n + 1 := Nat.le_antisymm upper lower
          · rwa [next]
          · rfl
      · right
        have before := delivered.completed n delivered.ordered.2 le_rfl
        have same : c (n + 1) = c n := next.trans before.hold
        refine ⟨last, ⟨delivered.ordered.1, Nat.lt_succ_of_lt delivered.ordered.2⟩,
          delivered.busy, delivered.loads, ?_, ?_⟩ <;>
          intro k lower upper <;>
          rcases Nat.le_succ_iff.mp upper with earlier | rfl
        · exact delivered.completed k lower earlier
        · rwa [same]
        · exact delivered.held k lower earlier
        · exact same.trans (delivered.held n delivered.ordered.2 le_rfl)

end Projection

namespace TriangleProjection

def Rested (r : Registers) : Prop :=
  (r.state = .wait ∧ r.done = false ∧ ∀ v, Projection.Waiting (r.coordinate v)) ∨
    (r.state = .donestate ∧ ∀ v, Projection.Completed (r.coordinate v))

/-- `START` was seen; the projections see theirs next. -/
structure Started (r : Registers) : Prop where
  state : r.state = .s1
  done : r.done = false
  ready : ∀ v, Projection.Waiting (r.coordinate v) ∨ Projection.Completed (r.coordinate v)

structure Running (r : Registers) : Prop where
  state : r.state = .s2
  done : r.done = false
  coordinates : ∀ v, Projection.Busy (r.coordinate v) ∨ Projection.Completed (r.coordinate v)

/-- All three projections are done; `DONE` follows one clock later. -/
structure Finished (r : Registers) : Prop where
  state : r.state = .donestate
  coordinates : ∀ v, Projection.Completed (r.coordinate v)

structure Settled (r : Registers) : Prop extends Finished r where
  done : r.done = true

def Moving (r : Registers) : Prop := Running r ∨ Finished r

def delay (r : Registers) : Nat :=
  match r.state with
  | .s1 => 405
  | .s2 => 2 + ∑ v, Projection.latency (r.coordinate v)
  | .donestate => if r.done then 0 else 1
  | .wait | .s0 => 0

variable {r : Registers} {vertex : Fin 3 → Projection.Vertex} {start : Bool}

theorem Finished.rested (finished : Finished r) : Rested r :=
  .inr ⟨finished.state, finished.coordinates⟩

theorem Finished.coasted (finished : Finished r) : r.coasted vertex = r.coordinate :=
  funext fun v => (finished.coordinates v).hold

theorem Rested.hold (rested : Rested r) : Rested (r.clock ⟨vertex, false⟩) := by
  rcases rested with ⟨state, done, waiting⟩ | ⟨state, completed⟩
  · rw [Registers.clock_wait state]
    exact .inl ⟨rfl, rfl, fun v => (waiting v).hold⟩
  · rw [Registers.clock_donestate state, Finished.coasted ⟨state, completed⟩]
    exact .inr ⟨rfl, completed⟩

/-- `START` drops `DONE` at once, in the first frame and in every later one. -/
theorem Rested.started (rested : Rested r) : Started (r.clock ⟨vertex, true⟩) := by
  rcases rested with ⟨state, done, waiting⟩ | ⟨state, completed⟩
  · rw [Registers.clock_wait state]
    exact ⟨rfl, rfl, fun v => .inl (waiting v).hold⟩
  · rw [Registers.clock_donestate state, Finished.coasted ⟨state, completed⟩]
    exact ⟨rfl, rfl, fun v => .inr (completed v)⟩

theorem Started.coordinate_step (started : Started r) (v : Fin 3) :
    (r.clock ⟨vertex, start⟩).coordinate v = (r.coordinate v).clock ⟨vertex v, true⟩ := by
  rw [Registers.clock_s1 started.state]

theorem Started.step (started : Started r) : Running (r.clock ⟨vertex, start⟩) := by
  rw [Registers.clock_s1 started.state]
  exact ⟨rfl, started.done, fun v => .inl (Projection.busy_of_start (started.ready v)).1⟩

theorem Moving.coordinate_step (moving : Moving r) (v : Fin 3) :
    (r.clock ⟨vertex, start⟩).coordinate v = (r.coordinate v).clock ⟨vertex v, false⟩ := by
  rcases moving with running | finished
  · rw [Registers.clock_s2 running.state]
    rfl
  · rw [Registers.clock_donestate finished.state]
    rfl

theorem Running.completed_of_done (running : Running r)
    (all : ((r.coordinate 0).done && (r.coordinate 1).done && (r.coordinate 2).done) = true)
    (v : Fin 3) : Projection.Completed (r.coordinate v) := by
  rcases running.coordinates v with busy | completed
  · have low := busy.done
    have high : (r.coordinate v).done = true := by
      simp only [Bool.and_eq_true] at all
      fin_cases v
      · exact all.1.1
      · exact all.1.2
      · exact all.2
    cases low.symm.trans high
  · exact completed

theorem Running.step (running : Running r) : Moving (r.clock ⟨vertex, start⟩) := by
  rw [Registers.clock_s2 running.state]
  by_cases all : ((r.coordinate 0).done && (r.coordinate 1).done && (r.coordinate 2).done) = true
  · right
    rw [if_pos all]
    refine ⟨rfl, fun v => ?_⟩
    show Projection.Completed ((r.coordinate v).clock _)
    rw [(running.completed_of_done all v).hold]
    exact running.completed_of_done all v
  · left
    rw [if_neg all]
    refine ⟨rfl, running.done, fun v => ?_⟩
    show Projection.Busy ((r.coordinate v).clock _) ∨
      Projection.Completed ((r.coordinate v).clock _)
    rcases running.coordinates v with busy | completed
    · exact busy.step.imp (·.2.1) (·.2)
    · exact .inr (by rwa [completed.hold])

theorem Finished.step (finished : Finished r) :
    r.clock ⟨vertex, false⟩ = { r with done := true } := by
  rw [Registers.clock_donestate finished.state, finished.coasted]
  simp [finished.state]

theorem Finished.settles (finished : Finished r) : Settled (r.clock ⟨vertex, false⟩) := by
  rw [finished.step]
  exact ⟨⟨finished.state, finished.coordinates⟩, rfl⟩

theorem Settled.hold (settled : Settled r) : r.clock ⟨vertex, false⟩ = r := by
  rw [settled.toFinished.step, ← settled.done]

theorem Moving.step (moving : Moving r) : Moving (r.clock ⟨vertex, false⟩) := by
  rcases moving with running | finished
  · exact running.step
  · exact .inr finished.settles.toFinished

theorem Moving.settled (moving : Moving r) (done : r.done = true) : Settled r := by
  rcases moving with running | finished
  · cases running.done.symm.trans done
  · exact ⟨finished, done⟩

theorem Started.delay_eq (started : Started r) : delay r = 405 := by simp [delay, started.state]

theorem Running.delay_le (running : Running r) : delay r ≤ 404 := by
  have each : ∀ v ∈ Finset.univ, Projection.latency (r.coordinate v) ≤ 134 := by
    intro v _
    rcases running.coordinates v with busy | completed
    · exact busy.latency_le
    · simp [completed.latency_zero]
  have total : ∑ v, Projection.latency (r.coordinate v) ≤ 402 :=
    Finset.sum_le_card_nsmul _ _ _ each
  simp only [delay, running.state]
  omega

theorem Settled.delay_zero (settled : Settled r) : delay r = 0 := by
  simp [delay, settled.state, settled.done]

theorem Running.delay_step (running : Running r) :
    delay (r.clock ⟨vertex, start⟩) < delay r := by
  have before : delay r = 2 + ∑ v, Projection.latency (r.coordinate v) := by
    simp only [delay, running.state]
  by_cases all : ((r.coordinate 0).done && (r.coordinate 1).done && (r.coordinate 2).done) = true
  · have after : delay (r.clock ⟨vertex, start⟩) = 1 := by
      simp [Registers.clock_s2 running.state, delay, all, running.done]
    omega
  · have after : delay (r.clock ⟨vertex, start⟩) =
        2 + ∑ v, Projection.latency (r.coasted vertex v) := by
      simp only [Registers.clock_s2 running.state, delay, if_neg all]
    have each : ∀ v, Projection.latency (r.coasted vertex v) ≤ Projection.latency (r.coordinate v) ∧
        ((r.coordinate v).done = false →
          Projection.latency (r.coasted vertex v) < Projection.latency (r.coordinate v)) := by
      intro v
      rcases running.coordinates v with busy | completed
      · have less :
            Projection.latency (r.coasted vertex v) < Projection.latency (r.coordinate v) := by
          rcases busy.step (i := ⟨vertex v, false⟩) with ⟨_, _, less⟩ | ⟨_, done⟩
          · exact less
          · rw [Registers.coasted, done.latency_zero]
            exact busy.latency_pos
        exact ⟨Nat.le_of_lt less, fun _ => less⟩
      · rw [Registers.coasted, completed.hold]
        exact ⟨le_rfl, fun low => by cases low.symm.trans completed.done⟩
    have waiting : ∃ v, (r.coordinate v).done = false := by
      by_contra none
      push Not at none
      simp only [ne_eq, Bool.not_eq_false] at none
      exact all (by simp [none])
    obtain ⟨v, low⟩ := waiting
    have less := Finset.sum_lt_sum (fun v (_ : v ∈ Finset.univ) => (each v).1)
      ⟨v, Finset.mem_univ v, (each v).2 low⟩
    omega

theorem Moving.delay_step (moving : Moving r) :
    delay (r.clock ⟨vertex, false⟩) ≤ delay r ∧
      (r.done = false → delay (r.clock ⟨vertex, false⟩) < delay r) := by
  rcases moving with running | finished
  · have less : delay (r.clock ⟨vertex, false⟩) < delay r := running.delay_step
    exact ⟨Nat.le_of_lt less, fun _ => less⟩
  · rw [finished.settles.delay_zero]
    refine ⟨Nat.zero_le _, fun low => ?_⟩
    simp [delay, finished.state, low]

end TriangleProjection

end WireframeGpu
