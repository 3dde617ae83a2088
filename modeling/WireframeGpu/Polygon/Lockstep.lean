import WireframeGpu.Polygon.Ahead
import WireframeGpu.Polygon.Projected

namespace WireframeGpu

/-! The thirty-six projections work in step.  None takes the short cut, so all of
them take the same time, and all of them read the vertex array in the same three
clocks. -/

/-- Without `START` the operands of a divider do not matter. -/
theorem Divider.coasts : ∃ coasted : Divider.Registers → Divider.Registers,
    ∀ (r : Divider.Registers) (a b : BitVec 32), r.clock ⟨a, b, false⟩ = coasted r := by
  refine ⟨fun r => r.clock ⟨0, 0, false⟩, fun r a b => ?_⟩
  simp only [Divider.Registers.clock, Bool.and_false, Bool.false_eq_true, ↓reduceIte]

namespace Projection

variable {c : Nat → Registers} {seen : Nat → Vertex} {v w : Vertex} {r : Registers} {start : Bool}
  {first last n k : Nat}

/-- Where a projection reads its vertex, it reads `v`. -/
structure Reads (r : Registers) (w v : Vertex) : Prop where
  x : r.state = .s1 → w.x = v.x
  y : r.state = .s4 → w.y = v.y
  z : r.state = .s9 → w.z = v.z

/-- A vertex is not looked at in the other states, but for the sign of its depth. -/
theorem Reads.clock (reads : Reads r w v) (ahead : Ahead w) (ahead' : Ahead v)
    (past : r.state ≠ .s1) : r.clock ⟨w, start⟩ = r.clock ⟨v, start⟩ := by
  have eye : (w.z + three == 0) = (v.z + three == 0) := by
    rw [beq_false_of_ne ahead.nonzero, beq_false_of_ne ahead'.nonzero]
  have sign : (w.z + three).msb = (v.z + three).msb := by rw [ahead.positive, ahead'.positive]
  obtain ⟨coasted, coasts⟩ := Divider.coasts
  cases state : r.state
  case s1 => exact absurd state past
  case s4 =>
    simp only [Registers.clock, Registers.comb, Registers.defaults, state, coasts, reads.y state]
  case s7 => simp only [Registers.clock, Registers.comb, Registers.defaults, state, coasts, eye]
  case s8 => simp only [Registers.clock, Registers.comb, Registers.defaults, state, coasts, sign]
  case s9 => simp only [Registers.clock, Registers.comb, Registers.defaults, state, reads.z state]
  case s16 =>
    cases all : r.m1.done && r.m2.done <;>
      simp only [Registers.clock, Registers.comb, Registers.defaults, state, coasts, all,
        Bool.false_eq_true, ↓reduceIte]
  all_goals simp only [Registers.clock, Registers.comb, Registers.defaults, state, coasts]

theorem Aimed.reads (aimed : Aimed v r) (busy : Busy r) (ahead : Ahead w) (ahead' : Ahead v)
    (reads : Reads r w v) : Aimed v (r.clock ⟨w, start⟩) := by
  by_cases shapes : r.state = .s1
  · have aimed' : Aimed w r := by simpa only [Aimed, shapes] using aimed
    have next : (r.clock ⟨w, start⟩).state = .s2 := by
      simp only [Registers.clock, Registers.comb, shapes]
    have shaped : Aimed w (r.clock ⟨w, start⟩) := aimed'.step busy ahead.nonzero
    simpa only [Aimed, next, Shaping, reads.x shapes] using shaped
  · rw [reads.clock ahead ahead' shapes]
    exact aimed.step busy ahead'.nonzero

/-! The clocks of a computation, counted by what is left of it. -/

/-- The vertex that a computation works on: each coordinate as it stood when it was read. -/
def caught (seen : Nat → Vertex) (first : Nat) : Vertex where
  x := (seen (first + 1)).x
  y := (seen (first + 37)).y
  z := (seen (first + 42)).z

theorem caught_ahead (ahead : ∀ k, Ahead (seen k)) (first : Nat) : Ahead (caught seen first) :=
  ⟨(ahead (first + 37)).high, (ahead (first + 42)).deep⟩

section

variable (delivered : Delivered c first last n) (begins : latency (c first) = 134)
  (clocked : ∀ k, first ≤ k → k < n → c (k + 1) = (c k).clock ⟨seen k, false⟩)
  (ahead : ∀ k, Ahead (seen k))

include delivered begins clocked ahead

theorem Delivered.countdown (lower : first ≤ k) (upper : k ≤ last) :
    latency (c k) + k = first + 134 := by
  have inside := delivered.ordered
  induction k, lower using Nat.le_induction with
  | base => rw [begins, Nat.add_comm]
  | succ k lower ih =>
      have before := ih (Nat.le_of_succ_le upper)
      have busy := delivered.busy k lower (Nat.le_of_succ_le upper)
      have next := clocked k lower (by omega)
      have unfinished : (c k).state ≠ .donestate1 := by
        intro finished
        have completed := busy.complete (i := ⟨seen k, false⟩) finished
        rw [← next] at completed
        cases (delivered.busy (k + 1) (Nat.le_succ_of_le lower) upper).done.symm.trans
          completed.done
      have exact := (busy.advance (i := ⟨seen k, false⟩) unfinished).2.2 fun branches => by
        simp only [Registers.clock, Registers.comb, Registers.defaults, branches,
          beq_false_of_ne (ahead k).nonzero, Bool.false_eq_true, ↓reduceIte]
      rw [← next] at exact
      omega

/-- Whatever is projected, the coordinates are loaded 134 clocks after `START` is seen. -/
theorem Delivered.last_eq : last = first + 133 := by
  have inside := delivered.ordered
  have left := delivered.countdown begins clocked ahead inside.1 le_rfl
  rw [latency, delivered.loads] at left
  simp only at left
  omega

theorem Delivered.caught (aimed : Aimed (caught seen first) (c first)) :
    (c n).newx = column (Projection.caught seen first) ∧
      (c n).newy = row (Projection.caught seen first) := by
  have inside := delivered.ordered
  have carried : ∀ k, first ≤ k → k ≤ last + 1 → Aimed (Projection.caught seen first) (c k) := by
    intro k lower upper
    induction k, lower using Nat.le_induction with
    | base => exact aimed
    | succ k lower ih =>
        have busy := delivered.busy k lower (by omega)
        have left := delivered.countdown begins clocked ahead lower (Nat.le_of_succ_le_succ upper)
        rw [clocked k lower (by omega)]
        refine (ih (Nat.le_of_succ_le upper)).reads busy (ahead k) (caught_ahead ahead first)
          ⟨fun state => ?_, fun state => ?_, fun state => ?_⟩ <;>
          simp only [latency, state] at left
        · obtain rfl : k = first + 1 := by omega
          rfl
        · obtain rfl : k = first + 37 := by omega
          rfl
        · obtain rfl : k = first + 42 := by omega
          rfl
  have aimed' := carried (last + 1) (by omega) le_rfl
  have completed := delivered.completed (last + 1) (Nat.lt_succ_self last) (by omega)
  simp only [Aimed, completed.state] at aimed'
  rw [delivered.held n inside.2 le_rfl]
  exact aimed'

end

end Projection

theorem TriangleProjection.Running.waits {r : TriangleProjection.Registers}
    {vertex : Fin 3 → Projection.Vertex} {start : Bool} (running : TriangleProjection.Running r)
    {v : Fin 3} (low : (r.coordinate v).done = false) :
    TriangleProjection.Running (r.clock ⟨vertex, start⟩) := by
  have moving : TriangleProjection.Moving (r.clock ⟨vertex, start⟩) := running.step
  rcases moving with next | finished
  · exact next
  · have state := finished.state
    rw [TriangleProjection.Registers.clock_s2 running.state] at state
    simp only at state
    split at state
    next all => cases low.symm.trans (running.completed_of_done all v).done
    next => cases state

namespace PolygonRaster

open TriangleProjection

variable {m : Megafunctions} {inputs : Nat → Inputs} {first n k : Nat}

/-- What a projection is shown, clock by clock. -/
def shown (m : Megafunctions) (inputs : Nat → Inputs) (t : Fin 12) (v : Fin 3) (k : Nat) :
    Projection.Vertex := (run m inputs k).rotated (inputs k) t v

theorem shown_ahead (m : Megafunctions) (inputs : Nat → Inputs) (t : Fin 12) (v : Fin 3) (k : Nat) :
    Projection.Ahead (shown m inputs t v k) := Registers.rotated_ahead _ _ t v

theorem Awaiting.begins (awaiting : Awaiting m inputs first n) (long : first + 3 ≤ n) (t : Fin 12)
    (v : Fin 3) :
    Projection.latency (((run m inputs (first + 2)).triangles t).coordinate v) = 134 ∧
      ∀ vertex,
        Projection.Aimed vertex (((run m inputs (first + 2)).triangles t).coordinate v) := by
  have started := awaiting.started t
  have aimed : Projection.Aimed (shown m inputs t v (first + 1))
      (((run m inputs (first + 2)).triangles t).coordinate v) := by
    rw [run_succ, triangle_clock_quiet (by simp [awaiting.polls (first + 1) (by omega) (by omega)]),
      started.coordinate_step]
    exact Projection.aimed_of_start (started.ready v)
  rcases (awaiting.accepted (by omega) t v).2 with state | state <;>
    simp only [Projection.latency, Projection.Aimed, state] at aimed ⊢
  · exact ⟨trivial, fun _ => aimed⟩
  · exact ⟨trivial, fun _ => trivial⟩

section

variable (awaiting : Awaiting m inputs first n) (enters : (run m inputs n).state = .startrast)

include awaiting enters

theorem Awaiting.last_eq {t : Fin 12} {v : Fin 3} {last : Nat} (delivered : Projection.Delivered
    (fun k => ((run m inputs k).triangles t).coordinate v) (first + 2) last n) :
    last = first + 135 :=
  delivered.last_eq (awaiting.begins (awaiting.long enters) t v).1
    (fun _ lower upper => awaiting.coordinate_clock t v lower upper) (shown_ahead m inputs t v)

theorem Awaiting.caught (t : Fin 12) (v : Fin 3) :
    (((run m inputs n).triangles t).coordinate v).newx =
        Projection.column (Projection.caught (shown m inputs t v) (first + 2)) ∧
      (((run m inputs n).triangles t).coordinate v).newy =
        Projection.row (Projection.caught (shown m inputs t v) (first + 2)) := by
  obtain ⟨last, delivered⟩ := awaiting.delivered enters t v
  obtain ⟨left, aimed⟩ := awaiting.begins (awaiting.long enters) t v
  exact delivered.caught left (fun _ lower upper => awaiting.coordinate_clock t v lower upper)
    (shown_ahead m inputs t v) (aimed _)

theorem Awaiting.running (t : Fin 12) (lower : first + 2 ≤ k) (upper : k ≤ first + 136) :
    Running ((run m inputs k).triangles t) := by
  obtain ⟨last, delivered⟩ := awaiting.delivered enters t 0
  have place := awaiting.last_eq enters delivered
  have inside := delivered.ordered
  induction k, lower using Nat.le_induction with
  | base =>
      rw [run_succ,
        triangle_clock_quiet (by simp [awaiting.polls (first + 1) (by omega) (by omega)])]
      exact (awaiting.started t).step
  | succ k lower ih =>
      obtain ⟨last', delivered'⟩ := awaiting.delivered enters t 0
      rw [run_succ, triangle_clock_quiet (by simp [awaiting.polls k (by omega) (by omega)])]
      exact (ih (by omega)).waits (delivered.busy k lower (by omega)).done

/-- Every frame spends 139 clocks on its projections, whatever they work on. -/
theorem Awaiting.length : n = first + 139 := by
  have inside : first + 135 < n := by
    obtain ⟨last, delivered⟩ := awaiting.delivered enters 0 0
    rw [← awaiting.last_eq enters delivered]
    exact delivered.ordered.2
  have finishes : ∀ t, first + 136 < n → Finished ((run m inputs (first + 137)).triangles t) ∧
      ((run m inputs (first + 137)).triangles t).done = false := by
    intro t more
    have running := awaiting.running enters t (k := first + 136) (by omega) le_rfl
    have completed : ∀ v, Projection.Completed
        (((run m inputs (first + 136)).triangles t).coordinate v) := by
      intro v
      obtain ⟨last, delivered⟩ := awaiting.delivered enters t v
      have place := awaiting.last_eq enters delivered
      exact delivered.completed (first + 136) (by omega) (by omega)
    have quiet : (run m inputs (first + 136)).state ≠ .test1 := by
      simp [awaiting.polls (first + 136) (by omega) more]
    rw [run_succ, triangle_clock_quiet quiet, Registers.clock_s2 running.state]
    simp only [(completed _).done, Bool.and_self, ↓reduceIte]
    refine ⟨⟨rfl, fun v => ?_⟩, running.done⟩
    show Projection.Completed ((((run m inputs (first + 136)).triangles t).coordinate v).clock _)
    rw [(completed v).hold]
    exact completed v
  obtain ⟨before, rfl⟩ : ∃ k, n = k + 1 := ⟨n - 1, by omega⟩
  have polled : ∀ t, ((run m inputs before).triangles t).done = true := by
    intro t
    have all := (nextState_startrast enters).2
    exact of_decide_eq_true all t
  have late : first + 138 ≤ before := by
    by_contra early
    rcases (by omega : before ≤ first + 136 ∨ before = first + 137) with runs | rfl
    · have low := (awaiting.running enters 0 (k := before) (by omega) runs).done
      cases low.symm.trans (polled 0)
    · cases (finishes 0 (by omega)).2.symm.trans (polled 0)
  have all : (run m inputs (first + 138)).allProjected = true := by
    refine decide_eq_true fun t => ?_
    have quiet : (run m inputs (first + 137)).state ≠ .test1 := by
      simp [awaiting.polls (first + 137) (by omega) (by omega)]
    rw [run_succ, triangle_clock_quiet quiet]
    exact (finishes t (by omega)).1.settles.done
  have next : (run m inputs (first + 139)).state = .startrast := by
    rw [run_succ]
    simp only [Registers.clock, Registers.comb, awaiting.polls (first + 138) (by omega) (by omega),
      all, ↓reduceIte]
  by_contra other
  cases next.symm.trans (awaiting.polls (first + 139) (by omega) (by omega))

end

/-- A frame is under way: its projections take 143 clocks from `startRaster`, and they
read the vertex array 7, 43 and 48 clocks after it. -/
theorem projections_in_step (rests : (run m inputs first).state = .initial)
    (starts : (inputs first).startRaster = true) :
    (∀ k, first < k → k < first + 143 → (run m inputs k).state.projecting = true ∧
        (first + 5 ≤ k → (run m inputs k).state = .startproj)) ∧
      (run m inputs (first + 143)).state = .startrast ∧
      ∀ t v, Landed (run m inputs (first + 143)) t v
        (Projection.caught (shown m inputs t v) (first + 6)) := by
  obtain ⟨test4, test3, test2, test1, polls⟩ := climbs rests starts
  obtain ⟨last, lower, -, enters, between⟩ := reaches_startrast polls
  have awaiting : Awaiting m inputs (first + 4) (last + 1) :=
    ⟨by omega, test1, fun k after before => between k after (Nat.le_of_lt_succ before)⟩
  have place : first + 143 = last + 1 := by
    have length := awaiting.length enters
    omega
  rw [place]
  refine ⟨fun k after before => ?_, enters, fun t v => ?_⟩
  · rcases (by omega : k = first + 1 ∨ k = first + 2 ∨ k = first + 3 ∨ k = first + 4 ∨
      first + 5 ≤ k) with rfl | rfl | rfl | rfl | later
    · exact ⟨by rw [test4, State.projecting], fun late => by omega⟩
    · exact ⟨by rw [test3, State.projecting], fun late => by omega⟩
    · exact ⟨by rw [test2, State.projecting], fun late => by omega⟩
    · exact ⟨by rw [test1, State.projecting], fun late => by omega⟩
    · have state := between k later (by omega)
      exact ⟨by rw [state, State.projecting], fun _ => state⟩
  · have phased := run_phased m inputs (last + 1)
    simp only [Phased, enters] at phased
    obtain ⟨newx, newy⟩ := awaiting.caught enters t v
    refine ⟨?_, phased, newx, newy⟩
    rw [enters]
    rfl

end PolygonRaster

end WireframeGpu
