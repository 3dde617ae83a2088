import WireframeGpu.Data.Trace
import WireframeGpu.Projection.Depth

namespace WireframeGpu.Projection

open WireframeGpu.Data

/-! One projection from `START` to `DONE`: what it delivers depends on the vertex
alone, the plane of the eye apart. -/

def Registers.quotients (r : Registers) : Vertex :=
  ⟨r.d1.quotientOut, r.d2.quotientOut, r.d3.quotientOut⟩

def Registers.delivered (r : Registers) : Vertex := ⟨r.newx, r.newy, r.newz⟩

theorem delivered_of_fields {r : Registers} {w : Vertex} (newx : r.newx = w.x)
    (newy : r.newy = w.y) (newz : r.newz = w.z) : r.delivered = w := by
  obtain ⟨x, y, z⟩ := w
  rw [Registers.delivered, newx, newy, newz]

/-- The range values. `S7` skips the division when `Z + 3` is zero, and `S11`
then loads whatever the dividers show. -/
def ranged (stale v : Vertex) : Vertex :=
  if v.z + three = 0 then stale
  else ⟨ratio (scaled v.x) (v.z + three), ratio v.y (v.z + three),
    ratio (deepened (v.z + three)) (v.z + three)⟩

/-- What a projection of `v` delivers when the dividers show `stale` before it. -/
def projected (stale v : Vertex) : Vertex := onScreen (ranged stale v)

/-- What the dividers show after a projection of `v`. -/
def remaining (stale v : Vertex) : Vertex :=
  if v.z + three = 0 then stale
  else ⟨Divider.quotient (magnitude (scaled v.x)) (v.z + three),
    Divider.quotient (magnitude v.y) (v.z + three),
    Divider.quotient (magnitude (deepened (v.z + three))) (v.z + three)⟩

structure Unflipped (r : Registers) : Prop where
  x : r.flipX = false
  y : r.flipY = false
  z : r.flipZ = false
  divider : r.flipDivider = false

/-- The two states between a skipped division and the range values. -/
def Skipping (stale : Vertex) (r : Registers) : Prop :=
  match r.state with
  | .s11 => Unflipped r
  | .s12 => (⟨r.tempx, r.tempy, r.tempz⟩ : Vertex) = stale ∧ Unflipped r
  | _ => False

/-- What a projection of `v` holds in each state between `START` and `DONE`. -/
def Projecting (stale v : Vertex) (r : Registers) : Prop :=
  match r.state with
  | .wait => False
  | .s0 | .s00 | .s1 | .s2 | .s3 | .s4 | .s5 | .s6 | .s7 =>
      r.quotients = stale ∧ Aimed v r ∧ Deep (v.z + three) r
  | .s8 | .s9 | .s10 => v.z + three ≠ 0 ∧ Aimed v r ∧ Deep (v.z + three) r
  | .s11 | .s12 => r.quotients = remaining stale v ∧
      ((v.z + three = 0 ∧ Skipping stale r) ∨
        (v.z + three ≠ 0 ∧ Aimed v r ∧ Deep (v.z + three) r))
  | _ => r.quotients = remaining stale v ∧ Placing (ranged stale v) r

variable {r : Registers} {v stale : Vertex} {start : Bool} {i : Inputs}

/-- The dividers show their last quotients as long as they are not started. -/
theorem Units.quotients {left : Nat} (units : Units left 0 r) (quiet : (r.comb i).dstart = false) :
    (r.clock i).quotients = r.quotients := by
  simp only [Registers.quotients, Registers.clock, quiet]
  rw [Divider.idle_clock units.d1.done rfl, Divider.idle_clock units.d2.done rfl,
    Divider.idle_clock units.d3.done rfl]

theorem Busy.quotients (busy : Busy r) (resting : r.state ≠ .s9 ∧ r.state ≠ .s10) :
    (r.clock i).quotients = r.quotients := by
  have units := busy.units
  cases state : r.state <;> simp only [state] at units
  case s9 => exact absurd state resting.1
  case s10 => exact absurd state resting.2
  case s3 =>
    obtain ⟨_, _, units⟩ := units
    exact units.quotients (by simp only [Registers.comb, Registers.defaults, state])
  case s16 =>
    obtain ⟨_, _, units⟩ := units
    exact units.quotients (by simp only [Registers.comb, Registers.defaults, state]; split <;> rfl)
  all_goals exact units.quotients (by simp only [Registers.comb, Registers.defaults, state])

theorem projecting_of_start (ready : Waiting r ∨ Completed r) :
    Projecting r.quotients v (r.clock ⟨v, true⟩) := by
  have aimed := aimed_of_start (v := v) ready
  have deep := deep_of_start (v := v) (d := v.z + three) ready
  rcases ready with ⟨state, done, units⟩ | ⟨state, done, units⟩
  · have next : (r.clock ⟨v, true⟩).state = .s0 := by
      simp [Registers.clock, Registers.comb, state]
    simp only [Projecting, next]
    exact ⟨units.quotients (by simp only [Registers.comb, Registers.defaults, state]), aimed, deep⟩
  · have next : (r.clock ⟨v, true⟩).state = .s00 := by
      simp [Registers.clock, Registers.comb, state]
    simp only [Projecting, next]
    exact ⟨units.quotients (by simp only [Registers.comb, Registers.defaults, state]), aimed, deep⟩

theorem Projecting.scale (projecting : Projecting stale v r) (busy : Busy r)
    (early : r.state = .s0 ∨ r.state = .s00 ∨ r.state = .s1 ∨ r.state = .s2 ∨ r.state = .s3 ∨
      r.state = .s4 ∨ r.state = .s5 ∨ r.state = .s6) :
    Projecting stale v (r.clock ⟨v, start⟩) := by
  have carried : r.quotients = stale ∧ Aimed v r ∧ Deep (v.z + three) r := by
    rcases early with state | state | state | state | state | state | state | state <;>
      simpa only [Projecting, state] using projecting
  obtain ⟨quotients, aimed, deep⟩ := carried
  have deep' : Deep (v.z + three) (r.clock ⟨v, start⟩) := deep.scale busy early
  have quotients' : (r.clock ⟨v, start⟩).quotients = stale :=
    (busy.quotients (by
      rcases early with state | state | state | state | state | state | state | state <;>
        simp [state])).trans quotients
  have aimed' : Aimed v (r.clock ⟨v, start⟩) := by
    rcases early with state | state | state | state | state | state | state | state
    case inr.inr.inr.inr.inr.inr.inr =>
      simp only [Aimed, state, Lane.Carries, Registers.laneX, Registers.laneY] at aimed
      simpa only [Aimed, Registers.clock, Registers.comb, Registers.defaults, state, Lane.Carries,
        Registers.laneX, Registers.laneY] using aimed
    all_goals exact aimed.shape busy (by tauto)
  have next : (r.clock ⟨v, start⟩).state = .s1 ∨ (r.clock ⟨v, start⟩).state = .s2 ∨
      (r.clock ⟨v, start⟩).state = .s3 ∨ (r.clock ⟨v, start⟩).state = .s4 ∨
      (r.clock ⟨v, start⟩).state = .s5 ∨ (r.clock ⟨v, start⟩).state = .s6 ∨
      (r.clock ⟨v, start⟩).state = .s7 := by
    rcases early with state | state | state | state | state | state | state | state <;>
      simp only [Registers.clock, Registers.comb, state]
    case inr.inr.inr.inr.inl => split <;> simp
    all_goals simp
  rcases next with next | next | next | next | next | next | next <;>
    simp only [Projecting, next] <;>
    exact ⟨quotients', aimed', deep'⟩

/-- The branch on the plane of the eye. -/
theorem Projecting.branch (projecting : Projecting stale v r) (busy : Busy r)
    (state : r.state = .s7) : Projecting stale v (r.clock ⟨v, start⟩) := by
  simp only [Projecting, state] at projecting
  obtain ⟨quotients, aimed, deep⟩ := projecting
  by_cases eye : v.z + three = 0
  · have next : (r.clock ⟨v, start⟩).state = .s11 := by
      simp [Registers.clock, Registers.comb, Registers.defaults, state, eye]
    have quotients' : (r.clock ⟨v, start⟩).quotients = stale :=
      (busy.quotients (by simp [state])).trans quotients
    simp only [Aimed, state, Lane.Carries, Registers.laneX, Registers.laneY] at aimed
    simp only [Deep, state, Lane.Carries, Registers.laneZ] at deep
    simp only [Projecting, Skipping, next]
    refine ⟨quotients'.trans (by rw [remaining, if_pos eye]), .inl ⟨eye, ?_, ?_, ?_, ?_⟩⟩
    · simpa only [Registers.clock, Registers.comb, Registers.defaults, state] using aimed.1.2
    · simpa only [Registers.clock, Registers.comb, Registers.defaults, state] using aimed.2.1.2
    · simpa only [Registers.clock, Registers.comb, Registers.defaults, state] using deep.2
    · simpa only [Registers.clock, Registers.comb, Registers.defaults, state] using aimed.2.2
  · have depth : (v.z + three == 0) = false := by simpa using eye
    have next : (r.clock ⟨v, start⟩).state = .s8 := by
      simp only [Registers.clock, Registers.comb, Registers.defaults, state, depth,
        Bool.false_eq_true, ↓reduceIte]
    simp only [Projecting, next]
    exact ⟨eye, aimed.aim busy eye (by simp [state]), deep.divide busy eye (by simp [state])⟩

theorem Projecting.divide (projecting : Projecting stale v r) (busy : Busy r)
    (middle : r.state = .s8 ∨ r.state = .s9 ∨ r.state = .s10) :
    Projecting stale v (r.clock ⟨v, start⟩) := by
  have carried : v.z + three ≠ 0 ∧ Aimed v r ∧ Deep (v.z + three) r := by
    rcases middle with state | state | state <;> simpa only [Projecting, state] using projecting
  obtain ⟨depth, aimed, deep⟩ := carried
  have aimed' : Aimed v (r.clock ⟨v, start⟩) := aimed.step busy depth
  have deep' : Deep (v.z + three) (r.clock ⟨v, start⟩) := deep.divide busy depth (by
    rcases middle with state | state | state <;> simp [state])
  have next : (r.clock ⟨v, start⟩).state = .s9 ∨ (r.clock ⟨v, start⟩).state = .s10 ∨
      (r.clock ⟨v, start⟩).state = .s11 := by
    rcases middle with state | state | state <;> simp only [Registers.clock, Registers.comb, state]
    case inr.inr => split <;> simp
    all_goals simp
  rcases next with next | next | next <;> simp only [Projecting, next]
  · exact ⟨depth, aimed', deep'⟩
  · exact ⟨depth, aimed', deep'⟩
  · have quotients : (r.clock ⟨v, start⟩).quotients = remaining stale v := by
      have lanes := aimed'
      have depths := deep'
      simp only [Aimed, next, Lane.Carries, Registers.laneX, Registers.laneY] at lanes
      simp only [Deep, next, Lane.Carries, Registers.laneZ] at depths
      rw [remaining, if_neg depth, Registers.quotients, lanes.1.1, lanes.2.1.1, depths.1]
    exact ⟨quotients, .inr ⟨depth, aimed', deep'⟩⟩

theorem Projecting.load (projecting : Projecting stale v r) (busy : Busy r)
    (state : r.state = .s11) : Projecting stale v (r.clock ⟨v, start⟩) := by
  have next : (r.clock ⟨v, start⟩).state = .s12 := by
    simp only [Registers.clock, Registers.comb, state]
  simp only [Projecting, state] at projecting
  simp only [Projecting, next]
  obtain ⟨quotients, ways⟩ := projecting
  refine ⟨(busy.quotients (by simp [state])).trans quotients, ?_⟩
  rcases ways with ⟨eye, skipping⟩ | ⟨depth, aimed, deep⟩
  · simp only [Skipping, state] at skipping
    obtain ⟨flipX, flipY, flipZ, flipDivider⟩ := skipping
    refine .inl ⟨eye, ?_⟩
    simp only [Skipping, next]
    refine ⟨?_, ?_, ?_, ?_, ?_⟩
    · rw [remaining, if_pos eye] at quotients
      rw [← quotients]
      simp only [Registers.clock, Registers.comb, Registers.defaults, state, Registers.quotients]
    · simpa only [Registers.clock, Registers.comb, Registers.defaults, state] using flipX
    · simpa only [Registers.clock, Registers.comb, Registers.defaults, state] using flipY
    · simpa only [Registers.clock, Registers.comb, Registers.defaults, state] using flipZ
    · simpa only [Registers.clock, Registers.comb, Registers.defaults, state] using flipDivider
  · exact .inr ⟨depth, aimed.divide (by simp [state]), deep.divide busy depth (by simp [state])⟩

/-- Both ways to `S13` arrive with the range values and no sign left to restore. -/
theorem Projecting.settle (projecting : Projecting stale v r) (busy : Busy r)
    (state : r.state = .s12) : Projecting stale v (r.clock ⟨v, start⟩) := by
  have next : (r.clock ⟨v, start⟩).state = .s13 := by
    simp only [Registers.clock, Registers.comb, state]
  simp only [Projecting, state] at projecting
  simp only [Projecting, Placing, next]
  obtain ⟨quotients, ways⟩ := projecting
  refine ⟨(busy.quotients (by simp [state])).trans quotients, ?_⟩
  rcases ways with ⟨eye, skipping⟩ | ⟨depth, aimed, deep⟩
  · simp only [Skipping, state] at skipping
    obtain ⟨temps, ⟨flipX, flipY, flipZ, flipDivider⟩⟩ := skipping
    rw [ranged, if_pos eye, ← temps]
    simp [Registers.clock, Registers.comb, Registers.defaults, state, Lane.Places, Registers.laneX,
      Registers.laneY, flipX, flipY, flipZ, flipDivider]
  · have flipDivider : r.flipDivider = (v.z + three).msb := by
      simp only [Aimed, state] at aimed
      exact aimed.2.2
    have aimed' : Aimed v (r.clock ⟨v, start⟩) := aimed.divide (by simp [state])
    have deep' : Deep (v.z + three) (r.clock ⟨v, start⟩) := deep.sign state flipDivider
    simp only [Aimed, next] at aimed'
    simp only [Deep, next] at deep'
    rw [ranged, if_neg depth]
    exact ⟨aimed'.1, aimed'.2, deep'⟩

theorem Placing.projecting (placing : Placing (ranged stale v) r)
    (quotients : r.quotients = remaining stale v) : Projecting stale v r := by
  cases state : r.state
  case s13 | s14 | s15 | s16 | s17 | s18 | s19 | donestate1 | donestate2 =>
    simpa only [Projecting, state] using ⟨quotients, placing⟩
  all_goals
    simp only [Placing, state, Lane.Places, false_and] at placing

theorem Projecting.step (projecting : Projecting stale v r) (busy : Busy r) :
    Projecting stale v (r.clock ⟨v, start⟩) := by
  have units := busy.units
  cases state : r.state <;> simp only [state] at units
  case s0 | s00 | s1 | s2 | s3 | s4 | s5 | s6 => exact projecting.scale busy (by simp [state])
  case s7 => exact projecting.branch busy state
  case s8 | s9 | s10 => exact projecting.divide busy (by simp [state])
  case s11 => exact projecting.load busy state
  case s12 => exact projecting.settle busy state
  all_goals
    have late : r.quotients = remaining stale v ∧ Placing (ranged stale v) r := by
      simpa only [Projecting, state] using projecting
    exact (late.2.step busy).projecting ((busy.quotients (by simp [state])).trans late.1)

theorem Completed.delivered (completed : Completed r) (projecting : Projecting stale v r) :
    r.delivered = projected stale v := by
  simp only [Projecting, Placing, completed.state] at projecting
  obtain ⟨-, newx, newy, newz⟩ := projecting
  exact delivered_of_fields newx newy newz

theorem Completed.quotients (completed : Completed r) (projecting : Projecting stale v r) :
    r.quotients = remaining stale v := by
  simp only [Projecting, completed.state] at projecting
  exact projecting.1

theorem projected_of_depth (depth : v.z + three ≠ 0) (stale : Vertex) :
    (projected stale v).x = column v ∧ (projected stale v).y = row v := by
  rw [projected, ranged, if_neg depth]
  exact ⟨rfl, rfl⟩

/-! ## Runs -/

def run (inputs : Nat → Inputs) : Nat → Registers := trace Registers.clock {} inputs

/-- `START` is given to an idle projection in cycle `first`; from then on its
vertex stays `v` as long as `DONE` is low. -/
structure Request (inputs : Nat → Inputs) (first : Nat) (v : Vertex) : Prop where
  idle : (run inputs first).state = .wait ∨ (run inputs first).state = .donestate2
  start : (inputs first).start = true
  vertex : (inputs first).vertex = v
  held : ∀ k, first < k → (∀ j, first < j → j ≤ k → (run inputs j).done = false) →
    (inputs k).vertex = v

/-- `DONE` rises in cycle `last`, for the first time after `first`. -/
structure Finishes (inputs : Nat → Inputs) (first last : Nat) : Prop where
  later : first + 1 < last
  low : ∀ k, first < k → k < last → (run inputs k).done = false
  done : (run inputs last).done = true

/-- One vertex with `START` held high. -/
def steady (v : Vertex) : Nat → Inputs := fun _ => ⟨v, true⟩

theorem steady_request (v : Vertex) : Request (steady v) 0 v where
  idle := .inl rfl
  start := rfl
  vertex := rfl
  held _ _ _ := rfl

variable {inputs : Nat → Inputs} {first last other cycle : Nat}

theorem run_phase (inputs : Nat → Inputs) (cycle : Nat) :
    Waiting (run inputs cycle) ∨ Busy (run inputs cycle) ∨ Completed (run inputs cycle) := by
  refine trace_invariant (fun r => Waiting r ∨ Busy r ∨ Completed r) ?_ ?_ cycle
  · left
    exact ⟨rfl, rfl, ⟨⟨rfl, by simp⟩, ⟨rfl, by simp⟩, ⟨rfl, by simp⟩, ⟨rfl, by simp⟩,
      ⟨rfl, by simp⟩, ⟨rfl, by simp⟩⟩⟩
  · rintro r ⟨v, start⟩ (waiting | busy | completed)
    · cases start
      · exact .inl waiting.hold
      · exact .inr (.inl (busy_of_start (.inl waiting)).1)
    · exact .inr (busy.step.imp (·.2.1) (·.2))
    · cases start
      · exact .inr (.inr (by rwa [completed.hold]))
      · exact .inr (.inl (busy_of_start (.inr completed)).1)

theorem Request.ready (request : Request inputs first v) :
    Waiting (run inputs first) ∨ Completed (run inputs first) := by
  rcases run_phase inputs first with waiting | busy | completed
  · exact .inl waiting
  · have units := busy.units
    rcases request.idle with state | state <;> simp only [state] at units
  · exact .inr completed

theorem Finishes.unique (finishes : Finishes inputs first last)
    (again : Finishes inputs first other) : last = other := by
  rcases Nat.lt_trichotomy last other with before | same | after
  · cases (again.low last (by have := finishes.later; omega) before).symm.trans finishes.done
  · exact same
  · cases (finishes.low other (by have := again.later; omega) after).symm.trans again.done

/-- The projection of `v` that was started in cycle `first` is busy in `cycle`. -/
structure Underway (inputs : Nat → Inputs) (first : Nat) (v : Vertex) (cycle : Nat) : Prop where
  later : first < cycle
  low : ∀ j, first < j → j ≤ cycle → (run inputs j).done = false
  busy : Busy (run inputs cycle)
  projecting : Projecting (run inputs first).quotients v (run inputs cycle)

theorem Request.underway (request : Request inputs first v) :
    Underway inputs first v (first + 1) := by
  have edge : inputs first = ⟨v, true⟩ := by
    rw [← request.vertex, ← request.start]
  have begun : run inputs (first + 1) = (run inputs first).clock ⟨v, true⟩ := by
    rw [run, trace_succ, edge]
  have busy := (busy_of_start (v := v) request.ready).1
  rw [← begun] at busy
  refine ⟨Nat.lt_succ_self first, ?_, busy, ?_⟩
  · intro j lower upper
    obtain rfl : j = first + 1 := Nat.le_antisymm upper lower
    exact busy.done
  · rw [begun]
    exact projecting_of_start request.ready

/-- The projection either ends in the next cycle or gets closer to its end. -/
theorem Underway.step (request : Request inputs first v)
    (underway : Underway inputs first v cycle) :
    (Completed (run inputs (cycle + 1)) ∧
        Projecting (run inputs first).quotients v (run inputs (cycle + 1))) ∨
      (Underway inputs first v (cycle + 1) ∧
        latency (run inputs (cycle + 1)) < latency (run inputs cycle)) := by
  have next : run inputs (cycle + 1) = (run inputs cycle).clock ⟨v, (inputs cycle).start⟩ := by
    rw [run, trace_succ, ← request.held cycle underway.later underway.low]
  have projecting : Projecting (run inputs first).quotients v (run inputs (cycle + 1)) :=
    next ▸ underway.projecting.step underway.busy
  rcases underway.busy.step (i := ⟨v, (inputs cycle).start⟩) with ⟨_, busy, less⟩ | ⟨_, completed⟩
  · rw [← next] at busy less
    refine .inr ⟨⟨Nat.lt_succ_of_lt underway.later, ?_, busy, projecting⟩, less⟩
    intro j lower upper
    rcases Nat.le_succ_iff.mp upper with earlier | rfl
    · exact underway.low j lower earlier
    · exact busy.done
  · rw [← next] at completed
    exact .inl ⟨completed, projecting⟩

/-- A projection that is started finishes, with the outcome fixed at its start. -/
theorem Request.finishes (request : Request inputs first v) :
    ∃ last, Finishes inputs first last ∧ (run inputs last).state = .donestate2 ∧
      (run inputs last).delivered = projected (run inputs first).quotients v ∧
      (run inputs last).quotients = remaining (run inputs first).quotients v := by
  obtain ⟨last, lower, _, ⟨completed, projecting⟩, inside⟩ :=
    reaches_of_rank id (Underway inputs first v)
      (fun cycle => Completed (run inputs cycle) ∧
        Projecting (run inputs first).quotients v (run inputs cycle))
      (fun cycle => latency (run inputs cycle)) (fun _ underway => underway.step request)
      request.underway
  refine ⟨last + 1, ⟨Nat.lt_succ_of_le lower, ?_, completed.done⟩, completed.state,
    completed.delivered projecting, completed.quotients projecting⟩
  intro k after before
  exact (inside k after (Nat.le_of_lt_succ before)).busy.done

end WireframeGpu.Projection
