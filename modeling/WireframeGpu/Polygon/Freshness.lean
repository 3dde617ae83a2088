import WireframeGpu.Data.Trace
import WireframeGpu.Polygon.Raster
import WireframeGpu.Projection.Handshake

namespace WireframeGpu.PolygonRaster

open WireframeGpu.Data TriangleProjection

/-! The raster core and its twelve triangle projections: `STARTRAST` is only
entered with the coordinates of this frame. -/

variable {m : Megafunctions} {r : Registers} {i : Inputs}

/-- Where the triangle projections stand in each state of the core. -/
def Phased (r : Registers) : Prop :=
  match r.state with
  | .initial | .test4 | .test3 | .test2 | .test1 => ∀ t, Rested (r.triangles t)
  | .startproj => (∀ t, Started (r.triangles t)) ∨ ∀ t, Moving (r.triangles t)
  | .startrast | .start | .s3 | .s1 | .s4 | .s5 | .s6 => ∀ t, Settled (r.triangles t)
  | .s2 | .s7 => False

theorem startProj_eq (t : Fin 12) : (r.comb i).startProj t = (r.state == .test1) := by
  cases state : r.state <;> simp only [Registers.comb, Registers.defaults, state] <;>
    (repeat' split) <;> rfl

theorem triangle_clock (t : Fin 12) :
    (r.clock m i).triangles t =
      (r.triangles t).clock ⟨r.rotated i t, r.state == .test1⟩ := by
  rw [← startProj_eq (i := i) t]
  rfl

theorem triangle_clock_quiet (quiet : r.state ≠ .test1) (t : Fin 12) :
    (r.clock m i).triangles t = (r.triangles t).clock ⟨r.rotated i t, false⟩ := by
  rw [triangle_clock, beq_false_of_ne quiet]

theorem triangles_hold (settled : ∀ t, Settled (r.triangles t)) (quiet : r.state ≠ .test1) :
    (r.clock m i).triangles = r.triangles := by
  funext t
  rw [triangle_clock_quiet quiet, (settled t).hold]

theorem phased_of_settled (settled : ∀ t, Settled (r.triangles t))
    (declared : r.state ≠ .s2 ∧ r.state ≠ .s7) : Phased r := by
  simp only [Phased]
  cases state : r.state <;> simp only
  case s2 => exact declared.1 state
  case s7 => exact declared.2 state
  case startproj => exact .inr fun t => .inr (settled t).toFinished
  case initial | test4 | test3 | test2 | test1 => exact fun t => (settled t).toFinished.rested
  all_goals exact settled

theorem nextState_declared (declared : r.state ≠ .s2 ∧ r.state ≠ .s7) :
    (r.clock m i).state ≠ .s2 ∧ (r.clock m i).state ≠ .s7 := by
  show (r.comb i).nextState ≠ _ ∧ (r.comb i).nextState ≠ _
  cases state : r.state <;> simp only [state, ne_eq, not_true_eq_false, false_and, and_false]
    at declared <;>
    simp only [Registers.comb, state] <;> (repeat' split) <;> simp

theorem Phased.declared (phased : Phased r) : r.state ≠ .s2 ∧ r.state ≠ .s7 := by
  constructor <;> intro state <;> simp only [Phased, state] at phased

theorem Phased.step (phased : Phased r) : Phased (r.clock m i) := by
  have declared := nextState_declared (m := m) (i := i) phased.declared
  cases state : r.state <;> simp only [Phased, state] at phased
  case initial | test4 | test3 | test2 =>
    have rested : ∀ t, Rested ((r.clock m i).triangles t) := by
      intro t
      rw [triangle_clock_quiet (by simp [state])]
      exact (phased t).hold
    have next : (r.clock m i).state = .initial ∨ (r.clock m i).state = .test4 ∨
        (r.clock m i).state = .test3 ∨ (r.clock m i).state = .test2 ∨
        (r.clock m i).state = .test1 := by
      simp only [Registers.clock, Registers.comb, state]
      (try split) <;> simp
    rcases next with next | next | next | next | next <;> simpa only [Phased, next] using rested
  case test1 =>
    have next : (r.clock m i).state = .startproj := by
      simp only [Registers.clock, Registers.comb, state]
    simp only [Phased, next]
    left
    intro t
    rw [triangle_clock, state]
    exact (phased t).started
  case startproj =>
    have moving : ∀ t, Moving ((r.clock m i).triangles t) := by
      intro t
      rw [triangle_clock_quiet (by simp [state])]
      rcases phased with started | moving
      · exact .inl (started t).step
      · exact (moving t).step
    by_cases all : r.allProjected = true
    · have settled : ∀ t, Settled (r.triangles t) := by
        intro t
        have done := of_decide_eq_true all t
        rcases phased with started | moving
        · cases (started t).done.symm.trans done
        · exact (moving t).settled done
      refine phased_of_settled ?_ declared
      rw [triangles_hold settled (by simp [state])]
      exact settled
    · have next : (r.clock m i).state = .startproj := by
        simp only [Registers.clock, Registers.comb, state, all, Bool.false_eq_true, ↓reduceIte]
      simp only [Phased, next]
      exact .inr moving
  all_goals
    refine phased_of_settled ?_ declared
    rw [triangles_hold phased (by simp [state])]
    exact phased

def projDelay (r : Registers) : Nat := ∑ t, delay (r.triangles t)

theorem startproj_progress (phased : Phased r) (state : r.state = .startproj) :
    (r.clock m i).state = .startrast ∨
      ((r.clock m i).state = .startproj ∧ projDelay (r.clock m i) < projDelay r) := by
  have next : (r.clock m i).state = if r.allProjected then .startrast else .startproj := by
    simp only [Registers.clock, Registers.comb, state]
  cases all : r.allProjected
  · right
    rw [all] at next
    refine ⟨next, ?_⟩
    simp only [Phased, state] at phased
    have each : ∀ t, delay ((r.clock m i).triangles t) ≤ delay (r.triangles t) ∧
        ((r.triangles t).done = false →
          delay ((r.clock m i).triangles t) < delay (r.triangles t)) := by
      intro t
      rw [triangle_clock_quiet (by simp [state])]
      rcases phased with started | moving
      · have running : Running ((r.triangles t).clock ⟨r.rotated i t, false⟩) := (started t).step
        have less := running.delay_le
        rw [(started t).delay_eq]
        exact ⟨by omega, fun _ => by omega⟩
      · exact (moving t).delay_step
    obtain ⟨t, low⟩ : ∃ t, (r.triangles t).done = false := by
      simpa [Registers.allProjected] using all
    exact Finset.sum_lt_sum (fun t _ => (each t).1) ⟨t, Finset.mem_univ t, (each t).2 low⟩
  · left
    rw [next, all]
    rfl

theorem projDelay_le (phased : Phased r) (state : r.state = .startproj) : projDelay r ≤ 4860 := by
  simp only [Phased, state] at phased
  have each : ∀ t ∈ Finset.univ, delay (r.triangles t) ≤ 405 := by
    intro t _
    rcases phased with started | moving
    · exact le_of_eq (started t).delay_eq
    · rcases moving t with running | finished
      · exact Nat.le_succ_of_le running.delay_le
      · simp only [delay, finished.state]
        split <;> omega
  exact Finset.sum_le_card_nsmul _ _ _ each

theorem phased_powerUp : Phased {} :=
  fun _ => .inl ⟨rfl, rfl, fun _ => ⟨rfl, rfl, ⟨⟨rfl, nofun⟩, ⟨rfl, nofun⟩, ⟨rfl, nofun⟩,
    ⟨rfl, nofun⟩, ⟨rfl, nofun⟩, ⟨rfl, nofun⟩⟩⟩⟩

/-! Runs of the core by itself, against every behaviour of its ports. -/

def run (m : Megafunctions) (inputs : Nat → Inputs) : Nat → Registers :=
  trace (Registers.clock m) {} inputs

variable {inputs : Nat → Inputs} {n first : Nat}

theorem run_succ (n : Nat) : run m inputs (n + 1) = (run m inputs n).clock m (inputs n) :=
  trace_succ _ _ _ _

theorem run_phased (m : Megafunctions) (inputs : Nat → Inputs) (n : Nat) :
    Phased (run m inputs n) :=
  trace_invariant Phased phased_powerUp (fun _ _ phased => phased.step) n

/-- `startProj` went up in cycle `first`, and the core has polled `projDone` since. -/
structure Awaiting (m : Megafunctions) (inputs : Nat → Inputs) (first n : Nat) : Prop where
  ordered : first < n
  starts : (run m inputs first).state = .test1
  polls : ∀ k, first < k → k < n → (run m inputs k).state = .startproj

theorem nextState_startproj (next : (r.clock m i).state = .startproj) :
    r.state = .test1 ∨ r.state = .startproj := by
  change (r.comb i).nextState = _ at next
  cases state : r.state <;> simp only [Registers.comb, Registers.defaults, state] at next <;>
    (repeat' split at next) <;> simp_all

theorem nextState_startrast (next : (r.clock m i).state = .startrast) :
    r.state = .startproj ∧ r.allProjected = true := by
  change (r.comb i).nextState = _ at next
  cases state : r.state <;> simp only [Registers.comb, Registers.defaults, state] at next <;>
    (repeat' split at next) <;> simp_all

theorem awaiting_of_startproj (n : Nat) (state : (run m inputs n).state = .startproj) :
    ∃ first, Awaiting m inputs first n := by
  induction n with
  | zero => cases state
  | succ n ih =>
      rcases nextState_startproj state with starts | polls
      · exact ⟨n, Nat.lt_succ_self n, starts, fun k lower upper => by omega⟩
      · obtain ⟨first, ordered, starts, before⟩ := ih polls
        refine ⟨first, Nat.lt_succ_of_lt ordered, starts, fun k lower upper => ?_⟩
        rcases Nat.lt_succ_iff_lt_or_eq.mp upper with earlier | rfl
        · exact before k lower earlier
        · exact polls

theorem awaiting_of_startrast (state : (run m inputs n).state = .startrast) :
    ∃ first, Awaiting m inputs first n := by
  cases n with
  | zero => cases state
  | succ n =>
      have polls := (nextState_startrast state).1
      obtain ⟨first, ordered, starts, before⟩ := awaiting_of_startproj n polls
      refine ⟨first, Nat.lt_succ_of_lt ordered, starts, fun k lower upper => ?_⟩
      rcases Nat.lt_succ_iff_lt_or_eq.mp upper with earlier | rfl
      · exact before k lower earlier
      · exact polls

theorem Awaiting.started (awaiting : Awaiting m inputs first n) (t : Fin 12) :
    Started ((run m inputs (first + 1)).triangles t) := by
  have phased := run_phased m inputs first
  simp only [Phased, awaiting.starts] at phased
  rw [run_succ, triangle_clock, awaiting.starts]
  exact (phased t).started

theorem Awaiting.moving (awaiting : Awaiting m inputs first n) (t : Fin 12) {k : Nat}
    (lower : first + 2 ≤ k) (upper : k ≤ n) : Moving ((run m inputs k).triangles t) := by
  induction k, lower using Nat.le_induction with
  | base =>
      rw [run_succ, triangle_clock_quiet (by simp [awaiting.polls _ _ upper])]
      exact .inl (awaiting.started t).step
  | succ k lower ih =>
      rw [run_succ, triangle_clock_quiet (by simp [awaiting.polls k (by omega) upper])]
      exact (ih (Nat.le_of_lt upper)).step

theorem Awaiting.long (awaiting : Awaiting m inputs first n)
    (enters : (run m inputs n).state = .startrast) : first + 3 ≤ n := by
  by_contra short
  have ordered := awaiting.ordered
  rcases (by omega : n = first + 1 ∨ n = first + 2) with rfl | rfl
  · have next : (run m inputs (first + 1)).state = .startproj := by
      rw [run_succ]
      simp only [Registers.clock, Registers.comb, awaiting.starts]
    cases next.symm.trans enters
  · have polled := (nextState_startrast enters).2
    cases (awaiting.started 0).done.symm.trans (of_decide_eq_true polled 0)

theorem Awaiting.coordinate_clock (awaiting : Awaiting m inputs first n) (t : Fin 12) (v : Fin 3)
    {k : Nat} (lower : first + 2 ≤ k) (upper : k < n) :
    ((run m inputs (k + 1)).triangles t).coordinate v =
      (((run m inputs k).triangles t).coordinate v).clock
        ⟨(run m inputs k).rotated (inputs k) t v, false⟩ := by
  rw [run_succ, triangle_clock, (awaiting.moving t lower (Nat.le_of_lt upper)).coordinate_step]

theorem Awaiting.accepted (awaiting : Awaiting m inputs first n) (long : first + 1 < n) (t : Fin 12)
    (v : Fin 3) :
    Projection.Busy (((run m inputs (first + 2)).triangles t).coordinate v) ∧
      ((((run m inputs (first + 2)).triangles t).coordinate v).state = .s0 ∨
        (((run m inputs (first + 2)).triangles t).coordinate v).state = .s00) := by
  have started := awaiting.started t
  rw [run_succ, triangle_clock_quiet (by simp [awaiting.polls _ _ long]), started.coordinate_step]
  exact Projection.busy_of_start (started.ready v)

/-- Each projection goes through one whole computation between `startProj` and `STARTRAST`. -/
theorem Awaiting.delivered (awaiting : Awaiting m inputs first n)
    (enters : (run m inputs n).state = .startrast) (t : Fin 12) (v : Fin 3) :
    ∃ last, Projection.Delivered (fun k => ((run m inputs k).triangles t).coordinate v)
      (first + 2) last n := by
  have long := awaiting.long enters
  have settled := run_phased m inputs n
  simp only [Phased, enters] at settled
  rcases Projection.computation (c := fun k => ((run m inputs k).triangles t).coordinate v)
      (v := fun k => (run m inputs k).rotated (inputs k) t v) (n := n)
      (awaiting.accepted (by omega) t v).1 (by omega)
      (fun k lower upper => awaiting.coordinate_clock t v lower upper) with working | delivered
  · cases (working n (by omega) le_rfl).done.symm.trans ((settled t).coordinates v).done
  · exact delivered

theorem settled_persists (enters : (run m inputs n).state = .startrast) {later : Nat}
    (ordered : n ≤ later)
    (quiet : ∀ k, n ≤ k → k < later → (run m inputs k).state ≠ .test1) :
    (run m inputs later).triangles = (run m inputs n).triangles := by
  have settled := run_phased m inputs n
  simp only [Phased, enters] at settled
  induction later, ordered using Nat.le_induction with
  | base => rfl
  | succ later ordered ih =>
      have same := ih fun k lower upper => quiet k lower (Nat.lt_succ_of_lt upper)
      rw [run_succ, triangles_hold (by rwa [same]) (quiet later ordered (Nat.lt_succ_self later)),
        same]

/-- The five clocks from `startRaster` to the polling of the projections. -/
theorem climbs (rests : (run m inputs n).state = .initial)
    (starts : (inputs n).startRaster = true) :
    (run m inputs (n + 1)).state = .test4 ∧ (run m inputs (n + 2)).state = .test3 ∧
      (run m inputs (n + 3)).state = .test2 ∧ (run m inputs (n + 4)).state = .test1 ∧
      (run m inputs (n + 5)).state = .startproj := by
  have test4 : (run m inputs (n + 1)).state = .test4 := by
    simp [run_succ, Registers.clock, Registers.comb, rests, starts]
  have test3 : (run m inputs (n + 2)).state = .test3 := by
    rw [run_succ, Registers.clock, Registers.comb, test4]
  have test2 : (run m inputs (n + 3)).state = .test2 := by
    rw [run_succ, Registers.clock, Registers.comb, test3]
  have test1 : (run m inputs (n + 4)).state = .test1 := by
    rw [run_succ, Registers.clock, Registers.comb, test2]
  have polls : (run m inputs (n + 5)).state = .startproj := by
    rw [run_succ, Registers.clock, Registers.comb, test1]
  exact ⟨test4, test3, test2, test1, polls⟩

theorem reaches_startrast (state : (run m inputs n).state = .startproj) :
    ∃ last, n ≤ last ∧ last ≤ n + 4860 ∧ (run m inputs (last + 1)).state = .startrast ∧
      ∀ k, n ≤ k → k ≤ last → (run m inputs k).state = .startproj := by
  have budget := projDelay_le (run_phased m inputs n) state
  obtain ⟨last, lower, upper, enters, between⟩ := reaches_of_rank (run m inputs)
    (fun r => Phased r ∧ r.state = .startproj) (fun r => r.state = .startrast) projDelay
    (fun k ⟨phased, polls⟩ => (startproj_progress phased polls).imp id
      fun ⟨next, less⟩ => ⟨⟨phased.step, next⟩, less⟩)
    ⟨run_phased m inputs n, state⟩
  exact ⟨last, lower, by omega, enters, fun k lower upper => (between k lower upper).2⟩

/-- Whenever the core enters `STARTRAST`, its coordinates come from the
`startProj` of this frame.  That `startProj` dropped every `DONE` before it was
first polled; each projection started on it, kept `DONE` down until it loaded its
coordinates, and holds them up to the next `startProj`. -/
theorem no_stale_coordinates (m : Megafunctions) (inputs : Nat → Inputs) (n : Nat)
    (enters : (run m inputs n).state = .startrast) :
    ∃ first < n,
      (∀ t, ((run m inputs first).comb (inputs first)).startProj t = true) ∧
      (∀ k, first < k → k ≤ n → ∀ t, ((run m inputs k).comb (inputs k)).startProj t = false) ∧
      ∀ t, ((run m inputs (first + 1)).triangles t).done = false ∧
        ((run m inputs n).triangles t).done = true ∧
        ∀ v, ((((run m inputs (first + 2)).triangles t).coordinate v).state = .s0 ∨
            (((run m inputs (first + 2)).triangles t).coordinate v).state = .s00) ∧
          (∃ last, first + 2 ≤ last ∧ last < n ∧
            (((run m inputs last).triangles t).coordinate v).state = .donestate1 ∧
            (∀ k, first + 2 ≤ k → k ≤ last →
              (((run m inputs k).triangles t).coordinate v).done = false) ∧
            (∀ k, last < k → k ≤ n →
              (((run m inputs k).triangles t).coordinate v).done = true) ∧
            (((run m inputs n).triangles t).coordinate v).newx =
              (((run m inputs last).triangles t).coordinate v).tempx ∧
            (((run m inputs n).triangles t).coordinate v).newy =
              (((run m inputs last).triangles t).coordinate v).tempy) ∧
          ∀ later, n ≤ later →
            (∀ k, n ≤ k → k < later → ((run m inputs k).comb (inputs k)).startProj t = false) →
            (((run m inputs later).triangles t).coordinate v).newx =
              (((run m inputs n).triangles t).coordinate v).newx ∧
            (((run m inputs later).triangles t).coordinate v).newy =
              (((run m inputs n).triangles t).coordinate v).newy := by
  obtain ⟨first, awaiting⟩ := awaiting_of_startrast enters
  have long := awaiting.long enters
  have settled := run_phased m inputs n
  simp only [Phased, enters] at settled
  refine ⟨first, awaiting.ordered, fun t => ?_, fun k lower upper t => ?_, fun t =>
    ⟨(awaiting.started t).done, (settled t).done, fun v => ⟨(awaiting.accepted (by omega) t v).2,
      ?_, fun later ordered quiet => ?_⟩⟩⟩
  · rw [startProj_eq, awaiting.starts]
    rfl
  · rw [startProj_eq]
    rcases Nat.lt_or_eq_of_le upper with earlier | rfl
    · rw [awaiting.polls k lower earlier]
      rfl
    · rw [enters]
      rfl
  · obtain ⟨last, delivered⟩ := awaiting.delivered enters t v
    have held := delivered.held n delivered.ordered.2 le_rfl
    have loaded := Projection.loads_coordinates
      (i := ⟨(run m inputs last).rotated (inputs last) t v, false⟩) delivered.loads
    have clocked := awaiting.coordinate_clock t v delivered.ordered.1 delivered.ordered.2
    simp only [← clocked] at loaded
    refine ⟨last, delivered.ordered.1, delivered.ordered.2, delivered.loads,
      fun k lower upper => (delivered.busy k lower upper).done,
      fun k lower upper => (delivered.completed k lower upper).done, ?_, ?_⟩
    · exact (congrArg Projection.Registers.newx held).trans loaded.1
    · exact (congrArg Projection.Registers.newy held).trans loaded.2
  · have same := settled_persists enters ordered fun k lower upper state => by
      have low := quiet k lower upper
      rw [startProj_eq, state] at low
      cases low
    rw [same]
    exact ⟨rfl, rfl⟩

def pulse (cycle : Nat) : Inputs where
  startRaster := cycle == 0
  readCoord := false
  x := fun _ _ => 0
  y := fun _ _ => 0
  z := fun _ _ => 0

theorem no_stale_coordinates_first_frame :
    ∃ n, (run .initFiles pulse n).state = .startrast ∧
      ∃ first < n, ∀ t, ((run .initFiles pulse (first + 1)).triangles t).done = false ∧
        ((run .initFiles pulse n).triangles t).done = true := by
  have polls : (run .initFiles pulse 5).state = .startproj := rfl
  obtain ⟨last, -, -, enters, -⟩ := reaches_startrast polls
  obtain ⟨first, ordered, _, _, fresh⟩ := no_stale_coordinates .initFiles pulse (last + 1) enters
  exact ⟨last + 1, enters, first, ordered, fun t => ⟨(fresh t).1, (fresh t).2.1⟩⟩

end WireframeGpu.PolygonRaster
