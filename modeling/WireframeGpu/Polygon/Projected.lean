import WireframeGpu.Polygon.Frames
import WireframeGpu.Projection.Visible

namespace WireframeGpu.PolygonRaster

open WireframeGpu.Data TriangleProjection

/-! The coordinates that `STARTRAST` hands to the lines, for vertices that are
held while they are projected. -/

variable {m : Megafunctions} {inputs : Nat → Inputs} {first n : Nat} {vertex : Projection.Vertex}

/-- The vertex that `coordinate v` of triangle `t` sees while it works for the
frame projected from cycle `first` to cycle `n`. -/
def Held (m : Megafunctions) (inputs : Nat → Inputs) (first n : Nat) (t : Fin 12) (v : Fin 3)
    (vertex : Projection.Vertex) : Prop :=
  ∀ k, first < k → k < n → (run m inputs k).rotated (inputs k) t v = vertex

theorem Awaiting.aimed (awaiting : Awaiting m inputs first n) {t : Fin 12} {v : Fin 3}
    (held : Held m inputs first n t v vertex) (depth : vertex.z + Projection.three ≠ 0)
    {last k : Nat} (delivered : Projection.Delivered
      (fun k => ((run m inputs k).triangles t).coordinate v) (first + 2) last n)
    (lower : first + 2 ≤ k) (upper : k ≤ last + 1) :
    Projection.Aimed vertex (((run m inputs k).triangles t).coordinate v) := by
  have inside := delivered.ordered
  induction k, lower using Nat.le_induction with
  | base =>
      have started := awaiting.started t
      rw [run_succ, triangle_clock_quiet (by simp [awaiting.polls _ _ (by omega : first + 1 < n)]),
        started.coordinate_step, held (first + 1) (by omega) (by omega)]
      exact Projection.aimed_of_start (started.ready v)
  | succ k lower ih =>
      rw [awaiting.coordinate_clock t v lower (by omega), held k (by omega) (by omega)]
      exact (ih (by omega)).step (delivered.busy k lower (by omega)) depth

theorem Awaiting.projected (awaiting : Awaiting m inputs first n)
    (enters : (run m inputs n).state = .startrast) {t : Fin 12} {v : Fin 3}
    (held : Held m inputs first n t v vertex) (depth : vertex.z + Projection.three ≠ 0) :
    (((run m inputs n).triangles t).coordinate v).newx = Projection.column vertex ∧
      (((run m inputs n).triangles t).coordinate v).newy = Projection.row vertex := by
  obtain ⟨last, delivered⟩ := awaiting.delivered enters t v
  have inside := delivered.ordered
  have aimed := awaiting.aimed held depth delivered (k := last + 1) (by omega) le_rfl
  have completed := delivered.completed (last + 1) (by omega) (by omega)
  have same := delivered.held n inside.2 le_rfl
  simp only [Projection.Aimed, completed.state] at aimed
  rw [same]
  exact aimed

theorem screen_of_loaded {r : Registers} {t : Fin 12} {v : Fin 3}
    (newx : ((r.triangles t).coordinate v).newx = Projection.column vertex)
    (newy : ((r.triangles t).coordinate v).newy = Projection.row vertex) :
    r.screenX t v = (Projection.column vertex).extractLsb' 15 9 ∧
      r.screenY t v = (Projection.row vertex).extractLsb' 15 9 := by
  rw [Registers.screenX, Registers.screenY, newx, newy]
  exact ⟨rfl, rfl⟩

/-! One frame, from its `startRaster` up to the next one. -/

/-- Cycle `n` belongs to the frame that `startRaster` opened in cycle `first`. -/
structure Frame (inputs : Nat → Inputs) (first n : Nat) : Prop where
  ordered : first < n
  starts : (inputs first).startRaster = true
  only : ∀ k, first < k → k < n → (inputs k).startRaster = false

theorem Frame.shorten (frame : Frame inputs first n) {k : Nat} (lower : first < k) (upper : k ≤ n) :
    Frame inputs first k :=
  ⟨lower, frame.starts, fun j after before => frame.only j after (Nat.lt_of_lt_of_le before upper)⟩

def State.projecting : State → Bool
  | .test4 | .test3 | .test2 | .test1 | .startproj => true
  | _ => false

/-- The projections are over, and this one delivered `vertex`. -/
structure Landed (r : Registers) (t : Fin 12) (v : Fin 3) (vertex : Projection.Vertex) : Prop where
  past : r.state.projecting = false
  settled : ∀ t, Settled (r.triangles t)
  newx : ((r.triangles t).coordinate v).newx = Projection.column vertex
  newy : ((r.triangles t).coordinate v).newy = Projection.row vertex

theorem nextState_projecting {r : Registers} {i : Inputs} (projecting : r.state.projecting = true) :
    (r.clock m i).state.projecting = true ∨ (r.clock m i).state = .startrast := by
  show (r.comb i).nextState.projecting = true ∨ (r.comb i).nextState = .startrast
  cases state : r.state <;>
    simp only [state, State.projecting, Bool.false_eq_true] at projecting <;>
    simp only [Registers.comb, state]
  case startproj =>
    split
    · exact .inr rfl
    · exact .inl rfl
  all_goals exact .inl rfl

theorem nextState_past {r : Registers} {i : Inputs} (past : r.state.projecting = false)
    (idle : i.startRaster = false) : (r.clock m i).state.projecting = false := by
  show (r.comb i).nextState.projecting = false
  cases state : r.state <;>
    simp only [state, State.projecting, Bool.true_eq_false] at past <;>
    simp only [Registers.comb, Registers.defaults, state, idle, Bool.false_eq_true, ↓reduceIte] <;>
    (repeat' split) <;> rfl

theorem Frame.past (frame : Frame inputs first n) {k : Nat} (lower : first < k) (upper : k ≤ n)
    (enters : (run m inputs k).state = .startrast) : (run m inputs n).state.projecting = false := by
  induction n, upper using Nat.le_induction with
  | base =>
      rw [enters]
      rfl
  | succ n ordered ih =>
      rw [run_succ]
      exact nextState_past (ih (frame.shorten (Nat.lt_of_lt_of_le lower ordered) (Nat.le_succ n)))
        (frame.only n (Nat.lt_of_lt_of_le lower ordered) (Nat.lt_succ_self n))

/-- The coordinates handed to the lines stay for the rest of the frame. -/
theorem Frame.kept (frame : Frame inputs first n) {k : Nat} (lower : first < k) (upper : k ≤ n)
    (enters : (run m inputs k).state = .startrast) :
    (run m inputs n).triangles = (run m inputs k).triangles :=
  settled_persists enters upper fun j after before state => by
    have past := (frame.shorten (Nat.lt_of_lt_of_le lower after) (Nat.le_of_lt before)).past
      lower after enters
    rw [state] at past
    cases past

theorem Landed.step {r : Registers} {i : Inputs} {t : Fin 12} {v : Fin 3}
    (landed : Landed r t v vertex) (idle : i.startRaster = false) :
    Landed (r.clock m i) t v vertex := by
  have past := landed.past
  have same := triangles_hold (m := m) (i := i) landed.settled
    (by intro state; simp [state, State.projecting] at past)
  exact ⟨nextState_past past idle, by rw [same]; exact landed.settled,
    by rw [same]; exact landed.newx, by rw [same]; exact landed.newy⟩

theorem Awaiting.within {start : Nat} (awaiting : Awaiting m inputs start n)
    (between : (run m inputs first).state = .initial) (ordered : first < n) : first < start := by
  by_contra late
  rcases Nat.lt_or_eq_of_le (Nat.not_lt.mp late) with before | rfl
  · cases between.symm.trans (awaiting.polls first before ordered)
  · cases between.symm.trans awaiting.starts

/-- Within a frame a vertex that is held while the core waits is projected exactly. -/
theorem Frame.landed (frame : Frame inputs first n)
    (between : (run m inputs first).state = .initial) {t : Fin 12} {v : Fin 3}
    (held : ∀ k, first < k → k < n → (run m inputs k).state = .startproj →
      (run m inputs k).rotated (inputs k) t v = vertex)
    (depth : vertex.z + Projection.three ≠ 0) :
    (run m inputs n).state.projecting = true ∨ Landed (run m inputs n) t v vertex := by
  obtain ⟨ordered, starts, only⟩ := frame
  induction n, ordered using Nat.le_induction with
  | base =>
      left
      have next : (run m inputs (first + 1)).state = .test4 := by
        rw [run_succ]
        simp [Registers.clock, Registers.comb, between, starts]
      rw [next]
      rfl
  | succ n ordered ih =>
      have idle := only n ordered (Nat.lt_succ_self n)
      rcases ih (fun k lower upper => held k lower (Nat.lt_succ_of_lt upper))
        (fun k lower upper => only k lower (Nat.lt_succ_of_lt upper)) with projecting | landed
      · rcases nextState_projecting (m := m) (i := inputs n) projecting with next | enters
        · exact .inl next
        · right
          rw [← run_succ] at enters
          obtain ⟨start, awaiting⟩ := awaiting_of_startrast enters
          have later := awaiting.within between (Nat.lt_succ_of_lt ordered)
          obtain ⟨newx, newy⟩ := awaiting.projected enters (t := t) (v := v)
            (fun k lower upper => held k (by omega) upper (awaiting.polls k lower upper)) depth
          have phased := run_phased m inputs (n + 1)
          simp only [Phased, enters] at phased
          exact ⟨by rw [enters]; rfl, phased, newx, newy⟩
      · exact .inr (landed.step idle)

def pixel (vertex : Projection.Vertex) : Nat × Nat :=
  (((Projection.column vertex).extractLsb' 15 9).toNat,
    ((Projection.row vertex).extractLsb' 15 9).toNat)

def edge (a b : Projection.Vertex) : Segment := ⟨(pixel a).1, (pixel a).2, (pixel b).1, (pixel b).2⟩

theorem segment_of_landed {r : Registers} {line : Fin 36} {a b : Projection.Vertex}
    (first : Landed r (Registers.edgeTriangle line) (Registers.edgeVertex line) a)
    (second : Landed r (Registers.edgeTriangle line) (Registers.edgeEnd line) b) :
    segment r line = edge a b := by
  obtain ⟨x0, y0⟩ := screen_of_loaded first.newx first.newy
  obtain ⟨x1, y1⟩ := screen_of_loaded second.newx second.newy
  simp only [segment, Registers.ends, Linerasterize.Endpoints.segment, x0, y0, x1, y1]
  rfl

theorem edge_visible {a b : Projection.Vertex} (first : Projection.Visible a)
    (second : Projection.Visible b) {p : Nat × Nat} (drawn : p ∈ (edge a b).points) :
    p.1 ≤ 319 ∧ p.2 ≤ 239 := by
  have bounds := (edge a b).points_bounds drawn
  obtain ⟨x0, y0⟩ := Projection.visible_on_screen first
  obtain ⟨x1, y1⟩ := Projection.visible_on_screen second
  simp only [edge, pixel, Segment.minX, Segment.maxX, Segment.minY, Segment.maxY] at bounds
  omega

theorem Frame.ended (frame : Frame inputs first n)
    (between : (run m inputs first).state = .initial) (rests : (run m inputs n).state = .initial) :
    (run m inputs n).bufferEmpty = true := by
  obtain ⟨ordered, starts, only⟩ := frame
  induction n, ordered using Nat.le_induction with
  | base =>
      rw [run_succ] at rests
      simp [Registers.clock, Registers.comb, between, starts] at rests
  | succ n ordered ih =>
      have idle := only n ordered (Nat.lt_succ_self n)
      have earlier := fun rests => ih rests fun k lower upper =>
        only k lower (Nat.lt_succ_of_lt upper)
      rw [run_succ] at rests ⊢
      simp only [Registers.clock, idle, Bool.false_eq_true, ↓reduceIte] at rests ⊢
      cases state : (run m inputs n).state <;>
        simp only [Registers.comb, Registers.defaults, state] at rests ⊢ <;>
        (repeat' split at rests) <;> simp_all

end WireframeGpu.PolygonRaster
