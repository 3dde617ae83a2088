import WireframeGpu.Top.Boot

namespace WireframeGpu.Gpu

open WireframeGpu.Data WireframeGpu.Top PolygonRaster Linerasterize

/-! A frame whose vertices are held while they are projected. -/

variable {m : Megafunctions} {buffer1 buffer2 : FrameBuffer} {inputs : Nat → Inputs}
  {first n : Nat} {vertices : Fin 12 → Fin 3 → Projection.Vertex}

/-- The projections of the frame are fed these vertices for as long as they work. -/
def Fed (m : Megafunctions) (start : Gpu) (inputs : Nat → Inputs) (first n : Nat)
    (vertices : Fin 12 → Fin 3 → Projection.Vertex) : Prop :=
  ∀ k, first < k → k < n → (run m start inputs k).raster.state = .startproj →
    ∀ t v, fed m start inputs k t v = vertices t v

theorem all_landed (frame : FrameAt m (powerUp buffer1 buffer2) inputs first n)
    (held : Fed m (powerUp buffer1 buffer2) inputs first n vertices)
    (depth : ∀ t v, (vertices t v).z + Projection.three ≠ 0) :
    (run m (powerUp buffer1 buffer2) inputs n).raster.state.projecting = true ∨
      ∀ t v, Landed (run m (powerUp buffer1 buffer2) inputs n).raster t v (vertices t v) := by
  cases past : (run m (powerUp buffer1 buffer2) inputs n).raster.state.projecting
  · right
    intro t v
    rcases frame_landed frame (fun k lower upper state => held k lower upper state t v)
        (depth t v) with projecting | landed
    · cases past.symm.trans projecting
    · exact landed
  · exact .inl rfl

theorem visible_depth {vertex : Projection.Vertex} (visible : Projection.Visible vertex) :
    vertex.z + Projection.three ≠ 0 := by
  intro zero
  have exact_d := (Projection.depth_toNat visible.ahead visible.depthInRange).1
  have ahead := visible.ahead
  rw [zero] at exact_d
  simp only [BitVec.ofNat_eq_ofNat, BitVec.toNat_ofNat, Nat.zero_mod, Nat.cast_zero] at exact_d
  omega

theorem edge_below {a b : Projection.Vertex} (first : Projection.Visible a)
    (second : Projection.Visible b) : (edge a b).majorMax ≠ 511 := by
  obtain ⟨x0, y0⟩ := Projection.visible_on_screen first
  obtain ⟨x1, y1⟩ := Projection.visible_on_screen second
  have bound := (edge a b).majorMax_le
  simp only [Segment.maxX, Segment.maxY, edge, pixel] at bound ⊢
  omega

theorem frame_rendering (frame : FrameAt m (powerUp buffer1 buffer2) inputs first n)
    (held : Fed m (powerUp buffer1 buffer2) inputs first n vertices)
    (visible : ∀ t v, Projection.Visible (vertices t v)) :
    Rendering (run m (powerUp buffer1 buffer2) inputs n)
      (ledger m (powerUp buffer1 buffer2) inputs n) := by
  have begins := rendering_before (m := m) (.inl (starts_phase frame.starts)) le_rfl
  have rests := rests_at_start frame
  rw [← raster_run] at rests
  have ordered : first + 1 ≤ n := frame.ordered
  induction n, ordered using Nat.le_induction with
  | base => exact begins.step fun state => by cases rests.symm.trans state
  | succ n ordered ih =>
      have shorter := frame.shorten ordered (Nat.le_succ n)
      have held' : Fed m (powerUp buffer1 buffer2) inputs first n vertices :=
        fun k lower upper => held k lower (Nat.lt_succ_of_lt upper)
      refine (ih shorter held').step fun state line => ?_
      rcases all_landed shorter held' fun t v => visible_depth (visible t v) with
        projecting | landed
      · rw [state] at projecting
        cases projecting
      · rw [segment_of_landed (landed _ _) (landed _ _)]
        exact edge_below (visible _ _) (visible _ _)

theorem pushed_on_edge {l : Ledger} {g : Gpu} (rendering : Rendering g l)
    (ended : g.raster.state = .initial → g.raster.bufferEmpty = true)
    (landed : g.raster.state.projecting = true ∨
      ∀ t v, Landed g.raster t v (vertices t v)) {line : Fin 36} {word : BitVec 18}
    (member : word ∈ l.pushed line) :
    ∃ t v, ∃ p ∈ (edge (vertices t v) (vertices t (v + 1))).points, word = pixelWord p := by
  rcases landed with projecting | landed
  · have framed := rendering.sound.framed
    cases state : g.raster.state <;>
      simp only [state, State.projecting, Bool.false_eq_true] at projecting <;>
      simp only [Framed, state] at framed <;>
      · rw [(framed.2 line).2] at member
        cases member
  · obtain ⟨p, drawn, rfl⟩ := rendering.sound.pushed_mem ended member
    rw [segment_of_landed (landed _ _) (landed _ _)] at drawn
    exact ⟨_, _, p, drawn, rfl⟩

theorem pixelWord_visible {p : Nat × Nat} (inside : p.1 ≤ 319 ∧ p.2 ≤ 239) :
    pixelX (pixelWord p) = p.1 ∧ pixelY (pixelWord p) = p.2 :=
  ⟨pixelWord_x (by omega), pixelWord_y (by omega)⟩

theorem pushed_visible (frame : FrameAt m (powerUp buffer1 buffer2) inputs first n)
    (held : Fed m (powerUp buffer1 buffer2) inputs first n vertices)
    (visible : ∀ t v, Projection.Visible (vertices t v)) {line : Fin 36} {word : BitVec 18}
    (member : word ∈ (ledger m (powerUp buffer1 buffer2) inputs n).pushed line) :
    pixelX word ≤ 319 ∧ pixelY word ≤ 239 := by
  have landed := all_landed frame held fun t v => visible_depth (visible t v)
  obtain ⟨t, v, p, drawn, rfl⟩ :=
    pushed_on_edge (frame_rendering frame held visible) (frame_ended frame) landed member
  have inside := edge_visible (visible _ _) (visible _ _) drawn
  obtain ⟨x, y⟩ := pixelWord_visible inside
  omega

theorem screen_visible (frame : FrameAt m (powerUp buffer1 buffer2) inputs first n)
    (held : Fed m (powerUp buffer1 buffer2) inputs first n vertices)
    (visible : ∀ t v, Projection.Visible (vertices t v))
    (past : (run m (powerUp buffer1 buffer2) inputs n).raster.state.projecting = false)
    (t : Fin 12) (v : Fin 3) :
    ((run m (powerUp buffer1 buffer2) inputs n).raster.screenX t v).toNat ≤ 319 ∧
      ((run m (powerUp buffer1 buffer2) inputs n).raster.screenY t v).toNat ≤ 239 := by
  rcases all_landed frame held fun t v => visible_depth (visible t v) with projecting | landed
  · cases past.symm.trans projecting
  · obtain ⟨x, y⟩ := screen_of_loaded (landed t v).newx (landed t v).newy
    rw [x, y]
    exact Projection.visible_on_screen (visible t v)

end WireframeGpu.Gpu
