import WireframeGpu.Polygon.Lockstep
import WireframeGpu.Top.Angle
import WireframeGpu.Top.Underway

namespace WireframeGpu

open WireframeGpu.Data

/-! From registers to pixels: a frame is the wireframe of the model in the
register file, turned by the angle of that frame. -/

namespace FrameBuffer

/-- White where a point of the set is stored, black elsewhere. -/
def Shows (b : FrameBuffer) (points : Set (Nat × Nat)) : Prop :=
  ∀ place : BitVec 17, place.toNat < 76800 →
    ((∃ p ∈ points, (p.2 * 320 + p.1) % 2 ^ 17 = place.toNat) → b place = 7) ∧
      ((¬ ∃ p ∈ points, (p.2 * 320 + p.1) % 2 ^ 17 = place.toNat) → b place = 0)

theorem Painted.shows {b : FrameBuffer} {words : BitVec 18 → Prop} {points : Set (Nat × Nat)}
    (painted : b.Painted words)
    (same : ∀ p, (∃ word, words word ∧ (pixelX word, pixelY word) = p) ↔ p ∈ points) :
    b.Shows points := by
  intro place inside
  obtain ⟨white, black⟩ := painted place inside
  have stored : (∃ word, words word ∧ address word = place) ↔
      ∃ p ∈ points, (p.2 * 320 + p.1) % 2 ^ 17 = place.toNat := by
    constructor
    · rintro ⟨word, member, rfl⟩
      exact ⟨_, (same _).mp ⟨word, member, rfl⟩, (address_toNat word).symm⟩
    · rintro ⟨p, member, at_⟩
      obtain ⟨word, listed, rfl⟩ := (same p).mpr member
      exact ⟨word, listed, BitVec.eq_of_toNat_eq ((address_toNat word).trans at_)⟩
  rw [stored] at white black
  exact ⟨white, black⟩

end FrameBuffer

/-- Twelve triangles, as the loader leaves them in the registers. -/
abbrev Model := Fin 12 → Fin 3 → Projection.Vertex

/-- The vertex array that `arrayPacker` delivers. -/
def Registerfile.Registers.model (r : Registerfile.Registers) : Model := fun t v =>
  { x := r.regs (BitVec.ofNat 7 (3 * t + v))
    y := r.regs (BitVec.ofNat 7 (36 + (3 * t + v)))
    z := r.regs (BitVec.ofNat 7 (72 + (3 * t + v))) }

namespace Gpu

open PolygonRaster WireframeGpu.Top

variable {m : Megafunctions} {buffer1 buffer2 : FrameBuffer} {inputs : Nat → Inputs}
  {first k n : Nat} {vertices : Model}

/-- The sides of twelve triangles, once they are projected. -/
def figure (vertices : Model) : Set (Nat × Nat) :=
  {p | ∃ t v, p ∈ (edge (vertices t v) (vertices t ⟨(v + 1) % 3, Nat.mod_lt _ (by decide)⟩)).points}

/-- The points of all sides, one that lies on several sides counted for each. -/
def pointCount (vertices : Model) : Nat :=
  ∑ t, ∑ v,
    ((edge (vertices t v) (vertices t ⟨(v + 1) % 3, Nat.mod_lt _ (by decide)⟩)).major + 1)

/-- The side of a triangle that begins at vertex `v`, once it is turned and projected. -/
def side (m : Megafunctions) (row : BitVec 9) (vertices : Model) (t : Fin 12) (v : Fin 3) :
    Segment :=
  edge (turned m row (vertices t v))
    (turned m row (vertices t ⟨(v + 1) % 3, Nat.mod_lt _ (by decide)⟩))

def wireframe (m : Megafunctions) (row : BitVec 9) (vertices : Model) : Set (Nat × Nat) :=
  {p | ∃ t v, p ∈ (side m row vertices t v).points}

/-- The row of the angle tables by which frame `count` is turned. -/
def angle (count : Nat) : BitVec 9 := BitVec.ofNat 9 (count % 314)

theorem sides (P : Fin 12 → Fin 3 → Fin 3 → Prop) :
    (∃ line, P (Registers.edgeTriangle line) (Registers.edgeVertex line)
      (Registers.edgeEnd line)) ↔ ∃ t v, P t v (v + 1) := by
  constructor
  · rintro ⟨line, holds⟩
    exact ⟨_, _, holds⟩
  · rintro ⟨t, v, holds⟩
    refine ⟨⟨3 * t + v, by omega⟩, ?_⟩
    have triangle : Registers.edgeTriangle ⟨3 * t + v, by omega⟩ = t := by
      ext
      simp only [Registers.edgeTriangle]
      omega
    have vertex : Registers.edgeVertex ⟨3 * t + v, by omega⟩ = v := by
      ext
      simp only [Registers.edgeVertex]
      omega
    have last : ∀ line, Registers.edgeEnd line = Registers.edgeVertex line + 1 := fun _ => rfl
    rw [last, triangle, vertex]
    exact holds

/-! What the projections are fed. -/

theorem fed_rotated (n : Nat) (t : Fin 12) (v : Fin 3) :
    fed m (powerUp buffer1 buffer2) inputs n t v =
      { x := ((run m (powerUp buffer1 buffer2) inputs n).registerfile.model t v).x
        y := projY ((run m (powerUp buffer1 buffer2) inputs n).registerfile.model t v).y
          ((run m (powerUp buffer1 buffer2) inputs n).registerfile.model t v).z
          (run m (powerUp buffer1 buffer2) inputs n).raster.sinRom.q
          (run m (powerUp buffer1 buffer2) inputs n).raster.cosRom.q
        z := projZ ((run m (powerUp buffer1 buffer2) inputs n).registerfile.model t v).y
          ((run m (powerUp buffer1 buffer2) inputs n).registerfile.model t v).z
          (run m (powerUp buffer1 buffer2) inputs n).raster.cosRom.q
          (run m (powerUp buffer1 buffer2) inputs n).raster.negSinRom.q } := by
  simp only [fed, Registers.rotated, ports, rasterInputs_x, rasterInputs_y, rasterInputs_z,
    Registerfile.Registers.model, projX]

/-- The turned vertices are exact modulo 4.0, and every depth is between three and
seven units: the projections of the machine always divide, and by `Z+3` itself. -/
theorem projections_divide (m : Megafunctions) (buffer1 buffer2 : FrameBuffer)
    (inputs : Nat → Inputs) (n : Nat) (t : Fin 12) (v : Fin 3) (start : Bool) :
    let g := run m (powerUp buffer1 buffer2) inputs n
    let stored := g.registerfile.model t v
    let turned := fed m (powerUp buffer1 buffer2) inputs n t v
    turned.x = stored.x ∧
      turned.y.toInt =
        exactY stored.y stored.z g.raster.sinRom.q g.raster.cosRom.q / 2 ^ 15 % 2 ^ 17 ∧
      turned.z.toInt =
        exactZ stored.y stored.z g.raster.cosRom.q g.raster.negSinRom.q / 2 ^ 15 % 2 ^ 17 ∧
      (3 * 2 ^ 15 ≤ (turned.z + Projection.three).toNat ∧
        (turned.z + Projection.three).toNat < 7 * 2 ^ 15) ∧
      Projection.Plain ((g.raster.triangles t).coordinate v) ⟨turned, start⟩ := by
  intro g stored turned
  have rotated : turned = _ := fed_rotated n t v
  have ahead : Projection.Ahead turned := Registers.rotated_ahead _ _ t v
  have unflipped : ((g.raster.triangles t).coordinate v).flipDivider = false := by
    show (((run m (powerUp buffer1 buffer2) inputs n).raster.triangles t).coordinate
      v).flipDivider = false
    rw [raster_run]
    exact run_unflipped m _ n t v
  refine ⟨by rw [rotated], ?_, ?_, ahead.depth, ahead.plain unflipped⟩
  · rw [rotated]
    exact projY_modulo _ _ _ _
  · rw [rotated]
    exact projZ_modulo _ _ _ _

/-! The angle of a frame. -/

theorem frame_begins (starts : (ports m (powerUp buffer1 buffer2) inputs n).startRaster = true) :
    FrameAt m (powerUp buffer1 buffer2) inputs n (n + 1) :=
  ⟨Nat.lt_succ_self n, starts, fun _ after before => by omega⟩

theorem frames_of_frame (frame : FrameAt m (powerUp buffer1 buffer2) inputs first n) :
    frames m (powerUp buffer1 buffer2) inputs n =
      frames m (powerUp buffer1 buffer2) inputs first + 1 := by
  have ordered : first + 1 ≤ n := frame.ordered
  induction n, ordered using Nat.le_induction with
  | base => exact if_pos frame.starts
  | succ n ordered ih =>
      have idle := frame.only n ordered (Nat.lt_succ_self n)
      exact (if_neg (Bool.eq_false_iff.mp idle)).trans (ih (frame.shorten ordered (Nat.le_succ n)))

/-- What the projections are fed: the model of the registers, turned by the angle of the frame. -/
theorem fed_turned (begun : 1 ≤ frames m (powerUp buffer1 buffer2) inputs n)
    (state : (run m (powerUp buffer1 buffer2) inputs n).raster.state = .startproj) (t : Fin 12)
    (v : Fin 3) : fed m (powerUp buffer1 buffer2) inputs n t v =
      turned m (angle (frames m (powerUp buffer1 buffer2) inputs n))
        ((run m (powerUp buffer1 buffer2) inputs n).registerfile.model t v) := by
  obtain ⟨place, shown⟩ := (run_turned m buffer1 buffer2 inputs n).shown begun (by simp [state])
  have row : (run m (powerUp buffer1 buffer2) inputs n).raster.angleAddress =
      angle (frames m (powerUp buffer1 buffer2) inputs n) := by
    rw [angle, ← rows, ← place, BitVec.ofNat_toNat, BitVec.setWidth_eq]
  rw [fed_rotated, turned, shown.sin, shown.cos, shown.negSin, row]
  rfl

/-! A frame reads its vertices in three clocks, and draws what it has read. -/

/-- The vertices of the frame that starts in cycle `first`: `x`, `y` and `z` come from
the registers as they are 7, 43 and 48 clocks later, turned by the angle of the frame. -/
def caught (m : Megafunctions) (start : Gpu) (inputs : Nat → Inputs) (first : Nat) : Model :=
  fun t v => Projection.caught (fun k => turned m (angle (frames m start inputs first + 1))
    ((run m start inputs k).registerfile.model t v)) (first + 6)

theorem frame_in_step
    (starts : (ports m (powerUp buffer1 buffer2) inputs first).startRaster = true) :
    FrameAt m (powerUp buffer1 buffer2) inputs first (first + 143) ∧
      (∀ k, first < k → k < first + 143 →
        (run m (powerUp buffer1 buffer2) inputs k).raster.state.projecting = true ∧
          (first + 5 ≤ k → (run m (powerUp buffer1 buffer2) inputs k).raster.state = .startproj)) ∧
      (run m (powerUp buffer1 buffer2) inputs (first + 143)).raster.state = .startrast ∧
      ∀ t v, Landed (run m (powerUp buffer1 buffer2) inputs (first + 143)).raster t v
        (caught m (powerUp buffer1 buffer2) inputs first t v) := by
  have rests := rests_at_start (frame_begins starts)
  obtain ⟨works, enters, lands⟩ := projections_in_step rests starts
  simp only [← raster_run] at works enters lands
  have part : ∀ k, first < k → k ≤ first + 143 →
      FrameAt m (powerUp buffer1 buffer2) inputs first k := by
    refine fun k after before =>
      ⟨after, starts, fun j later earlier => idle_of_busy fun rests => ?_⟩
    have busy := (works j later (Nat.lt_of_lt_of_le earlier before)).1
    rw [rests] at busy
    cases busy
  refine ⟨part _ (by omega) le_rfl, works, enters, fun t v => ?_⟩
  have turns : ∀ k, first + 5 ≤ k → k < first + 143 →
      shown m (ports m (powerUp buffer1 buffer2) inputs) t v k =
        turned m (angle (frames m (powerUp buffer1 buffer2) inputs first + 1))
          ((run m (powerUp buffer1 buffer2) inputs k).registerfile.model t v) := by
    intro k after before
    have count := frames_of_frame (part k (by omega) (Nat.le_of_lt before))
    have state := (works k (by omega) before).2 after
    rw [← count, ← fed_turned (by omega) state, fed, raster_run]
    rfl
  have same : caught m (powerUp buffer1 buffer2) inputs first t v =
      Projection.caught (shown m (ports m (powerUp buffer1 buffer2) inputs) t v) (first + 6) := by
    simp only [caught, Projection.caught]
    rw [turns (first + 6 + 1) (by omega) (by omega), turns (first + 6 + 37) (by omega) (by omega),
      turns (first + 6 + 42) (by omega) (by omega)]
  rw [same]
  exact lands t v

theorem landed_of_frame (frame : FrameAt m (powerUp buffer1 buffer2) inputs first n)
    (past : (run m (powerUp buffer1 buffer2) inputs n).raster.state.projecting = false) (t : Fin 12)
    (v : Fin 3) : Landed (run m (powerUp buffer1 buffer2) inputs n).raster t v
      (caught m (powerUp buffer1 buffer2) inputs first t v) := by
  obtain ⟨-, works, -, lands⟩ := frame_in_step frame.starts
  have late : first + 143 ≤ n := by
    by_contra early
    cases past.symm.trans (works n frame.ordered (Nat.not_le.mp early)).1
  clear past
  induction n, late using Nat.le_induction with
  | base => exact lands t v
  | succ n late ih =>
      have idle := frame.only n (by omega) (Nat.lt_succ_self n)
      have landed := (ih (frame.shorten (by omega) (Nat.le_succ n))).step (m := m) idle
      rw [raster_run] at landed ⊢
      rwa [PolygonRaster.run_succ]

theorem segment_caught (frame : FrameAt m (powerUp buffer1 buffer2) inputs first n)
    (past : (run m (powerUp buffer1 buffer2) inputs n).raster.state.projecting = false)
    (line : Fin 36) :
    segment (run m (powerUp buffer1 buffer2) inputs n).raster line =
      edge (caught m (powerUp buffer1 buffer2) inputs first (Registers.edgeTriangle line)
          (Registers.edgeVertex line))
        (caught m (powerUp buffer1 buffer2) inputs first (Registers.edgeTriangle line)
          (Registers.edgeEnd line)) :=
  segment_of_landed (landed_of_frame frame past _ _) (landed_of_frame frame past _ _)

theorem below_iff_caught (frame : FrameAt m (powerUp buffer1 buffer2) inputs first n)
    (past : (run m (powerUp buffer1 buffer2) inputs n).raster.state.projecting = false) :
    (∀ line, (segment (run m (powerUp buffer1 buffer2) inputs n).raster line).majorMax ≠ 511) ↔
      ∀ t v, (edge (caught m (powerUp buffer1 buffer2) inputs first t v)
        (caught m (powerUp buffer1 buffer2) inputs first t (v + 1))).majorMax ≠ 511 := by
  have cover := sides fun t v w => (edge (caught m (powerUp buffer1 buffer2) inputs first t v)
    (caught m (powerUp buffer1 buffer2) inputs first t w)).majorMax = 511
  simp only [segment_caught frame past]
  have none := not_congr cover
  simp only [not_exists] at none
  exact none

/-- A finished frame has whitened the points of the sides it has read. -/
theorem whitened_caught (frame : FrameAt m (powerUp buffer1 buffer2) inputs first n)
    (finished : (run m (powerUp buffer1 buffer2) inputs n).top.state.phase = .finished)
    (p : Nat × Nat) :
    (∃ word ∈ (ledger m (powerUp buffer1 buffer2) inputs n).whitened,
        (pixelX word, pixelY word) = p) ↔
      p ∈ figure (caught m (powerUp buffer1 buffer2) inputs first) := by
  have rendering := rendering_before (.inr finished) le_rfl
  have coupled := rendering.coupled
  simp only [Coupled, finished] at coupled
  refine (rendering.whitened finished p).trans ?_
  simp only [segment_caught frame (by rw [coupled.1]; rfl)]
  exact sides fun t v w => p ∈ (edge (caught m (powerUp buffer1 buffer2) inputs first t v)
    (caught m (powerUp buffer1 buffer2) inputs first t w)).points

/-- A finished frame shows what it has read in the buffer it was drawn to. -/
theorem finished_caught (frame : FrameAt m (powerUp buffer1 buffer2) inputs first n)
    (finished : (run m (powerUp buffer1 buffer2) inputs n).top.state.phase = .finished) :
    (run m (powerUp buffer1 buffer2) inputs n).target.Shows
      (figure (caught m (powerUp buffer1 buffer2) inputs first)) := by
  have coupled := (rendering_before (.inr finished) le_rfl).coupled
  simp only [Coupled, finished] at coupled
  exact coupled.2.2.1.shows (whitened_caught frame finished)

theorem rests_on (frame : FrameAt m (powerUp buffer1 buffer2) inputs first n) (after : first < k)
    (ordered : k ≤ n) (rests : (run m (powerUp buffer1 buffer2) inputs k).raster.state = .initial) :
    (run m (powerUp buffer1 buffer2) inputs n).raster.state = .initial := by
  induction n, ordered using Nat.le_induction with
  | base => exact rests
  | succ n ordered ih =>
      have idle := frame.only n (Nat.lt_of_lt_of_le after ordered) (Nat.lt_succ_self n)
      have still := ih (frame.shorten (Nat.lt_of_lt_of_le after ordered) (Nat.le_succ n))
      rw [raster_run] at still ⊢
      rw [PolygonRaster.run_succ, clock_state]
      simp only [PolygonRaster.Registers.comb, still, idle, Bool.false_eq_true, ↓reduceIte]

/-- A frame ends exactly if none of the sides it has read reaches coordinate 511;
otherwise no frame ever ends again. -/
theorem ends_iff_caught (starts : (run m (powerUp buffer1 buffer2) inputs first).top.state.phase =
      .start) :
    (∃ n, first < n ∧ (run m (powerUp buffer1 buffer2) inputs n).top.state.phase = .finished) ↔
      ∀ t v, (edge (caught m (powerUp buffer1 buffer2) inputs first t v)
        (caught m (powerUp buffer1 buffer2) inputs first t (v + 1))).majorMax ≠ 511 := by
  have high := startRaster_of_start starts
  obtain ⟨k, frame, enters⟩ := frame_reaches_startrast high
  rw [← below_iff_caught frame (by rw [enters]; rfl)]
  constructor
  · rintro ⟨n, after, finished⟩
    refine below_of_finished enters ?_ finished
    by_contra early
    have rests := (rendering_before (.inr finished) le_rfl).coupled
    simp only [Coupled, finished] at rests
    have still := rests_on frame after (Nat.not_lt.mp early) rests.1
    cases still.symm.trans enters
  · intro clear
    obtain ⟨n, later, -, finished⟩ := frame_finishes_below frame enters clear
    exact ⟨n, Nat.lt_trans frame.ordered later, finished⟩

/-! A model that stays in the registers while it is read. -/

/-- The registers keep the model for as long as the frame is projected. -/
def Kept (m : Megafunctions) (start : Gpu) (inputs : Nat → Inputs) (first : Nat)
    (vertices : Model) : Prop :=
  ∀ k, FrameAt m start inputs first k → (run m start inputs k).raster.state = .startproj →
    (run m start inputs k).registerfile.model = vertices

theorem caught_of_still {start : Gpu}
    (still : ∀ k, first + 7 ≤ k → k ≤ first + 48 →
      (run m start inputs k).registerfile.model = vertices) :
    caught m start inputs first =
      fun t v => turned m (angle (frames m start inputs first + 1)) (vertices t v) := by
  funext t v
  simp only [caught, Projection.caught]
  rw [still (first + 6 + 1) (by omega) (by omega), still (first + 6 + 37) (by omega) (by omega),
    still (first + 6 + 42) (by omega) (by omega)]

theorem caught_of_kept
    (starts : (ports m (powerUp buffer1 buffer2) inputs first).startRaster = true)
    (kept : Kept m (powerUp buffer1 buffer2) inputs first vertices) :
    caught m (powerUp buffer1 buffer2) inputs first = fun t v =>
      turned m (angle (frames m (powerUp buffer1 buffer2) inputs first + 1)) (vertices t v) := by
  obtain ⟨frame, works, -⟩ := frame_in_step starts
  exact caught_of_still fun k after before => kept k (frame.shorten (by omega) (by omega))
    ((works k (by omega) (by omega)).2 (by omega))

theorem fed_kept (frame : FrameAt m (powerUp buffer1 buffer2) inputs first n)
    (kept : Kept m (powerUp buffer1 buffer2) inputs first vertices) :
    Fed m (powerUp buffer1 buffer2) inputs first n fun t v =>
      turned m (angle (frames m (powerUp buffer1 buffer2) inputs first + 1)) (vertices t v) := by
  intro k after before state t v
  have part := frame.shorten after (Nat.le_of_lt before)
  have counted := frames_of_frame part
  rw [fed_turned (by omega) state, counted, kept k part state]

theorem segment_of_frame (frame : FrameAt m (powerUp buffer1 buffer2) inputs first n)
    (kept : Kept m (powerUp buffer1 buffer2) inputs first vertices)
    (past : (run m (powerUp buffer1 buffer2) inputs n).raster.state.projecting = false)
    (line : Fin 36) :
    segment (run m (powerUp buffer1 buffer2) inputs n).raster line =
      edge (turned m (angle (frames m (powerUp buffer1 buffer2) inputs n))
          (vertices (Registers.edgeTriangle line) (Registers.edgeVertex line)))
        (turned m (angle (frames m (powerUp buffer1 buffer2) inputs n))
          (vertices (Registers.edgeTriangle line) (Registers.edgeEnd line))) := by
  rw [segment_caught frame past, caught_of_kept frame.starts kept, frames_of_frame frame]

theorem below_iff_sides (frame : FrameAt m (powerUp buffer1 buffer2) inputs first n)
    (kept : Kept m (powerUp buffer1 buffer2) inputs first vertices)
    (past : (run m (powerUp buffer1 buffer2) inputs n).raster.state.projecting = false) :
    (∀ line, (segment (run m (powerUp buffer1 buffer2) inputs n).raster line).majorMax ≠ 511) ↔
      ∀ t v, (side m (angle (frames m (powerUp buffer1 buffer2) inputs n)) vertices t v).majorMax ≠
        511 := by
  rw [below_iff_caught frame past, caught_of_kept frame.starts kept, frames_of_frame frame]
  rfl

theorem finished_shows (frame : FrameAt m (powerUp buffer1 buffer2) inputs first n)
    (kept : Kept m (powerUp buffer1 buffer2) inputs first vertices)
    (finished : (run m (powerUp buffer1 buffer2) inputs n).top.state.phase = .finished) :
    (run m (powerUp buffer1 buffer2) inputs n).target.Shows
      (wireframe m (angle (frames m (powerUp buffer1 buffer2) inputs n)) vertices) := by
  have shown := finished_caught frame finished
  rwa [caught_of_kept frame.starts kept, ← frames_of_frame frame] at shown

end Gpu

end WireframeGpu
