import WireframeGpu.Polygon.Projected
import WireframeGpu.Top.Progress

namespace WireframeGpu.Gpu

open WireframeGpu.Data WireframeGpu.Top PolygonRaster Linerasterize

/-! The frames of a run, and where the vertices of a frame land. -/

variable {m : Megafunctions} {buffer1 buffer2 : FrameBuffer} {inputs : Nat → Inputs}
  {first n : Nat}

def ports (m : Megafunctions) (start : Gpu) (inputs : Nat → Inputs) (k : Nat) :
    PolygonRaster.Inputs :=
  (run m start inputs k).rasterInputs (inputs k).frameSwitched

theorem raster_run (n : Nat) : (run m (powerUp buffer1 buffer2) inputs n).raster =
    PolygonRaster.run m (ports m (powerUp buffer1 buffer2) inputs) n := by
  induction n with
  | zero => rfl
  | succ n ih =>
      rw [PolygonRaster.run_succ, ← ih]
      rfl

/-- Cycle `n` belongs to the frame whose `startRaster` is in cycle `first`. -/
abbrev FrameAt (m : Megafunctions) (start : Gpu) (inputs : Nat → Inputs) (first n : Nat) : Prop :=
  Frame (ports m start inputs) first n

def fed (m : Megafunctions) (start : Gpu) (inputs : Nat → Inputs) (k : Nat) (t : Fin 12)
    (v : Fin 3) : Projection.Vertex :=
  (run m start inputs k).raster.rotated (ports m start inputs k) t v

theorem Jammed.persists {k : Nat} (jammed : Jammed (run m (powerUp buffer1 buffer2) inputs k))
    (ordered : k ≤ n) : Jammed (run m (powerUp buffer1 buffer2) inputs n) := by
  induction n, ordered using Nat.le_induction with
  | base => exact jammed
  | succ n _ ih => exact ih.step

/-- Before a state that a jammed frame cannot reach, no frame is jammed. -/
theorem rendering_before
    (free : (run m (powerUp buffer1 buffer2) inputs n).top.state.phase = .start ∨
      (run m (powerUp buffer1 buffer2) inputs n).top.state.phase = .finished)
    {k : Nat} (ordered : k ≤ n) : Rendering (run m (powerUp buffer1 buffer2) inputs k)
      (ledger m (powerUp buffer1 buffer2) inputs k) := by
  rcases run_rendering m buffer1 buffer2 inputs k with
    rendering | jammed
  · exact rendering
  · have still := (jammed.persists ordered).phase
    rcases free with phase | phase <;> rw [phase] at still <;> simp at still

theorem starts_phase
    (starts : (ports m (powerUp buffer1 buffer2) inputs first).startRaster = true) :
    (run m (powerUp buffer1 buffer2) inputs first).top.state.phase = .start := by
  rwa [ports, startRaster_eq, beq_iff_eq] at starts

theorem startRaster_of_start
    (starts : (run m (powerUp buffer1 buffer2) inputs first).top.state.phase = .start) :
    (ports m (powerUp buffer1 buffer2) inputs first).startRaster = true := by
  rw [ports, startRaster_eq, starts]
  rfl

theorem rests_at_start (frame : FrameAt m (powerUp buffer1 buffer2) inputs first n) :
    (PolygonRaster.run m (ports m (powerUp buffer1 buffer2) inputs) first).state = .initial := by
  have rendering := rendering_before (.inl (starts_phase frame.starts)) le_rfl
  rw [← raster_run]
  exact rendering.coupled.gate frame.starts

theorem frame_landed (frame : FrameAt m (powerUp buffer1 buffer2) inputs first n) {t : Fin 12}
    {v : Fin 3} {vertex : Projection.Vertex}
    (held : ∀ k, first < k → k < n →
      (run m (powerUp buffer1 buffer2) inputs k).raster.state = .startproj →
      fed m (powerUp buffer1 buffer2) inputs k t v = vertex)
    (depth : vertex.z + Projection.three ≠ 0) :
    (run m (powerUp buffer1 buffer2) inputs n).raster.state.projecting = true ∨
      Landed (run m (powerUp buffer1 buffer2) inputs n).raster t v vertex := by
  simp only [fed, raster_run] at held ⊢
  exact frame.landed (rests_at_start frame) held depth

theorem frame_ended (frame : FrameAt m (powerUp buffer1 buffer2) inputs first n)
    (rests : (run m (powerUp buffer1 buffer2) inputs n).raster.state = .initial) :
    (run m (powerUp buffer1 buffer2) inputs n).raster.bufferEmpty = true := by
  rw [raster_run] at rests ⊢
  exact frame.ended (rests_at_start frame) rests

/-- A frame that keeps below coordinate 511 is completed, in the buffer it began
with, before `VGA_VS` can fall twice. -/
theorem frame_completes
    (below : ∀ k, StartsBelow (run m (powerUp buffer1 buffer2) inputs k).raster)
    (starts : (run m (powerUp buffer1 buffer2) inputs first).top.state.phase = .start) :
    ∃ n, first < n ∧ n ≤ first + 255807 ∧ FrameAt m (powerUp buffer1 buffer2) inputs first n ∧
      (run m (powerUp buffer1 buffer2) inputs n).top.state.phase = .finished ∧
      (run m (powerUp buffer1 buffer2) inputs n).top.state.second =
        (run m (powerUp buffer1 buffer2) inputs first).top.state.second ∧
      ∀ k, first ≤ k → k < n → Drawing (run m (powerUp buffer1 buffer2) inputs k) := by
  obtain ⟨last, lower, upper, finished, drawing⟩ := frame_finishes below
    (n := first) (by simp [Drawing, starts])
  refine ⟨last + 1, by omega, by omega, ⟨by omega, ?_, fun k after before => ?_⟩, finished, ?_,
    fun k after before => drawing k after (by omega)⟩
  · exact startRaster_of_start starts
  · rw [ports, startRaster_eq]
    apply beq_false_of_ne
    intro restarts
    obtain ⟨k, rfl⟩ := Nat.exists_eq_add_of_lt after
    obtain ⟨moving, unfinished⟩ := drawing (first + k) (by omega) (by omega)
    rw [run_succ, clock_phase, Top.Registers.nextPhase] at restarts
    cases phase : (run m (powerUp buffer1 buffer2) inputs (first + k)).top.state.phase <;>
      simp only [phase] at restarts moving unfinished <;> (repeat' split at restarts) <;> simp_all
  · clear finished
    induction last, lower using Nat.le_induction with
    | base => exact clock_second (.inl (drawing first le_rfl le_rfl).2)
    | succ last lower ih =>
        have same := ih (by omega) fun k after before => drawing k after (by omega)
        rw [← same]
        exact clock_second (.inl (drawing (last + 1) (by omega) le_rfl).2)

end WireframeGpu.Gpu
