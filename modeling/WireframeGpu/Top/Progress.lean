import WireframeGpu.Polygon.Progress
import WireframeGpu.Top.Frames

namespace WireframeGpu.Gpu

open WireframeGpu.Data WireframeGpu.Top PolygonRaster

/-! Every frame ends, unless one of its lines reaches coordinate 511. -/

variable {m : Megafunctions} {g : Gpu} {i : Inputs} {l : Ledger}

/-- A bound on the clocks until `DRAW_DONE`: two for each word to clear, then
three for each word that waits in the FIFOs. -/
def rank (g : Gpu) : Nat :=
  match g.top.state.phase with
  | .start => 255806
  | .clear => 60000 + (2 * (76800 - g.top.memCounter.toNat) + 1) + effort g.raster
  | .cleared => 60000 + (2 * (76800 - g.top.memCounter.toNat) + 2) + effort g.raster
  | .await => 60001 + effort g.raster
  | .ask => 3 * stored g.raster + 1
  | .write => 3 * stored g.raster + 3
  | .check => 3 * stored g.raster + 2
  | .off | .finished => 0

def Drawing (g : Gpu) : Prop := g.top.state.phase ≠ .off ∧ g.top.state.phase ≠ .finished

theorem Filling.effort_le (filling : Filling g) (sound : Sound g.raster l.pushed)
    (idle : g.top.state.phase ≠ .start) (unasked : g.top.state.phase ≠ .ask) :
    effort (g.clock m i).raster ≤ effort g.raster ∧
      (g.raster.rasterDone = false → effort (g.clock m i).raster < effort g.raster) := by
  have low := startRaster_low (i := i) idle
  rcases filling.raster with ⟨early, _⟩ | ⟨ready, done⟩
  · have less := sound.effort_step (m := m) low early
    exact ⟨Nat.le_of_lt less, fun _ => less⟩
  · have next := (shown_unasked (m := m) sound low ready (readCoord_low unasked)).1
    refine ⟨?_, fun undone => by cases undone.symm.trans done⟩
    have nothing : effort (g.clock m i).raster = 0 := by
      simp only [clock_raster, effort, next]
    omega

theorem rank_clear (rendering : Rendering g l) (phase : g.top.state.phase = .clear) :
    Drawing (g.clock m i) ∧ rank (g.clock m i) < rank g := by
  obtain ⟨sound, coupled⟩ := rendering
  simp only [Coupled, phase] at coupled
  obtain ⟨filling, _, bound, _⟩ := coupled
  have less := (filling.effort_le (m := m) (i := i) sound (by simp [phase]) (by simp [phase])).1
  obtain ⟨phase', counter'⟩ := clock_clear (m := m) (i := i) phase bound
  refine ⟨by simp [Drawing, phase'], ?_⟩
  simp only [rank, phase, phase', counter']
  omega

theorem rank_cleared (rendering : Rendering g l) (phase : g.top.state.phase = .cleared) :
    Drawing (g.clock m i) ∧ rank (g.clock m i) < rank g := by
  obtain ⟨sound, coupled⟩ := rendering
  simp only [Coupled, phase] at coupled
  obtain ⟨filling, _, bound, _⟩ := coupled
  have less := (filling.effort_le (m := m) (i := i) sound (by simp [phase]) (by simp [phase])).1
  obtain ⟨phase', counter'⟩ := clock_cleared (m := m) (i := i) phase
  by_cases all : g.top.memCounter.toNat = 76800
  · rw [if_pos all] at phase'
    refine ⟨by simp [Drawing, phase'], ?_⟩
    simp only [rank, phase, phase']
    omega
  · rw [if_neg all] at phase'
    refine ⟨by simp [Drawing, phase'], ?_⟩
    simp only [rank, phase, phase', counter']
    omega

theorem rank_await (rendering : Rendering g l) (below : StartsBelow g.raster)
    (phase : g.top.state.phase = .await) :
    Drawing (g.clock m i) ∧ rank (g.clock m i) < rank g := by
  have next := rendering.step (m := m) (i := i) below
  obtain ⟨sound, coupled⟩ := rendering
  simp only [Coupled, phase] at coupled
  have less := (coupled.1.effort_le (m := m) (i := i) sound (by simp [phase]) (by simp [phase])).2
  have phase' := clock_await (m := m) (i := i) phase
  cases done : g.raster.rasterDone <;> rw [done] at phase' <;>
    simp only [Bool.false_eq_true, ↓reduceIte] at phase'
  · refine ⟨by simp [Drawing, phase'], ?_⟩
    simp only [rank, phase, phase']
    have := less done
    omega
  · have after := next.coupled
    simp only [Coupled, phase'] at after
    have small := stored_le next.sound (.inl after.1)
    refine ⟨by simp [Drawing, phase'], ?_⟩
    simp only [rank, phase, phase']
    omega

theorem rank_ask (rendering : Rendering g l) (phase : g.top.state.phase = .ask) :
    Drawing (g.clock m i) ∧ rank (g.clock m i) < rank g := by
  obtain ⟨sound, coupled⟩ := rendering
  simp only [Coupled, phase] at coupled
  have phase' := clock_ask (m := m) (i := i) phase
  have less := stored_pop (m := m) (i := g.rasterInputs i.frameSwitched) sound
    (startRaster_low (by simp [phase])) coupled.1 (readCoord_high phase)
  rw [← clock_raster] at less
  refine ⟨by simp [Drawing, phase'], ?_⟩
  simp only [rank, phase, phase']
  omega

theorem rank_write (rendering : Rendering g l) (phase : g.top.state.phase = .write) :
    Drawing (g.clock m i) ∧ rank (g.clock m i) < rank g := by
  obtain ⟨sound, coupled⟩ := rendering
  simp only [Coupled, phase] at coupled
  have phase' := clock_write (m := m) (i := i) phase
  have same := stored_kept (m := m) (i := g.rasterInputs i.frameSwitched) sound
    (startRaster_low (by simp [phase])) (.inl coupled.1)
  rw [← clock_raster] at same
  refine ⟨by simp [Drawing, phase'], ?_⟩
  simp only [rank, phase, phase', same]
  omega

theorem rank_check (rendering : Rendering g l) (phase : g.top.state.phase = .check) :
    (g.clock m i).top.state.phase = .finished ∨
      (Drawing (g.clock m i) ∧ rank (g.clock m i) < rank g) := by
  obtain ⟨sound, coupled⟩ := rendering
  simp only [Coupled, phase] at coupled
  have phase' := clock_check (m := m) (i := i) phase
  rcases coupled.1 with ⟨state, more⟩ | ⟨_, empty⟩
  · right
    simp only [more, Bool.false_eq_true, ↓reduceIte] at phase'
    have same := stored_kept (m := m) (i := g.rasterInputs i.frameSwitched) sound
      (startRaster_low (by simp [phase])) (.inr ⟨state, readCoord_low (by simp [phase])⟩)
    rw [← clock_raster] at same
    refine ⟨by simp [Drawing, phase'], ?_⟩
    simp only [rank, phase, phase', same]
    omega
  · left
    simpa only [empty, ↓reduceIte] using phase'

theorem Rendering.progress (rendering : Rendering g l) (below : StartsBelow g.raster)
    (drawing : Drawing g) :
    (g.clock m i).top.state.phase = .finished ∨
      (Drawing (g.clock m i) ∧ rank (g.clock m i) < rank g) := by
  cases phase : g.top.state.phase with
  | off => exact (drawing.1 phase).elim
  | finished => exact (drawing.2 phase).elim
  | start =>
      have phase' := (clock_start (m := m) (i := i) phase).1
      have effort := (rendering.step (m := m) (i := i) below).sound.effort_le
      refine .inr ⟨by simp [Drawing, phase'], ?_⟩
      simp only [rank, phase, phase']
      omega
  | clear => exact .inr (rank_clear rendering phase)
  | cleared => exact .inr (rank_cleared rendering phase)
  | await => exact .inr (rank_await rendering below phase)
  | ask => exact .inr (rank_ask rendering phase)
  | write => exact .inr (rank_write rendering phase)
  | check => exact rank_check rendering phase

theorem Rendering.rank_le (rendering : Rendering g l) : rank g ≤ 255806 := by
  have effort := rendering.sound.effort_le
  have coupled := rendering.coupled
  cases phase : g.top.state.phase <;> simp only [Coupled, phase] at coupled <;>
    simp only [rank, phase]
  case ask =>
    have := stored_le rendering.sound (.inl coupled.1)
    omega
  case write =>
    have := stored_le rendering.sound (.inr coupled.1)
    omega
  case check =>
    rcases coupled.1 with ⟨state, _⟩ | ⟨state, _⟩
    · have := stored_le rendering.sound (.inl state)
      omega
    · have nothing : stored g.raster = 0 := by
        simp [stored, fun line => (rendering.sound.empty state line).words]
      omega
  all_goals omega

variable {buffer1 buffer2 : FrameBuffer} {inputs : Nat → Inputs}

/-- A frame takes at most 255807 clocks, far fewer than the 840000 between two
falling edges of `VGA_VS`. -/
theorem frame_finishes
    (below : ∀ k, StartsBelow (run m (powerUp buffer1 buffer2) inputs k).raster) {n : Nat}
    (drawing : Drawing (run m (powerUp buffer1 buffer2) inputs n)) :
    ∃ last, n ≤ last ∧ last ≤ n + 255806 ∧
      (run m (powerUp buffer1 buffer2) inputs (last + 1)).top.state.phase = .finished ∧
      ∀ k, n ≤ k → k ≤ last → Drawing (run m (powerUp buffer1 buffer2) inputs k) := by
  have budget := (run_rendering_below (m := m) below n).rank_le
  have climb := fun k => (run_rendering_below (m := m) below k).progress (m := m) (i := inputs k)
    (below k)
  obtain ⟨last, lower, upper, finished, between⟩ := reaches_of_rank
    (run m (powerUp buffer1 buffer2) inputs) Drawing
    (fun g => g.top.state.phase = .finished) rank climb drawing
  exact ⟨last, lower, by omega, finished, between⟩

end WireframeGpu.Gpu
