import WireframeGpu.Top.Gpu
import WireframeGpu.Top.Phase

namespace WireframeGpu.Gpu

open WireframeGpu.Top

/-! What one clock does to the render FSM among the registers around it, once for
each phase of the loop. -/

variable {m : Megafunctions} {g : Gpu} {i : Inputs}

theorem startRaster_eq (g : Gpu) (fs : Bool) :
    (g.rasterInputs fs).startRaster = (g.top.state.phase == .start) :=
  g.top.startRaster_eq _

theorem readCoord_eq (g : Gpu) (fs : Bool) :
    (g.rasterInputs fs).readCoord = (g.top.state.phase == .ask) :=
  g.top.readCoord_eq _

theorem startRaster_low (idle : g.top.state.phase ≠ .start) :
    (g.rasterInputs i.frameSwitched).startRaster = false := by
  rw [startRaster_eq, beq_false_of_ne idle]

theorem readCoord_low (unasked : g.top.state.phase ≠ .ask) :
    (g.rasterInputs i.frameSwitched).readCoord = false := by
  rw [readCoord_eq, beq_false_of_ne unasked]

theorem readCoord_high (asks : g.top.state.phase = .ask) :
    (g.rasterInputs i.frameSwitched).readCoord = true := by
  rw [readCoord_eq, asks]
  rfl

theorem clock_raster (g : Gpu) (i : Inputs) :
    (g.clock m i).raster = g.raster.clock m (g.rasterInputs i.frameSwitched) := rfl

theorem clock_phase (g : Gpu) (i : Inputs) :
    (g.clock m i).top.state.phase = g.top.nextPhase (g.topInputs i.frameSwitched) :=
  g.top.clock_phase _

theorem clock_memCounter (g : Gpu) (i : Inputs) :
    (g.clock m i).top.memCounter =
      (if g.top.state.phase = .clear then g.top.memCounter + 1
        else if (g.top.state.phase = .await ∧ g.raster.rasterDone = true) ∨
          (g.top.state.phase = .finished ∧ i.frameSwitched = true) then 0
        else g.top.memCounter) :=
  g.top.clock_memCounter _

theorem clock_second (working : g.top.state.phase ≠ .finished ∨ i.frameSwitched = false) :
    (g.clock m i).top.state.second = g.top.state.second := by
  refine (g.top.clock_second _).trans (if_neg ?_)
  rintro ⟨finished, switched⟩
  rcases working with other | low
  · exact other finished
  · cases low.symm.trans switched

theorem clock_start (phase : g.top.state.phase = .start) :
    (g.clock m i).top.state.phase = .clear ∧ (g.clock m i).top.memCounter = g.top.memCounter := by
  rw [clock_phase, clock_memCounter, Registers.nextPhase, phase]
  simp

theorem clock_clear (phase : g.top.state.phase = .clear) (bound : g.top.memCounter.toNat < 76800) :
    (g.clock m i).top.state.phase = .cleared ∧
      (g.clock m i).top.memCounter.toNat = g.top.memCounter.toNat + 1 := by
  have one : (1 : BitVec 17).toNat = 1 := rfl
  rw [clock_phase, clock_memCounter, Registers.nextPhase, phase, if_pos rfl, BitVec.toNat_add, one]
  exact ⟨rfl, by omega⟩

theorem memCounter_last :
    (g.top.memCounter == 76800) = decide (g.top.memCounter.toNat = 76800) := by
  rw [Bool.eq_iff_iff, beq_iff_eq, decide_eq_true_eq, ← BitVec.toNat_inj]
  rfl

theorem clock_cleared (phase : g.top.state.phase = .cleared) :
    (g.clock m i).top.state.phase =
        (if g.top.memCounter.toNat = 76800 then .await else .clear) ∧
      (g.clock m i).top.memCounter = g.top.memCounter := by
  rw [clock_phase, clock_memCounter, Registers.nextPhase, phase, memCounter_last]
  simp

theorem clock_await (phase : g.top.state.phase = .await) :
    (g.clock m i).top.state.phase = if g.raster.rasterDone then .ask else .await := by
  rw [clock_phase, Registers.nextPhase, phase]
  rfl

theorem clock_ask (phase : g.top.state.phase = .ask) :
    (g.clock m i).top.state.phase = .write := by
  rw [clock_phase, Registers.nextPhase, phase]

theorem clock_write (phase : g.top.state.phase = .write) :
    (g.clock m i).top.state.phase = .check := by
  rw [clock_phase, Registers.nextPhase, phase]

theorem clock_check (phase : g.top.state.phase = .check) :
    (g.clock m i).top.state.phase = if g.raster.bufferEmpty then .finished else .ask := by
  rw [clock_phase, Registers.nextPhase, phase]
  rfl

theorem clock_waits (phase : g.top.state.phase = .finished) (waits : i.frameSwitched = false) :
    (g.clock m i).top.state = g.top.state := by
  show (g.top.clock (g.topInputs i.frameSwitched)).state = g.top.state
  cases state : g.top.state <;> simp only [state, Top.State.phase, reduceCtorEq] at phase <;>
    simp [Registers.clock, Registers.comb, state, topInputs, waits]

theorem clock_leaves (phase : g.top.state.phase = .finished) (leaves : i.frameSwitched = true) :
    (g.clock m i).top.state.phase = .start ∧ (g.clock m i).top.memCounter = 0 := by
  rw [clock_phase, clock_memCounter, Registers.nextPhase, phase]
  simp [topInputs, leaves]

end WireframeGpu.Gpu
