import WireframeGpu.Polygon.Frames
import WireframeGpu.Top.Loop
import WireframeGpu.Top.Picture

namespace WireframeGpu.Gpu

open WireframeGpu.Data WireframeGpu.Top

/-! The render FSM and the raster core together, frame after frame. -/

variable {m : Megafunctions} {g : Gpu} {i : Inputs} {l : Ledger}

def target (g : Gpu) : FrameBuffer := if g.top.state.second then g.buffer2 else g.buffer1

/-- The core works on the frame and has not been read. -/
structure Filling (g : Gpu) : Prop where
  raster : (g.raster.state.filling = true ∧ g.raster.rasterDone = false) ∨
    (g.raster.state = .s5 ∧ g.raster.rasterDone = true)
  unshown : ∀ word, ¬ PolygonRaster.Shown g.raster word

/-- The picture so far, and the agreement of what is painted with what was read. -/
structure Copied (g : Gpu) (l : Ledger) : Prop where
  painted : g.target.Painted (· ∈ l.whitened)
  shown : ∀ word, PolygonRaster.Shown g.raster word ↔ word ∈ l.whitened

/-- Where core, counter and buffer stand in each phase of the render FSM. -/
def Coupled (g : Gpu) (l : Ledger) : Prop :=
  match g.top.state.phase with
  | .off | .start => g.raster.state = .initial ∧ g.top.memCounter = 0
  | .clear => Filling g ∧ l.whitened = [] ∧ g.top.memCounter.toNat < 76800 ∧
      g.target.Cleared g.top.memCounter.toNat
  | .cleared => Filling g ∧ l.whitened = [] ∧ g.top.memCounter.toNat ≤ 76800 ∧
      g.target.Cleared g.top.memCounter.toNat
  | .await => Filling g ∧ l.whitened = [] ∧ g.target.Cleared 76800
  | .ask => g.raster.state = .s5 ∧ Copied g l
  | .write => g.raster.state = .s6 ∧ g.target.Painted (· ∈ l.whitened) ∧
      ∀ word, PolygonRaster.Shown g.raster word ↔ word ∈ l.whitened ∨ word = g.raster.coord
  | .check => (g.raster.state = .s5 ∧ g.raster.bufferEmpty = false ∨
      g.raster.state = .initial ∧ g.raster.bufferEmpty = true) ∧ Copied g l
  | .finished => g.raster.state = .initial ∧ g.raster.bufferEmpty = true ∧ Copied g l

structure Rendering (g : Gpu) (l : Ledger) : Prop where
  sound : PolygonRaster.Sound g.raster l.pushed
  coupled : Coupled g l

/-- The frame will not end: a line reaches coordinate 511. -/
structure Jammed (g : Gpu) : Prop where
  stuck : PolygonRaster.Stuck g.raster
  phase : g.top.state.phase = .clear ∨ g.top.state.phase = .cleared ∨ g.top.state.phase = .await

theorem record_pushed (g : Gpu) (fs : Bool) (l : Ledger) :
    (g.record fs l).pushed = PolygonRaster.record g.raster (g.rasterInputs fs) l.pushed := by
  funext line
  simp only [record, PolygonRaster.record]
  show (if (g.wires fs).startRaster = true then _ else _ : Ledger).pushed line =
    if (g.wires fs).startRaster = true then _ else _
  split <;> rfl

/-- The port of the buffer being drawn: which address takes which colour. -/
theorem target_clock (stays : (g.clock m i).top.state.second = g.top.state.second) :
    (g.clock m i).target = g.target.clock
      (g.top.state.phase == .clear || g.top.state.phase == .write)
      (if g.top.clearing then g.top.memCounter else address g.raster.coord)
      (if g.top.state.phase == .write then 7 else 0) := by
  have written := g.top.bufferWr_eq (g.topInputs i.frameSwitched)
  have data := g.top.bufferData_eq (g.topInputs i.frameSwitched)
  have clears := g.top.clrBuffer_eq (g.topInputs i.frameSwitched)
  rw [target, target, stays]
  cases second : g.top.state.second <;>
    simp only [second, Bool.not_true, Bool.not_false, Bool.true_and, Bool.false_eq_true, ↓reduceIte]
      at written data clears ⊢
  · simp only [clock, wires, written.1, data.1, Registers.buffer1Addr, clears.1]
    rfl
  · simp only [clock, wires, written.2, data.2, Registers.buffer2Addr, clears.2]
    rfl

theorem target_unwritten (unfinished : g.top.state.phase ≠ .finished ∨ i.frameSwitched = false)
    (unclear : g.top.state.phase ≠ .clear) (unwritten : g.top.state.phase ≠ .write) :
    (g.clock m i).target = g.target := by
  rw [target_clock (clock_second unfinished), beq_false_of_ne unclear, beq_false_of_ne unwritten,
    Bool.or_self, FrameBuffer.clock_unwritten]

theorem whitening_eq (g : Gpu) (fs : Bool) : g.whitening fs = (g.top.state.phase == .write) := by
  have written := g.top.bufferWr_eq (g.topInputs fs)
  have data := g.top.bufferData_eq (g.topInputs fs)
  rw [whitening, wires, written.1, written.2, data.1, data.2]
  cases g.top.state.second <;> cases g.top.state.phase <;> rfl

theorem record_whitened (g : Gpu) (fs : Bool) (l : Ledger) :
    (g.record fs l).whitened =
      if g.top.state.phase = .start then []
      else l.whitened ++ if g.top.state.phase = .write then [g.raster.coord] else [] := by
  rw [record, wires, g.top.startRaster_eq, whitening_eq]
  cases g.top.state.phase <;> rfl

theorem Coupled.gate (coupled : Coupled g l)
    (starts : (g.rasterInputs i.frameSwitched).startRaster = true) :
    g.raster.state = .initial := by
  rw [startRaster_eq, beq_iff_eq] at starts
  simp only [Coupled, starts] at coupled
  exact coupled.1

theorem Filling.step (filling : Filling g) (sound : PolygonRaster.Sound g.raster l.pushed)
    (below : PolygonRaster.StartsBelow g.raster) (idle : g.top.state.phase ≠ .start)
    (unasked : g.top.state.phase ≠ .ask) : Filling (g.clock m i) := by
  have low := startRaster_low (i := i) idle
  rcases filling.raster with ⟨early, _⟩ | ⟨ready, _⟩
  · obtain ⟨next, none⟩ := PolygonRaster.shown_filling (m := m) sound low early below
    exact ⟨next, none⟩
  · obtain ⟨next, done, same⟩ := PolygonRaster.shown_unasked (m := m) sound low ready
      (readCoord_low unasked)
    exact ⟨.inr ⟨next, done⟩, fun word shown => filling.unshown word ((same word).mp shown)⟩

theorem Copied.hold (copied : Copied g l)
    (unfinished : g.top.state.phase ≠ .finished ∨ i.frameSwitched = false)
    (unclear : g.top.state.phase ≠ .clear) (unwritten : g.top.state.phase ≠ .write)
    (idle : g.top.state.phase ≠ .start)
    (same : ∀ word, PolygonRaster.Shown (g.clock m i).raster word ↔
      PolygonRaster.Shown g.raster word) :
    Copied (g.clock m i) (g.record i.frameSwitched l) := by
  have whitened : (g.record i.frameSwitched l).whitened = l.whitened := by
    rw [record_whitened, if_neg idle, if_neg unwritten, List.append_nil]
  constructor
  · rw [target_unwritten unfinished unclear unwritten, whitened]
    exact copied.painted
  · rw [whitened]
    exact fun word => (same word).trans (copied.shown word)

theorem coupled_rest (rendering : Rendering g l)
    (phase : g.top.state.phase = .off ∨ g.top.state.phase = .finished)
    (leaves : g.top.state.phase = .finished → i.frameSwitched = true) :
    Coupled (g.clock m i) (g.record i.frameSwitched l) := by
  obtain ⟨sound, coupled⟩ := rendering
  have low := startRaster_low (i := i) (g := g)
    (by rcases phase with phase | phase <;> simp [phase])
  have state : g.raster.state = .initial := by
    rcases phase with phase | phase <;> simp only [Coupled, phase] at coupled <;> exact coupled.1
  have next := (PolygonRaster.shown_initial (m := m) sound low state).1
  rcases phase with phase | phase
  · have counter : (g.clock m i).top.memCounter = 0 := by
      simp only [Coupled, phase] at coupled
      simp [clock_memCounter, phase, coupled.2]
    have phase' :
        (g.clock m i).top.state.phase = .off ∨ (g.clock m i).top.state.phase = .start := by
      rw [clock_phase, Registers.nextPhase, phase]
      simp only
      split <;> simp
    rcases phase' with phase' | phase' <;> simp only [Coupled, phase'] <;> exact ⟨next, counter⟩
  · obtain ⟨phase', counter⟩ := clock_leaves (m := m) phase (leaves phase)
    simp only [Coupled, phase']
    exact ⟨next, counter⟩

theorem coupled_start (rendering : Rendering g l) (phase : g.top.state.phase = .start) :
    Coupled (g.clock m i) (g.record i.frameSwitched l) := by
  obtain ⟨sound, coupled⟩ := rendering
  simp only [Coupled, phase] at coupled
  obtain ⟨state, counter⟩ := coupled
  have high : (g.rasterInputs i.frameSwitched).startRaster = true := by
    rw [startRaster_eq, phase]
    rfl
  have next : (g.clock m i).raster.state = .test4 := by
    rw [clock_raster, PolygonRaster.clock_state]
    simp [PolygonRaster.Registers.comb, state, high]
  have fresh : PolygonRaster.Fresh (g.clock m i).raster := PolygonRaster.clock_fresh high
  obtain ⟨phase', counter'⟩ := clock_start (m := m) (i := i) phase
  rw [counter] at counter'
  simp only [Coupled, phase', counter']
  refine ⟨⟨.inl ⟨by rw [next]; rfl, fresh.rasterDone⟩, fun word shown => ?_⟩, ?_, by decide,
    fun place inside => absurd inside (Nat.not_lt_zero _)⟩
  · simp only [PolygonRaster.Shown, next] at shown
  · rw [record_whitened, if_pos phase]

/-- The clear loop walks all 76800 words, whatever they held. -/
theorem coupled_clear (rendering : Rendering g l) (below : PolygonRaster.StartsBelow g.raster)
    (phase : g.top.state.phase = .clear) :
    Coupled (g.clock m i) (g.record i.frameSwitched l) := by
  obtain ⟨sound, coupled⟩ := rendering
  simp only [Coupled, phase] at coupled
  obtain ⟨filling, whitened, bound, cleared⟩ := coupled
  have stays := clock_second (m := m) (g := g) (i := i) (.inl (by simp [phase]))
  have filling' := filling.step (m := m) (i := i) sound below (by simp [phase]) (by simp [phase])
  have whitened' : (g.record i.frameSwitched l).whitened = [] := by
    simp [record_whitened, phase, whitened]
  have target := target_clock stays
  simp only [Registers.clearing, phase] at target
  obtain ⟨phase', counter'⟩ := clock_clear (m := m) (i := i) phase bound
  simp only [Coupled, phase', counter']
  refine ⟨filling', whitened', bound, ?_⟩
  rw [target]
  exact cleared.extend

theorem coupled_cleared (rendering : Rendering g l) (below : PolygonRaster.StartsBelow g.raster)
    (phase : g.top.state.phase = .cleared) :
    Coupled (g.clock m i) (g.record i.frameSwitched l) := by
  obtain ⟨sound, coupled⟩ := rendering
  simp only [Coupled, phase] at coupled
  obtain ⟨filling, whitened, bound, cleared⟩ := coupled
  have filling' := filling.step (m := m) (i := i) sound below (by simp [phase]) (by simp [phase])
  have whitened' : (g.record i.frameSwitched l).whitened = [] := by
    simp [record_whitened, phase, whitened]
  have target' := target_unwritten (m := m) (i := i) (g := g) (by simp [phase]) (by simp [phase])
    (by simp [phase])
  obtain ⟨phase', counter'⟩ := clock_cleared (m := m) (i := i) phase
  by_cases all : g.top.memCounter.toNat = 76800
  · rw [if_pos all] at phase'
    simp only [Coupled, phase', target']
    exact ⟨filling', whitened', all ▸ cleared⟩
  · rw [if_neg all] at phase'
    simp only [Coupled, phase', target', counter']
    exact ⟨filling', whitened', by omega, cleared⟩

theorem coupled_await (rendering : Rendering g l) (below : PolygonRaster.StartsBelow g.raster)
    (phase : g.top.state.phase = .await) :
    Coupled (g.clock m i) (g.record i.frameSwitched l) := by
  obtain ⟨sound, coupled⟩ := rendering
  simp only [Coupled, phase] at coupled
  obtain ⟨filling, whitened, cleared⟩ := coupled
  have filling' := filling.step (m := m) (i := i) sound below (by simp [phase]) (by simp [phase])
  have whitened' : (g.record i.frameSwitched l).whitened = [] := by
    simp [record_whitened, phase, whitened]
  have target' := target_unwritten (m := m) (i := i) (g := g) (by simp [phase]) (by simp [phase])
    (by simp [phase])
  have phase' := clock_await (m := m) (i := i) phase
  cases done : g.raster.rasterDone <;> rw [done] at phase' <;>
    simp only [Bool.false_eq_true, ↓reduceIte] at phase'
  · simp only [Coupled, phase', target']
    exact ⟨filling', whitened', cleared⟩
  · have ready : g.raster.state = .s5 := by
      rcases filling.raster with ⟨_, undone⟩ | ⟨ready, _⟩
      · cases undone.symm.trans done
      · exact ready
    have next := (PolygonRaster.shown_unasked (m := m) (i := g.rasterInputs i.frameSwitched) sound
      (startRaster_low (by simp [phase])) ready (readCoord_low (by simp [phase]))).1
    simp only [Coupled, phase']
    refine ⟨next, ?_, fun word => ?_⟩
    · rw [target', whitened']
      exact cleared.painted.congr fun word => by simp
    · rw [whitened']
      exact ⟨fun shown => (filling'.unshown word shown).elim, fun none =>
        (List.not_mem_nil none).elim⟩

theorem coupled_ask (rendering : Rendering g l) (below : PolygonRaster.StartsBelow g.raster)
    (phase : g.top.state.phase = .ask) :
    Coupled (g.clock m i) (g.record i.frameSwitched l) := by
  obtain ⟨sound, coupled⟩ := rendering
  simp only [Coupled, phase] at coupled
  obtain ⟨state, copied⟩ := coupled
  have whitened' : (g.record i.frameSwitched l).whitened = l.whitened := by
    simp [record_whitened, phase]
  have target' := target_unwritten (m := m) (i := i) (g := g) (by simp [phase]) (by simp [phase])
    (by simp [phase])
  have phase' := clock_ask (m := m) (i := i) phase
  obtain ⟨next, shown⟩ := PolygonRaster.shown_pop (m := m) (i := g.rasterInputs i.frameSwitched)
    sound below (startRaster_low (by simp [phase])) state (readCoord_high phase)
  simp only [Coupled, phase', target', whitened']
  exact ⟨next, copied.painted, fun word =>
    (shown word).trans (or_congr (copied.shown word) Iff.rfl)⟩

theorem coupled_write (rendering : Rendering g l) (phase : g.top.state.phase = .write) :
    Coupled (g.clock m i) (g.record i.frameSwitched l) := by
  obtain ⟨sound, coupled⟩ := rendering
  simp only [Coupled, phase] at coupled
  obtain ⟨state, painted, shown⟩ := coupled
  have stays := clock_second (m := m) (g := g) (i := i) (.inl (by simp [phase]))
  have whitened' : (g.record i.frameSwitched l).whitened = l.whitened ++ [g.raster.coord] := by
    simp [record_whitened, phase]
  have target' : (g.clock m i).target = g.target.clock true (address g.raster.coord) 7 := by
    rw [target_clock stays, Registers.clearing, phase]
    rfl
  have phase' := clock_write (m := m) (i := i) phase
  obtain ⟨next, same⟩ := PolygonRaster.shown_s6 (m := m) (i := g.rasterInputs i.frameSwitched)
    sound (startRaster_low (by simp [phase])) state
  simp only [Coupled, phase']
  refine ⟨next, ?_, fun word => ?_⟩
  · rw [target', whitened']
    exact (painted.paint g.raster.coord).congr fun word => by simp
  · rw [whitened', List.mem_append, List.mem_singleton]
    exact (same word).trans (shown word)

theorem coupled_check (rendering : Rendering g l) (phase : g.top.state.phase = .check) :
    Coupled (g.clock m i) (g.record i.frameSwitched l) := by
  obtain ⟨sound, coupled⟩ := rendering
  simp only [Coupled, phase] at coupled
  obtain ⟨state, copied⟩ := coupled
  have low := startRaster_low (i := i) (g := g) (by simp [phase])
  have phase' := clock_check (m := m) (i := i) phase
  rcases state with ⟨state, more⟩ | ⟨state, empty⟩
  · simp only [more, Bool.false_eq_true, ↓reduceIte] at phase'
    obtain ⟨next, _, same⟩ := PolygonRaster.shown_unasked (m := m) sound low state
      (readCoord_low (by simp [phase]))
    simp only [Coupled, phase']
    exact ⟨next, copied.hold (by simp [phase]) (by simp [phase]) (by simp [phase])
      (by simp [phase]) same⟩
  · simp only [empty, ↓reduceIte] at phase'
    obtain ⟨next, full, same⟩ := PolygonRaster.shown_initial (m := m) sound low state
    simp only [Coupled, phase']
    exact ⟨next, full.trans empty, copied.hold (by simp [phase]) (by simp [phase])
      (by simp [phase]) (by simp [phase]) same⟩

theorem coupled_finished (rendering : Rendering g l) (phase : g.top.state.phase = .finished)
    (waits : i.frameSwitched = false) :
    Coupled (g.clock m i) (g.record i.frameSwitched l) := by
  obtain ⟨sound, coupled⟩ := rendering
  simp only [Coupled, phase] at coupled
  obtain ⟨state, empty, copied⟩ := coupled
  have phase' : (g.clock m i).top.state.phase = .finished := by rw [clock_waits phase waits, phase]
  obtain ⟨next, full, same⟩ := PolygonRaster.shown_initial (m := m)
    (i := g.rasterInputs i.frameSwitched) sound (startRaster_low (by simp [phase])) state
  simp only [Coupled, phase']
  exact ⟨next, full.trans empty, copied.hold (.inr waits) (by simp [phase]) (by simp [phase])
    (by simp [phase]) same⟩

theorem Rendering.step (rendering : Rendering g l)
    (below : PolygonRaster.StartsBelow g.raster) :
    Rendering (g.clock m i) (g.record i.frameSwitched l) := by
  constructor
  · rw [record_pushed]
    exact rendering.sound.step rendering.coupled.gate below
  · cases phase : g.top.state.phase with
    | off => exact coupled_rest rendering (.inl phase) (by simp [phase])
    | start => exact coupled_start rendering phase
    | clear => exact coupled_clear rendering below phase
    | cleared => exact coupled_cleared rendering below phase
    | await => exact coupled_await rendering below phase
    | ask => exact coupled_ask rendering below phase
    | write => exact coupled_write rendering phase
    | check => exact coupled_check rendering phase
    | finished =>
        cases switched : i.frameSwitched
        · exact switched ▸ coupled_finished rendering phase switched
        · exact switched ▸ coupled_rest rendering (.inr phase) fun _ => switched

theorem Rendering.phase_of_startrast (rendering : Rendering g l)
    (state : g.raster.state = .startrast) : g.top.state.phase = .clear ∨
      g.top.state.phase = .cleared ∨ g.top.state.phase = .await := by
  have coupled := rendering.coupled
  cases phase : g.top.state.phase <;> simp_all [Coupled]

theorem Rendering.jam (rendering : Rendering g l) (top : ¬ PolygonRaster.StartsBelow g.raster) :
    Jammed (g.clock m i) := by
  have state : g.raster.state = .startrast := by
    by_contra other
    exact top fun state => (other state).elim
  have phase := rendering.phase_of_startrast state
  have low := startRaster_low (i := i) (g := g)
    (by rcases phase with phase | phase | phase <;> simp [phase])
  refine ⟨PolygonRaster.stuck_of_startrast rendering.sound low state top, ?_⟩
  have undone : g.raster.rasterDone = false := by
    have framed := rendering.sound.framed
    simp only [PolygonRaster.Framed, state] at framed
    exact framed.1.rasterDone
  rw [clock_phase, Registers.nextPhase]
  rcases phase with phase | phase | phase <;> simp only [phase, topInputs, undone]
  · simp
  · split <;> simp
  · simp

theorem Jammed.step (jammed : Jammed g) : Jammed (g.clock m i) := by
  obtain ⟨stuck, phase⟩ := jammed
  have low := startRaster_low (i := i) (g := g)
    (by rcases phase with phase | phase | phase <;> simp [phase])
  refine ⟨stuck.step low, ?_⟩
  rw [clock_phase, Registers.nextPhase]
  rcases phase with phase | phase | phase <;> simp only [phase, topInputs, stuck.rasterDone]
  · simp
  · split <;> simp
  · simp

variable {buffer1 buffer2 : FrameBuffer} {inputs : Nat → Inputs}

theorem rendering_powerUp : Rendering (powerUp buffer1 buffer2) {} :=
  ⟨PolygonRaster.sound_powerUp, rfl, rfl⟩

/-- Every reachable state is within a frame, or in a frame that will not end. -/
theorem run_rendering (m : Megafunctions) (buffer1 buffer2 : FrameBuffer) (inputs : Nat → Inputs)
    (n : Nat) :
    Rendering (run m (powerUp buffer1 buffer2) inputs n)
        (ledger m (powerUp buffer1 buffer2) inputs n) ∨
      Jammed (run m (powerUp buffer1 buffer2) inputs n) := by
  induction n with
  | zero => exact .inl rendering_powerUp
  | succ n ih =>
      rcases ih with rendering | jammed
      · by_cases below : PolygonRaster.StartsBelow (run m (powerUp buffer1 buffer2) inputs n).raster
        · exact .inl (rendering.step below)
        · exact .inr (rendering.jam below)
      · exact .inr jammed.step

theorem run_rendering_below
    (below : ∀ k, PolygonRaster.StartsBelow (run m (powerUp buffer1 buffer2) inputs k).raster)
    (n : Nat) : Rendering (run m (powerUp buffer1 buffer2) inputs n)
      (ledger m (powerUp buffer1 buffer2) inputs n) := by
  induction n with
  | zero => exact rendering_powerUp
  | succ n ih => exact ih.step (below n)

end WireframeGpu.Gpu
