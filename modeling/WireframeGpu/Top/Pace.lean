import WireframeGpu.Top.Animation

namespace WireframeGpu.Gpu

open WireframeGpu.Data WireframeGpu.Top PolygonRaster

/-! The pace of a frame.  Its buffer is black before the first point is drawn, and
that alone takes two clocks for each of the 76800 words. -/

variable {m : Megafunctions} {buffer1 buffer2 : FrameBuffer} {inputs : Nat → Inputs}
  {first k n t : Nat} {vertices : Model} {g : Gpu} {i : Inputs}

/-- How far a frame can be, `t` clocks after it has begun. -/
def Early (g : Gpu) (t : Nat) : Prop :=
  match g.top.state.phase with
  | .off => False
  | .start => g.top.memCounter = 0
  | .clear => 2 * g.top.memCounter.toNat + 1 ≤ t
  | .cleared => 2 * g.top.memCounter.toNat ≤ t
  | .await | .ask | .write | .check | .finished => 153601 ≤ t

theorem clock_memCounter_le :
    (g.clock m i).top.memCounter.toNat ≤ g.top.memCounter.toNat + 1 := by
  rw [clock_memCounter]
  split
  · rw [BitVec.toNat_add]
    exact Nat.mod_le _ _
  · split
    · exact Nat.zero_le _
    · exact Nat.le_succ _

theorem Early.clock (early : Early g t) : Early (g.clock m i) (t + 1) := by
  have phase' := clock_phase (m := m) g i
  have counter' := clock_memCounter (m := m) g i
  have small := clock_memCounter_le (m := m) (g := g) (i := i)
  rw [Top.Registers.nextPhase] at phase'
  cases phase : g.top.state.phase <;> simp only [Early, phase] at early <;>
    simp only [phase] at phase' counter'
  case start =>
    simp only [Early, phase']
    simp only [reduceCtorEq, false_and, or_self, ↓reduceIte] at counter'
    rw [counter', early]
    exact Nat.le_add_left 1 t
  case clear =>
    simp only [Early, phase']
    omega
  case cleared =>
    split at phase' <;> simp only [Early, phase']
    · rename_i last
      rw [beq_iff_eq] at last
      rw [last] at early
      exact Nat.succ_le_succ early
    · simp only [reduceCtorEq, false_and, or_self, ↓reduceIte] at counter'
      rw [counter']
      omega
  case finished =>
    split at phase'
    · rename_i switched
      simp only [Early, phase']
      exact (clock_leaves phase switched).2
    · simp only [Early, phase']
      omega
  all_goals
    (try split at phase') <;> simp only [Early, phase'] <;> omega

theorem Early.unfinished (early : Early g t) (soon : t < 153601) :
    g.top.state.phase ≠ .finished := by
  intro finished
  simp only [Early, finished] at early
  omega

/-- A frame passes through the wait for the raster core. -/
theorem awaits_before
    (starts : (run m (powerUp buffer1 buffer2) inputs first).top.state.phase = .start)
    (ordered : first ≤ n)
    (late : (run m (powerUp buffer1 buffer2) inputs n).top.state.phase ∈
      [Phase.ask, .write, .check, .finished]) :
    ∃ k, first < k ∧ k < n ∧
      (run m (powerUp buffer1 buffer2) inputs k).top.state.phase = .await := by
  induction n, ordered using Nat.le_induction with
  | base => simp [starts] at late
  | succ n ordered ih =>
      have next := clock_phase (m := m) (run m (powerUp buffer1 buffer2) inputs n) (inputs n)
      rw [← run_succ, Top.Registers.nextPhase] at next
      cases phase : (run m (powerUp buffer1 buffer2) inputs n).top.state.phase <;>
        simp only [phase, List.mem_cons, List.not_mem_nil, or_false, or_true, reduceCtorEq,
          forall_const] at next ih
      case await =>
        refine ⟨n, Nat.lt_of_le_of_ne ordered ?_, Nat.lt_succ_self n, phase⟩
        rintro rfl
        cases starts.symm.trans phase
      case ask | write | check | finished =>
        obtain ⟨k, after, before, waits⟩ := ih
        exact ⟨k, after, Nat.lt_succ_of_lt before, waits⟩
      case off | cleared => split at next <;> simp [next] at late
      all_goals simp [next] at late

theorem awaiting_black {l : Ledger} (rendering : Rendering g l)
    (phase : g.top.state.phase = .await) :
    g.target.Shows ∅ := by
  have coupled := rendering.coupled
  simp only [Coupled, phase] at coupled
  refine coupled.2.2.painted.shows fun p => ⟨fun drawn => ?_, fun none => ?_⟩
  · obtain ⟨_, member, -⟩ := drawn
    exact member.elim
  · exact absurd none (Set.notMem_empty p)

theorem second_drawing (ordered : first ≤ k)
    (drawing : ∀ j, first ≤ j → j < k → Drawing (run m (powerUp buffer1 buffer2) inputs j)) :
    (run m (powerUp buffer1 buffer2) inputs k).top.state.second =
      (run m (powerUp buffer1 buffer2) inputs first).top.state.second := by
  induction k, ordered using Nat.le_induction with
  | base => rfl
  | succ k ordered ih =>
      have before := drawing k ordered (Nat.lt_succ_self k)
      rw [run_succ, clock_second (.inl before.2)]
      exact ih fun j after early => drawing j after (Nat.lt_succ_of_lt early)

/-- Before it is complete, a picture is all black. -/
theorem Posed.wipes (posed : Posed m (powerUp buffer1 buffer2) inputs vertices)
    (starts : (run m (powerUp buffer1 buffer2) inputs first).top.state.phase = .start) :
    ∃ k n, first < k ∧ k < n ∧ n ≤ first + 255807 ∧
      FrameAt m (powerUp buffer1 buffer2) inputs first n ∧
      (run m (powerUp buffer1 buffer2) inputs k).target.Shows ∅ ∧
      (run m (powerUp buffer1 buffer2) inputs n).top.state.phase = .finished ∧
      (∀ j, first ≤ j → j < n → Drawing (run m (powerUp buffer1 buffer2) inputs j)) ∧
      ∀ j, first ≤ j → j ≤ n → (run m (powerUp buffer1 buffer2) inputs j).top.state.second =
        (run m (powerUp buffer1 buffer2) inputs first).top.state.second := by
  obtain ⟨n, lower, upper, frame, finished, -, drawing⟩ := frame_completes posed.below starts
  obtain ⟨k, after, before, waits⟩ := awaits_before starts (Nat.le_of_lt lower)
    (by rw [finished]; decide)
  have black := awaiting_black (posed.rendering k) waits
  exact ⟨k, n, after, before, upper, frame, black, finished, drawing, fun j least most =>
    second_drawing least fun l lower before => drawing l lower (Nat.lt_of_lt_of_le before most)⟩

/-! `S4` is declared and never entered. -/

theorem clock_declared (declared : g.top.state ≠ .s4) : (g.clock m i).top.state ≠ .s4 := by
  show (g.top.comb (g.topInputs i.frameSwitched)).nextState ≠ .s4
  cases state : g.top.state <;> simp only [Top.Registers.comb, Top.Registers.defaults, state]
  case s4 => exact (declared state).elim
  all_goals
    (repeat' split) <;> simp

theorem run_declared (m : Megafunctions) (buffer1 buffer2 : FrameBuffer)
    (inputs : Nat → Inputs) (n : Nat) :
    (run m (powerUp buffer1 buffer2) inputs n).top.state ≠ .s4 := by
  induction n with
  | zero => exact fun entered => by cases entered
  | succ n ih => exact clock_declared ih

/-- Past `WAIT2`, a frame is complete within one more frame. -/
theorem Posed.settles (posed : Posed m (powerUp buffer1 buffer2) inputs vertices)
    (begun : (run m (powerUp buffer1 buffer2) inputs n).top.state ≠ .wait2) :
    ∃ k, n ≤ k ∧ k ≤ n + 255808 ∧
      (run m (powerUp buffer1 buffer2) inputs k).top.state.phase = .finished := by
  by_cases off : (run m (powerUp buffer1 buffer2) inputs n).top.state.phase = .off
  · have dumb : (run m (powerUp buffer1 buffer2) inputs n).top.state = .dumb := by
      have declared := run_declared m buffer1 buffer2 inputs n
      cases state : (run m (powerUp buffer1 buffer2) inputs n).top.state <;>
        simp_all [Top.State.phase]
    have starts : (run m (powerUp buffer1 buffer2) inputs (n + 1)).top.state.phase = .start := by
      rw [run_succ, clock_phase, Top.Registers.nextPhase, off, if_pos dumb]
    obtain ⟨k, lower, upper, -, finished, -⟩ := posed.completes starts
    rw [Nat.add_assoc] at upper
    exact ⟨k, Nat.le_of_succ_le (Nat.le_of_lt lower), upper, finished⟩
  · by_cases finished : (run m (powerUp buffer1 buffer2) inputs n).top.state.phase = .finished
    · exact ⟨n, le_rfl, Nat.le_add_right n 255808, finished⟩
    · have drawing : Drawing (run m (powerUp buffer1 buffer2) inputs n) := ⟨off, finished⟩
      obtain ⟨last, lower, upper, ended, -⟩ := frame_finishes posed.below drawing
      exact ⟨last + 1, by omega, by omega, ended⟩

end WireframeGpu.Gpu
