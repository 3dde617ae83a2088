import WireframeGpu.Top.Wireframe

namespace WireframeGpu.Gpu

open WireframeGpu.Data WireframeGpu.Top PolygonRaster

/-! A model that stays in place is shown at one angle after the other: each frame
ends, and the one before it is kept meanwhile. -/

variable {m : Megafunctions} {buffer1 buffer2 : FrameBuffer} {inputs : Nat → Inputs}
  {first k n : Nat} {vertices : Model} {g : Gpu} {i : Inputs}

/-- The model is in place before the first frame and stays there, and no angle
takes it off the screen. -/
structure Posed (m : Megafunctions) (start : Gpu) (inputs : Nat → Inputs) (vertices : Model) :
    Prop where
  still : ∀ n, (run m start inputs n).top.state ≠ .wait2 →
    (run m start inputs n).registerfile.model = vertices
  visible : ∀ row : BitVec 9, row.toNat < 314 → ∀ t v,
    Projection.Visible (turned m row (vertices t v))

theorem angle_inside (count : Nat) : (angle count).toNat < 314 := by
  have small := Nat.mod_lt count (show 0 < 314 by decide)
  rw [angle, BitVec.toNat_ofNat, Nat.mod_eq_of_lt (by omega)]
  exact small

/-- `WAIT2` is left once and for all. -/
theorem clock_begun (begun : g.top.state ≠ .wait2) : (g.clock m i).top.state ≠ .wait2 := by
  show (g.top.comb (g.topInputs i.frameSwitched)).nextState ≠ .wait2
  cases state : g.top.state <;> simp only [Top.Registers.comb, Top.Registers.defaults, state]
  case wait2 => exact (begun state).elim
  all_goals
    (repeat' split) <;> simp

theorem begun_later (ordered : k ≤ n)
    (begun : (run m (powerUp buffer1 buffer2) inputs k).top.state ≠ .wait2) :
    (run m (powerUp buffer1 buffer2) inputs n).top.state ≠ .wait2 := by
  induction n, ordered using Nat.le_induction with
  | base => exact begun
  | succ n _ ih => exact clock_begun ih

theorem begun_of_phase (phase : g.top.state.phase ≠ .off) : g.top.state ≠ .wait2 := by
  intro waits
  rw [waits] at phase
  exact phase rfl

theorem frame_goes_on (frame : FrameAt m (powerUp buffer1 buffer2) inputs first n)
    (idle : (ports m (powerUp buffer1 buffer2) inputs n).startRaster = false) :
    FrameAt m (powerUp buffer1 buffer2) inputs first (n + 1) := by
  refine ⟨Nat.lt_succ_of_lt frame.ordered, frame.starts, fun j after before => ?_⟩
  rcases Nat.lt_succ_iff_lt_or_eq.mp before with earlier | rfl
  · exact frame.only j after earlier
  · exact idle

theorem frame_of_frames (begun : 1 ≤ frames m (powerUp buffer1 buffer2) inputs n) :
    ∃ first, FrameAt m (powerUp buffer1 buffer2) inputs first n := by
  induction n with
  | zero => exact absurd begun (Nat.not_succ_le_zero 0)
  | succ n ih =>
      cases starts : (ports m (powerUp buffer1 buffer2) inputs n).startRaster
      · have same : frames m (powerUp buffer1 buffer2) inputs (n + 1) =
            frames m (powerUp buffer1 buffer2) inputs n := if_neg (Bool.eq_false_iff.mp starts)
        obtain ⟨first, frame⟩ := ih (same ▸ begun)
        exact ⟨first, frame_goes_on frame starts⟩
      · exact ⟨n, frame_begins starts⟩

/-- A core that works does so for a frame. -/
theorem frame_of_busy (busy : (run m (powerUp buffer1 buffer2) inputs n).raster.state ≠ .initial) :
    ∃ first, FrameAt m (powerUp buffer1 buffer2) inputs first n := by
  induction n with
  | zero => exact (busy rfl).elim
  | succ n ih =>
      cases starts : (ports m (powerUp buffer1 buffer2) inputs n).startRaster
      · obtain ⟨first, frame⟩ := ih fun rests => busy <| by
          rw [raster_run] at rests ⊢
          rw [PolygonRaster.run_succ, clock_state]
          simp only [PolygonRaster.Registers.comb, rests, starts, Bool.false_eq_true, ↓reduceIte]
        exact ⟨first, frame_goes_on frame starts⟩
      · exact ⟨n, frame_begins starts⟩

namespace Posed

theorem kept (posed : Posed m (powerUp buffer1 buffer2) inputs vertices) (first : Nat) :
    Kept m (powerUp buffer1 buffer2) inputs first vertices := by
  intro k frame _
  have begins := starts_phase frame.starts
  refine posed.still k (begun_later (Nat.le_of_lt frame.ordered) (begun_of_phase ?_))
  rw [begins]
  decide

theorem turned_visible (posed : Posed m (powerUp buffer1 buffer2) inputs vertices) (count : Nat)
    (t : Fin 12) (v : Fin 3) : Projection.Visible (turned m (angle count) (vertices t v)) :=
  posed.visible _ (angle_inside count) t v

/-- What a frame pushes stays on the screen. -/
theorem pushed_inside (posed : Posed m (powerUp buffer1 buffer2) inputs vertices)
    (frame : FrameAt m (powerUp buffer1 buffer2) inputs first n) {line : Fin 36} {word : BitVec 18}
    (member : word ∈ (ledger m (powerUp buffer1 buffer2) inputs n).pushed line) :
    pixelX word ≤ 319 ∧ pixelY word ≤ 239 :=
  pushed_visible frame (fed_kept frame (posed.kept first)) (posed.turned_visible _) member

theorem screen_inside (posed : Posed m (powerUp buffer1 buffer2) inputs vertices)
    (enters : (run m (powerUp buffer1 buffer2) inputs k).raster.state = .startrast) (t : Fin 12)
    (v : Fin 3) : ((run m (powerUp buffer1 buffer2) inputs k).raster.screenX t v).toNat ≤ 319 ∧
      ((run m (powerUp buffer1 buffer2) inputs k).raster.screenY t v).toNat ≤ 239 := by
  obtain ⟨first, frame⟩ := frame_of_busy (n := k) (by rw [enters]; decide)
  exact screen_visible frame (fed_kept frame (posed.kept first)) (posed.turned_visible _)
    (by rw [enters]; rfl) t v

theorem side_below (posed : Posed m (powerUp buffer1 buffer2) inputs vertices) (count : Nat)
    (t : Fin 12) (v : Fin 3) : (side m (angle count) vertices t v).majorMax ≠ 511 :=
  edge_below (posed.turned_visible count t v) (posed.turned_visible count t (v + 1))

theorem below (posed : Posed m (powerUp buffer1 buffer2) inputs vertices) (k : Nat) :
    StartsBelow (run m (powerUp buffer1 buffer2) inputs k).raster := by
  intro enters
  obtain ⟨first, frame⟩ := frame_of_busy (n := k) (by rw [enters]; decide)
  exact (below_iff_sides frame (posed.kept first) (by rw [enters]; rfl)).mpr
    (posed.side_below _)

theorem rendering (posed : Posed m (powerUp buffer1 buffer2) inputs vertices) (n : Nat) :
    Rendering (run m (powerUp buffer1 buffer2) inputs n)
      (ledger m (powerUp buffer1 buffer2) inputs n) :=
  run_rendering_below posed.below n

/-- Every frame that begins is complete in time. -/
theorem completes (posed : Posed m (powerUp buffer1 buffer2) inputs vertices)
    (starts : (run m (powerUp buffer1 buffer2) inputs first).top.state.phase = .start) :
    ∃ n, first < n ∧ n ≤ first + 255807 ∧ FrameAt m (powerUp buffer1 buffer2) inputs first n ∧
      (run m (powerUp buffer1 buffer2) inputs n).top.state.phase = .finished ∧
      (run m (powerUp buffer1 buffer2) inputs n).target.Shows
        (wireframe m (angle (frames m (powerUp buffer1 buffer2) inputs n)) vertices) := by
  obtain ⟨n, lower, upper, frame, finished, -⟩ := frame_completes posed.below starts
  exact ⟨n, lower, upper, frame, finished, finished_shows frame (posed.kept first) finished⟩

end Posed

/-! The buffer that is not being drawn. -/

def other (g : Gpu) : FrameBuffer := if g.top.state.second then g.buffer1 else g.buffer2

theorem other_clock (unfinished : g.top.state.phase ≠ .finished ∨ i.frameSwitched = false) :
    (g.clock m i).other = g.other := by
  have written := g.top.bufferWr_eq (g.topInputs i.frameSwitched)
  rw [other, other, clock_second unfinished]
  cases second : g.top.state.second <;>
    simp only [second, Bool.not_true, Bool.not_false, Bool.false_and, Bool.false_eq_true,
      ↓reduceIte] at written ⊢
  · simp only [clock, wires, written.2, FrameBuffer.clock_unwritten]
  · simp only [clock, wires, written.1, FrameBuffer.clock_unwritten]

theorem second_switched (finished : g.top.state.phase = .finished)
    (switched : i.frameSwitched = true) : (g.clock m i).top.state.second = !g.top.state.second :=
  (g.top.clock_second _).trans (if_pos ⟨finished, switched⟩)

/-- A finished buffer is put aside as it is. -/
theorem other_switched (finished : g.top.state.phase = .finished)
    (switched : i.frameSwitched = true) : (g.clock m i).other = g.target := by
  have written := g.top.bufferWr_eq (g.topInputs i.frameSwitched)
  have clear : (g.top.state.phase == .clear || g.top.state.phase == .write) = false := by
    rw [finished]
    rfl
  rw [clear, Bool.and_false, Bool.and_false] at written
  rw [other, target, second_switched finished switched]
  simp only [clock, wires, written.1, written.2, FrameBuffer.clock_unwritten]
  cases g.top.state.second <;> rfl

/-- The pictures that were complete before the one at hand. -/
def complete (g : Gpu) (count : Nat) : Nat :=
  if g.top.state.phase = .start then count else count - 1

/-- Frame `count` is under way or finished, and the frame before it is in the other
buffer; odd frames are drawn to buffer 2. -/
structure Exhibited (m : Megafunctions) (vertices : Model) (g : Gpu) (count : Nat) : Prop where
  unbegun : g.top.state.phase = .off → count = 0
  begun : g.top.state.phase ≠ .off → g.top.state.phase ≠ .start → 1 ≤ count
  turn : g.top.state.second = (g.complete count % 2 == 0)
  aside : 1 ≤ g.complete count → g.other.Shows (wireframe m (angle (g.complete count)) vertices)

theorem parity_succ {count : Nat} (positive : 1 ≤ count) :
    (!((count - 1) % 2 == 0)) = (count % 2 == 0) := by
  obtain ⟨before, rfl⟩ := Nat.exists_eq_add_of_le' positive
  rcases Nat.mod_two_eq_zero_or_one before with even | odd
  · simp [even, Nat.add_mod]
  · simp [odd, Nat.add_mod]

theorem clock_drawing (drawing : Drawing g) :
    (g.clock m i).top.state.phase ≠ .off ∧ (g.clock m i).top.state.phase ≠ .start := by
  obtain ⟨moving, unfinished⟩ := drawing
  rw [clock_phase, Top.Registers.nextPhase]
  cases phase : g.top.state.phase <;> simp only [phase] at moving unfinished ⊢ <;>
    (repeat' split) <;> simp_all

theorem clock_off (phase : g.top.state.phase = .off) :
    (g.clock m i).top.state.phase = .off ∨ (g.clock m i).top.state.phase = .start := by
  rw [clock_phase, Top.Registers.nextPhase, phase]
  simp only
  split <;> simp

theorem frames_succ (n : Nat) : frames m (powerUp buffer1 buffer2) inputs (n + 1) =
    if (run m (powerUp buffer1 buffer2) inputs n).top.state.phase = .start
    then frames m (powerUp buffer1 buffer2) inputs n + 1
    else frames m (powerUp buffer1 buffer2) inputs n := by
  simp only [frames, startRaster_eq, beq_iff_eq]

theorem Exhibited.step {count : Nat} (exhibited : Exhibited m vertices g count)
    (shows : g.top.state.phase = .finished → g.target.Shows (wireframe m (angle count) vertices)) :
    Exhibited m vertices (g.clock m i)
      (if g.top.state.phase = .start then count + 1 else count) := by
  by_cases off : g.top.state.phase = .off
  · have zero := exhibited.unbegun off
    have idle : g.top.state.phase ≠ .start := by simp [off]
    rw [if_neg idle, zero]
    refine ⟨fun _ => rfl, fun moving ready => ?_, ?_, fun positive => ?_⟩
    · exact ((clock_off off).elim moving ready).elim
    · have turn := exhibited.turn
      simp only [zero, complete, Nat.zero_sub, ite_self] at turn ⊢
      rw [clock_second (.inl (by simp [off])), turn]
    · simp [complete] at positive
  by_cases finished : g.top.state.phase = .finished
  · have idle : g.top.state.phase ≠ .start := by simp [finished]
    have begun := exhibited.begun off idle
    rw [if_neg idle]
    cases switched : i.frameSwitched
    · have same := clock_waits (m := m) finished switched
      have kept : (g.clock m i).complete count = g.complete count := by
        rw [complete, same, complete]
      refine ⟨fun next => (off (same ▸ next)).elim, fun _ _ => begun, ?_, fun positive => ?_⟩
      · rw [same, kept, exhibited.turn]
      · rw [kept] at positive ⊢
        rw [other_clock (.inr switched)]
        exact exhibited.aside positive
    · obtain ⟨next, -⟩ := clock_leaves (m := m) finished switched
      refine ⟨fun off => ?_, fun _ ready => (ready next).elim, ?_, fun _ => ?_⟩
      · cases next.symm.trans off
      · rw [second_switched finished switched, exhibited.turn, complete, if_neg idle, complete,
          if_pos next]
        exact parity_succ begun
      · rw [complete, if_pos next, other_switched finished switched]
        exact shows finished
  · obtain ⟨moving, past⟩ := clock_drawing (m := m) (i := i) ⟨off, finished⟩
    have same : (g.clock m i).complete (if g.top.state.phase = .start then count + 1 else count) =
        g.complete count := by
      rw [complete, if_neg past, complete]
      split <;> rfl
    refine ⟨fun next => (moving next).elim, fun _ _ => ?_, ?_, fun positive => ?_⟩
    · split
      · exact Nat.le_add_left 1 count
      · exact exhibited.begun off ‹_›
    · rw [same, clock_second (.inl finished), exhibited.turn]
    · rw [same] at positive ⊢
      rw [other_clock (.inl finished)]
      exact exhibited.aside positive

/-- In every cycle the picture before the one at hand is whole, and so is that one
once it is finished. -/
theorem Posed.exhibited (posed : Posed m (powerUp buffer1 buffer2) inputs vertices) (n : Nat) :
    Exhibited m vertices (run m (powerUp buffer1 buffer2) inputs n)
        (frames m (powerUp buffer1 buffer2) inputs n) ∧
      ((run m (powerUp buffer1 buffer2) inputs n).top.state.phase = .finished →
        (run m (powerUp buffer1 buffer2) inputs n).target.Shows
          (wireframe m (angle (frames m (powerUp buffer1 buffer2) inputs n)) vertices)) := by
  induction n with
  | zero =>
      exact ⟨⟨fun _ => rfl, fun moving => (moving rfl).elim,
        rfl, fun positive => by cases positive⟩, fun finished => by cases finished⟩
  | succ n ih =>
      have next := ih.1.step (i := inputs n) ih.2
      rw [← frames_succ] at next
      refine ⟨next, fun finished => ?_⟩
      have phase : ((run m (powerUp buffer1 buffer2) inputs n).clock m (inputs n)).top.state.phase =
          .finished := finished
      obtain ⟨first, frame⟩ := frame_of_frames (next.begun (by simp [phase]) (by simp [phase]))
      exact finished_shows frame (posed.kept first) finished

/-! The frames go on for as long as the display switches them, if none gets stuck. -/

theorem off_before (off : (g.clock m i).top.state.phase = .off) : g.top.state.phase = .off := by
  rw [clock_phase, Top.Registers.nextPhase] at off
  cases phase : g.top.state.phase <;> simp only [phase] at off ⊢ <;>
    (repeat' split at off) <;> cases off

theorem frames_off (off : (run m (powerUp buffer1 buffer2) inputs n).top.state.phase = .off) :
    frames m (powerUp buffer1 buffer2) inputs n = 0 := by
  induction n with
  | zero => rfl
  | succ n ih =>
      have before : (run m (powerUp buffer1 buffer2) inputs n).top.state.phase = .off :=
        off_before (i := inputs n) off
      rw [frames_succ, if_neg (by simp [before])]
      exact ih before

/-- Once the start bit has been seen, a first frame begins. -/
theorem first_begins
    (begun : ∃ n, (run m (powerUp buffer1 buffer2) inputs n).top.state ≠ .wait2) :
    ∃ n, (run m (powerUp buffer1 buffer2) inputs n).top.state.phase = .start ∧
      frames m (powerUp buffer1 buffer2) inputs n = 0 := by
  classical
  obtain ⟨n, leaves⟩ : ∃ n, Nat.find begun = n + 1 := by
    refine Nat.exists_eq_succ_of_ne_zero fun zero => ?_
    have begun' := Nat.find_spec begun
    rw [zero] at begun'
    exact begun' rfl
  have waits : (run m (powerUp buffer1 buffer2) inputs n).top.state = .wait2 := by
    by_contra other
    have first := Nat.find_min' begun other
    omega
  have left : (run m (powerUp buffer1 buffer2) inputs (n + 1)).top.state = .dumb := by
    have begun' := Nat.find_spec begun
    rw [leaves, run_succ, clock_top] at begun'
    rw [run_succ, clock_top]
    simp only [Top.Registers.clock, Top.Registers.comb, waits] at begun' ⊢
    split at begun' <;> simp_all
  have off : (run m (powerUp buffer1 buffer2) inputs (n + 1)).top.state.phase = .off := by
    rw [left]
    rfl
  refine ⟨n + 2, ?_, ?_⟩
  · rw [run_succ, clock_phase, Top.Registers.nextPhase, off, if_pos left]
  · rw [frames_succ, if_neg (by simp [off])]
    exact frames_off off

theorem next_begins
    (below : ∀ k, StartsBelow (run m (powerUp buffer1 buffer2) inputs k).raster)
    (switches : ∀ n, ∃ k, n ≤ k ∧ (inputs k).frameSwitched = true)
    (starts : (run m (powerUp buffer1 buffer2) inputs n).top.state.phase = .start) :
    ∃ k, (run m (powerUp buffer1 buffer2) inputs k).top.state.phase = .start ∧
      frames m (powerUp buffer1 buffer2) inputs k =
        frames m (powerUp buffer1 buffer2) inputs n + 1 := by
  classical
  obtain ⟨last, -, -, frame, finished, -⟩ := frame_completes below starts
  have later := switches last
  obtain ⟨ordered, switched⟩ := Nat.find_spec later
  have waits : ∀ j, last ≤ j → j < Nat.find later → (inputs j).frameSwitched = false := by
    intro j after before
    have early := Nat.find_min later before
    rw [not_and] at early
    exact Bool.eq_false_iff.mpr (early after)
  have still : ∀ j, last ≤ j → j ≤ Nat.find later →
      (run m (powerUp buffer1 buffer2) inputs j).top.state.phase = .finished := by
    intro j after before
    rw [finished_waits after finished fun k lower upper => waits k lower (by omega)]
    exact finished
  have count : ∀ j, last ≤ j → j ≤ Nat.find later →
      frames m (powerUp buffer1 buffer2) inputs j =
        frames m (powerUp buffer1 buffer2) inputs last := by
    intro j after
    induction j, after using Nat.le_induction with
    | base => exact fun _ => rfl
    | succ j after ih =>
        intro before
        have idle := still j after (by omega)
        rw [frames_succ, if_neg (by simp [idle])]
        exact ih (by omega)
  refine ⟨Nat.find later + 1, (clock_leaves (still _ ordered le_rfl) switched).1, ?_⟩
  rw [frames_succ, if_neg (by simp [still _ ordered le_rfl]), count _ ordered le_rfl,
    frames_of_frame frame]

/-- Every picture is drawn in the end. -/
theorem goes_on (below : ∀ k, StartsBelow (run m (powerUp buffer1 buffer2) inputs k).raster)
    (begun : ∃ n, (run m (powerUp buffer1 buffer2) inputs n).top.state ≠ .wait2)
    (switches : ∀ n, ∃ k, n ≤ k ∧ (inputs k).frameSwitched = true) (count : Nat) :
    ∃ n, (run m (powerUp buffer1 buffer2) inputs n).top.state.phase = .start ∧
      frames m (powerUp buffer1 buffer2) inputs n = count := by
  induction count with
  | zero => exact first_begins begun
  | succ count ih =>
      obtain ⟨n, starts, rfl⟩ := ih
      exact next_begins below switches starts

/-! The memories of the machine are used within their bounds. -/

/-- No FIFO is written while it is full or read while it is empty, and no write
goes past the 76800 words of a frame RAM. -/
structure Bounded (g : Gpu) (fs : Bool) : Prop where
  room : ∀ line, (g.push fs line).isSome → (g.raster.fifos line).words.length < Lineoutput.depth
  stored : ∀ line, (g.raster.comb (g.rasterInputs fs)).readFifo line = true →
    (g.raster.fifos line).words ≠ []
  buffer1 : (g.wires fs).buffer1Wr = true →
    (g.top.buffer1Addr (g.topInputs fs)).toNat < 76800
  buffer2 : (g.wires fs).buffer2Wr = true →
    (g.top.buffer2Addr (g.topInputs fs)).toNat < 76800

theorem Rendering.bounded {l : Ledger} (rendering : Rendering g l) (fs : Bool)
    (inside : g.top.state.phase = .write → (address g.raster.coord).toNat < 76800) :
    Bounded g fs := by
  have written := g.top.bufferWr_eq (g.topInputs fs)
  have clears := g.top.clrBuffer_eq (g.topInputs fs)
  have place : ∀ second : Bool, (second && (g.top.state.phase == .clear ||
      g.top.state.phase == .write)) = true →
      (if (second && g.top.clearing) = true then g.top.memCounter
        else address g.raster.coord).toNat < 76800 := by
    intro second writes
    rw [Bool.and_eq_true] at writes
    rw [writes.1, Bool.true_and, Top.Registers.clearing]
    cases phase : g.top.state.phase <;> simp only [phase] at writes inside ⊢
    case clear =>
      have coupled := rendering.coupled
      simp only [Coupled, phase] at coupled
      exact coupled.2.2.1
    case write => exact inside trivial
    all_goals exact absurd writes.2 (by decide)
  refine ⟨fun line pushing => rendering.sound.room pushing,
    fun line reading => rendering.sound.stored reading, fun writes => ?_, fun writes => ?_⟩
  · have inside := place (!g.top.state.second) (written.1 ▸ writes)
    rw [← clears.1] at inside
    exact inside
  · have inside := place g.top.state.second (written.2 ▸ writes)
    rw [← clears.2] at inside
    exact inside

theorem Posed.bounded (posed : Posed m (powerUp buffer1 buffer2) inputs vertices) (n : Nat)
    (fs : Bool) : Bounded (run m (powerUp buffer1 buffer2) inputs n) fs := by
  have rendering := posed.rendering n
  refine rendering.bounded fs fun phase => ?_
  have coupled := rendering.coupled
  simp only [Coupled, phase] at coupled
  obtain ⟨state, -, shown⟩ := coupled
  obtain ⟨line, p, drawn, at_⟩ := shown_mem ((shown _).mpr (.inr rfl))
  obtain ⟨first, frame⟩ := frame_of_busy (n := n) (by rw [state]; decide)
  rw [segment_of_frame frame (posed.kept first) (by rw [state]; rfl)] at drawn
  have visible := posed.turned_visible (frames m (powerUp buffer1 buffer2) inputs n)
    (Registers.edgeTriangle line)
  have inside := edge_visible (visible _) (visible _) drawn
  obtain ⟨x, y⟩ := pixelWord_visible inside
  rw [at_]
  exact (address_visible (by omega) (by omega)).2

end WireframeGpu.Gpu
