import WireframeGpu.Display.OutputScreen
import WireframeGpu.Top.Boot

namespace WireframeGpu.Board

open WireframeGpu.Data WireframeGpu.Software WireframeGpu.Top

/-! The renderer and the display share two buffers.  `frame_switched` is a level
that falls at the next edge of `VGA_VS` only, so it may be left from the frame
before. -/

variable {m : Megafunctions} {buffer1 buffer2 : FrameBuffer} {events : Nat → Event} {n k : Nat}

theorem run_succ (m : Megafunctions) (start : Board) (events : Nat → Event) (n : Nat) :
    run m start events (n + 1) = (run m start events n).step m (events n) :=
  trace_succ _ _ _ _

/-- The buffer on screen is not written. -/
def Safe (b : Board) : Prop :=
  (b.wires.buffer1Wr = true → b.screen.select = true) ∧
    (b.wires.buffer2Wr = true → b.screen.select = false)

/-- The clock edge on which top takes the frames as switched. -/
def Switches (b : Board) (e : Event) : Prop :=
  (∃ bus, e = .clock50 bus) ∧ (b.gpu.top.state = .s1 ∨ b.gpu.top.state = .s3) ∧
    b.screen.frameSwitched = true

/-- The falling edges of `VGA_VS` since top entered `S1` or `S3`, kept beside the
registers and read by none of them. -/
def edges (m : Megafunctions) (start : Board) (events : Nat → Event) : Nat → Nat
  | 0 => 0
  | n + 1 =>
      match events n with
      | .vsFalling => edges m start events n + 1
      | .clock50 _ =>
          if (run m start events n).wires.drawDone then edges m start events n else 0

theorem finished_iff (g : Gpu) : g.top.state.phase = .finished ↔
    g.top.state = .s1 ∨ g.top.state = .s3 := by
  cases g.top.state <;> simp [State.phase]

theorem drawDone_iff (b : Board) : b.wires.drawDone = true ↔ b.gpu.top.state.phase = .finished := by
  rw [wires, Gpu.wires, Registers.drawDone_eq, beq_iff_eq]

/-- Where `select` ought to stand: at the buffer that is not being drawn, and once
that is drawn, at whichever the edges since then have left it. -/
def due (phase : Phase) (second : Bool) (edges : Nat) : Bool :=
  if phase = .finished ∧ edges % 2 = 1 then second else !second

theorem due_drawing {phase : Phase} (drawing : phase ≠ .finished) (second : Bool) (edges : Nat) :
    due phase second edges = !second := by
  simp [due, drawing]

theorem due_edge (second : Bool) (edges : Nat) :
    due .finished second (edges + 1) = !due .finished second edges := by
  rcases Nat.mod_two_eq_zero_or_one edges with even | odd
  · simp [due, even, Nat.add_mod]
  · simp [due, odd, Nat.add_mod]

def Aligned (b : Board) (edges : Nat) : Prop :=
  b.screen.select = due b.gpu.top.state.phase b.gpu.top.state.second edges

theorem Aligned.safe {b : Board} {count : Nat} (aligned : Aligned b count) : Safe b := by
  have written := b.gpu.top.bufferWr_eq (b.gpu.topInputs b.screen.frameSwitched)
  rw [Safe, wires, Gpu.wires, written.1, written.2, aligned]
  by_cases finished : b.gpu.top.state.phase = .finished
  · simp [finished]
  · rw [due_drawing finished]
    cases b.gpu.top.state.second <;> simp

theorem aligned_vsFalling {b : Board} {count : Nat} (aligned : Aligned b count) :
    Aligned (b.step m .vsFalling) (count + 1) := by
  show (b.screen.clock b.wires.drawDone).select =
    due b.gpu.top.state.phase b.gpu.top.state.second (count + 1)
  by_cases finished : b.gpu.top.state.phase = .finished
  · rw [OutputScreen.Registers.clock, if_pos ((drawDone_iff b).mpr finished), finished, due_edge,
      ← finished, ← aligned]
  · have undone : ¬ b.wires.drawDone = true := fun done => finished ((drawDone_iff b).mp done)
    rw [OutputScreen.Registers.clock, if_neg undone, due_drawing finished]
    exact aligned.trans (due_drawing finished _ _)

theorem aligned_clock50 {b : Board} {bus : Registerfile.Inputs} {count : Nat}
    (aligned : Aligned b count) (odd : Switches b (.clock50 bus) → count % 2 = 1) :
    Aligned (b.step m (.clock50 bus)) (if b.wires.drawDone then count else 0) := by
  show b.screen.select = due (b.gpu.top.clock (b.gpu.topInputs b.screen.frameSwitched)).state.phase
    (b.gpu.top.clock (b.gpu.topInputs b.screen.frameSwitched)).state.second _
  rw [aligned, b.gpu.top.clock_second, b.gpu.top.clock_phase]
  by_cases finished : b.gpu.top.state.phase = .finished
  · rw [if_pos ((drawDone_iff b).mpr finished)]
    cases switched : b.screen.frameSwitched
    · simp [Registers.nextPhase, finished, Gpu.topInputs]
    · have one := odd ⟨⟨bus, rfl⟩, (finished_iff b.gpu).mp finished, switched⟩
      simp [Registers.nextPhase, finished, Gpu.topInputs, due, one]
  · have undone : ¬ b.wires.drawDone = true := fun done => finished ((drawDone_iff b).mp done)
    rw [if_neg undone, due_drawing finished]
    simp [due, finished]

theorem aligned_run
    (met : ∀ k < n, Switches (run m (powerUp buffer1 buffer2) events k) (events k) →
      edges m (powerUp buffer1 buffer2) events k % 2 = 1) :
    Aligned (run m (powerUp buffer1 buffer2) events n)
      (edges m (powerUp buffer1 buffer2) events n) := by
  induction n with
  | zero => rfl
  | succ n ih =>
      have aligned := ih fun k before => met k (Nat.lt_succ_of_lt before)
      have odd := met n (Nat.lt_succ_self n)
      rw [run_succ, edges]
      cases event : events n with
      | vsFalling => exact aligned_vsFalling aligned
      | clock50 bus => exact aligned_clock50 aligned (event ▸ odd)

structure Swapped (b : Board) : Prop where
  start : b.gpu.top.state.phase = .start
  select : b.screen.select = b.gpu.top.state.second

theorem swapped_of_even {b : Board} {e : Event} {count : Nat} (aligned : Aligned b count)
    (switches : Switches b e) (even : count % 2 ≠ 1) : Swapped (b.step m e) := by
  obtain ⟨⟨bus, rfl⟩, finished, switched⟩ := switches
  rw [← finished_iff] at finished
  have second := b.gpu.top.clock_second (b.gpu.topInputs b.screen.frameSwitched)
  have phase := b.gpu.top.clock_phase (b.gpu.topInputs b.screen.frameSwitched)
  constructor
  · refine phase.trans ?_
    simp [Registers.nextPhase, finished, Gpu.topInputs, switched]
  · refine Eq.trans ?_ second.symm
    show b.screen.select = _
    rw [aligned, finished]
    simp [due, even, Gpu.topInputs, switched]

theorem Swapped.vsFalling {b : Board} (swapped : Swapped b) : Swapped (b.step m .vsFalling) := by
  refine ⟨swapped.start, ?_⟩
  show (b.screen.clock b.wires.drawDone).select = b.gpu.top.state.second
  have undone : ¬ b.wires.drawDone = true := by
    rw [drawDone_iff, swapped.start]
    decide
  rw [OutputScreen.Registers.clock, if_neg undone]
  exact swapped.select

theorem Swapped.breaks {b : Board} (swapped : Swapped b) (bus : Registerfile.Inputs) :
    ¬ Safe (b.step m (.clock50 bus)) := by
  have second := b.gpu.top.clock_second (b.gpu.topInputs b.screen.frameSwitched)
  have phase := b.gpu.top.clock_phase (b.gpu.topInputs b.screen.frameSwitched)
  simp only [swapped.start, Registers.nextPhase, reduceCtorEq, false_and,
    ↓reduceIte] at second phase
  have written := (b.step m (.clock50 bus)).gpu.top.bufferWr_eq
    ((b.step m (.clock50 bus)).gpu.topInputs b.screen.frameSwitched)
  have select : (b.step m (.clock50 bus)).screen.select = b.gpu.top.state.second := swapped.select
  rw [Safe, wires, Gpu.wires, select]
  simp only [step, Gpu.clock, second, phase] at written ⊢
  rw [written.1, written.2]
  cases b.gpu.top.state.second <;> simp

theorem Swapped.reaches (swapped : Swapped (run m (powerUp buffer1 buffer2) events n))
    (ordered : n ≤ k) {bus : Registerfile.Inputs} (ticks : events k = .clock50 bus) :
    ∃ later, ¬ Safe (run m (powerUp buffer1 buffer2) events later) := by
  induction ordered using Nat.decreasingInduction with
  | self =>
      refine ⟨k + 1, ?_⟩
      rw [run_succ, ticks]
      exact swapped.breaks bus
  | of_succ n _ ih =>
      cases event : events n with
      | vsFalling =>
          refine ih ?_
          rw [run_succ, event]
          exact swapped.vsFalling
      | clock50 bus =>
          refine ⟨n + 1, ?_⟩
          rw [run_succ, event]
          exact swapped.breaks bus

/-- The buffer on screen is never written if every frame that top takes as switched
was switched an odd number of times since it was drawn; and as long as the clock
does not stop, only then. -/
theorem displayed_buffer_safe (m : Megafunctions) (buffer1 buffer2 : FrameBuffer)
    (events : Nat → Event) :
    ((∀ k, Switches (run m (powerUp buffer1 buffer2) events k) (events k) →
        edges m (powerUp buffer1 buffer2) events k % 2 = 1) →
      ∀ n, Safe (run m (powerUp buffer1 buffer2) events n)) ∧
    ((∀ n, ∃ k, n ≤ k ∧ ∃ bus, events k = .clock50 bus) →
      (∀ n, Safe (run m (powerUp buffer1 buffer2) events n)) →
      ∀ k, Switches (run m (powerUp buffer1 buffer2) events k) (events k) →
        edges m (powerUp buffer1 buffer2) events k % 2 = 1) := by
  constructor
  · exact fun met n => (aligned_run fun k _ => met k).safe
  · intro ticking safe k
    induction k using Nat.strong_induction_on with
    | _ k ih =>
        intro switches
        by_contra even
        have swapped : Swapped (run m (powerUp buffer1 buffer2) events (k + 1)) :=
          swapped_of_even (aligned_run ih) switches even
        obtain ⟨later, ordered, bus, ticks⟩ := ticking (k + 1)
        obtain ⟨n, broken⟩ := swapped.reaches ordered ticks
        exact broken (safe n)

/-! A stretch of clocks without an edge of `VGA_VS` is a run of the renderer alone. -/

theorem run_follows {start : Board} {g : Gpu} {inputs : Nat → Gpu.Inputs} {first cycle length : Nat}
    (synced : (run m start events first).gpu = Gpu.run m g inputs cycle)
    (clocks : ∀ j < length, events (first + j) = .clock50 (inputs (cycle + j)).bus)
    (flag : ∀ j < length, (inputs (cycle + j)).frameSwitched =
      (run m start events first).screen.frameSwitched) {j : Nat} (inside : j ≤ length) :
    (run m start events (first + j)).gpu = Gpu.run m g inputs (cycle + j) ∧
      (run m start events (first + j)).screen = (run m start events first).screen := by
  induction j with
  | zero => exact ⟨synced, rfl⟩
  | succ j ih =>
      obtain ⟨gpu, screen⟩ := ih (Nat.le_of_succ_le inside)
      rw [← Nat.add_assoc, ← Nat.add_assoc, run_succ, clocks j inside, Gpu.run_succ, ← gpu]
      refine ⟨?_, screen⟩
      show Gpu.clock m _ ⟨_, (run m start events (first + j)).screen.frameSwitched⟩ = _
      rw [screen, ← flag j inside]

theorem screen_kept {start : Board} {first : Nat} (ordered : first ≤ n)
    (clocks : ∀ k, first ≤ k → k < n → ∃ bus, events k = .clock50 bus) :
    (run m start events n).screen = (run m start events first).screen := by
  induction n, ordered using Nat.le_induction with
  | base => rfl
  | succ n ordered ih =>
      obtain ⟨bus, clock⟩ := clocks n ordered (Nat.lt_succ_self n)
      rw [run_succ, clock]
      exact ih fun k after before => clocks k after (Nat.lt_succ_of_lt before)

theorem edges_zero {start : Board} (clocks : ∀ k < n, ∃ bus, events k = .clock50 bus) :
    edges m start events n = 0 := by
  induction n with
  | zero => rfl
  | succ n ih =>
      obtain ⟨bus, clock⟩ := clocks n (Nat.lt_succ_self n)
      have none := ih fun k before => clocks k (Nat.lt_succ_of_lt before)
      simp only [edges, clock, none, ite_self]

/-! One picture is handed over as it should be: `VGA_VS` falls once it is complete,
and again before the next one is. -/

def handover (edge k : Nat) : Event :=
  if k = edge ∨ k = edge + 2 then .vsFalling else .clock50 (Gpu.boot 0 Gpu.idle k).bus

section

variable {edge : Nat}

theorem handover_clock (away : k ≠ edge ∧ k ≠ edge + 2) :
    handover edge k = .clock50 (Gpu.boot 0 Gpu.idle k).bus :=
  if_neg fun h => h.elim away.1 away.2

theorem handover_edge : handover edge edge = .vsFalling ∧ handover edge (edge + 2) = .vsFalling :=
  ⟨if_pos (.inl rfl), if_pos (.inr rfl)⟩

theorem boot_idle_flag (k : Nat) : (Gpu.boot 0 Gpu.idle k).frameSwitched = false := by
  match k with
  | 0 | 1 | 2 => rfl
  | k + 3 => rfl

theorem handover_before (before : k ≤ edge) :
    (run m (powerUp buffer1 buffer2) (handover edge) k).gpu =
        Gpu.run m (Gpu.powerUp buffer1 buffer2) (Gpu.boot 0 Gpu.idle) k ∧
      (run m (powerUp buffer1 buffer2) (handover edge) k).screen = {} := by
  have synced : (run m (powerUp buffer1 buffer2) (handover edge) 0).gpu =
      Gpu.run m (Gpu.powerUp buffer1 buffer2) (Gpu.boot 0 Gpu.idle) 0 := rfl
  have follows := run_follows synced (fun j inside => by
      rw [Nat.zero_add]
      exact handover_clock ⟨by omega, by omega⟩)
    (fun j _ => boot_idle_flag _) before
  rwa [Nat.zero_add] at follows

theorem handover_finished (m : Megafunctions) (buffer1 buffer2 : FrameBuffer)
    (long : 255812 ≤ edge) :
    (run m (powerUp buffer1 buffer2) (handover edge) edge).gpu.top.state = .s1 := by
  rw [(handover_before le_rfl).1]
  obtain ⟨n, -, upper, -, state⟩ := Gpu.boot_frame m buffer1 buffer2 0 Gpu.idle_blank
  exact (Gpu.finished_waits (n := n) (by omega) (by rw [state]; rfl) fun k _ _ =>
    boot_idle_flag k).trans state

theorem handover_switched (m : Megafunctions) (buffer1 buffer2 : FrameBuffer)
    (long : 255812 ≤ edge) :
    (run m (powerUp buffer1 buffer2) (handover edge) (edge + 1)).gpu.top.state = .s1 ∧
      (run m (powerUp buffer1 buffer2) (handover edge) (edge + 1)).screen = ⟨true, true⟩ := by
  have finished := handover_finished m buffer1 buffer2 long
  have done : (run m (powerUp buffer1 buffer2) (handover edge) edge).wires.drawDone = true := by
    rw [drawDone_iff, finished]
    rfl
  rw [run_succ, handover_edge.1, step, done, (handover_before le_rfl).2]
  exact ⟨finished, rfl⟩

theorem handover_leaves (m : Megafunctions) (buffer1 buffer2 : FrameBuffer)
    (long : 255812 ≤ edge) :
    (run m (powerUp buffer1 buffer2) (handover edge) (edge + 2)).gpu.top.state = .f25 := by
  obtain ⟨state, screen⟩ := handover_switched m buffer1 buffer2 long
  rw [run_succ, handover_clock ⟨by omega, by omega⟩]
  show ((run m (powerUp buffer1 buffer2) (handover edge) (edge + 1)).gpu.top.comb
    ((run m (powerUp buffer1 buffer2) (handover edge) (edge + 1)).gpu.topInputs
      (run m (powerUp buffer1 buffer2) (handover edge)
        (edge + 1)).screen.frameSwitched)).nextState = _
  simp only [screen, Registers.comb, state, Gpu.topInputs, ↓reduceIte]

theorem handover_after (m : Megafunctions) (buffer1 buffer2 : FrameBuffer)
    (long : 255812 ≤ edge) (after : edge + 3 ≤ k) :
    (run m (powerUp buffer1 buffer2) (handover edge) k).screen.frameSwitched = false := by
  have undone : (run m (powerUp buffer1 buffer2) (handover edge) (edge + 2)).wires.drawDone ≠
      true := by
    rw [ne_eq, drawDone_iff, handover_leaves m buffer1 buffer2 long]
    decide
  rw [screen_kept after fun j lower _ => ⟨_, handover_clock ⟨by omega, by omega⟩⟩, run_succ,
    handover_edge.2, step, OutputScreen.Registers.clock, if_neg undone]

theorem handover_odd (m : Megafunctions) (buffer1 buffer2 : FrameBuffer) (long : 255812 ≤ edge)
    (k : Nat) (switches : Switches (run m (powerUp buffer1 buffer2) (handover edge) k)
      (handover edge k)) : edges m (powerUp buffer1 buffer2) (handover edge) k % 2 = 1 := by
  obtain ⟨⟨bus, clock⟩, -, switched⟩ := switches
  have away : k ≠ edge ∧ k ≠ edge + 2 := by
    constructor <;> rintro rfl
    · cases handover_edge.1.symm.trans clock
    · cases handover_edge.2.symm.trans clock
  rcases Nat.lt_trichotomy k (edge + 1) with before | rfl | after
  · rw [(handover_before (by omega)).2] at switched
    cases switched
  · have none : edges m (powerUp buffer1 buffer2) (handover edge) edge = 0 :=
      edges_zero fun j before => ⟨_, handover_clock ⟨by omega, by omega⟩⟩
    simp only [edges, handover_edge.1, none]
  · rw [handover_after m buffer1 buffer2 long (by omega)] at switched
    cases switched

end

theorem displayed_buffer_safe_handover :
    Switches (run .initFiles (powerUp (fun _ => 0) (fun _ => 0)) (handover 300000) 300001)
        (handover 300000 300001) ∧
      ∀ n, Safe (run .initFiles (powerUp (fun _ => 0) (fun _ => 0)) (handover 300000) n) := by
  have long : 255812 ≤ 300000 := by decide
  obtain ⟨state, screen⟩ := handover_switched .initFiles (fun _ => 0) (fun _ => 0) long
  refine ⟨⟨⟨_, handover_clock ⟨by decide, by decide⟩⟩, .inl state, by rw [screen]⟩, ?_⟩
  exact (displayed_buffer_safe .initFiles (fun _ => 0) (fun _ => 0) (handover 300000)).1
    (handover_odd .initFiles (fun _ => 0) (fun _ => 0) long)

/-! At the real rate of `VGA_VS` a picture takes less than a period. -/

def schedule (period k : Nat) : Event :=
  if k % (period + 1) = period then .vsFalling
  else .clock50 (Gpu.boot 0 Gpu.idle (k - k / (period + 1))).bus

def switching (period k : Nat) : Gpu.Inputs where
  frameSwitched := period ≤ k + 3

variable {period j : Nat}

theorem switching_blank : Gpu.Blank (switching period) := fun _ written => by cases written

theorem boot_switching (long : 3 ≤ period) (j : Nat) :
    (Gpu.boot 0 (switching period) j).bus = (Gpu.boot 0 Gpu.idle j).bus ∧
      (Gpu.boot 0 (switching period) j).frameSwitched = decide (period ≤ j) := by
  match j with
  | 0 | 1 | 2 => exact ⟨rfl, (decide_eq_false (by omega)).symm⟩
  | j + 3 => exact ⟨rfl, rfl⟩

theorem schedule_first (long : 3 ≤ period) (inside : j < period) :
    schedule period j = .clock50 (Gpu.boot 0 (switching period) j).bus := by
  have same : j % (period + 1) = j := Nat.mod_eq_of_lt (by omega)
  have none : j / (period + 1) = 0 := Nat.div_eq_of_lt (by omega)
  rw [schedule, same, none, (boot_switching long j).1, if_neg (Nat.ne_of_lt inside), Nat.sub_zero]

theorem schedule_second (long : 3 ≤ period) (inside : j < period) :
    schedule period (period + 1 + j) =
      .clock50 (Gpu.boot 0 (switching period) (period + j)).bus := by
  have same : (period + 1 + j) % (period + 1) = j := by
    rw [Nat.add_mod_left, Nat.mod_eq_of_lt (by omega)]
  have one : (period + 1 + j) / (period + 1) = 1 := by
    rw [Nat.add_div_left _ (Nat.succ_pos _), Nat.div_eq_of_lt (by omega)]
  rw [schedule, same, one, (boot_switching long _).1, if_neg (Nat.ne_of_lt inside),
    Nat.add_right_comm, Nat.add_sub_cancel]

theorem first_period (m : Megafunctions) (buffer1 buffer2 : FrameBuffer) (long : 3 ≤ period)
    (inside : j ≤ period) :
    (run m (powerUp buffer1 buffer2) (schedule period) j).gpu =
        Gpu.run m (Gpu.powerUp buffer1 buffer2) (Gpu.boot 0 (switching period)) j ∧
      (run m (powerUp buffer1 buffer2) (schedule period) j).screen = {} := by
  have synced : (run m (powerUp buffer1 buffer2) (schedule period) 0).gpu =
      Gpu.run m (Gpu.powerUp buffer1 buffer2) (Gpu.boot 0 (switching period)) 0 := rfl
  have follows := run_follows synced (fun j before => by
      rw [Nat.zero_add]
      exact schedule_first long before)
    (fun j before => by
      rw [Nat.zero_add, (boot_switching long j).2]
      exact decide_eq_false (Nat.not_le.mpr before)) inside
  rwa [Nat.zero_add] at follows

theorem second_period (long : 3 ≤ period) (inside : j ≤ period)
    (finished : (Gpu.run m (Gpu.powerUp buffer1 buffer2) (Gpu.boot 0 (switching period))
      period).top.state.phase = .finished) :
    (run m (powerUp buffer1 buffer2) (schedule period) (period + 1 + j)).gpu =
        Gpu.run m (Gpu.powerUp buffer1 buffer2) (Gpu.boot 0 (switching period)) (period + j) ∧
      (run m (powerUp buffer1 buffer2) (schedule period) (period + 1 + j)).screen =
        ⟨true, true⟩ := by
  obtain ⟨gpu, screen⟩ := first_period m buffer1 buffer2 long (le_refl period)
  have edge : schedule period period = .vsFalling :=
    if_pos (Nat.mod_eq_of_lt (Nat.lt_succ_self _))
  have done : (run m (powerUp buffer1 buffer2) (schedule period) period).wires.drawDone = true := by
    rw [drawDone_iff, gpu]
    exact finished
  have switched : (run m (powerUp buffer1 buffer2) (schedule period) (period + 1)).screen =
      ⟨true, true⟩ := by
    rw [run_succ, edge, step, done, screen]
    rfl
  have synced : (run m (powerUp buffer1 buffer2) (schedule period) (period + 1)).gpu =
      Gpu.run m (Gpu.powerUp buffer1 buffer2) (Gpu.boot 0 (switching period)) period := by
    rw [run_succ, edge, step]
    exact gpu
  have follows := run_follows synced (fun j before => schedule_second long before)
    (fun j _ => by
      rw [(boot_switching long _).2, switched]
      exact decide_eq_true (Nat.le_add_right _ _)) inside
  rwa [switched] at follows

theorem switching_finished (m : Megafunctions) (buffer1 buffer2 : FrameBuffer)
    (long : 255812 ≤ period) :
    (Gpu.run m (Gpu.powerUp buffer1 buffer2) (Gpu.boot 0 (switching period)) period).top.state =
      .s1 := by
  have blank : Gpu.Blank (switching period) := switching_blank
  obtain ⟨n, -, upper, -, state⟩ := Gpu.boot_frame m buffer1 buffer2 0 blank
  refine (Gpu.finished_waits (n := n) (by omega) (by rw [state]; rfl) fun k _ before => ?_).trans
    state
  rw [(boot_switching (by omega) k).2]
  exact decide_eq_false (Nat.not_le.mpr before)

theorem switching_next (long : 3 ≤ period) (after : period ≤ k) :
    (Gpu.run m (Gpu.powerUp buffer1 buffer2) (Gpu.boot 0 (switching period)) (k + 1)).top.state =
      ((Gpu.run m (Gpu.powerUp buffer1 buffer2) (Gpu.boot 0 (switching period)) k).top.comb
        ((Gpu.run m (Gpu.powerUp buffer1 buffer2) (Gpu.boot 0 (switching period))
          k).topInputs true)).nextState := by
  have flag : (Gpu.boot 0 (switching period) k).frameSwitched = true := by
    rw [(boot_switching long k).2]
    exact decide_eq_true after
  rw [← flag]
  rfl

/-- As the second picture is complete it is taken as switched, and the third is begun. -/
theorem switching_clears (m : Megafunctions) (buffer1 buffer2 : FrameBuffer)
    (long : 255812 ≤ period) : ∃ j ≤ period,
      (Gpu.run m (Gpu.powerUp buffer1 buffer2) (Gpu.boot 0 (switching period))
        (period + j)).top.state = .cl1 := by
  have at_least : 3 ≤ period := by omega
  have begins : (Gpu.run m (Gpu.powerUp buffer1 buffer2) (Gpu.boot 0 (switching period))
      (period + 1)).top.state = .f25 := by
    rw [switching_next at_least le_rfl]
    simp only [Registers.comb, switching_finished m buffer1 buffer2 long, Gpu.topInputs,
      ↓reduceIte]
  obtain ⟨n, lower, upper, -, finished, second, -⟩ := Gpu.frame_completes
    (Gpu.blank_below (Gpu.boot_blank switching_blank))
    (show (Gpu.run m (Gpu.powerUp buffer1 buffer2) (Gpu.boot 0 (switching period))
      (period + 1)).top.state.phase = .start by rw [begins]; rfl)
  have third : (Gpu.run m (Gpu.powerUp buffer1 buffer2) (Gpu.boot 0 (switching period))
      n).top.state = .s3 := by
    rw [Top.State.finished_cases finished, second, begins]
    rfl
  have initial : (Gpu.run m (Gpu.powerUp buffer1 buffer2) (Gpu.boot 0 (switching period))
      (n + 1)).top.state = .initial := by
    rw [switching_next at_least (by omega)]
    simp only [Registers.comb, third, Gpu.topInputs, ↓reduceIte]
  obtain ⟨d, rfl⟩ := Nat.exists_eq_add_of_le (Nat.le_of_lt (Nat.lt_of_succ_lt lower))
  refine ⟨d + 2, by omega, ?_⟩
  rw [← Nat.add_assoc, switching_next at_least (by omega)]
  simp only [Registers.comb, initial]

/-- If a picture takes less than a period, the second one is taken as switched by
the edge of the first: the third frame is cleared on screen. -/
theorem overwrites (long : 255812 ≤ period) :
    ∃ n, ¬ Safe (run .initFiles (powerUp (fun _ => 0) (fun _ => 0)) (schedule period) n) := by
  obtain ⟨j, inside, clears⟩ := switching_clears .initFiles (fun _ => 0) (fun _ => 0) long
  refine ⟨period + 1 + j, fun safe => ?_⟩
  have finished := switching_finished .initFiles (fun _ => 0) (fun _ => 0) long
  obtain ⟨same, screen⟩ := second_period (by omega) inside (by rw [finished]; rfl)
  have drawn : (run .initFiles (powerUp (fun _ => 0) (fun _ => 0)) (schedule period)
      (period + 1 + j)).gpu.top.state = .cl1 := by
    rw [same]
    exact clears
  have writes : (run .initFiles (powerUp (fun _ => 0) (fun _ => 0)) (schedule period)
      (period + 1 + j)).wires.buffer2Wr = true := by
    rw [wires, Gpu.wires, (Registers.bufferWr_eq _ _).2, drawn]
    rfl
  have shown := safe.2 writes
  rw [screen] at shown
  cases shown

/-- The clocks between two falling edges of `VGA_VS`: 800 by 525 pixels of 25 MHz. -/
def vsPeriod : Nat := 2 * (800 * 525)

theorem displayed_buffer_overwritten :
    ¬ ∀ n, Safe (run .initFiles (powerUp (fun _ => 0) (fun _ => 0)) (schedule vsPeriod) n) := by
  intro safe
  have long : 255812 ≤ vsPeriod := by decide
  obtain ⟨n, broken⟩ := overwrites long
  exact broken (safe n)

end WireframeGpu.Board
