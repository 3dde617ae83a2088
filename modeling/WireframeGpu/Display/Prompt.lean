import WireframeGpu.Display.Rate

namespace WireframeGpu.Board

open WireframeGpu.Data WireframeGpu.Software WireframeGpu.Top

/-! A period of `VGA_VS` shorter than any frame.  It takes `frame_switched` away while
the next frame is drawn, and the pictures come to the screen one by one. -/

section

variable {m : Megafunctions} {buffer1 buffer2 : FrameBuffer} {events : Nat → Event} {n : Nat}
  {b : Board} {count since : Nat}

/-- The flag is up since an edge: top has not seen it yet, or has begun the next
frame and is only so far in it. -/
def Raised (b : Board) (count since : Nat) : Prop :=
  (b.gpu.top.state.phase = .finished ∧ count = 1 ∧ since = 0) ∨
    ∃ t, since = t + 1 ∧ b.gpu.Early t

theorem Raised.unseen (raised : Raised b count since) (soon : since < 153602)
    (finished : b.gpu.top.state.phase = .finished) : count = 1 ∧ since = 0 := by
  rcases raised with ⟨-, one, none⟩ | ⟨t, rfl, early⟩
  · exact ⟨one, none⟩
  · exact (early.unfinished (by omega) finished).elim

theorem Raised.clock50 (raised : Raised b count since) (flag : b.screen.frameSwitched = true)
    (bus : Registerfile.Inputs) :
    Raised (b.step m (.clock50 bus)) (if b.wires.drawDone then count else 0) (since + 1) := by
  right
  rcases raised with ⟨finished, -, rfl⟩ | ⟨t, rfl, early⟩
  · obtain ⟨phase, counter⟩ := Gpu.clock_leaves (m := m)
      (i := ⟨bus, b.screen.frameSwitched⟩) finished flag
    refine ⟨0, rfl, ?_⟩
    show Gpu.Early (b.gpu.clock m ⟨bus, b.screen.frameSwitched⟩) 0
    simp only [Gpu.Early, phase]
    exact counter
  · exact ⟨t + 1, rfl, early.clock⟩

/-- A finished frame has seen no edge while the flag is down, and while it is up, one. -/
structure Punctual (b : Board) (count : Nat) (events : Nat → Event) (n : Nat) : Prop where
  low : b.screen.frameSwitched = false → b.gpu.top.state.phase = .finished → count = 0
  high : b.screen.frameSwitched = true → ∃ edge < n, events edge = .vsFalling ∧
    (∀ k, edge < k → k < n → events k ≠ .vsFalling) ∧ Raised b count (n - (edge + 1))

section

variable (apart : ∀ k, events k = .vsFalling → events (k + 1) ≠ .vsFalling)
  (prompt : ∀ k, ∃ j, k ≤ j ∧ j < k + 153602 ∧ events j = .vsFalling)

include prompt

theorem Punctual.unseen (punctual : Punctual b count events n)
    (flag : b.screen.frameSwitched = true) (finished : b.gpu.top.state.phase = .finished) :
    count = 1 ∧ ∃ edge, n = edge + 1 ∧ events edge = .vsFalling := by
  obtain ⟨edge, before, fell, none, raised⟩ := punctual.high flag
  obtain ⟨next, later, soon, falls⟩ := prompt (edge + 1)
  have inside : n ≤ next := by
    by_contra early
    exact none next later (Nat.not_le.mp early) falls
  obtain ⟨one, zero⟩ := raised.unseen (by omega) finished
  exact ⟨one, edge, by omega, fell⟩

include apart

theorem Punctual.vsFalling (punctual : Punctual b count events n)
    (falls : events n = .vsFalling) :
    Punctual (b.step m .vsFalling) (count + 1) events (n + 1) := by
  by_cases finished : b.gpu.top.state.phase = .finished
  · have screen : (b.step m .vsFalling).screen = ⟨!b.screen.select, true⟩ := by
      rw [step, OutputScreen.Registers.clock, if_pos ((drawDone_iff b).mpr finished)]
    have zero : count = 0 := by
      cases flag : b.screen.frameSwitched
      · exact punctual.low flag finished
      · obtain ⟨-, edge, rfl, fell⟩ := punctual.unseen prompt flag finished
        exact (apart edge fell falls).elim
    refine ⟨fun down => ?_, fun _ => ⟨n, Nat.lt_succ_self n, falls, fun k after before => ?_, ?_⟩⟩
    · rw [screen] at down
      cases down
    · omega
    · rw [zero, Nat.sub_self]
      exact .inl ⟨finished, rfl, rfl⟩
  · have screen : (b.step m .vsFalling).screen.frameSwitched = false := by
      rw [step, OutputScreen.Registers.clock, if_neg fun done =>
        finished ((drawDone_iff b).mp done)]
    refine ⟨fun _ ended => (finished ended).elim, fun up => ?_⟩
    rw [screen] at up
    cases up

omit apart prompt in
theorem Punctual.clock50 {bus : Registerfile.Inputs} (punctual : Punctual b count events n)
    (ticks : events n = .clock50 bus) :
    Punctual (b.step m (.clock50 bus)) (if b.wires.drawDone then count else 0) events (n + 1) := by
  constructor
  · intro down _
    split
    · rename_i done
      exact punctual.low down ((drawDone_iff b).mp done)
    · rfl
  · intro up
    obtain ⟨edge, before, fell, none, raised⟩ := punctual.high up
    refine ⟨edge, Nat.lt_succ_of_lt before, fell, fun k after early => ?_, ?_⟩
    · rcases Nat.lt_succ_iff_lt_or_eq.mp early with earlier | rfl
      · exact none k after earlier
      · rw [ticks]
        exact Event.noConfusion
    · rw [Nat.succ_sub (Nat.succ_le_of_lt before)]
      exact raised.clock50 up bus

theorem punctual_run (n : Nat) : Punctual (run m (powerUp buffer1 buffer2) events n)
    (edges m (powerUp buffer1 buffer2) events n) events n := by
  induction n with
  | zero => exact ⟨fun _ _ => rfl, fun up => by cases up⟩
  | succ n ih =>
      rw [run_succ, edges]
      cases event : events n with
      | vsFalling => exact ih.vsFalling apart prompt event
      | clock50 bus => exact ih.clock50 event

end

end

variable {Value : Type} [BEq Value] [OfNat Value 1] {m : Megafunctions}
  {buffer1 buffer2 : FrameBuffer} {schedule : Nat → Option Store} {falls : Nat → Bool}
  {stores : List Store} {n k : Nat}

/-- The picture on screen after the first events. -/
def onScreen (m : Megafunctions) (buffer1 buffer2 : FrameBuffer) (schedule : Nat → Option Store)
    (falls : Nat → Bool) (n : Nat) : Nat :=
  (run m (powerUp buffer1 buffer2) (timed schedule falls) n).shown
    (frames m (powerUp buffer1 buffer2) (timed schedule falls) n)
    (edges m (powerUp buffer1 buffer2) (timed schedule falls) n)

section

variable {m : Megafunctions} {b : Board} {count since : Nat}

theorem shown_vsFalling (unseen : b.gpu.top.state.phase = .finished → since = 0) :
    (b.step m .vsFalling).shown count (since + 1) = b.shown count since ∨
      (b.step m .vsFalling).shown count (since + 1) = b.shown count since + 1 := by
  have same : (b.step m .vsFalling).gpu = b.gpu := rfl
  by_cases finished : b.gpu.top.state.phase = .finished
  · have idle : b.gpu.top.state.phase ≠ .start := by simp [finished]
    simp only [shown, same, unseen finished, finished, Gpu.complete, true_and, Nat.zero_mod,
      Nat.zero_add, reduceCtorEq, zero_ne_one, ↓reduceIte]
    omega
  · simp only [shown, same, finished, false_and, ↓reduceIte, true_or]

theorem shown_clock50 {bus : Registerfile.Inputs}
    (unbegun : b.gpu.top.state.phase = .off → count = 0)
    (seen : b.screen.frameSwitched = true → b.gpu.top.state.phase = .finished → since = 1) :
    (b.step m (.clock50 bus)).shown (if b.wires.startRaster then count + 1 else count)
      (if b.wires.drawDone then since else 0) = b.shown count since := by
  have phase' := Gpu.clock_phase (m := m) b.gpu ⟨bus, b.screen.frameSwitched⟩
  have starts := Registers.startRaster_eq b.gpu.top (b.gpu.topInputs b.screen.frameSwitched)
  have done := Registers.drawDone_eq b.gpu.top (b.gpu.topInputs b.screen.frameSwitched)
  rw [Registers.nextPhase] at phase'
  cases phase : b.gpu.top.state.phase <;> simp only [phase] at phase' starts done
  case off =>
    obtain rfl := unbegun phase
    split at phase' <;>
      simp [shown, Gpu.complete, step, wires, Gpu.wires, phase, phase', starts, done]
  case finished =>
    split at phase' <;> rename_i flag
    · simp [shown, Gpu.complete, step, wires, Gpu.wires, phase, phase', starts, done,
        seen flag phase]
    · simp [shown, Gpu.complete, step, wires, Gpu.wires, phase, phase', starts, done]
  case cleared | await | check =>
    split at phase' <;>
      simp [shown, Gpu.complete, step, wires, Gpu.wires, phase, phase', starts, done]
  all_goals
    simp [shown, Gpu.complete, step, wires, Gpu.wires, phase, phase', starts, done]

end

section

variable (apart : ∀ k, falls k = true → falls (k + 1) = false)
  (prompt : ∀ n, ∃ k, n ≤ k ∧ k < n + 153602 ∧ falls k = true)

include prompt in
theorem falling (n : Nat) : ∃ k, n ≤ k ∧ falls k = true := by
  obtain ⟨k, after, -, fell⟩ := prompt n
  exact ⟨k, after, fell⟩

include prompt in
theorem prompt_timed (schedule : Nat → Option Store) (n : Nat) :
    ∃ k, n ≤ k ∧ k < n + 153602 ∧ timed schedule falls k = .vsFalling := by
  obtain ⟨k, after, soon, fell⟩ := prompt n
  exact ⟨k, after, soon, timed_falls.mpr fell⟩

include apart prompt in
theorem punctual_timed (m : Megafunctions) (buffer1 buffer2 : FrameBuffer)
    (schedule : Nat → Option Store) (n : Nat) :
    Punctual (run m (powerUp buffer1 buffer2) (timed schedule falls) n)
      (edges m (powerUp buffer1 buffer2) (timed schedule falls) n) (timed schedule falls) n := by
  refine punctual_run (fun k fell fell' => ?_) (prompt_timed prompt schedule) n
  rw [timed_falls] at fell fell'
  cases fell'.symm.trans (apart k fell)

include apart prompt in
/-- Top sees the flag in the clock after the edge. -/
theorem unseen_timed {m : Megafunctions}
    (flag : (run m (powerUp buffer1 buffer2) (timed schedule falls) n).screen.frameSwitched = true)
    (finished : (run m (powerUp buffer1 buffer2) (timed schedule falls) n).gpu.top.state.phase =
      .finished) :
    edges m (powerUp buffer1 buffer2) (timed schedule falls) n = 1 ∧ falls n = false := by
  have punctual := punctual_timed apart prompt m buffer1 buffer2 schedule n
  obtain ⟨one, edge, rfl, fell⟩ := punctual.unseen (prompt_timed prompt schedule) flag finished
  exact ⟨one, apart edge (timed_falls.mp fell)⟩

include apart prompt

/-- A finished frame is followed by the next. -/
theorem begins_next (m : Megafunctions) (buffer1 buffer2 : FrameBuffer)
    (schedule : Nat → Option Store)
    (finished : (run m (powerUp buffer1 buffer2) (timed schedule falls) n).gpu.top.state.phase =
      .finished) :
    ∃ k, n < k ∧ (run m (powerUp buffer1 buffer2) (timed schedule falls) k).gpu.top.state.phase =
      .start := by
  cases flag : (run m (powerUp buffer1 buffer2) (timed schedule falls) n).screen.frameSwitched
  · obtain ⟨edge, after, fell, none⟩ := first_time (falling prompt n)
    have state := (waits_for_edge after none finished flag).1
    exact ⟨edge + 2, by omega, (hands_over fell (apart edge fell) (by rw [state, finished])).1⟩
  · have clock := (unseen_timed apart prompt flag finished).2
    refine ⟨n + 1, Nat.lt_succ_self n, ?_⟩
    rw [run_succ, timed, if_neg (Bool.eq_false_iff.mp clock)]
    exact (Gpu.clock_leaves finished flag).1

section

variable (execution : Execution Value stores) (carries : Gpu.Carries (sent schedule falls) stores)

include execution carries

theorem onScreen_step (buffer1 buffer2 : FrameBuffer) (n : Nat) :
    onScreen .initFiles buffer1 buffer2 schedule falls (n + 1) =
        onScreen .initFiles buffer1 buffer2 schedule falls n ∨
      onScreen .initFiles buffer1 buffer2 schedule falls (n + 1) =
        onScreen .initFiles buffer1 buffer2 schedule falls n + 1 := by
  have punctual := punctual_timed apart prompt .initFiles buffer1 buffer2 schedule n
  have exhibited := ((posed_own execution buffer1 buffer2 carries n).exhibited (cycle falls n)).1
  rw [← gpu_own le_rfl, ← frames_own le_rfl] at exhibited
  cases edge : falls n
  · left
    simp only [onScreen, run_succ, frames, edges, timed, edge, Bool.false_eq_true, ↓reduceIte]
    exact shown_clock50 exhibited.unbegun fun flag finished =>
      (unseen_timed apart prompt flag finished).1
  · simp only [onScreen, run_succ, frames, edges, timed, edge, ↓reduceIte]
    refine shown_vsFalling fun finished => ?_
    cases flag : (run .initFiles (powerUp buffer1 buffer2) (timed schedule falls)
      n).screen.frameSwitched
    · exact punctual.low flag finished
    · cases edge.symm.trans (unseen_timed apart prompt flag finished).2

theorem onScreen_mono (buffer1 buffer2 : FrameBuffer) (ordered : n ≤ k) :
    onScreen .initFiles buffer1 buffer2 schedule falls n ≤
      onScreen .initFiles buffer1 buffer2 schedule falls k := by
  induction k, ordered using Nat.le_induction with
  | base => exact le_rfl
  | succ k ordered ih =>
      have step := onScreen_step apart prompt execution carries buffer1 buffer2 k
      omega

/-- Past `WAIT2` the picture on screen changes again. -/
theorem onScreen_grows
    (begun : (run .initFiles (powerUp buffer1 buffer2) (timed schedule falls) n).gpu.top.state ≠
      .wait2) :
    ∃ k, n ≤ k ∧ onScreen .initFiles buffer1 buffer2 schedule falls n <
      onScreen .initFiles buffer1 buffer2 schedule falls k := by
  obtain ⟨first, after, -, finished⟩ :=
    settles execution carries begun (cycle_supply apart n 255808)
  obtain ⟨start, later, starts⟩ :=
    begins_next apart prompt .initFiles buffer1 buffer2 schedule finished
  obtain ⟨middle, k, lower, between, -, -, -, -, finished', -, count, none⟩ :=
    frame_drawn execution carries starts (cycle_supply apart start 255807)
  have down : (run .initFiles (powerUp buffer1 buffer2) (timed schedule falls)
      k).screen.frameSwitched = false := by
    by_contra up
    have one := (unseen_timed apart prompt (Bool.eq_true_of_not_eq_false up) finished').1
    omega
  obtain ⟨edge, least, fell, waits⟩ := first_time (falling prompt k)
  obtain ⟨state, -, none', count'⟩ := waits_for_edge least waits finished' down
  have before := onScreen_mono apart prompt execution carries buffer1 buffer2
    (Nat.le_trans after (Nat.le_of_lt later))
  have shown_start : onScreen .initFiles buffer1 buffer2 schedule falls start =
      frames .initFiles (powerUp buffer1 buffer2) (timed schedule falls) start := by
    simp [onScreen, shown, Gpu.complete, starts]
  have shown_edge : onScreen .initFiles buffer1 buffer2 schedule falls (edge + 1) =
      frames .initFiles (powerUp buffer1 buffer2) (timed schedule falls) edge := by
    have handed : (run .initFiles (powerUp buffer1 buffer2) (timed schedule falls)
        edge).gpu.top.state.phase = .finished := by rw [state, finished']
    simp [onScreen, shown, run_succ, timed, fell, step, edges, frames, handed, none', none]
  refine ⟨edge + 1, by omega, ?_⟩
  rw [shown_edge, count', count]
  omega

theorem onScreen_unbounded (buffer1 buffer2 : FrameBuffer)
    (through : ∃ n, emitted (sent schedule falls) n = stores) (count : Nat) :
    ∃ k, (run .initFiles (powerUp buffer1 buffer2) (timed schedule falls) k).gpu.top.state ≠
      .wait2 ∧
      count ≤ onScreen .initFiles buffer1 buffer2 schedule falls k := by
  induction count with
  | zero =>
      have clocks : ∀ n, ∃ k, n ≤ k ∧ falls k = false := by
        intro n
        cases edge : falls n
        · exact ⟨n, le_rfl, edge⟩
        · exact ⟨n + 1, Nat.le_succ n, apart n edge⟩
      obtain ⟨first, begun⟩ := begins execution carries .initFiles buffer1 buffer2 through clocks
      exact ⟨first, begun, Nat.zero_le _⟩
  | succ count ih =>
      obtain ⟨k, begun, high⟩ := ih
      obtain ⟨later, after, more⟩ := onScreen_grows apart prompt execution carries begun
      exact ⟨later, begun_on after begun, by omega⟩

/-- With an edge of `VGA_VS` in the course of every frame, and a clock between any
two, the machine works as it should: no picture is torn, none is left out, and none
is shown out of its turn. -/
theorem prompt_display_shows_every_picture (buffer1 buffer2 : FrameBuffer)
    (through : ∃ n, emitted (sent schedule falls) n = stores) :
    (∀ n, Safe (run .initFiles (powerUp buffer1 buffer2) (timed schedule falls) n) ∧
      (1 ≤ onScreen .initFiles buffer1 buffer2 schedule falls n →
        (run .initFiles (powerUp buffer1 buffer2) (timed schedule falls) n).displayed.Shows
          (Gpu.wireframe .initFiles
            (Gpu.angle (onScreen .initFiles buffer1 buffer2 schedule falls n))
            (registers {} stores).model)) ∧
      (onScreen .initFiles buffer1 buffer2 schedule falls (n + 1) =
          onScreen .initFiles buffer1 buffer2 schedule falls n ∨
        onScreen .initFiles buffer1 buffer2 schedule falls (n + 1) =
          onScreen .initFiles buffer1 buffer2 schedule falls n + 1)) ∧
    ∀ count, ∃ n, onScreen .initFiles buffer1 buffer2 schedule falls n = count := by
  have step := onScreen_step apart prompt execution carries buffer1 buffer2
  constructor
  · intro n
    have once : ∀ k, Switches (run .initFiles (powerUp buffer1 buffer2) (timed schedule falls) k)
        (timed schedule falls k) →
        edges .initFiles (powerUp buffer1 buffer2) (timed schedule falls) k = 1 :=
      fun k ⟨_, finished, flag⟩ =>
        (unseen_timed apart prompt flag ((finished_iff _).mpr finished)).1
    have aligned := aligned_run (n := n) fun k _ switches => by rw [once k switches]
    exact ⟨aligned.safe, aligned.shows execution carries, step n⟩
  · intro count
    refine counts_through (fun k => ?_) (Nat.zero_le count) ?_
    · have next := step k
      omega
    · obtain ⟨k, -, high⟩ :=
        onScreen_unbounded apart prompt execution carries buffer1 buffer2 through count
      exact ⟨k, high⟩

end

end

/-- `VGA_VS` at a constant rate. -/
def metronome (period k : Nat) : Bool := k % period == period - 1

theorem metronome_false {period k : Nat} (other : k % period ≠ period - 1) :
    metronome period k = false := beq_false_of_ne other

theorem metronome_late : ∀ k < triangleStores.length, metronome 100000 k = false := by
  have few : triangleStores.length < 99999 := by decide
  exact fun k before => metronome_false (by omega)

theorem prompt_display_shows_every_picture_triangle :
    (∀ n, Safe (run .initFiles (powerUp (fun _ => 0) (fun _ => 0))
        (timed (Gpu.eachClock triangleStores) (metronome 100000)) n) ∧
      (1 ≤ onScreen .initFiles (fun _ => 0) (fun _ => 0) (Gpu.eachClock triangleStores)
          (metronome 100000) n →
        (run .initFiles (powerUp (fun _ => 0) (fun _ => 0)) (timed (Gpu.eachClock triangleStores)
          (metronome 100000)) n).displayed.Shows (Gpu.wireframe .initFiles (Gpu.angle
            (onScreen .initFiles (fun _ => 0) (fun _ => 0) (Gpu.eachClock triangleStores)
              (metronome 100000) n)) (registers {} triangleStores).model)) ∧
      (onScreen .initFiles (fun _ => 0) (fun _ => 0) (Gpu.eachClock triangleStores)
          (metronome 100000) (n + 1) =
          onScreen .initFiles (fun _ => 0) (fun _ => 0) (Gpu.eachClock triangleStores)
            (metronome 100000) n ∨
        onScreen .initFiles (fun _ => 0) (fun _ => 0) (Gpu.eachClock triangleStores)
          (metronome 100000) (n + 1) =
          onScreen .initFiles (fun _ => 0) (fun _ => 0) (Gpu.eachClock triangleStores)
            (metronome 100000) n + 1)) ∧
    ∀ count, ∃ n, onScreen .initFiles (fun _ => 0) (fun _ => 0) (Gpu.eachClock triangleStores)
      (metronome 100000) n = count := by
  have whole := sent_late metronome_late
  refine prompt_display_shows_every_picture (fun k fell => ?_) (fun n => ?_) triangle_execution ?_
    (fun _ => 0) (fun _ => 0) ?_
  · have place : k % 100000 = 99999 := beq_iff_eq.mp fell
    exact metronome_false (by omega)
  · exact ⟨n + (99999 - n % 100000), by omega, by omega, beq_iff_eq.mpr (by omega)⟩
  · rw [whole]
    exact Gpu.eachClock_carries triangleStores
  · rw [whole]
    exact Gpu.eachClock_through triangleStores

end WireframeGpu.Board
