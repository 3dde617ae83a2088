import WireframeGpu.Display.WholePictures
import WireframeGpu.Top.Pace

namespace WireframeGpu.Board

open WireframeGpu.Data WireframeGpu.Software WireframeGpu.Top

/-! Frames and edges of `VGA_VS` side by side: how a frame is drawn and handed over,
in events of the board. -/

variable {Value : Type} [BEq Value] [OfNat Value 1] {m : Megafunctions}
  {buffer1 buffer2 : FrameBuffer} {schedule : Nat → Option Store} {falls : Nat → Bool}
  {stores : List Store} {n k last : Nat}

theorem cycle_mono (ordered : n ≤ k) : cycle falls n ≤ cycle falls k := ticks_mono ordered

theorem cycle_all (ordered : n ≤ k) (clocks : ∀ j, n ≤ j → j < k → falls j = false) :
    cycle falls k = cycle falls n + (k - n) := by
  refine ticks_all ordered fun j after before => ?_
  rw [clocks j after before]
  exact Option.some_ne_none ()

/-- Each cycle begins with a clock edge. -/
theorem cycle_reaches {count : Nat} (more : cycle falls n < count)
    (upper : count ≤ cycle falls last) :
    ∃ k, n ≤ k ∧ k < last ∧ falls k = false ∧ cycle falls (k + 1) = count := by
  obtain ⟨k, event, after, before, hears, reached⟩ := ticks_reaches more upper
  refine ⟨k, after, before, Bool.eq_false_iff.mpr fun edge => ?_, reached⟩
  rw [if_pos edge] at hears
  cases hears

/-- Where no two edges of `VGA_VS` meet, the clock goes on. -/
theorem cycle_supply (apart : ∀ k, falls k = true → falls (k + 1) = false) (n count : Nat) :
    cycle falls n + count ≤ cycle falls (n + 2 * count) := by
  induction count with
  | zero => exact le_rfl
  | succ count ih =>
      have two : cycle falls (n + 2 * count) + 1 ≤ cycle falls (n + 2 * count + 2) := by
        cases edge : falls (n + 2 * count)
        · rw [← cycle_clock edge]
          exact cycle_mono (Nat.le_succ _)
        · rw [← cycle_falls edge, ← cycle_clock (apart _ edge)]
      rw [show n + 2 * (count + 1) = n + 2 * count + 2 by omega]
      omega

theorem edges_drawing (clock : falls n = false)
    (drawing : (run m (powerUp buffer1 buffer2) (timed schedule falls) n).gpu.Drawing) :
    edges m (powerUp buffer1 buffer2) (timed schedule falls) (n + 1) = 0 := by
  have undone : ¬ (run m (powerUp buffer1 buffer2) (timed schedule falls) n).wires.drawDone =
      true :=
    fun done => drawing.2 ((drawDone_iff _).mp done)
  simp only [edges, timed, clock, Bool.false_eq_true, ↓reduceIte]
  exact if_neg undone

theorem timed_falls : timed schedule falls n = .vsFalling ↔ falls n = true := by
  rw [timed]
  cases falls n <;> simp

theorem screen_still (m : Megafunctions) (buffer1 buffer2 : FrameBuffer)
    (schedule : Nat → Option Store) (ordered : n ≤ k)
    (clocks : ∀ j, n ≤ j → j < k → falls j = false) :
    (run m (powerUp buffer1 buffer2) (timed schedule falls) k).screen =
      (run m (powerUp buffer1 buffer2) (timed schedule falls) n).screen :=
  screen_kept ordered fun j after before =>
    ⟨_, if_neg (Bool.eq_false_iff.mp (clocks j after before))⟩

theorem begun_on (ordered : n ≤ k)
    (begun : (run m (powerUp buffer1 buffer2) (timed schedule falls) n).gpu.top.state ≠ .wait2) :
    (run m (powerUp buffer1 buffer2) (timed schedule falls) k).gpu.top.state ≠ .wait2 := by
  rw [gpu_own ordered] at begun
  rw [gpu_own le_rfl]
  exact Gpu.begun_later (cycle_mono ordered) begun

/-! Between the frames. -/

/-- Without an edge top waits. -/
theorem waits_for_edge (ordered : n ≤ k) (clocks : ∀ j, n ≤ j → j < k → falls j = false)
    (finished : (run m (powerUp buffer1 buffer2) (timed schedule falls) n).gpu.top.state.phase =
      .finished)
    (down : (run m (powerUp buffer1 buffer2) (timed schedule falls) n).screen.frameSwitched =
      false) :
    (run m (powerUp buffer1 buffer2) (timed schedule falls) k).gpu.top.state =
        (run m (powerUp buffer1 buffer2) (timed schedule falls) n).gpu.top.state ∧
      (run m (powerUp buffer1 buffer2) (timed schedule falls) k).screen =
        (run m (powerUp buffer1 buffer2) (timed schedule falls) n).screen ∧
      edges m (powerUp buffer1 buffer2) (timed schedule falls) k =
        edges m (powerUp buffer1 buffer2) (timed schedule falls) n ∧
      frames m (powerUp buffer1 buffer2) (timed schedule falls) k =
        frames m (powerUp buffer1 buffer2) (timed schedule falls) n := by
  induction k, ordered using Nat.le_induction with
  | base => exact ⟨rfl, rfl, rfl, rfl⟩
  | succ k ordered ih =>
      have clock := clocks k ordered (Nat.lt_succ_self k)
      obtain ⟨state, screen, count, drawn⟩ := ih fun j after before =>
        clocks j after (Nat.lt_succ_of_lt before)
      have finished' : (run m (powerUp buffer1 buffer2) (timed schedule falls)
          k).gpu.top.state.phase = .finished := by rw [state, finished]
      have done := (drawDone_iff _).mpr finished'
      have idle : (run m (powerUp buffer1 buffer2) (timed schedule falls) k).wires.startRaster ≠
          true := by
        rw [wires, Gpu.wires, Registers.startRaster_eq, finished']
        decide
      have flag : (run m (powerUp buffer1 buffer2) (timed schedule falls) k).screen.frameSwitched =
          false := by rw [screen, down]
      simp only [edges, frames, run_succ, timed, clock, Bool.false_eq_true, ↓reduceIte, done,
        if_neg idle]
      exact ⟨(Gpu.clock_waits finished' flag).trans state, screen, count, drawn⟩

/-- An edge hands a finished frame over, and top begins the next one. -/
theorem hands_over (edge : falls n = true) (clock : falls (n + 1) = false)
    (finished : (run m (powerUp buffer1 buffer2) (timed schedule falls) n).gpu.top.state.phase =
      .finished) :
    (run m (powerUp buffer1 buffer2) (timed schedule falls) (n + 2)).gpu.top.state.phase = .start ∧
      (run m (powerUp buffer1 buffer2) (timed schedule falls) (n + 2)).gpu.top.state.second =
        !(run m (powerUp buffer1 buffer2) (timed schedule falls) n).gpu.top.state.second ∧
      (run m (powerUp buffer1 buffer2) (timed schedule falls) (n + 2)).screen.frameSwitched =
        true := by
  have screen : (run m (powerUp buffer1 buffer2) (timed schedule falls)
      (n + 1)).screen.frameSwitched = true := by
    rw [run_succ, timed, if_pos edge, step, OutputScreen.Registers.clock,
      if_pos ((drawDone_iff _).mpr finished)]
  have same : (run m (powerUp buffer1 buffer2) (timed schedule falls) (n + 1)).gpu =
      (run m (powerUp buffer1 buffer2) (timed schedule falls) n).gpu := by
    rw [run_succ, timed, if_pos edge]
    rfl
  have finished' : (run m (powerUp buffer1 buffer2) (timed schedule falls)
      (n + 1)).gpu.top.state.phase = .finished := by rw [same, finished]
  rw [run_succ m _ _ (n + 1), timed, if_neg (Bool.eq_false_iff.mp clock), ← same]
  exact ⟨(Gpu.clock_leaves finished' screen).1, Gpu.second_switched finished' screen, screen⟩

section

variable (execution : Execution Value stores) (carries : Gpu.Carries (sent schedule falls) stores)

include execution carries

/-- A frame that begins is complete once the clock has run for long enough,
however often `VGA_VS` falls meanwhile. -/
theorem frame_drawn
    (starts : (run .initFiles (powerUp buffer1 buffer2) (timed schedule falls)
      n).gpu.top.state.phase = .start)
    (room : cycle falls n + 255807 ≤ cycle falls last) :
    ∃ j k, n < j ∧ j < k ∧ k ≤ last ∧ cycle falls k ≤ cycle falls n + 255807 ∧
      (run .initFiles (powerUp buffer1 buffer2) (timed schedule falls) j).gpu.target.Shows ∅ ∧
      (run .initFiles (powerUp buffer1 buffer2) (timed schedule falls) j).gpu.top.state.second =
        (run .initFiles (powerUp buffer1 buffer2) (timed schedule falls) n).gpu.top.state.second ∧
      (run .initFiles (powerUp buffer1 buffer2) (timed schedule falls) k).gpu.top.state.phase =
        .finished ∧
      (run .initFiles (powerUp buffer1 buffer2) (timed schedule falls) k).gpu.top.state.second =
        (run .initFiles (powerUp buffer1 buffer2) (timed schedule falls) n).gpu.top.state.second ∧
      frames .initFiles (powerUp buffer1 buffer2) (timed schedule falls) k =
        frames .initFiles (powerUp buffer1 buffer2) (timed schedule falls) n + 1 ∧
      edges .initFiles (powerUp buffer1 buffer2) (timed schedule falls) k = 0 := by
  have ordered : n ≤ last := by
    by_contra later
    have fewer : cycle falls last ≤ cycle falls n := cycle_mono (Nat.le_of_not_le later)
    omega
  have posed := posed_own execution buffer1 buffer2 carries last
  rw [gpu_own ordered] at starts
  obtain ⟨c, d, lower, between, upper, frame, black, finished, drawing, second⟩ :=
    posed.wipes starts
  obtain ⟨k, after', before', clock, place'⟩ :=
    cycle_reaches (Nat.lt_trans lower between) (Nat.le_trans upper room)
  obtain ⟨j, after, before, -, place⟩ := cycle_reaches lower (place' ▸ Nat.le_of_lt between)
  have count := cycle_clock clock
  have fewer : cycle falls n ≤ cycle falls k := cycle_mono after'
  have inside : j + 1 < k + 1 := by
    refine Nat.lt_of_le_of_ne before fun same => ?_
    rw [same] at place
    omega
  refine ⟨j + 1, k + 1, Nat.lt_succ_of_le after, inside, before', by omega, ?_⟩
  rw [gpu_own (Nat.le_trans before before'), gpu_own (Nat.succ_le_of_lt before'), gpu_own ordered,
    place, place', frames_own (Nat.succ_le_of_lt before'), frames_own ordered, place']
  refine ⟨black, second c (Nat.le_of_lt lower) (Nat.le_of_lt between), finished,
    second d (by omega) le_rfl, Gpu.frames_of_frame frame, ?_⟩
  refine edges_drawing clock ?_
  rw [gpu_own (Nat.le_of_lt before')]
  exact drawing _ fewer (by omega)

/-- Once the loader is through, the next clock takes top out of `WAIT2`. -/
theorem begins (m : Megafunctions) (buffer1 buffer2 : FrameBuffer)
    (through : ∃ n, emitted (sent schedule falls) n = stores)
    (clocks : ∀ n, ∃ k, n ≤ k ∧ falls k = false) :
    ∃ n, (run m (powerUp buffer1 buffer2) (timed schedule falls) n).gpu.top.state ≠ .wait2 := by
  obtain ⟨n, whole⟩ := through
  obtain ⟨k, after, clock⟩ := clocks n
  have all : emitted (sent schedule falls) k = stores := carries.whole_later after whole
  by_cases waiting : (run m (powerUp buffer1 buffer2) (timed schedule falls) k).gpu.top.state =
    .wait2
  · have high : (run m (powerUp buffer1 buffer2) (timed schedule falls)
        k).gpu.registerfile.exportStart.getLsbD 0 = true := by
      rw [gpu_own le_rfl, ownInputs, Gpu.start_bit, emitted_own_sent, all]
      exact execution.high false
    refine ⟨k + 1, ?_⟩
    rw [run_succ, timed, if_neg (Bool.eq_false_iff.mp clock)]
    show (Registers.comb _ _).nextState ≠ _
    simp only [Registers.comb, waiting, Gpu.topInputs, high, ↓reduceIte]
    decide
  · exact ⟨k, waiting⟩

/-- From then on a frame is complete again and again. -/
theorem settles
    (begun : (run .initFiles (powerUp buffer1 buffer2) (timed schedule falls) n).gpu.top.state ≠
      .wait2)
    (room : cycle falls n + 255808 ≤ cycle falls last) :
    ∃ k, n ≤ k ∧ k ≤ last ∧ (run .initFiles (powerUp buffer1 buffer2) (timed schedule falls)
      k).gpu.top.state.phase = .finished := by
  have ordered : n ≤ last := by
    by_contra later
    have fewer : cycle falls last ≤ cycle falls n := cycle_mono (Nat.le_of_not_le later)
    omega
  have posed := posed_own execution buffer1 buffer2 carries last
  rw [gpu_own ordered] at begun
  obtain ⟨c, lower, upper, finished⟩ := posed.settles begun
  rcases Nat.eq_or_lt_of_le lower with rfl | more
  · refine ⟨n, le_rfl, ordered, ?_⟩
    rw [gpu_own ordered]
    exact finished
  · obtain ⟨k, after, before, -, place⟩ := cycle_reaches more (Nat.le_trans upper room)
    refine ⟨k + 1, Nat.le_succ_of_le after, before, ?_⟩
    rw [gpu_own (Nat.succ_le_of_lt before), place]
    exact finished

end

end WireframeGpu.Board
