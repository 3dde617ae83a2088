import WireframeGpu.Display.Rate

namespace WireframeGpu.Board

open WireframeGpu.Data WireframeGpu.Software WireframeGpu.Top

/-! A period of `VGA_VS` longer than two frames.  `frame_switched` stays up for all
of it, so that the frame after the next is begun without an edge, on screen. -/

variable {Value : Type} [BEq Value] [OfNat Value 1] {buffer1 buffer2 : FrameBuffer}
  {schedule : Nat → Option Store} {falls : Nat → Bool} {stores : List Store} {n k : Nat}

theorem displayed_target {b : Board} (drawn : b.screen.select = b.gpu.top.state.second) :
    b.displayed = b.gpu.target := by
  rw [displayed, drawn, Gpu.target]

section

variable (execution : Execution Value stores) (carries : Gpu.Carries (sent schedule falls) stores)

include execution carries

/-- Where no edge of `VGA_VS` falls into it, a frame that is drawn on screen blacks it out. -/
theorem frame_drawn_still
    (starts : (run .initFiles (powerUp buffer1 buffer2) (timed schedule falls)
      n).gpu.top.state.phase = .start)
    (clocks : ∀ j, n ≤ j → j < n + 255807 → falls j = false) :
    ∃ j k, n < j ∧ j < k ∧ k ≤ n + 255807 ∧
      ((run .initFiles (powerUp buffer1 buffer2) (timed schedule falls) n).screen.select =
          (run .initFiles (powerUp buffer1 buffer2) (timed schedule falls) n).gpu.top.state.second →
        (run .initFiles (powerUp buffer1 buffer2) (timed schedule falls) j).displayed.Shows ∅) ∧
      (run .initFiles (powerUp buffer1 buffer2) (timed schedule falls) k).gpu.top.state.phase =
        .finished ∧
      (run .initFiles (powerUp buffer1 buffer2) (timed schedule falls) k).gpu.top.state.second =
        (run .initFiles (powerUp buffer1 buffer2) (timed schedule falls) n).gpu.top.state.second ∧
      (run .initFiles (powerUp buffer1 buffer2) (timed schedule falls) k).screen =
        (run .initFiles (powerUp buffer1 buffer2) (timed schedule falls) n).screen := by
  have room : cycle falls n + 255807 ≤ cycle falls (n + 255807) := by
    have pace := cycle_all (Nat.le_add_right n 255807) clocks
    omega
  obtain ⟨j, k, lower, between, upper, -, black, second, finished, second', -⟩ :=
    frame_drawn execution carries starts room
  have screen := fun l (after : n ≤ l) (before : l ≤ k) =>
    screen_still .initFiles buffer1 buffer2 schedule after fun i least most =>
      clocks i least (by omega)
  refine ⟨j, k, lower, between, upper, fun drawn => ?_, finished, second',
    screen k (by omega) le_rfl⟩
  rw [displayed_target (by rw [screen j (by omega) (by omega), second, drawn])]
  exact black

/-- If the next edge is two frames away, the flag of this one is taken for the frame
after the next as well, and one of the two is drawn on screen. -/
theorem goes_black (edge : falls n = true)
    (finished : (run .initFiles (powerUp buffer1 buffer2) (timed schedule falls)
      n).gpu.top.state.phase = .finished)
    (clocks : ∀ k, n < k → k < n + 511617 → falls k = false) :
    ∃ k, n < k ∧ k ≤ n + 511617 ∧
      (run .initFiles (powerUp buffer1 buffer2) (timed schedule falls) k).displayed.Shows ∅ := by
  obtain ⟨starts, -, flag⟩ := hands_over edge (clocks (n + 1) (by omega) (by omega)) finished
  obtain ⟨j, k, lower, between, upper, shows, finished', second, screen⟩ :=
    frame_drawn_still execution carries starts fun l after before => clocks l (by omega) (by omega)
  by_cases drawn : (run .initFiles (powerUp buffer1 buffer2) (timed schedule falls)
      (n + 2)).screen.select = (run .initFiles (powerUp buffer1 buffer2) (timed schedule falls)
      (n + 2)).gpu.top.state.second
  · exact ⟨j, by omega, by omega, shows drawn⟩
  · have clock : falls k = false := clocks k (by omega) (by omega)
    have next : run .initFiles (powerUp buffer1 buffer2) (timed schedule falls) (k + 1) =
        (run .initFiles (powerUp buffer1 buffer2) (timed schedule falls) k).step .initFiles
          (.clock50 (bus (schedule k))) := by
      rw [run_succ, timed, clock]
      rfl
    have flag' : (run .initFiles (powerUp buffer1 buffer2) (timed schedule falls)
        k).screen.frameSwitched = true := by rw [screen, flag]
    have starts' : (run .initFiles (powerUp buffer1 buffer2) (timed schedule falls)
        (k + 1)).gpu.top.state.phase = .start := by
      rw [next]
      exact (Gpu.clock_leaves finished' flag').1
    obtain ⟨j', k', lower', between', upper', shows', -⟩ := frame_drawn_still execution carries
      starts' fun l after before => clocks l (by omega) (by omega)
    refine ⟨j', by omega, by omega, shows' ?_⟩
    rw [next]
    show (run .initFiles (powerUp buffer1 buffer2) (timed schedule falls) k).screen.select = _
    refine Eq.trans ?_ (Gpu.second_switched finished' flag').symm
    rw [screen, second]
    cases select : (run .initFiles (powerUp buffer1 buffer2) (timed schedule falls)
      (n + 2)).screen.select <;> simp_all

/-- A frame that an edge finds unfinished is complete at the next one. -/
theorem complete_at_next {edge next : Nat} (fell : falls edge = true) (far : edge + 511617 ≤ next)
    (clocks : ∀ k, edge < k → k < next → falls k = false)
    (begun : (run .initFiles (powerUp buffer1 buffer2) (timed schedule falls)
      edge).gpu.top.state ≠ .wait2)
    (unfinished : (run .initFiles (powerUp buffer1 buffer2) (timed schedule falls)
      edge).gpu.top.state.phase ≠ .finished) :
    (run .initFiles (powerUp buffer1 buffer2) (timed schedule falls) next).gpu.top.state.phase =
      .finished := by
  have down : (run .initFiles (powerUp buffer1 buffer2) (timed schedule falls)
      (edge + 1)).screen.frameSwitched = false := by
    rw [run_succ, timed, if_pos fell, step, OutputScreen.Registers.clock,
      if_neg fun done => unfinished ((drawDone_iff _).mp done)]
  have room : cycle falls (edge + 1) + 255808 ≤ cycle falls next := by
    have pace := cycle_all (show edge + 1 ≤ next by omega) fun k after before =>
      clocks k after before
    omega
  obtain ⟨k, lower, upper, finished⟩ :=
    settles execution carries (begun_on (Nat.le_succ edge) begun) room
  have still := screen_still .initFiles buffer1 buffer2 schedule lower fun j after before =>
    clocks j after (Nat.lt_of_lt_of_le before upper)
  have state := (waits_for_edge upper (fun j after before => clocks j (by omega) before) finished
    (by rw [still, down])).1
  rw [state, finished]

/-- Two frames fit between any two edges of `VGA_VS`: then the screen goes black
again and again. -/
theorem goes_black_again (through : ∃ n, emitted (sent schedule falls) n = stores)
    (falling : ∀ n, ∃ k, n ≤ k ∧ falls k = true)
    (slow : ∀ edge k, falls edge = true → edge < k → k < edge + 511617 → falls k = false)
    (n : Nat) :
    ∃ k, n < k ∧
      (run .initFiles (powerUp buffer1 buffer2) (timed schedule falls) k).displayed.Shows ∅ := by
  have clocks : ∀ n, ∃ k, n ≤ k ∧ falls k = false := by
    intro n
    obtain ⟨edge, after, fell⟩ := falling n
    exact ⟨edge + 1, Nat.le_succ_of_le after, slow edge _ fell (Nat.lt_succ_self edge) (by omega)⟩
  obtain ⟨first, begun⟩ := begins execution carries .initFiles buffer1 buffer2 through clocks
  obtain ⟨edge, after, fell⟩ := falling (max n first)
  have began := begun_on (Nat.le_trans (Nat.le_max_right n first) after) begun
  have after := Nat.le_trans (Nat.le_max_left n first) after
  by_cases finished : (run .initFiles (powerUp buffer1 buffer2) (timed schedule falls)
      edge).gpu.top.state.phase = .finished
  · obtain ⟨k, lower, -, shows⟩ :=
      goes_black execution carries fell finished fun k => slow edge k fell
    exact ⟨k, Nat.lt_of_le_of_lt after lower, shows⟩
  · obtain ⟨next, later, fell', none⟩ := first_time (falling (edge + 1))
    have far : edge + 511617 ≤ next := by
      by_contra near
      cases fell'.symm.trans (slow edge next fell later (Nat.not_le.mp near))
    have finished' := complete_at_next execution carries fell far none began finished
    obtain ⟨k, lower, -, shows⟩ :=
      goes_black execution carries fell' finished' fun k => slow next k fell'
    exact ⟨k, by omega, shows⟩

end

end WireframeGpu.Board
