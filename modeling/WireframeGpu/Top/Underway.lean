import WireframeGpu.Top.Visibility

namespace WireframeGpu.Gpu

open WireframeGpu.Data WireframeGpu.Top PolygonRaster Linerasterize TriangleProjection

/-! A frame past `STARTRAST`, up to its end. -/

variable {m : Megafunctions} {g : Gpu} {i : Inputs} {l : Ledger} {buffer1 buffer2 : FrameBuffer}
  {inputs : Nat → Inputs} {first k n : Nat}

/-- A frame past `STARTRAST`, none of whose lines reaches coordinate 511. -/
structure Underway (g : Gpu) : Prop where
  drawing : Drawing g
  begun : g.top.state.phase ≠ .start
  past : g.raster.state.projecting = false
  settled : ∀ t, Settled (g.raster.triangles t)
  below : ∀ line, (segment g.raster line).majorMax ≠ 511
  rendering : ∃ l, Rendering g l

theorem Underway.step (underway : Underway g) :
    (g.clock m i).top.state.phase = .finished ∨
      (Underway (g.clock m i) ∧ rank (g.clock m i) < rank g) := by
  obtain ⟨l, rendering⟩ := underway.rendering
  have starts : StartsBelow g.raster := fun _ line => underway.below line
  have next := rendering.progress (m := m) (i := i) starts underway.drawing
  rcases next with finished | ⟨drawing, less⟩
  · exact .inl finished
  · have low := startRaster_low (i := i) underway.begun
    have same := triangles_hold (m := m) (i := g.rasterInputs i.frameSwitched) underway.settled
      (by intro state; simpa [state, State.projecting] using underway.past)
    refine .inr ⟨⟨drawing, ?_, nextState_past underway.past low, ?_, fun line => ?_,
      _, rendering.step starts⟩, less⟩
    · have begun := underway.begun
      obtain ⟨moving, unfinished⟩ := underway.drawing
      rw [clock_phase, Top.Registers.nextPhase]
      cases phase : g.top.state.phase <;> simp only [phase] at begun moving unfinished ⊢ <;>
        (repeat' split) <;> simp_all
    · rw [clock_raster, same]
      exact underway.settled
    · rw [clock_raster, segment_congr same]
      exact underway.below line

theorem phase_finished (state : g.top.state = .s1 ∨ g.top.state = .s3) :
    g.top.state.phase = .finished := by
  rcases state with state | state <;> rw [state] <;> rfl

theorem rendering_of_startrast
    (enters : (run m (powerUp buffer1 buffer2) inputs k).raster.state = .startrast) :
    Rendering (run m (powerUp buffer1 buffer2) inputs k)
      (ledger m (powerUp buffer1 buffer2) inputs k) := by
  rcases run_rendering m buffer1 buffer2 inputs k with
    rendering | jammed
  · exact rendering
  · obtain ⟨_, _, waits⟩ := jammed.stuck.unending
    rw [enters] at waits
    exact waits.elim

theorem underway_of_startrast
    (enters : (run m (powerUp buffer1 buffer2) inputs k).raster.state = .startrast)
    (below : ∀ line, (segment (run m (powerUp buffer1 buffer2) inputs k).raster line).majorMax ≠
      511) :
    Underway (run m (powerUp buffer1 buffer2) inputs k) := by
  have rendering := rendering_of_startrast enters
  have phase := rendering.phase_of_startrast enters
  have phased := rendering.sound.phased
  simp only [Phased, enters] at phased
  refine ⟨?_, ?_, by rw [enters]; rfl, phased, below, _, rendering⟩
  · rcases phase with phase | phase | phase <;> simp [Drawing, phase]
  · rcases phase with phase | phase | phase <;> simp [phase]

theorem frame_finishes_below (frame : FrameAt m (powerUp buffer1 buffer2) inputs first k)
    (enters : (run m (powerUp buffer1 buffer2) inputs k).raster.state = .startrast)
    (below : ∀ line, (segment (run m (powerUp buffer1 buffer2) inputs k).raster line).majorMax ≠
      511) :
    ∃ n, k < n ∧ FrameAt m (powerUp buffer1 buffer2) inputs first n ∧
      (run m (powerUp buffer1 buffer2) inputs n).top.state.phase = .finished := by
  obtain ⟨last, lower, -, finished, between⟩ := reaches_of_rank
    (run m (powerUp buffer1 buffer2) inputs) Underway
    (fun g => g.top.state.phase = .finished) rank (fun _ underway => underway.step)
    (underway_of_startrast enters below)
  refine ⟨last + 1, by omega,
    ⟨by have := frame.ordered; omega, frame.starts, fun j after before => ?_⟩, finished⟩
  rcases Nat.lt_or_ge j k with early | late
  · exact frame.only j after early
  · rw [ports, startRaster_eq, beq_false_of_ne (between j late (by omega)).begun]

theorem below_of_finished
    (enters : (run m (powerUp buffer1 buffer2) inputs k).raster.state = .startrast) (later : k < n)
    (finished : (run m (powerUp buffer1 buffer2) inputs n).top.state.phase = .finished)
    (line : Fin 36) :
    (segment (run m (powerUp buffer1 buffer2) inputs k).raster line).majorMax ≠ 511 := by
  intro top
  have jammed : Jammed (run m (powerUp buffer1 buffer2) inputs (k + 1)) :=
    (rendering_of_startrast enters).jam fun below => below enters line top
  have still := (jammed.persists later).phase
  rw [finished] at still
  simp at still

theorem pixel_of_segment {r : PolygonRaster.Registers} {line : Fin 36} {p : Nat × Nat}
    (drawn : p ∈ (segment r line).points) : (pixelX (pixelWord p), pixelY (pixelWord p)) = p := by
  have bounds := (segment r line).points_bounds drawn
  have x := maxX_le (r.ends line)
  have y := maxY_le (r.ends line)
  exact Prod.ext (pixelWord_x (by simp only [PolygonRaster.segment] at bounds; omega))
    (pixelWord_y (by simp only [PolygonRaster.segment] at bounds; omega))

/-- A finished frame has whitened the points of its thirty-six lines. -/
theorem Rendering.whitened (rendering : Rendering g l) (phase : g.top.state.phase = .finished)
    (p : Nat × Nat) : (∃ word ∈ l.whitened, (pixelX word, pixelY word) = p) ↔
      ∃ line, p ∈ (segment g.raster line).points := by
  have coupled := rendering.coupled
  simp only [Coupled, phase] at coupled
  obtain ⟨state, empty, -, shown⟩ := coupled
  constructor
  · rintro ⟨word, member, rfl⟩
    obtain ⟨line, q, drawn, rfl⟩ := shown_mem ((shown word).mpr member)
    exact ⟨line, by rwa [pixel_of_segment drawn]⟩
  · rintro ⟨line, drawn⟩
    refine ⟨pixelWord p, (shown _).mp ?_, pixel_of_segment drawn⟩
    simp only [Shown, state]
    refine ⟨empty, line, ?_⟩
    rw [drawn_all]
    exact List.mem_map_of_mem drawn

theorem idle_of_busy (busy : (run m (powerUp buffer1 buffer2) inputs k).raster.state ≠ .initial) :
    (ports m (powerUp buffer1 buffer2) inputs k).startRaster = false := by
  cases starts : (ports m (powerUp buffer1 buffer2) inputs k).startRaster
  · rfl
  · exact (busy ((rendering_before (.inl (starts_phase starts)) le_rfl).coupled.gate starts)).elim

theorem frame_reaches_startrast
    (starts : (ports m (powerUp buffer1 buffer2) inputs first).startRaster = true) :
    ∃ k, FrameAt m (powerUp buffer1 buffer2) inputs first k ∧
      (run m (powerUp buffer1 buffer2) inputs k).raster.state = .startrast := by
  have rests := (rendering_before (.inl (starts_phase starts)) le_rfl).coupled.gate starts
  rw [raster_run] at rests
  obtain ⟨test4, test3, test2, test1, polls⟩ := climbs rests starts
  obtain ⟨last, lower, -, enters, between⟩ := PolygonRaster.reaches_startrast polls
  simp only [← raster_run] at test4 test3 test2 test1 enters between
  refine ⟨last + 1, ⟨by omega, starts, fun j after before => idle_of_busy ?_⟩, enters⟩
  rcases Nat.lt_or_ge j (first + 5) with early | late
  · obtain rfl | rfl | rfl | rfl :
        j = first + 1 ∨ j = first + 2 ∨ j = first + 3 ∨ j = first + 4 := by
      omega
    · simp [test4]
    · simp [test3]
    · simp [test2]
    · simp [test1]
  · simp [between j late (by omega)]

end WireframeGpu.Gpu
