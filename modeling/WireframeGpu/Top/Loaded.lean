import WireframeGpu.Top.Loading

namespace WireframeGpu.Gpu

open WireframeGpu.Data WireframeGpu.Software WireframeGpu.Top PolygonRaster

/-! What a frame shows of the triangles in the registers. -/

variable {m : Megafunctions} {buffer1 buffer2 : FrameBuffer} {inputs : Nat → Inputs}
  {first n : Nat} {vertices : Model}

theorem ends_iff_sides
    (starts : (run m (powerUp buffer1 buffer2) inputs first).top.state.phase = .start)
    (kept : Kept m (powerUp buffer1 buffer2) inputs first vertices) :
    (∃ n, first < n ∧ (run m (powerUp buffer1 buffer2) inputs n).top.state.phase = .finished) ↔
      ∀ t v, (side m (angle (frames m (powerUp buffer1 buffer2) inputs first + 1)) vertices t
        v).majorMax ≠ 511 := by
  rw [ends_iff_caught starts, caught_of_kept (startRaster_of_start starts) kept]
  rfl

/-- A frame ends exactly if none of its sides reaches coordinate 511, and then shows
the wireframe of its model; otherwise no frame ever ends again. -/
theorem frame_refines_wireframe (m : Megafunctions) (buffer1 buffer2 : FrameBuffer)
    (inputs : Nat → Inputs) (first : Nat) (vertices : Model)
    (starts : (run m (powerUp buffer1 buffer2) inputs first).top.state.phase = .start)
    (kept : Kept m (powerUp buffer1 buffer2) inputs first vertices) :
    ((∃ n, first < n ∧ (run m (powerUp buffer1 buffer2) inputs n).top.state.phase = .finished) ↔
      ∀ t v, (side m (angle (frames m (powerUp buffer1 buffer2) inputs first + 1)) vertices t
        v).majorMax ≠ 511) ∧
    ∀ n, FrameAt m (powerUp buffer1 buffer2) inputs first n →
      (run m (powerUp buffer1 buffer2) inputs n).top.state.phase = .finished →
      (run m (powerUp buffer1 buffer2) inputs n).target.Shows
        (wireframe m (angle (frames m (powerUp buffer1 buffer2) inputs first + 1)) vertices) := by
  refine ⟨ends_iff_sides starts kept, fun n frame finished => ?_⟩
  rw [← frames_of_frame frame]
  exact finished_shows frame kept finished

theorem frame_refines_wireframe_triangle :
    ∃ n, FrameAt .initFiles (powerUp (fun _ => 0) (fun _ => 0))
        (driven (eachClock triangleStores) early) 14 n ∧
      (run .initFiles (powerUp (fun _ => 0) (fun _ => 0)) (driven (eachClock triangleStores) early)
        n).top.state = .s1 ∧
      (run .initFiles (powerUp (fun _ => 0) (fun _ => 0)) (driven (eachClock triangleStores) early)
        n).target.Shows (wireframe .initFiles (angle (frames .initFiles
          (powerUp (fun _ => 0) (fun _ => 0)) (driven (eachClock triangleStores) early) 14 + 1))
            (registers {} triangleStores).model) := by
  obtain ⟨n, frame, state⟩ := triangle_frame (fun _ => 0) (fun _ => 0) early
  refine ⟨n, frame, state, ?_⟩
  refine (frame_refines_wireframe .initFiles (fun _ => 0) (fun _ => 0)
    (driven (eachClock triangleStores) early) 14 _ (starts_phase frame.starts)
    ((triangle_posed (fun _ => 0) (fun _ => 0) early).kept 14)).2 n frame ?_
  rw [state]
  rfl

/-! The size register is exported but nothing reads it: every frame draws all twelve
triangles, loaded or not. -/

end WireframeGpu.Gpu
