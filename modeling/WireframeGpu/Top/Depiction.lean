import WireframeGpu.Polygon.Perspective
import WireframeGpu.Polygon.Turning
import WireframeGpu.Top.ObjectFile

namespace WireframeGpu

open WireframeGpu.Data WireframeGpu.Software WireframeGpu.Projection

/-! From the pixels back to space: the vertices of a frame are rotated by its angle, and
the finished frame shows them in exact perspective. -/

/-- The places on the sides of the triangles of a model. -/
def outline (vertices : Model) : Set Place :=
  {place' | ∃ t v w, w.val = (v.val + 1) % 3 ∧ ∃ u : ℚ, (0 ≤ u ∧ u ≤ 1) ∧
    place' = (place (vertices t v)).between (place (vertices t w)) u}

/-- A pixel is lit close to where a place on a side is seen, and only there. -/
structure Depicts (b : FrameBuffer) (vertices : Model) : Prop where
  sound : ∀ cell : BitVec 17, cell.toNat < 76800 → b cell ≠ 0 → ∃ p ∈ outline vertices,
    |((cell.toNat % 320 : Nat) : ℚ) - p.column| ≤ 1.02 ∧
      |((cell.toNat / 320 : Nat) : ℚ) - p.row| ≤ 1.02
  complete : ∀ p ∈ outline vertices, ∃ cell : BitVec 17, cell.toNat < 76800 ∧ b cell = 7 ∧
    |((cell.toNat % 320 : Nat) : ℚ) - p.column| ≤ 1.52 ∧
      |((cell.toNat / 320 : Nat) : ℚ) - p.row| ≤ 1.52

namespace Gpu

open PolygonRaster

variable {b : FrameBuffer} {vertices : Model}

theorem figure_depicted (inView : ∀ t v, Visible (vertices t v) ∧ 0 ≤ (vertices t v).z.toInt)
    (shows : b.Shows (figure vertices)) : Depicts b vertices := by
  constructor
  · intro cell inside lit
    have stored : ∃ p ∈ figure vertices, (p.2 * 320 + p.1) % 2 ^ 17 = cell.toNat := by
      by_contra none
      exact lit ((shows cell inside).2 none)
    obtain ⟨p, ⟨t, v, drawn⟩, at_⟩ := stored
    have bounds : p.1 ≤ 319 ∧ p.2 ≤ 239 := edge_visible (inView t v).1 (inView t _).1 drawn
    rw [Nat.mod_eq_of_lt (by omega)] at at_
    obtain ⟨u, within, near⟩ := edge_near (inView t v) (inView t _) drawn
    have column : cell.toNat % 320 = p.1 := by omega
    have row : cell.toNat / 320 = p.2 := by omega
    rw [column, row]
    exact ⟨_, ⟨t, v, _, rfl, u, within, rfl⟩, near⟩
  · rintro place' ⟨t, v, w, next, u, ⟨lower, upper⟩, rfl⟩
    obtain rfl : w = ⟨(v + 1) % 3, Nat.mod_lt _ (by decide)⟩ := Fin.ext next
    obtain ⟨p, drawn, near⟩ := edge_covered (inView t v) (inView t _) lower upper
    have bounds := edge_visible (inView t v).1 (inView t _).1 drawn
    have index : (BitVec.ofNat 17 (p.2 * 320 + p.1)).toNat = p.2 * 320 + p.1 := by
      rw [BitVec.toNat_ofNat]
      omega
    refine ⟨BitVec.ofNat 17 (p.2 * 320 + p.1), by omega, ?_, ?_⟩
    · exact (shows _ (by omega)).1 ⟨p, ⟨t, v, drawn⟩, by omega⟩
    · have column : (p.2 * 320 + p.1) % 320 = p.1 := by omega
      have row : (p.2 * 320 + p.1) / 320 = p.2 := by omega
      rw [index, column, row]
      exact near

theorem Posed.depicts {buffer1 buffer2 : FrameBuffer} {inputs : Nat → Inputs} {first : Nat}
    (posed : Posed .initFiles (powerUp buffer1 buffer2) inputs vertices)
    (starts : (run .initFiles (powerUp buffer1 buffer2) inputs first).top.state.phase = .start) :
    ∃ n, first < n ∧ n ≤ first + 255807 ∧
      FrameAt .initFiles (powerUp buffer1 buffer2) inputs first n ∧
      (run .initFiles (powerUp buffer1 buffer2) inputs n).top.state.phase = .finished ∧
      Depicts (run .initFiles (powerUp buffer1 buffer2) inputs n).target
        fun t v => turned .initFiles (angle (frames .initFiles (powerUp buffer1 buffer2) inputs n))
          (vertices t v) := by
  obtain ⟨n, lower, upper, frame, finished, shows⟩ := posed.completes starts
  refine ⟨n, lower, upper, frame, finished, figure_depicted (fun t v => ⟨?_, ?_⟩) shows⟩
  · exact posed.visible _ (angle_inside _) t v
  · exact (turned_ahead _ _ _).deep.1

section

variable {schedule : Nat → Option Store} {stores : List Store} {Value : Type} [BEq Value]
  [OfNat Value 1]

/-- Every frame of a loaded model is complete in time, and is then a picture of the model
turned to the angle of that frame: correct to about a pixel, and to about a pixel and a half
complete. -/
theorem loaded_model_depicted (execution : Execution Value stores)
    (carries : Carries schedule stores) (buffer1 buffer2 : FrameBuffer) (switched : Nat → Bool)
    (first : Nat) (starts : (run .initFiles (powerUp buffer1 buffer2) (driven schedule switched)
      first).top.state.phase = .start) :
    ∃ n, first < n ∧ n ≤ first + 255807 ∧
      FrameAt .initFiles (powerUp buffer1 buffer2) (driven schedule switched) first n ∧
      (run .initFiles (powerUp buffer1 buffer2) (driven schedule switched) n).top.state.phase =
        .finished ∧
      Depicts (run .initFiles (powerUp buffer1 buffer2) (driven schedule switched) n).target
        fun t v => turned .initFiles (angle (frames .initFiles (powerUp buffer1 buffer2)
          (driven schedule switched) n)) ((registers {} stores).model t v) :=
  (loaded_posed execution carries buffer1 buffer2 switched).depicts starts

end

theorem loaded_model_depicted_triangle :
    ∃ first n, first < n ∧ n ≤ first + 255807 ∧
      FrameAt .initFiles (powerUp (fun _ => 0) (fun _ => 0))
        (driven (eachClock triangleStores) early) first n ∧
      (run .initFiles (powerUp (fun _ => 0) (fun _ => 0)) (driven (eachClock triangleStores) early)
        n).top.state.phase = .finished ∧
      Depicts (run .initFiles (powerUp (fun _ => 0) (fun _ => 0))
        (driven (eachClock triangleStores) early) n).target
        fun t v => turned .initFiles (angle (frames .initFiles (powerUp (fun _ => 0) (fun _ => 0))
          (driven (eachClock triangleStores) early) n))
            ((registers {} triangleStores).model t v) := by
  obtain ⟨first, starts, -⟩ := first_begins (loaded_begins triangle_execution (fun _ => 0)
    (fun _ => 0) early (eachClock_through triangleStores))
  exact ⟨first, loaded_model_depicted triangle_execution (eachClock_carries triangleStores)
    (fun _ => 0) (fun _ => 0) early first starts⟩

/-- A vertex in its frame is rotated by as many fiftieths of a radian as there have been
frames, modulo 314. -/
theorem turned_by_angle (count : Nat) (p : Vertex) :
    Rotated (radians (count % 314)) p (turned .initFiles (angle count) p) := by
  have row : (angle count).toNat = count % 314 := by
    rw [angle, BitVec.toNat_ofNat]
    omega
  rw [← row]
  exact turned_rotated (Nat.lt_succ_of_lt (angle_inside count)) p

/-- Whatever the bus does meanwhile, the projections of a frame are fed the vertices of the
register file, rotated about the x axis by as many fiftieths of a radian as there have been
frames, modulo 314. -/
theorem frame_turns_model (buffer1 buffer2 : FrameBuffer) (inputs : Nat → Inputs) (first k : Nat)
    (starts : (run .initFiles (powerUp buffer1 buffer2) inputs first).top.state.phase = .start)
    (after : first + 5 ≤ k) (before : k < first + 143) (t : Fin 12) (v : Fin 3) :
    Rotated (radians ((frames .initFiles (powerUp buffer1 buffer2) inputs first + 1) % 314))
      ((run .initFiles (powerUp buffer1 buffer2) inputs k).registerfile.model t v)
      (fed .initFiles (powerUp buffer1 buffer2) inputs k t v) := by
  have high := startRaster_of_start starts
  obtain ⟨frame, works, -, -⟩ := frame_in_step high
  have state := (works k (by omega) before).2 after
  have count := frames_of_frame (frame.shorten (by omega : first + 1 ≤ k) before.le)
  rw [fed_turned (by omega) state, count]
  exact turned_by_angle _ _

/-- The first frame of the triangle, at one fiftieth of a radian. -/
theorem frame_turns_model_triangle :
    ∃ first, ∀ k, first + 5 ≤ k → k < first + 143 → ∀ t v, Rotated (radians 1)
      ((run .initFiles (powerUp (fun _ => 0) (fun _ => 0)) (driven (eachClock triangleStores) early)
        k).registerfile.model t v)
      (fed .initFiles (powerUp (fun _ => 0) (fun _ => 0)) (driven (eachClock triangleStores) early)
        k t v) := by
  obtain ⟨first, starts, none⟩ := first_begins (loaded_begins triangle_execution (fun _ => 0)
    (fun _ => 0) early (eachClock_through triangleStores))
  refine ⟨first, fun k after before t v => ?_⟩
  have rotated := frame_turns_model (fun _ => 0) (fun _ => 0)
    (driven (eachClock triangleStores) early) first k starts after before t v
  rwa [none] at rotated

/-- From text to space: an object file is shown in perspective, and rotated by a fiftieth of
a radian from one frame to the next. -/
theorem object_file_depicted (junk : Nat → Junk) (text : List Char) (file : List Statement)
    (spelled : List.Forall₂ Spells (text.splitOn '\n') file)
    (short : ∀ line ∈ text.splitOn '\n', line.length < 128) (few : (indices file).length ≤ 12)
    (preceded : Preceded 0 file) (sound : Sound file) (buffer1 buffer2 : FrameBuffer) :
    ∃ fuel stores, program junk text fuel = .ok stores ∧
      ∀ schedule : Nat → Option Store, Carries schedule stores → ∀ (switched : Nat → Bool) first,
        (run .initFiles (powerUp buffer1 buffer2) (driven schedule switched)
          first).top.state.phase = .start →
        ∃ n shown, first < n ∧ n ≤ first + 255807 ∧
          FrameAt .initFiles (powerUp buffer1 buffer2) (driven schedule switched) first n ∧
          (run .initFiles (powerUp buffer1 buffer2) (driven schedule switched) n).top.state.phase =
            .finished ∧
          (∀ t v, Rotated (radians (frames .initFiles (powerUp buffer1 buffer2)
            (driven schedule switched) n % 314)) (objectModel file t v) (shown t v)) ∧
          Depicts (run .initFiles (powerUp buffer1 buffer2) (driven schedule switched) n).target
            shown := by
  obtain ⟨fuel, stores, finished, poses⟩ :=
    object_file_posed spelled short few preceded sound junk buffer1 buffer2
  refine ⟨fuel, stores, finished, fun schedule carries switched first starts => ?_⟩
  obtain ⟨n, lower, upper, frame, ends, depicts⟩ := (poses schedule carries switched).depicts starts
  exact ⟨n, _, lower, upper, frame, ends, fun t v => turned_by_angle _ _, depicts⟩

theorem object_file_depicted_sheet :
    ∃ fuel stores, program noJunk (joined sheet) fuel = .ok stores ∧
      ∀ schedule : Nat → Option Store, Carries schedule stores → ∀ (switched : Nat → Bool) first,
        (run .initFiles (powerUp (fun _ => 0) (fun _ => 0)) (driven schedule switched)
          first).top.state.phase = .start →
        ∃ n shown, first < n ∧ n ≤ first + 255807 ∧
          FrameAt .initFiles (powerUp (fun _ => 0) (fun _ => 0))
            (driven schedule switched) first n ∧
          (run .initFiles (powerUp (fun _ => 0) (fun _ => 0)) (driven schedule switched)
            n).top.state.phase = .finished ∧
          (∀ t v, Rotated (radians (frames .initFiles (powerUp (fun _ => 0) (fun _ => 0))
            (driven schedule switched) n % 314)) (objectModel sheetFile t v) (shown t v)) ∧
          Depicts (run .initFiles (powerUp (fun _ => 0) (fun _ => 0)) (driven schedule switched)
            n).target shown :=
  object_file_depicted noJunk (joined sheet) sheetFile sheet_spelled (by decide +kernel) (by decide)
    ⟨by decide, trivial⟩ sheet_sound (fun _ => 0) (fun _ => 0)

end Gpu

end WireframeGpu
