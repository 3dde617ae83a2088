import WireframeGpu.Top.Loading

namespace WireframeGpu.Gpu

open WireframeGpu.Data WireframeGpu.Software WireframeGpu.Top PolygonRaster Linerasterize

/-! What a rendered frame leaves in its buffer, and how it uses the FIFOs. -/

variable {m : Megafunctions} {buffer1 buffer2 : FrameBuffer} {inputs : Nat → Inputs} {n : Nat}

/-- The buffer holds the points that the lines have pushed, and nothing else. -/
def HoldsExactly (b : FrameBuffer) (pushed : Pushed) : Prop :=
  ∀ place : BitVec 17, place.toNat < 76800 →
    ((∃ line, ∃ word ∈ pushed line, place.toNat = pixelY word * 320 + pixelX word) → b place = 7) ∧
      ((¬ ∃ line, ∃ word ∈ pushed line, place.toNat = pixelY word * 320 + pixelX word) →
        b place = 0)

theorem Rendering.holds {g : Gpu} {l : Ledger} (rendering : Rendering g l)
    (phase : g.top.state.phase = .finished)
    (visible : ∀ line, ∀ word ∈ l.pushed line, pixelX word < 320 ∧ pixelY word < 240) :
    HoldsExactly g.target l.pushed := by
  obtain ⟨sound, coupled⟩ := rendering
  simp only [Coupled, phase] at coupled
  obtain ⟨state, empty, painted, shown⟩ := coupled
  have pushed := sound.shown_pushed state empty
  intro place inside
  obtain ⟨white, black⟩ := painted place inside
  have same : (∃ word, word ∈ l.whitened ∧ address word = place) ↔
      ∃ line, ∃ word ∈ l.pushed line, place.toNat = pixelY word * 320 + pixelX word := by
    constructor
    · rintro ⟨word, member, rfl⟩
      obtain ⟨line, member⟩ := (pushed word).mp ((shown word).mpr member)
      obtain ⟨x, y⟩ := visible line word member
      exact ⟨line, word, member, (address_visible x y).1⟩
    · rintro ⟨line, word, member, at_⟩
      obtain ⟨x, y⟩ := visible line word member
      exact ⟨word, (shown word).mp ((pushed word).mpr ⟨line, member⟩),
        BitVec.eq_of_toNat_eq ((address_visible x y).1.trans at_.symm)⟩
  rw [same] at white black
  exact ⟨white, black⟩

/-- Whenever top stands in `S1` or `S3`, the buffer of that frame is white at
the points pushed since its `startRaster` and black everywhere else, whatever it
held before. -/
theorem frame_contents (m : Megafunctions) (buffer1 buffer2 : FrameBuffer)
    (inputs : Nat → Inputs) (n : Nat)
    (visible : ∀ line, ∀ word ∈ (ledger m (powerUp buffer1 buffer2) inputs n).pushed line,
      pixelX word < 320 ∧ pixelY word < 240) :
    ((run m (powerUp buffer1 buffer2) inputs n).top.state = .s1 →
      HoldsExactly (run m (powerUp buffer1 buffer2) inputs n).buffer2
        (ledger m (powerUp buffer1 buffer2) inputs n).pushed) ∧
    ((run m (powerUp buffer1 buffer2) inputs n).top.state = .s3 →
      HoldsExactly (run m (powerUp buffer1 buffer2) inputs n).buffer1
        (ledger m (powerUp buffer1 buffer2) inputs n).pushed) := by
  constructor <;> intro state
  · have phase := phase_finished (.inl state)
    have holds := (rendering_before (.inr phase) le_rfl).holds phase visible
    simpa only [target, state, Top.State.second, ↓reduceIte] using holds
  · have phase := phase_finished (.inr state)
    have holds := (rendering_before (.inr phase) le_rfl).holds phase visible
    simpa only [target, state, Top.State.second, Bool.false_eq_true, ↓reduceIte] using holds

theorem frame_contents_triangle :
    ∃ n, (run .initFiles (powerUp (fun _ => 0) (fun _ => 0))
        (driven (eachClock triangleStores) early) n).top.state = .s1 ∧
      HoldsExactly (run .initFiles (powerUp (fun _ => 0) (fun _ => 0))
          (driven (eachClock triangleStores) early) n).buffer2
        (ledger .initFiles (powerUp (fun _ => 0) (fun _ => 0))
          (driven (eachClock triangleStores) early) n).pushed := by
  obtain ⟨n, frame, state⟩ := triangle_frame (fun _ => 0) (fun _ => 0) early
  refine ⟨n, state, (frame_contents .initFiles (fun _ => 0) (fun _ => 0)
    (driven (eachClock triangleStores) early) n fun line word member => ?_).1 state⟩
  have inside := (triangle_posed (fun _ => 0) (fun _ => 0) early).pushed_inside frame member
  omega

theorem writeFifo_pushes (g : Gpu) (fs : Bool) (line : Fin 36) :
    ((g.raster.lines line).comb ⟨g.raster.ends line,
      (g.raster.comb (g.rasterInputs fs)).start line⟩).writeFifo = (g.push fs line).isSome := by
  rw [push, Linerasterize.Registers.push]
  cases ((g.raster.lines line).comb ⟨g.raster.ends line,
    (g.raster.comb (g.rasterInputs fs)).start line⟩).writeFifo <;> rfl

/-- A line keeps to its FIFO: no write while it is full, no read while it is
empty, and nothing left over when a frame starts. -/
theorem fifos_never_misused (m : Megafunctions) (buffer1 buffer2 : FrameBuffer)
    (inputs : Nat → Inputs)
    (bounded : ∀ k, (run m (powerUp buffer1 buffer2) inputs k).raster.state = .startrast →
      ∀ line, (((run m (powerUp buffer1 buffer2) inputs k).raster.ends line).x0 ≤ 510 ∧
          ((run m (powerUp buffer1 buffer2) inputs k).raster.ends line).y0 ≤ 510) ∧
        ((run m (powerUp buffer1 buffer2) inputs k).raster.ends line).x1 ≤ 510 ∧
          ((run m (powerUp buffer1 buffer2) inputs k).raster.ends line).y1 ≤ 510)
    (n : Nat) (fs : Bool) :
    let g := run m (powerUp buffer1 buffer2) inputs n
    let wires := g.raster.comb (g.rasterInputs fs)
    (∀ line, ((g.raster.lines line).comb ⟨g.raster.ends line, wires.start line⟩).writeFifo = true →
      (g.raster.fifos line).words.length < Lineoutput.depth) ∧
    (∀ line, wires.readFifo line = true → (g.raster.fifos line).words ≠ []) ∧
    ((g.wires fs).startRaster = true →
      ∀ line, (g.raster.fifos line).words = [] ∧ (g.raster.lines line).state = .initial) := by
  obtain ⟨sound, coupled⟩ := run_rendering_below
    (fun k starts line => Linerasterize.majorMax_of_bounded (bounded k starts line)) n
  refine ⟨fun line writes => ?_, fun line reads => sound.stored reads, fun starts line => ?_⟩
  · rw [writeFifo_pushes] at writes
    exact sound.room writes
  · have empty := sound.empty (coupled.gate (i := ⟨{}, fs⟩) starts) line
    exact ⟨empty.words, empty.state⟩

theorem fifos_never_misused_triangle :
    let g := run .initFiles (powerUp (fun _ => 0) (fun _ => 0))
      (driven (eachClock triangleStores) early) 165
    let wires := g.raster.comb (g.rasterInputs true)
    (∀ line, ((g.raster.lines line).comb ⟨g.raster.ends line, wires.start line⟩).writeFifo = true →
      (g.raster.fifos line).words.length < Lineoutput.depth) ∧
    (∀ line, wires.readFifo line = true → (g.raster.fifos line).words ≠ []) ∧
    ((g.wires true).startRaster = true →
      ∀ line, (g.raster.fifos line).words = [] ∧ (g.raster.lines line).state = .initial) := by
  refine fifos_never_misused .initFiles (fun _ => 0) (fun _ => 0)
    (driven (eachClock triangleStores) early) (fun k enters line => ?_) 165 true
  have inside := (triangle_posed (fun _ => 0) (fun _ => 0) early).screen_inside enters
  have first := inside (Registers.edgeTriangle line) (Registers.edgeVertex line)
  have second := inside (Registers.edgeTriangle line) (Registers.edgeEnd line)
  simp only [PolygonRaster.Registers.ends, BitVec.le_def]
  exact ⟨⟨first.1.trans (by decide), first.2.trans (by decide)⟩, second.1.trans (by decide),
    second.2.trans (by decide)⟩

end WireframeGpu.Gpu
