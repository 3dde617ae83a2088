import WireframeGpu.Projection.Outcome
import WireframeGpu.Top.Loading

namespace WireframeGpu.Gpu

open WireframeGpu.Data WireframeGpu.Software WireframeGpu.Top PolygonRaster Linerasterize

/-! Where visible triangles are written in a frame RAM. -/

variable {m : Megafunctions} {buffer1 buffer2 : FrameBuffer} {inputs : Nat → Inputs}
  {first n : Nat} {vertices : Fin 12 → Fin 3 → Projection.Vertex}

/-- The place of a pixel of the screen in a frame RAM, row by row. -/
def RowMajor (place : BitVec 17) (word : BitVec 18) : Prop :=
  place.toNat = pixelY word * 320 + pixelX word ∧ place.toNat < 76800

theorem address_injective {p q : BitVec 18} (first : pixelX p ≤ 319 ∧ pixelY p ≤ 239)
    (second : pixelX q ≤ 319 ∧ pixelY q ≤ 239) (same : address p = address q) : p = q := by
  have at_p := (address_visible (Nat.lt_succ_of_le first.1) (Nat.lt_succ_of_le first.2)).1
  have at_q := (address_visible (Nat.lt_succ_of_le second.1) (Nat.lt_succ_of_le second.2)).1
  rw [same, at_q] at at_p
  have x : p.extractLsb' 9 9 = q.extractLsb' 9 9 := by
    apply BitVec.eq_of_toNat_eq
    change pixelX p = pixelX q
    omega
  have y : p.extractLsb' 0 9 = q.extractLsb' 0 9 := by
    apply BitVec.eq_of_toNat_eq
    change pixelY p = pixelY q
    omega
  have whole : ∀ word : BitVec 18, word = word.extractLsb' 9 9 ++ word.extractLsb' 0 9 := by
    intro word
    apply BitVec.eq_of_toNat_eq
    have small := word.isLt
    rw [BitVec.toNat_append, BitVec.extractLsb'_toNat, BitVec.extractLsb'_toNat,
      ← Nat.shiftLeft_add_eq_or_of_lt (by omega), Nat.shiftLeft_eq, Nat.shiftRight_eq_div_pow,
      Nat.shiftRight_eq_div_pow]
    omega
  rw [whole p, whole q, x, y]

/-! The projections and the line cores by themselves. -/

/-- What the lines take from a projection. -/
def slices (r : Projection.Registers) : BitVec 9 × BitVec 9 :=
  (r.newx.extractLsb' 15 9, r.newy.extractLsb' 15 9)

def lineEnds (screen : Fin 12 → Fin 3 → BitVec 9 × BitVec 9) (line : Fin 36) : Endpoints where
  x0 := (screen (Registers.edgeTriangle line) (Registers.edgeVertex line)).1
  y0 := (screen (Registers.edgeTriangle line) (Registers.edgeVertex line)).2
  x1 := (screen (Registers.edgeTriangle line) (Registers.edgeEnd line)).1
  y1 := (screen (Registers.edgeTriangle line) (Registers.edgeEnd line)).2

/-- A line core at rest pushes the word, once it is started between two of these pixels. -/
def Pushes (screen : Fin 12 → Fin 3 → BitVec 9 × BitVec 9) (word : BitVec 18) : Prop :=
  ∃ (r : Linerasterize.Registers) (line : Fin 36) (cycle : Nat), r.state = .initial ∧
    word ∈ Linerasterize.pushed r (lineEnds screen line) cycle

/-- Projected vertices, and the lines between them, on the screen. -/
structure OnScreen (screen : Fin 12 → Fin 3 → BitVec 9 × BitVec 9) : Prop where
  corners : ∀ t v, (screen t v).1.toNat ≤ 319 ∧ (screen t v).2.toNat ≤ 239
  pushed : ∀ word, Pushes screen word → pixelX word ≤ 319 ∧ pixelY word ≤ 239
  stored : ∀ word, Pushes screen word → RowMajor (address word) word
  apart : ∀ p q, Pushes screen p → Pushes screen q → address p = address q → p = q

theorem pushed_between {r : Linerasterize.Registers} {e : Endpoints} {cycle : Nat}
    {word : BitVec 18} (idle : r.state = .initial) (start : e.x0.toNat ≤ 319 ∧ e.y0.toNat ≤ 239)
    (stop : e.x1.toNat ≤ 319 ∧ e.y1.toNat ≤ 239)
    (member : word ∈ Linerasterize.pushed r e cycle) : pixelX word ≤ 319 ∧ pixelY word ≤ 239 := by
  have corners : e.segment.maxX ≤ 319 ∧ e.segment.maxY ≤ 239 := by
    simp only [Segment.maxX, Segment.maxY, Endpoints.segment]
    omega
  have below : e.segment.majorMax ≠ 511 := by
    have bound := e.segment.majorMax_le
    omega
  cases cycle with
  | zero => cases member
  | succ cycle =>
      obtain ⟨count, course, words⟩ := run_course_below idle below cycle
      rw [words] at member
      have whole := course.drawn_prefix.mem member
      rw [drawn_all, List.mem_map] at whole
      obtain ⟨p, drawn, rfl⟩ := whole
      have bounds := e.segment.points_bounds drawn
      obtain ⟨x, y⟩ := pixelWord_visible (p := p) (by omega)
      omega

theorem onScreen_of_corners {screen : Fin 12 → Fin 3 → BitVec 9 × BitVec 9}
    (corners : ∀ t v, (screen t v).1.toNat ≤ 319 ∧ (screen t v).2.toNat ≤ 239) :
    OnScreen screen := by
  have inside : ∀ word, Pushes screen word → pixelX word ≤ 319 ∧ pixelY word ≤ 239 := by
    rintro word ⟨r, line, cycle, idle, member⟩
    exact pushed_between idle (corners _ _) (corners _ _) member
  refine ⟨corners, inside, fun word pushes => ?_, fun p q first second =>
    address_injective (inside p first) (inside q second)⟩
  obtain ⟨x, y⟩ := inside word pushes
  exact address_visible (by omega) (by omega)

/-- A visible vertex is projected onto the screen, whatever was projected before. -/
theorem request_on_screen {inputs : Nat → Projection.Inputs} {v : Projection.Vertex}
    (request : Projection.Request inputs first v) (visible : Projection.Visible v) :
    ∃ last, Projection.Finishes inputs first last ∧
      (slices (Projection.run inputs last)).1.toNat ≤ 319 ∧
      (slices (Projection.run inputs last)).2.toNat ≤ 239 := by
  obtain ⟨last, finishes, -, delivered, -⟩ := request.finishes
  obtain ⟨newx, newy⟩ := Projection.projected_of_depth (visible_depth visible)
    (Projection.run inputs first).quotients
  rw [← delivered] at newx newy
  have inside := Projection.visible_on_screen visible
  rw [← newx, ← newy] at inside
  exact ⟨last, finishes, inside⟩

/-! The lines of a frame of the whole machine. -/

theorem whitening_on_edge {l : Ledger} {g : Gpu} (rendering : Rendering g l)
    (landed : g.raster.state.projecting = true ∨ ∀ t v, Landed g.raster t v (vertices t v))
    (phase : g.top.state.phase = .write) :
    ∃ t v, ∃ p ∈ (edge (vertices t v) (vertices t (v + 1))).points,
      g.raster.coord = pixelWord p := by
  have coupled := rendering.coupled
  simp only [Coupled, phase] at coupled
  obtain ⟨state, -, shown⟩ := coupled
  rcases landed with projecting | landed
  · rw [state] at projecting
    cases projecting
  · obtain ⟨line, p, drawn, at_⟩ := shown_mem ((shown g.raster.coord).mpr (.inr rfl))
    rw [segment_of_landed (landed _ _) (landed _ _)] at drawn
    exact ⟨_, _, p, drawn, at_⟩

theorem white_address (g : Gpu) (fs : Bool) :
    ((g.wires fs).buffer1Wr = true → (g.wires fs).buffer1Data = 7 →
      g.top.state.phase = .write ∧ g.top.buffer1Addr (g.topInputs fs) = address g.raster.coord) ∧
    ((g.wires fs).buffer2Wr = true → (g.wires fs).buffer2Data = 7 →
      g.top.state.phase = .write ∧
        g.top.buffer2Addr (g.topInputs fs) = address g.raster.coord) := by
  have clears := g.top.clrBuffer_eq (g.topInputs fs)
  have whitens := g.whitening_eq fs
  constructor <;> intro written white
  · simp only [whitening, written, white, BEq.rfl, Bool.and_self, Bool.true_or] at whitens
    have phase : g.top.state.phase = .write := beq_iff_eq.mp whitens.symm
    refine ⟨phase, ?_⟩
    rw [Top.Registers.buffer1Addr, clears.1, Top.Registers.clearing, phase]
    simp [address, topInputs]
  · simp only [whitening, written, white, BEq.rfl, Bool.and_self, Bool.or_true] at whitens
    have phase : g.top.state.phase = .write := beq_iff_eq.mp whitens.symm
    refine ⟨phase, ?_⟩
    rw [Top.Registers.buffer2Addr, clears.2, Top.Registers.clearing, phase]
    simp [address, topInputs]

/-- Visible triangles stay on the screen: as the projections deliver them, from any idle
state, and in a frame of the machine, in its projected coordinates, in what the lines
push, and in every white write. -/
theorem visible_frame_stays_on_screen (vertices : Fin 12 → Fin 3 → Projection.Vertex)
    (visible : ∀ t v, Projection.Visible (vertices t v)) :
    (∀ (inputs : Fin 12 → Fin 3 → Nat → Projection.Inputs) (first : Fin 12 → Fin 3 → Nat),
      (∀ t v, Projection.Request (inputs t v) (first t v) (vertices t v)) →
      ∃ last : Fin 12 → Fin 3 → Nat,
        (∀ t v, Projection.Finishes (inputs t v) (first t v) (last t v)) ∧
        OnScreen fun t v => slices (Projection.run (inputs t v) (last t v))) ∧
    ∀ (m : Megafunctions) (buffer1 buffer2 : FrameBuffer) (inputs : Nat → Inputs) (first n : Nat),
      FrameAt m (powerUp buffer1 buffer2) inputs first n →
      Fed m (powerUp buffer1 buffer2) inputs first n vertices →
      ((run m (powerUp buffer1 buffer2) inputs n).raster.state.projecting = false → ∀ t v,
        ((run m (powerUp buffer1 buffer2) inputs n).raster.screenX t v).toNat ≤ 319 ∧
          ((run m (powerUp buffer1 buffer2) inputs n).raster.screenY t v).toNat ≤ 239) ∧
      (∀ line, ∀ word ∈ (ledger m (powerUp buffer1 buffer2) inputs n).pushed line,
        pixelX word ≤ 319 ∧ pixelY word ≤ 239) ∧
      (∀ fs, ((run m (powerUp buffer1 buffer2) inputs n).wires fs).buffer1Wr = true →
        ((run m (powerUp buffer1 buffer2) inputs n).wires fs).buffer1Data = 7 →
        RowMajor ((run m (powerUp buffer1 buffer2) inputs n).top.buffer1Addr
            ((run m (powerUp buffer1 buffer2) inputs n).topInputs fs))
          (run m (powerUp buffer1 buffer2) inputs n).raster.coord) ∧
      (∀ fs, ((run m (powerUp buffer1 buffer2) inputs n).wires fs).buffer2Wr = true →
        ((run m (powerUp buffer1 buffer2) inputs n).wires fs).buffer2Data = 7 →
        RowMajor ((run m (powerUp buffer1 buffer2) inputs n).top.buffer2Addr
            ((run m (powerUp buffer1 buffer2) inputs n).topInputs fs))
          (run m (powerUp buffer1 buffer2) inputs n).raster.coord) ∧
      ∀ line, ∀ p ∈ (ledger m (powerUp buffer1 buffer2) inputs n).pushed line,
        ∀ other, ∀ q ∈ (ledger m (powerUp buffer1 buffer2) inputs n).pushed other,
          address p = address q → p = q := by
  constructor
  · intro inputs first requests
    choose last finishes corners using fun t v => request_on_screen (requests t v) (visible t v)
    exact ⟨last, finishes, onScreen_of_corners corners⟩
  · intro m buffer1 buffer2 inputs first n frame held
    have pushed : ∀ line, ∀ word ∈ (ledger m (powerUp buffer1 buffer2) inputs n).pushed line,
        pixelX word ≤ 319 ∧ pixelY word ≤ 239 :=
      fun line word member => pushed_visible frame held visible member
    have white : (run m (powerUp buffer1 buffer2) inputs n).top.state.phase = .write →
        RowMajor (address (run m (powerUp buffer1 buffer2) inputs n).raster.coord)
          (run m (powerUp buffer1 buffer2) inputs n).raster.coord := by
      intro phase
      have landed := all_landed frame held fun t v => visible_depth (visible t v)
      obtain ⟨t, v, p, drawn, at_⟩ :=
        whitening_on_edge (frame_rendering frame held visible) landed phase
      have inside := edge_visible (visible _ _) (visible _ _) drawn
      obtain ⟨x, y⟩ := pixelWord_visible inside
      rw [at_]
      exact address_visible (by omega) (by omega)
    refine ⟨screen_visible frame held visible, pushed, fun fs written data => ?_,
      fun fs written data => ?_, fun line p first other q second =>
        address_injective (pushed line p first) (pushed other q second)⟩
    · obtain ⟨phase, at_⟩ := (white_address _ fs).1 written data
      rw [at_]
      exact white phase
    · obtain ⟨phase, at_⟩ := (white_address _ fs).2 written data
      rw [at_]
      exact white phase

/-- The edge of the field of view, close to the eye, at depth 1.0 and far away. -/
def extremes (_ : Fin 12) (v : Fin 3) : Projection.Vertex :=
  if v.val = 0 then ⟨-4, -3, -98301⟩
  else if v.val = 1 then ⟨43690, -32768, -65536⟩
  else ⟨0, 0x80000001, 0x7FFE7FFF⟩

theorem extremes_visible (t : Fin 12) (v : Fin 3) : Projection.Visible (extremes t v) := by
  have each : ∀ v, Projection.Visible (extremes 0 v) := by
    intro v
    fin_cases v <;> constructor <;> decide
  exact each v

theorem visible_frame_stays_on_screen_triangle :
    (∃ last : Fin 12 → Fin 3 → Nat,
      (∀ t v, Projection.Finishes (Projection.steady (extremes t v)) 0 (last t v)) ∧
      OnScreen fun t v => slices (Projection.run (Projection.steady (extremes t v)) (last t v))) ∧
    ∃ n, (run .initFiles (powerUp (fun _ => 0) (fun _ => 0))
        (driven (eachClock triangleStores) early) n).top.state = .s1 ∧
      ∀ line, ∀ word ∈ (ledger .initFiles (powerUp (fun _ => 0) (fun _ => 0))
          (driven (eachClock triangleStores) early) n).pushed line,
        pixelX word ≤ 319 ∧ pixelY word ≤ 239 := by
  constructor
  · exact (visible_frame_stays_on_screen extremes extremes_visible).1
      (fun t v => Projection.steady (extremes t v)) (fun _ _ => 0)
      fun t v => Projection.steady_request _
  · have posed := triangle_posed (fun _ => 0) (fun _ => 0) early
    obtain ⟨n, frame, state⟩ := triangle_frame (fun _ => 0) (fun _ => 0) early
    exact ⟨n, state,
      ((visible_frame_stays_on_screen _ (posed.turned_visible _)).2 _ _ _ _ 14 n frame
        (fed_kept frame (posed.kept 14))).2.1⟩

end WireframeGpu.Gpu
