import WireframeGpu.Software.Main
import WireframeGpu.Top.Geometry

namespace WireframeGpu.Gpu

open WireframeGpu.Data WireframeGpu.Software WireframeGpu.Top PolygonRaster

/-! A loader that stores no vertex: all twelve triangles stay at the origin. -/

variable {m : Megafunctions} {buffer1 buffer2 : FrameBuffer} {inputs : Nat → Inputs} {n : Nat}

def Blank (inputs : Nat → Inputs) : Prop :=
  ∀ k, (inputs k).bus.avlWrite = true → (inputs k).bus.avlCs = true →
    108 ≤ (inputs k).bus.avlAddr.toNat

theorem blank_regs (blank : Blank inputs) (n : Nat) (place : BitVec 7)
    (vertex : place.toNat < 108) :
    (run m (powerUp buffer1 buffer2) inputs n).registerfile.regs place = 0 := by
  induction n with
  | zero => rfl
  | succ n ih =>
      show ((run m (powerUp buffer1 buffer2) inputs n).registerfile.clock (inputs n).bus).regs
        place = 0
      have kept : (inputs n).bus.written place = none := by
        refine Registerfile.Inputs.written_none ?_
        rintro writes selected rfl
        exact absurd (blank n writes selected) (Nat.not_le.mpr vertex)
      rw [Registerfile.Registers.clock_regs, kept, ih, ite_self]
      rfl

theorem vertex_place (block : Nat) (t : Fin 12) (v : Fin 3) (inside : block ≤ 72) :
    (BitVec.ofNat 7 (block + (3 * t + v))).toNat < 108 := by
  rw [BitVec.toNat_ofNat, Nat.mod_eq_of_lt (by omega)]
  omega

theorem fed_zero {k : Nat} {t : Fin 12} {v : Fin 3} (zero : ∀ block ∈ [0, 36, 72],
      (run m (powerUp buffer1 buffer2) inputs k).registerfile.regs
        (BitVec.ofNat 7 (block + (3 * t + v))) = 0) :
    fed m (powerUp buffer1 buffer2) inputs k t v = ⟨0, 0, 0⟩ := by
  have x := zero 0 (by decide)
  rw [Nat.zero_add] at x
  simp only [fed, PolygonRaster.Registers.rotated, ports, rasterInputs_x, rasterInputs_y,
    rasterInputs_z, x, zero 36 (by decide), zero 72 (by decide)]
  simp [projX, projY, projZ]

theorem blank_fed (blank : Blank inputs) (n : Nat) (t : Fin 12) (v : Fin 3) :
    fed m (powerUp buffer1 buffer2) inputs n t v = ⟨0, 0, 0⟩ := by
  refine fed_zero fun block member => blank_regs blank n _ (vertex_place block t v ?_)
  revert member
  simp only [List.mem_cons, List.not_mem_nil, or_false]
  omega

theorem blank_screen (blank : Blank inputs)
    (enters : (run m (powerUp buffer1 buffer2) inputs n).raster.state = .startrast) (t : Fin 12)
    (v : Fin 3) :
    (run m (powerUp buffer1 buffer2) inputs n).raster.screenX t v = 160 ∧
      (run m (powerUp buffer1 buffer2) inputs n).raster.screenY t v = 120 := by
  have held : ∀ k, fed m (powerUp buffer1 buffer2) inputs k t v = ⟨0, 0, 0⟩ :=
    fun k => blank_fed blank k t v
  simp only [fed, raster_run] at held
  rw [raster_run] at enters ⊢
  obtain ⟨start, awaiting⟩ := awaiting_of_startrast enters
  obtain ⟨newx, newy⟩ := awaiting.projected enters (fun k _ _ => held k) (by decide)
  obtain ⟨x, y⟩ := screen_of_loaded newx newy
  rw [x, y]
  exact Projection.origin_on_screen

theorem blank_below (blank : Blank inputs) (n : Nat) :
    StartsBelow (run m (powerUp buffer1 buffer2) inputs n).raster := by
  intro enters line
  have screen := blank_screen blank enters
  apply Linerasterize.majorMax_of_bounded
  simp only [PolygonRaster.Registers.ends, (screen _ _).1, (screen _ _).2]
  decide

theorem clock_top (g : Gpu) (i : Inputs) :
    (g.clock m i).top = g.top.clock (g.topInputs i.frameSwitched) := rfl

theorem waits {g : Gpu} {i : Inputs} (waiting : g.top.state = .wait2)
    (low : g.registerfile.exportStart.getLsbD 0 = false) : (g.clock m i).top.state = .wait2 := by
  rw [clock_top]
  simp only [Top.Registers.clock, Top.Registers.comb, waiting, topInputs, low, Bool.false_eq_true,
    ↓reduceIte]

/-- The start bit is looked at once, on the way out of `WAIT2`. -/
theorem starts {g : Gpu} {i j : Inputs} (waiting : g.top.state = .wait2)
    (high : g.registerfile.exportStart.getLsbD 0 = true) :
    ((g.clock m i).clock m j).top.state = .initial := by
  have next : (g.clock m i).top.state = .dumb := by
    rw [clock_top]
    simp only [Top.Registers.clock, Top.Registers.comb, waiting, topInputs, high, ↓reduceIte]
  rw [clock_top]
  simp only [Top.Registers.clock, Top.Registers.comb, next]

/-- A loader that finds no face in its file, and what follows it. -/
def boot (size : BitVec 32) (rest : Nat → Inputs) : Nat → Inputs
  | 0 => { bus := Store.bus ⟨126, 0⟩ }
  | 1 => { bus := Store.bus ⟨127, size⟩ }
  | 2 => { bus := Store.bus ⟨126, 1⟩ }
  | k + 3 => rest k

def idle (_ : Nat) : Inputs := {}

variable {size : BitVec 32} {rest : Nat → Inputs}

theorem idle_blank : Blank idle := fun _ written => by cases written

theorem boot_blank (blank : Blank rest) : Blank (boot size rest) := by
  intro k
  match k with
  | 0 | 1 | 2 => simp [boot, Store.bus]
  | k + 3 => exact blank k

theorem boot_waits (m : Megafunctions) (buffer1 buffer2 : FrameBuffer) (size : BitVec 32)
    (rest : Nat → Inputs) {k : Nat} (early : k ≤ 3) :
    (run m (powerUp buffer1 buffer2) (boot size rest) k).top.state = .wait2 := by
  have low : ∀ k ≤ 2,
      (run m (powerUp buffer1 buffer2) (boot size rest) k).registerfile.exportStart = 0
    | 0, _ | 1, _ | 2, _ => rfl
  induction k with
  | zero => rfl
  | succ k ih =>
      exact waits (g := run m (powerUp buffer1 buffer2) (boot size rest) k) (ih (by omega))
        (by rw [low k (by omega)]; decide)

theorem boot_starts (m : Megafunctions) (buffer1 buffer2 : FrameBuffer) (size : BitVec 32)
    (rest : Nat → Inputs) :
    (run m (powerUp buffer1 buffer2) (boot size rest) 5).top.state = .initial := by
  have high : (run m (powerUp buffer1 buffer2) (boot size rest) 3).registerfile.exportStart = 1 :=
    rfl
  exact starts (g := run m (powerUp buffer1 buffer2) (boot size rest) 3)
    (boot_waits m buffer1 buffer2 size rest le_rfl) (by rw [high]; decide)

theorem finished_waits {later : Nat} (ordered : n ≤ later)
    (finished : (run m (powerUp buffer1 buffer2) inputs n).top.state.phase = .finished)
    (waits : ∀ k, n ≤ k → k < later → (inputs k).frameSwitched = false) :
    (run m (powerUp buffer1 buffer2) inputs later).top.state =
      (run m (powerUp buffer1 buffer2) inputs n).top.state := by
  induction later, ordered using Nat.le_induction with
  | base => rfl
  | succ later ordered ih =>
      have same := ih fun k after before => waits k after (Nat.lt_succ_of_lt before)
      rw [run_succ]
      exact (clock_waits (by rw [same]; exact finished)
        (waits later ordered (Nat.lt_succ_self later))).trans same

theorem boot_frame (m : Megafunctions) (buffer1 buffer2 : FrameBuffer) (size : BitVec 32)
    (blank : Blank rest) :
    ∃ n, 5 < n ∧ n ≤ 255812 ∧ FrameAt m (powerUp buffer1 buffer2) (boot size rest) 5 n ∧
      (run m (powerUp buffer1 buffer2) (boot size rest) n).top.state = .s1 := by
  have initial := boot_starts m buffer1 buffer2 size rest
  have begins : (run m (powerUp buffer1 buffer2) (boot size rest) 5).top.state.phase = .start := by
    rw [initial]
    rfl
  obtain ⟨n, lower, upper, frame, finished, second, -⟩ := frame_completes
    (blank_below (boot_blank blank)) begins
  refine ⟨n, lower, upper, frame, ?_⟩
  rw [Top.State.finished_cases finished, second, initial]
  rfl

end WireframeGpu.Gpu
