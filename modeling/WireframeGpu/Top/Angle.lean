import WireframeGpu.Top.Frames

namespace WireframeGpu

/-! The angle of a frame: `ANGLE_ADDRESS` moves once for each `startRaster`, and
the tables have caught up with it when the projections start. -/

namespace PolygonRaster

/-- The rows of the tables before the last one, at which the address wraps. -/
def rows : Nat := 314

/-- All three tables have latched `row`. -/
structure Addressed (r : Registers) (row : BitVec 9) : Prop where
  sin : r.sinRom.address = row
  cos : r.cosRom.address = row
  negSin : r.negSinRom.address = row

/-- All three tables show `row`. -/
structure Shows (m : Megafunctions) (r : Registers) (row : BitVec 9) : Prop where
  sin : r.sinRom.q = m.sin row
  cos : r.cosRom.q = m.cos row
  negSin : r.negSinRom.q = m.negSin row

/-- Address and tables in frame `k`.  The row past the last is only held for the
one clock of `test4`. -/
def Turned (m : Megafunctions) (k : Nat) (r : Registers) : Prop :=
  match r.state with
  | .test4 => 0 < k ∧ r.angleAddress.toNat = (k - 1) % rows + 1
  | .test3 => r.angleAddress.toNat = k % rows
  | .test2 => r.angleAddress.toNat = k % rows ∧ Addressed r r.angleAddress
  | .initial => r.angleAddress.toNat = k % rows ∧
      (0 < k → Addressed r r.angleAddress ∧ Shows m r r.angleAddress)
  | _ => r.angleAddress.toNat = k % rows ∧ Addressed r r.angleAddress ∧ Shows m r r.angleAddress

variable {m : Megafunctions} {r : Registers} {i : Inputs} {k : Nat}

theorem clock_angle (r : Registers) (i : Inputs) : (r.clock m i).angleAddress =
    if r.angleAddress > 313 then 0
    else if i.startRaster then r.angleAddress + 1 else r.angleAddress := rfl

theorem clock_addressed (r : Registers) (i : Inputs) : Addressed (r.clock m i) r.angleAddress :=
  ⟨rfl, rfl, rfl⟩

theorem Addressed.shows {row : BitVec 9} (addressed : Addressed r row) :
    Shows m (r.clock m i) row := by
  obtain ⟨sin, cos, negSin⟩ := addressed
  refine ⟨?_, ?_, ?_⟩
  · rw [← sin]; rfl
  · rw [← cos]; rfl
  · rw [← negSin]; rfl

theorem past_last (address : BitVec 9) : address > 313 ↔ 313 < address.toNat := BitVec.lt_def

theorem row_inside (row : r.angleAddress.toNat = k % rows) : ¬ r.angleAddress > 313 := by
  have small : k % rows < 314 := Nat.mod_lt _ (by decide)
  rw [past_last]
  omega

theorem clock_angle_held (low : i.startRaster = false) (row : r.angleAddress.toNat = k % rows) :
    (r.clock m i).angleAddress = r.angleAddress := by
  rw [clock_angle, if_neg (row_inside row), low]
  rfl

theorem clock_angle_started (starts : i.startRaster = true)
    (row : r.angleAddress.toNat = k % rows) :
    (r.clock m i).angleAddress.toNat = k % rows + 1 := by
  have small : k % rows < 314 := Nat.mod_lt _ (by decide)
  have one : (1 : BitVec 9).toNat = 1 := rfl
  rw [clock_angle, if_neg (row_inside row), starts, if_pos rfl, BitVec.toNat_add, one]
  omega

/-- One clock after the step, the address is back inside the table. -/
theorem clock_angle_wrapped (low : i.startRaster = false) (positive : 0 < k)
    (row : r.angleAddress.toNat = (k - 1) % rows + 1) :
    (r.clock m i).angleAddress.toNat = k % rows := by
  have zero : (0 : BitVec 9).toNat = 0 := rfl
  rw [clock_angle, low]
  split <;> rename_i place <;> rw [past_last] at place
  · simp only [rows] at row ⊢
    rw [zero]
    omega
  · simp only [rows, Bool.false_eq_true, ↓reduceIte] at row ⊢
    omega

theorem Turned.of_shows (row : r.angleAddress.toNat = k % rows)
    (addressed : Addressed r r.angleAddress) (shown : Shows m r r.angleAddress)
    (late : r.state ≠ .test4) : Turned m k r := by
  cases state : r.state
  case test4 => exact absurd state late
  case initial => simpa only [Turned, state] using ⟨row, fun _ => ⟨addressed, shown⟩⟩
  case test3 => simpa only [Turned, state] using row
  case test2 => simpa only [Turned, state] using ⟨row, addressed⟩
  all_goals simpa only [Turned, state] using ⟨row, addressed, shown⟩

/-- `startRaster` only comes in `INITIAL`, so the wait states let the address wrap
and the tables follow. -/
theorem Turned.step (turned : Turned m k r) (gate : i.startRaster = true → r.state = .initial) :
    Turned m (if i.startRaster then k + 1 else k) (r.clock m i) := by
  have addressed' := clock_addressed (m := m) r i
  by_cases starts : i.startRaster = true
  · have state := gate starts
    have next : (r.clock m i).state = .test4 := by
      simp [Registers.clock, Registers.comb, state, starts]
    simp only [Turned, state] at turned
    simp only [Turned, next, starts, ↓reduceIte]
    exact ⟨Nat.succ_pos k, clock_angle_started starts turned.1⟩
  · rw [if_neg starts]
    have low := Bool.eq_false_iff.mpr starts
    cases state : r.state <;> simp only [Turned, state] at turned
    case test4 =>
      have next : (r.clock m i).state = .test3 := by
        simp only [Registers.clock, Registers.comb, state]
      simp only [Turned, next]
      exact clock_angle_wrapped low turned.1 turned.2
    case test3 =>
      have next : (r.clock m i).state = .test2 := by
        simp only [Registers.clock, Registers.comb, state]
      have held := clock_angle_held (m := m) low turned
      simp only [Turned, next, held]
      exact ⟨turned, addressed'⟩
    case initial =>
      have next : (r.clock m i).state = .initial := by
        simp [Registers.clock, Registers.comb, state, low]
      have held := clock_angle_held (m := m) low turned.1
      simp only [Turned, next, held]
      exact ⟨turned.1, fun positive => ⟨addressed', (turned.2 positive).1.shows⟩⟩
    all_goals
      have row : r.angleAddress.toNat = k % rows := turned.1
      have addressed : Addressed r r.angleAddress := by
        first
          | exact turned.2
          | exact turned.2.1
      have held := clock_angle_held (m := m) low row
      refine Turned.of_shows (by rw [held, row]) (by rwa [held])
        (by rw [held]; exact addressed.shows) ?_
      simp only [Registers.clock, Registers.comb, Registers.defaults, state]
      (repeat' split) <;> simp

theorem Turned.inside (turned : Turned m k r) : r.angleAddress.toNat ≤ 314 := by
  have small : k % rows < 314 := Nat.mod_lt _ (by decide)
  have small' : (k - 1) % rows < 314 := Nat.mod_lt _ (by decide)
  cases state : r.state <;> simp only [Turned, state] at turned <;> omega

theorem Turned.shown (turned : Turned m k r) (begun : 0 < k)
    (late : r.state ≠ .test4 ∧ r.state ≠ .test3 ∧ r.state ≠ .test2) :
    r.angleAddress.toNat = k % rows ∧ Shows m r r.angleAddress := by
  obtain ⟨past4, past3, past2⟩ := late
  cases state : r.state <;> simp only [Turned, state] at turned
  case test4 => exact absurd state past4
  case test3 => exact absurd state past3
  case test2 => exact absurd state past2
  case initial => exact ⟨turned.1, (turned.2 begun).2⟩
  all_goals exact ⟨turned.1, turned.2.2⟩

/-- A vertex of the register file, rotated by the angle of `row`. -/
def rotatedBy (m : Megafunctions) (row : BitVec 9) (i : Inputs) (t : Fin 12) (v : Fin 3) :
    Projection.Vertex where
  x := projX (i.x t v)
  y := projY (i.y t v) (i.z t v) (m.sin row) (m.cos row)
  z := projZ (i.y t v) (i.z t v) (m.cos row) (m.negSin row)

theorem Shows.rotated {row : BitVec 9} (shown : Shows m r row) (i : Inputs) (t : Fin 12)
    (v : Fin 3) : r.rotated i t v = rotatedBy m row i t v := by
  simp only [Registers.rotated, rotatedBy, shown.sin, shown.cos, shown.negSin]

end PolygonRaster

namespace Gpu

open PolygonRaster

variable {m : Megafunctions} {buffer1 buffer2 : FrameBuffer} {inputs : Nat → Inputs}

/-- How often `startRaster` has been given before `cycle`. -/
def frames (m : Megafunctions) (start : Gpu) (inputs : Nat → Inputs) : Nat → Nat
  | 0 => 0
  | cycle + 1 =>
      if ((run m start inputs cycle).rasterInputs (inputs cycle).frameSwitched).startRaster
      then frames m start inputs cycle + 1 else frames m start inputs cycle

/-- The render FSM never gives `startRaster` in the middle of a frame. -/
theorem run_gate (cycle : Nat)
    (starts : ((run m (powerUp buffer1 buffer2) inputs cycle).rasterInputs
      (inputs cycle).frameSwitched).startRaster = true) :
    (run m (powerUp buffer1 buffer2) inputs cycle).raster.state = .initial := by
  rcases run_rendering m buffer1 buffer2 inputs cycle with rendering | jammed
  · exact rendering.coupled.gate starts
  · rw [startRaster_eq, beq_iff_eq] at starts
    rcases jammed.phase with phase | phase | phase <;> cases phase.symm.trans starts

theorem run_turned (m : Megafunctions) (buffer1 buffer2 : FrameBuffer) (inputs : Nat → Inputs)
    (cycle : Nat) :
    Turned m (frames m (powerUp buffer1 buffer2) inputs cycle)
      (run m (powerUp buffer1 buffer2) inputs cycle).raster := by
  induction cycle with
  | zero => exact ⟨rfl, fun impossible => absurd impossible (Nat.lt_irrefl 0)⟩
  | succ cycle ih => exact ih.step (run_gate cycle)

/-- The latched addresses are earlier values of `ANGLE_ADDRESS`. -/
theorem run_addresses (m : Megafunctions) (buffer1 buffer2 : FrameBuffer) (inputs : Nat → Inputs)
    (cycle : Nat) :
    (run m (powerUp buffer1 buffer2) inputs cycle).raster.angleAddress.toNat < 315 ∧
      ∃ row : BitVec 9, row.toNat < 315 ∧
        Addressed (run m (powerUp buffer1 buffer2) inputs cycle).raster row := by
  have inside := fun n => Nat.lt_succ_of_le (run_turned m buffer1 buffer2 inputs n).inside
  refine ⟨inside cycle, ?_⟩
  cases cycle with
  | zero => exact ⟨0, by decide, rfl, rfl, rfl⟩
  | succ cycle => exact ⟨_, inside cycle, clock_addressed _ _⟩

/-- From the `test1` of frame `k` to the next `startRaster`, the tables show row
`k mod 314`, by which every vertex is rotated; no row beyond the tables is read. -/
theorem angle_advances (m : Megafunctions) (buffer1 buffer2 : FrameBuffer)
    (inputs : Nat → Inputs) (cycle : Nat) :
    (let g := run m (powerUp buffer1 buffer2) inputs cycle
     let k := frames m (powerUp buffer1 buffer2) inputs cycle
     g.raster.angleAddress.toNat < 315 ∧
       (∃ row : BitVec 9, row.toNat < 315 ∧ Addressed g.raster row) ∧
      (1 ≤ k → g.raster.state ≠ .test4 ∧ g.raster.state ≠ .test3 ∧ g.raster.state ≠ .test2 →
        g.raster.angleAddress.toNat = k % 314 ∧
        g.raster.sinRom.q = m.sin (BitVec.ofNat 9 (k % 314)) ∧
        g.raster.cosRom.q = m.cos (BitVec.ofNat 9 (k % 314)) ∧
        g.raster.negSinRom.q = m.negSin (BitVec.ofNat 9 (k % 314)) ∧
        ∀ (i : PolygonRaster.Inputs) (t : Fin 12) (v : Fin 3),
          g.raster.rotated i t v = rotatedBy m (BitVec.ofNat 9 (k % 314)) i t v)) := by
  obtain ⟨address, latched⟩ := run_addresses m buffer1 buffer2 inputs cycle
  refine ⟨address, latched, fun begun late => ?_⟩
  obtain ⟨place, shown⟩ := (run_turned m buffer1 buffer2 inputs cycle).shown begun late
  have row : (run m (powerUp buffer1 buffer2) inputs cycle).raster.angleAddress =
      BitVec.ofNat 9 (frames m (powerUp buffer1 buffer2) inputs cycle % 314) := by
    rw [← rows, ← place, BitVec.ofNat_toNat, BitVec.setWidth_eq]
  rw [row] at shown
  exact ⟨place, shown.sin, shown.cos, shown.negSin, shown.rotated⟩

end Gpu

end WireframeGpu
