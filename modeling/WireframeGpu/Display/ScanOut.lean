import WireframeGpu.Display.VgaController
import WireframeGpu.Top.Picture

namespace WireframeGpu

namespace Gbuffer

/-- The read port of a frame RAM: the address is registered on `rdclock`, the data are not. -/
structure ReadPort where
  address : BitVec 17 := 0
deriving DecidableEq, Repr

def ReadPort.q (p : ReadPort) (contents : FrameBuffer) : BitVec 3 := contents p.address

end Gbuffer

namespace ScanOut

/-! The part of `output_screen.sv` that is clocked by `VGA_CLK`: it reads both frame RAMs
at the place of the beam and shows the one that `select` names. -/

structure Registers where
  vga : VgaController.Registers := {}
  buffer1 : Gbuffer.ReadPort := {}
  buffer2 : Gbuffer.ReadPort := {}
deriving DecidableEq, Repr

/-- `((DrawY>>1)%240)*320+((DrawX>>1)%320)` -/
def rdaddress (drawX drawY : BitVec 10) : BitVec 17 :=
  BitVec.ofNat 17 ((drawY >>> 1).toNat % 240 * 320 + (drawX >>> 1).toNat % 320)

namespace Registers

def drawX (r : Registers) : BitVec 10 := r.vga.hCounter
def drawY (r : Registers) : BitVec 10 := r.vga.vCounter

def clock (r : Registers) : Registers where
  vga := r.vga.clock false
  buffer1 := ⟨rdaddress r.drawX r.drawY⟩
  buffer2 := ⟨rdaddress r.drawX r.drawY⟩

end Registers

/-- What the display finds in one cycle. -/
structure Scene where
  select : Bool
  buffer1 : FrameBuffer
  buffer2 : FrameBuffer

/-- The buffer on screen. -/
def Scene.shown (s : Scene) : FrameBuffer := if s.select then s.buffer2 else s.buffer1

structure Colour where
  r : BitVec 8
  g : BitVec 8
  b : BitVec 8
deriving DecidableEq, Repr

/-- `{8{r}}`, `{8{g}}` and `{8{b}}` of a pixel `{r,g,b}`. -/
def replicated (pixel : BitVec 3) : Colour where
  r := BitVec.fill 8 (pixel.getLsbD 2)
  g := BitVec.fill 8 (pixel.getLsbD 1)
  b := BitVec.fill 8 (pixel.getLsbD 0)

def Registers.colour (r : Registers) (s : Scene) : Colour :=
  if s.select then replicated (r.buffer2.q s.buffer2) else replicated (r.buffer1.q s.buffer1)

def run : Nat → Registers
  | 0 => {}
  | n + 1 => (run n).clock

/-- The address that the drawing side gives the pixel under the beam: every pixel is two
columns wide and two rows high. -/
def pixelAddress (drawX drawY : BitVec 10) : BitVec 17 :=
  BitVec.ofNat 17 (drawY.toNat / 2 * 320 + drawX.toNat / 2)

/-- A cycle that shows the pixel under the beam, or is blanked. -/
def Agrees (r : Registers) (s : Scene) : Prop :=
  r.vga.blankN = true → r.colour s = replicated (s.shown (pixelAddress r.drawX r.drawY))

instance (r : Registers) (s : Scene) : Decidable (Agrees r s) :=
  inferInstanceAs (Decidable (_ → _))

/-- The cycles of one frame, from the first column of the first row on. -/
def InFrame (frame n : Nat) : Prop := frame * 420000 ≤ n ∧ n < (frame + 1) * 420000

variable {n frame : Nat} {s : Scene}

theorem replicated_injective {p q : BitVec 3} (same : replicated p = replicated q) : p = q := by
  revert p q
  decide

theorem run_at (n : Nat) : (run n).vga.At n := by
  induction n with
  | zero => exact ⟨rfl, rfl⟩
  | succ n ih => exact ih.clock

/-- The place that cycle `n` addresses. -/
def addressed (n : Nat) : Nat := n / 800 % 525 / 2 % 240 * 320 + n % 800 / 2 % 320

theorem addressed_lt (n : Nat) : addressed n < 76800 := by
  rw [addressed]
  omega

theorem rdaddress_run (n : Nat) :
    rdaddress (run n).drawX (run n).drawY = BitVec.ofNat 17 (addressed n) := by
  obtain ⟨column, row⟩ := run_at n
  rw [rdaddress, addressed, Registers.drawX, Registers.drawY, BitVec.toNat_ushiftRight,
    BitVec.toNat_ushiftRight, column, row, Nat.shiftRight_one, Nat.shiftRight_one]

/-- The buffer on screen is read at the place of the cycle before. -/
theorem colour_succ (n : Nat) (s : Scene) :
    (run (n + 1)).colour s = replicated (s.shown (BitVec.ofNat 17 (addressed n))) := by
  rw [← rdaddress_run, Registers.colour, Scene.shown]
  cases s.select <;> rfl

theorem blankN_succ (n : Nat) : (run (n + 1)).vga.blankN =
    decide ((n + 1) % 800 < 640 ∧ (n + 1) / 800 % 525 < 480) := (run_at n).blankN

theorem pixelAddress_run (visible : n % 800 < 640 ∧ n / 800 % 525 < 480) :
    pixelAddress (run n).drawX (run n).drawY = BitVec.ofNat 17 (addressed n) := by
  obtain ⟨column, row⟩ := run_at n
  rw [pixelAddress, addressed, Registers.drawX, Registers.drawY, column, row,
    Nat.mod_eq_of_lt (show n / 800 % 525 / 2 < 240 by omega),
    Nat.mod_eq_of_lt (show n % 800 / 2 < 320 by omega)]

/-- A visible cycle is right when its pixel and the one addressed before look alike. -/
theorem agrees_succ (n : Nat) (s : Scene) : Agrees (run (n + 1)) s ↔
    ((n + 1) % 800 < 640 ∧ (n + 1) / 800 % 525 < 480 →
      s.shown (BitVec.ofNat 17 (addressed n)) = s.shown (BitVec.ofNat 17 (addressed (n + 1)))) := by
  rw [Agrees, blankN_succ, decide_eq_true_iff, colour_succ]
  refine imp_congr_right fun visible => ?_
  rw [pixelAddress_run visible]
  exact ⟨replicated_injective, congrArg replicated⟩

/-- The cycle at a column and a row of a frame. -/
def cycleAt (frame row column : Nat) : Nat := frame * 420000 + row * 800 + column

theorem cycleAt_column {row column : Nat} (inside : column < 800) :
    cycleAt frame row column % 800 = column := by
  rw [cycleAt]
  omega

theorem cycleAt_row {row column : Nat} (inside : column < 800) (below : row < 525) :
    cycleAt frame row column / 800 % 525 = row := by
  have line : cycleAt frame row column / 800 = frame * 525 + row := by
    rw [cycleAt]
    omega
  rw [line]
  omega

theorem addressed_cycleAt {row column : Nat} (inside : column < 800) (below : row < 525) :
    addressed (cycleAt frame row column) = row / 2 % 240 * 320 + column / 2 % 320 := by
  rw [addressed, cycleAt_row inside below, cycleAt_column inside]

/-- Every place but the first is shown in a cycle that comes after one for an earlier place:
its left neighbour, or, at the left edge, a place of the row above. -/
theorem addressed_before (frame : Nat) {place : Nat} (inside : place + 1 < 76800) :
    ∃ n, InFrame frame (n + 1) ∧ ((n + 1) % 800 < 640 ∧ (n + 1) / 800 % 525 < 480) ∧
      addressed (n + 1) = place + 1 ∧ addressed n ≤ place := by
  have parts : place + 1 = (place + 1) / 320 * 320 + (place + 1) % 320 := by omega
  generalize row_eq : (place + 1) / 320 = row at parts
  generalize column_eq : (place + 1) % 320 = column at parts
  have below : row < 240 := by omega
  have across : column < 320 := by omega
  have now : addressed (cycleAt frame (2 * row) (2 * column)) = place + 1 := by
    rw [addressed_cycleAt (by omega) (by omega)]
    omega
  have visible : cycleAt frame (2 * row) (2 * column) % 800 < 640 ∧
      cycleAt frame (2 * row) (2 * column) / 800 % 525 < 480 := by
    rw [cycleAt_column (by omega), cycleAt_row (by omega) (by omega)]
    omega
  have within : InFrame frame (cycleAt frame (2 * row) (2 * column)) := by
    rw [InFrame, cycleAt]
    omega
  rcases Nat.eq_zero_or_pos column with edge | inner
  · have next : cycleAt frame (2 * row - 1) 799 + 1 = cycleAt frame (2 * row) (2 * column) := by
      simp only [cycleAt]
      omega
    rw [← next] at now visible within
    refine ⟨_, within, visible, now, ?_⟩
    rw [addressed_cycleAt (by omega) (by omega)]
    omega
  · have next : cycleAt frame (2 * row) (2 * column - 1) + 1 =
        cycleAt frame (2 * row) (2 * column) := by
      simp only [cycleAt]
      omega
    rw [← next] at now visible within
    refine ⟨_, within, visible, now, ?_⟩
    rw [addressed_cycleAt (by omega) (by omega)]
    omega

/-- The address is registered and the counters have moved on when the pixel is shown, so a
frame comes out right exactly when its buffer is of one colour. -/
theorem frame_agrees_iff (scenes : Nat → Scene) (frame : Nat) (s : Scene)
    (constant : ∀ n, InFrame frame n → (run n).vga.blankN = true → scenes n = s) :
    (∀ n, InFrame frame n → Agrees (run n) (scenes n)) ↔
      ∀ place : BitVec 17, place.toNat < 76800 → s.shown place = s.shown 0 := by
  have same : ∀ n, InFrame frame n → (Agrees (run n) (scenes n) ↔ Agrees (run n) s) := by
    intro n within
    refine imp_congr_right fun visible => ?_
    rw [constant n within visible]
  constructor
  · intro agrees
    have alike : ∀ place < 76800, s.shown (BitVec.ofNat 17 place) = s.shown 0 := by
      intro place
      induction place using Nat.strongRecOn with
      | ind place ih =>
          intro inside
          cases place with
          | zero => rfl
          | succ place =>
              obtain ⟨n, within, visible, now, before⟩ := addressed_before frame inside
              have shown := (same _ within).mp (agrees _ within)
              rw [agrees_succ, now] at shown
              exact (shown visible).symm.trans
                (ih (addressed n) (Nat.lt_succ_of_le before) (addressed_lt n))
    intro place inside
    have shown := alike place.toNat inside
    rwa [BitVec.ofNat_toNat, BitVec.setWidth_eq] at shown
  · intro alike n within
    have here : ∀ k, s.shown (BitVec.ofNat 17 (addressed k)) = s.shown 0 := by
      intro k
      refine alike _ ?_
      rw [BitVec.toNat_ofNat]
      exact (Nat.mod_le _ _).trans_lt (addressed_lt k)
    refine (same n within).mpr ?_
    cases n with
    | zero => exact fun visible => absurd visible (by decide)
    | succ n => exact (agrees_succ n s).mpr fun _ => (here n).trans (here (n + 1)).symm

/-- The screen in white; what lies past it in the memory is not. -/
def white : Scene := ⟨false, fun place => if place.toNat < 76800 then 7 else 0, fun _ => 0⟩

theorem frame_agrees_iff_white :
    white.shown 76800 ≠ white.shown 0 ∧ ∀ n, InFrame 0 n → Agrees (run n) white := by
  refine ⟨by decide, ?_⟩
  refine (frame_agrees_iff (fun _ => white) 0 white fun _ _ _ => rfl).mpr fun place inside => ?_
  show (if place.toNat < 76800 then 7 else 0) = white.shown 0
  rw [if_pos inside]
  rfl

/-- The first pixel in white, which is shown in the third column as well. -/
def firstWhite : Scene := ⟨false, fun place => if place = 0 then 7 else 0, fun _ => 0⟩

theorem first_white_spreads : ¬ ∀ n, InFrame 0 n → Agrees (run n) firstWhite := by
  intro agrees
  have third := agrees 2 ⟨by decide, by decide⟩
  exact absurd third (by decide +kernel)

end ScanOut

end WireframeGpu
