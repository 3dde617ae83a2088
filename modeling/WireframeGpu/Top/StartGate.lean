import WireframeGpu.Top.Boot

namespace WireframeGpu

open WireframeGpu.Data WireframeGpu.Software

/-! The start word, and the edges after which a frame starts. -/

namespace Registerfile.Registers

/-- The start bit is stored high in this clock, or is high and kept. -/
def keepsStart (r : Registers) (i : Inputs) : Bool :=
  if i.avlWrite && i.avlCs && i.avlAddr == 126 then i.avlWritedata.getLsbD 0
  else !i.reset && r.exportStart.getLsbD 0

theorem clock_exportStart (r : Registers) (i : Inputs) :
    (r.clock i).exportStart.getLsbD 0 = r.keepsStart i := by
  have same : ((126 : BitVec 7) == i.avlAddr) = (i.avlAddr == 126) := BEq.comm
  simp only [exportStart, clock_regs, Inputs.written, keepsStart, same]
  split
  · rfl
  · split <;> simp_all

end Registerfile.Registers

namespace Gpu

variable {m : Megafunctions} {g : Gpu} {i : Inputs} {buffer1 buffer2 : FrameBuffer}
  {schedule : Nat → Option Store} {switched : Nat → Bool}

/-- The edges after which top starts a frame: out of `DUMB`, and out of `S1` or
`S3` once the frames are switched. -/
def Leaves (g : Gpu) (frameSwitched : Bool) : Prop :=
  g.top.state = .dumb ∨ (g.top.state = .s1 ∨ g.top.state = .s3) ∧ frameSwitched = true

theorem starts_iff_leaves :
    (g.clock m i).top.state.phase = .start ↔ g.Leaves i.frameSwitched := by
  rw [clock_phase, Top.Registers.nextPhase, Leaves]
  cases state : g.top.state <;> simp only [Top.State.phase] <;> (repeat' split) <;>
    simp_all [topInputs]

/-- The stores of the loader reach the bus when the schedule says. -/
def driven (schedule : Nat → Option Store) (switched : Nat → Bool) (k : Nat) : Inputs where
  bus := bus (schedule k)
  frameSwitched := switched k

theorem keepsStart_bus (r : Registerfile.Registers) (store : Option Store) :
    r.keepsStart (bus store) = startBit (r.exportStart.getLsbD 0) store.toList := by
  cases store with
  | none => rfl
  | some s =>
      have decoded : (decide (s.index < 128) && BitVec.ofNat 7 s.index == 126) =
          decide (s.index = 126) := by
        rw [Bool.eq_iff_iff, Bool.and_eq_true, decide_eq_true_eq, beq_iff_eq, decide_eq_true_eq,
          ← BitVec.toNat_inj, BitVec.toNat_ofNat]
        show s.index < 128 ∧ s.index % 128 = 126 ↔ s.index = 126
        omega
      simp only [Registerfile.Registers.keepsStart, bus, Store.bus, Bool.true_and, decoded,
        decide_eq_true_eq, Bool.not_false]
      rfl

theorem start_bit (n : Nat) :
    (run m (powerUp buffer1 buffer2) (driven schedule switched)
      n).registerfile.exportStart.getLsbD 0 = startBit false (emitted schedule n) := by
  induction n with
  | zero =>
      have zero : (powerUp buffer1 buffer2).registerfile.exportStart = 0 := rfl
      show (powerUp buffer1 buffer2).registerfile.exportStart.getLsbD 0 = false
      rw [zero]
      decide
  | succ n ih =>
      rw [emitted_succ, startBit_append, ← ih, ← keepsStart_bus]
      exact Registerfile.Registers.clock_exportStart _ _

def early (k : Nat) : Bool := 3 ≤ k

end Gpu

end WireframeGpu
