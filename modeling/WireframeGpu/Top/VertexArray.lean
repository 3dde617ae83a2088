import WireframeGpu.Data.Trace
import WireframeGpu.Top.Registerfile

namespace WireframeGpu

open WireframeGpu.Data

namespace Registerfile

/-! The vertex array after any sequence of bus cycles. -/

/-- The last value written to an address since the last reset, zero if there is none. -/
def latest (inputs : Nat → Inputs) (address : BitVec 7) (n : Nat) : BitVec 32 :=
  (lastWritten Inputs.reset (Inputs.written address) inputs n).getD 0

def run (start : Registers) (inputs : Nat → Inputs) : Nat → Registers :=
  trace Registers.clock start inputs

theorem run_succ (start : Registers) (inputs : Nat → Inputs) (n : Nat) :
    run start inputs (n + 1) = (run start inputs n).clock (inputs n) := trace_succ _ _ _ _

/-- No cycle writes while it resets. -/
def Quiet (inputs : Nat → Inputs) : Prop :=
  ∀ k, (inputs k).reset = true → ((inputs k).avlWrite && (inputs k).avlCs) = false

/-- The registers power up as zero, or have been reset. -/
def Cleared (start : Registers) (inputs : Nat → Inputs) (n : Nat) : Prop :=
  (∀ address, start.regs address = 0) ∨ ∃ k < n, (inputs k).reset = true

variable {start : Registers} {inputs : Nat → Inputs} {n : Nat} {address : BitVec 7}

theorem Quiet.written (quiet : Quiet inputs) (address : BitVec 7) (k : Nat)
    (resets : (inputs k).reset = true) : (inputs k).written address = none := by
  refine Inputs.written_none fun writes selected => ?_
  have low := quiet k resets
  rw [writes, selected] at low
  cases low

theorem run_regs (quiet : Quiet inputs) (cleared : Cleared start inputs n) (address : BitVec 7) :
    (run start inputs n).regs address = latest inputs address n := by
  refine trace_lastWritten (fun r : Registers => r.regs address) 0 ?_ ?_ ?_ (quiet.written address)
    (cleared.imp_left fun zero => zero address)
  · intro r i word writes
    rw [Registers.clock_regs, writes]
    rfl
  · intro r i keeps resets
    rw [Registers.clock_regs, keeps, if_pos resets]
    rfl
  · intro r i keeps runs
    rw [Registers.clock_regs, keeps, if_neg (Bool.eq_false_iff.mp runs)]
    rfl

/-- A write keeps every register but its own. -/
theorem run_regs_other (quiet : Quiet inputs)
    (writes : ((inputs n).avlWrite && (inputs n).avlCs) = true)
    (other : address ≠ (inputs n).avlAddr) :
    (run start inputs (n + 1)).regs address = (run start inputs n).regs address := by
  have runs : (inputs n).reset = false := by
    cases resets : (inputs n).reset
    · rfl
    · cases (quiet n resets).symm.trans writes
  have keeps : (inputs n).written address = none := Inputs.written_none fun _ _ => other
  rw [run_succ, Registers.clock_regs, keeps, runs]
  rfl

end Registerfile

namespace ArrayPacker

open Registerfile

/-- An entry of the vertex array shows what was last written to its address, and a
write to any other address leaves it unchanged. -/
structure Mirrors (inputs : Nat → Inputs) (n : Nat) (address : BitVec 7)
    (entry : Nat → BitVec 32) : Prop where
  last : entry n = latest inputs address n
  other : ((inputs n).avlWrite && (inputs n).avlCs) = true → address ≠ (inputs n).avlAddr →
    entry (n + 1) = entry n

theorem mirrors {start : Registers} {inputs : Nat → Inputs} {n : Nat} (quiet : Quiet inputs)
    (cleared : Cleared start inputs n) (first : Nat) (row : Fin 12) (index : Fin 3) :
    Mirrors inputs n (BitVec.ofNat 7 (first + (3 * row + index))) fun k =>
      unpacked (concatenated (run start inputs k).regs first 36) row index := by
  refine ⟨?_, fun writes other => ?_⟩
  · rw [unpacked_concatenated]
    exact run_regs quiet cleared _
  · rw [unpacked_concatenated, unpacked_concatenated]
    exact run_regs_other quiet writes other

/-- Whatever the bus does, each vertex shows the last writes to its three addresses. -/
theorem vertices_last_written (start : Registers) (inputs : Nat → Inputs) (n : Nat)
    (quiet : Quiet inputs) (cleared : Cleared start inputs n) (row : Fin 12) (index : Fin 3) :
    Mirrors inputs n (BitVec.ofNat 7 (3 * row + index))
        (fun k => unpacked (run start inputs k).exportX row index) ∧
      Mirrors inputs n (BitVec.ofNat 7 (36 + (3 * row + index)))
        (fun k => unpacked (run start inputs k).exportY row index) ∧
      Mirrors inputs n (BitVec.ofNat 7 (72 + (3 * row + index)))
        (fun k => unpacked (run start inputs k).exportZ row index) := by
  have x := mirrors quiet cleared 0 row index
  rw [Nat.zero_add] at x
  exact ⟨x, mirrors quiet cleared 36 row index, mirrors quiet cleared 72 row index⟩

/-- A reset, and a write to the `x` of the last corner of the second triangle. -/
def corner : Nat → Inputs
  | 0 => { reset := true }
  | 1 => { avlWrite := true, avlCs := true, avlAddr := 5, avlWritedata := 7 }
  | _ => {}

theorem corner_quiet : Quiet corner
  | 0, _ => rfl
  | 1, resets => by cases resets
  | _ + 2, _ => rfl

theorem vertices_last_written_corner :
    unpacked (run ⟨fun _ => 1, 0⟩ corner 2).exportX 1 2 = 7 ∧
      unpacked (run ⟨fun _ => 1, 0⟩ corner 2).exportY 1 2 = 0 := by
  obtain ⟨x, y, -⟩ := vertices_last_written ⟨fun _ => 1, 0⟩ corner 2 corner_quiet
    (.inr ⟨0, by decide, rfl⟩) 1 2
  exact ⟨x.last.trans (by decide), y.last.trans (by decide)⟩

end ArrayPacker

end WireframeGpu
