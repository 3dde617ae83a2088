import Mathlib.Tactic.Common

namespace WireframeGpu

namespace Registerfile

/-! The Avalon slave of `registerfile.sv`, through which the loader passes the
vertices, the size and the start word. -/

structure Inputs where
  reset : Bool := false
  avlRead : Bool := false
  avlWrite : Bool := false
  avlCs : Bool := false
  avlAddr : BitVec 7 := 0
  avlWritedata : BitVec 32 := 0
deriving DecidableEq, Repr

structure Registers where
  regs : BitVec 7 → BitVec 32 := fun _ => 0
  avlReaddata : BitVec 32 := 0

/-- What a cycle writes to an address. -/
def Inputs.written (address : BitVec 7) (i : Inputs) : Option (BitVec 32) :=
  if i.avlWrite && i.avlCs && address == i.avlAddr then some i.avlWritedata else none

/-- The bits of `count` consecutive registers, the first one on top. -/
def concatenated (regs : BitVec 7 → BitVec 32) (first : Nat) : (count : Nat) → BitVec (32 * count)
  | 0 => 0
  | count + 1 => concatenated regs first count ++ regs (BitVec.ofNat 7 (first + count))

namespace Registers

/-- A write in the cycle of a reset is not lost: its assignment comes last. -/
def clock (r : Registers) (i : Inputs) : Registers where
  regs address :=
    if i.avlWrite && i.avlCs && address == i.avlAddr then i.avlWritedata
    else if i.reset then 0
    else r.regs address
  avlReaddata := if i.avlRead && i.avlCs then r.regs i.avlAddr else r.avlReaddata

theorem clock_regs (r : Registers) (i : Inputs) (address : BitVec 7) :
    (r.clock i).regs address =
      (i.written address).getD (if i.reset then 0 else r.regs address) := by
  simp only [clock, Inputs.written]
  split <;> rfl

def exportX (r : Registers) : BitVec 1152 := concatenated r.regs 0 36
def exportY (r : Registers) : BitVec 1152 := concatenated r.regs 36 36
def exportZ (r : Registers) : BitVec 1152 := concatenated r.regs 72 36
def exportStart (r : Registers) : BitVec 32 := r.regs 126
end Registers

theorem Inputs.written_none {i : Inputs} {address : BitVec 7}
    (other : i.avlWrite = true → i.avlCs = true → address ≠ i.avlAddr) :
    i.written address = none := by
  rw [Inputs.written, if_neg]
  rw [Bool.and_eq_true, Bool.and_eq_true, beq_iff_eq]
  rintro ⟨⟨writes, selected⟩, same⟩
  exact other writes selected same

theorem concatenated_word (regs : BitVec 7 → BitVec 32) (first : Nat) {count word : Nat}
    (inside : word < count) :
    (concatenated regs first count).extractLsb' (32 * (count - 1 - word)) 32 =
      regs (BitVec.ofNat 7 (first + word)) := by
  induction count with
  | zero => exact absurd inside (Nat.not_lt_zero _)
  | succ count ih =>
      simp only [concatenated, Nat.add_sub_cancel]
      rcases Nat.lt_succ_iff_lt_or_eq.mp inside with earlier | rfl
      · have above : 32 * (count - word) = 32 * (count - 1 - word) + 32 := by omega
        rw [above, BitVec.extractLsb'_append_eq_of_le (by omega), Nat.add_sub_cancel]
        exact ih earlier
      · rw [Nat.sub_self, Nat.mul_zero]
        exact BitVec.extractLsb'_append_eq_right

end Registerfile

namespace ArrayPacker

/-! `arrayPacker` cuts the packed exports into vertices again. -/

def tracker (row : Fin 12) (index : Fin 3) : Nat := 1151 - 96 * row - 32 * index

/-- `X[tracker : tracker-31]`. -/
def unpacked (packed : BitVec 1152) (row : Fin 12) (index : Fin 3) : BitVec 32 :=
  packed.extractLsb' (tracker row index - 31) 32

/-- Packing and unpacking bring vertex `index` of triangle `row` from register
`3 * row + index` of its block. -/
theorem unpacked_concatenated (regs : BitVec 7 → BitVec 32) (first : Nat) (row : Fin 12)
    (index : Fin 3) :
    unpacked (Registerfile.concatenated regs first 36) row index =
      regs (BitVec.ofNat 7 (first + (3 * row + index))) := by
  have place : tracker row index - 31 = 32 * (36 - 1 - (3 * row + index)) := by
    have := row.isLt
    have := index.isLt
    simp only [tracker]
    omega
  simp only [unpacked, place]
  exact Registerfile.concatenated_word regs first (by omega)

end ArrayPacker

end WireframeGpu
