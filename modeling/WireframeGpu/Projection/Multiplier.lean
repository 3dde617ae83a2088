import WireframeGpu.Data.SerialArithmetic

namespace WireframeGpu.Multiplier

open WireframeGpu.Data

/-! The serial `multiplier` of `polygonRaster.sv`, at its parameters `Q = 15`
and `N = 32`. -/

structure Registers where
  workingResult : BitVec 63 := 0
  multiplierTemp : BitVec 63 := 0
  multiplicandTemp : BitVec 32 := 0
  count : BitVec 32 := 0
  done : Bool := true
  sign : Bool := false
  overflow : Bool := false
deriving DecidableEq, Repr

structure Inputs where
  multiplicand : BitVec 32
  multiplier : BitVec 32
  start : Bool

namespace Registers

/-- `o_result_out`: the sign bit and bits 45 to 15 of the result. -/
def resultOut (r : Registers) : BitVec 32 :=
  BitVec.cons r.sign (r.workingResult.extractLsb' 15 31)

def clock (r : Registers) (i : Inputs) : Registers :=
  if r.done && i.start then
    { done := false
      count := 0
      workingResult := 0
      overflow := false
      multiplicandTemp := (i.multiplicand.setWidth 31).setWidth 32
      multiplierTemp := (i.multiplier.setWidth 31).setWidth 63
      sign := i.multiplicand.msb ^^ i.multiplier.msb }
  else if !r.done then
    { r with
      -- bit 32 of the 32-bit register is read in the last step: it is not 1
      workingResult := if r.multiplicandTemp.getLsbD r.count.toNat
        then r.workingResult + r.multiplierTemp else r.workingResult
      multiplierTemp := r.multiplierTemp <<< 1
      count := r.count + 1
      done := r.count == 32
      overflow := if r.count == 32 && r.workingResult.extractLsb' 46 17 > 0
        then true else r.overflow }
  else r

end Registers

/-- What the unit delivers: signs apart, the product of the low 31 bits with
fifteen fraction bits dropped. -/
def product (a b : BitVec 32) : BitVec 32 :=
  BitVec.cons (a.msb ^^ b.msb) (BitVec.ofNat 31 (a.toNat % 2 ^ 31 * (b.toNat % 2 ^ 31) / 2 ^ 15))

variable {a b : BitVec 32} {r : Registers} {i : Inputs} {count left : Nat}

structure Counting (left : Nat) (r : Registers) : Prop where
  done : r.done = decide (left = 0)
  count : 0 < left → r.count.toNat + left = 33

theorem counting_of_start (idle : r.done = true) : Counting 33 (r.clock ⟨a, b, true⟩) := by
  simp only [Registers.clock, idle, Bool.and_self, ↓reduceIte]
  exact ⟨rfl, fun _ => rfl⟩

theorem Counting.clock (counting : Counting left r) (quiet : i.start = false) :
    Counting (left - 1) (r.clock i) := by
  cases left with
  | zero =>
      have idle : r.done = true := counting.done
      have unchanged : r.clock i = r := by simp [Registers.clock, idle, quiet]
      rw [unchanged]
      exact counting
  | succ left =>
      have busy : r.done = false := counting.done
      have count := counting.count (Nat.succ_pos left)
      have one : (1 : BitVec 32).toNat = 1 := rfl
      have last : (r.count == 32) = decide (left = 0) := by
        rw [Bool.eq_iff_iff, beq_iff_eq, decide_eq_true_eq, ← BitVec.toNat_inj]
        change r.count.toNat = 32 ↔ left = 0
        omega
      simp only [Registers.clock, busy, Bool.false_and, Bool.false_eq_true, ↓reduceIte,
        Bool.not_false]
      exact ⟨last, fun _ => by simp only [BitVec.toNat_add, one]; omega⟩

/-- The unit has been started on `a` and `b` and has added `count` bits. -/
structure Running (a b : BitVec 32) (count : Nat) (r : Registers) : Prop where
  busy : r.done = false
  inside : count ≤ 32
  counter : r.count.toNat = count
  sign : r.sign = (a.msb ^^ b.msb)
  multiplicand : r.multiplicandTemp.toNat = a.toNat % 2 ^ 31
  multiplier : r.multiplierTemp.toNat = b.toNat % 2 ^ 31 * 2 ^ count
  result : r.workingResult.toNat = a.toNat % 2 ^ 31 % 2 ^ count * (b.toNat % 2 ^ 31)

structure Finished (a b : BitVec 32) (r : Registers) : Prop where
  idle : r.done = true
  result : r.resultOut = product a b

def Holds (a b : BitVec 32) (r : Registers) : Prop :=
  (∃ count, Running a b count r) ∨ Finished a b r

theorem running_of_start (idle : r.done = true) :
    Running a b 0 (r.clock ⟨a, b, true⟩) := by
  constructor <;> simp [Registers.clock, idle, Nat.mod_one]
  · have := a.isLt
    omega
  · have := b.isLt
    omega

theorem idle_clock (idle : r.done = true) (quiet : i.start = false) : r.clock i = r := by
  simp [Registers.clock, idle, quiet]

theorem partial_product_small (a b : BitVec 32) (count : Nat) :
    a.toNat % 2 ^ 31 % 2 ^ count * (b.toNat % 2 ^ 31) < 2 ^ 63 := by
  have low : a.toNat % 2 ^ 31 % 2 ^ count < 2 ^ 31 :=
    Nat.lt_of_le_of_lt (Nat.mod_le _ _) (Nat.mod_lt _ (by decide))
  have factor : b.toNat % 2 ^ 31 < 2 ^ 31 := Nat.mod_lt _ (by decide)
  calc a.toNat % 2 ^ 31 % 2 ^ count * (b.toNat % 2 ^ 31)
      < 2 ^ 31 * 2 ^ 31 := Nat.mul_lt_mul'' low factor
    _ < 2 ^ 63 := by decide

theorem Running.next_result (running : Running a b count r) :
    (if r.multiplicandTemp.getLsbD r.count.toNat
      then r.workingResult + r.multiplierTemp else r.workingResult).toNat =
      a.toNat % 2 ^ 31 % 2 ^ (count + 1) * (b.toNat % 2 ^ 31) := by
  have bit : r.multiplicandTemp.getLsbD r.count.toNat = (a.toNat % 2 ^ 31).testBit count := by
    rw [BitVec.getLsbD, running.multiplicand, running.counter]
  have step := SerialArithmetic.product_step (a.toNat % 2 ^ 31) (b.toNat % 2 ^ 31) count
  have small := partial_product_small a b (count + 1)
  rw [bit]
  cases set : (a.toNat % 2 ^ 31).testBit count <;>
    simp only [set, Bool.false_eq_true, ↓reduceIte, Nat.add_zero] at step ⊢
  · rw [running.result, step]
  · rw [BitVec.toNat_add, running.result, running.multiplier, ← step, Nat.mod_eq_of_lt small]

theorem Running.step (running : Running a b count r) (more : count < 32) :
    Running a b (count + 1) (r.clock i) := by
  have counter := running.counter
  have factor : b.toNat % 2 ^ 31 < 2 ^ 31 := Nat.mod_lt _ (by decide)
  have last : (r.count == 32) = false := by
    simp only [beq_eq_false_iff_ne, ne_eq, ← BitVec.toNat_inj, counter]
    simp
    omega
  simp only [Registers.clock, running.busy, Bool.false_and, Bool.false_eq_true, ↓reduceIte,
    Bool.not_false]
  constructor
  · exact last
  · exact more
  · simp [BitVec.toNat_add, counter]
    omega
  · exact running.sign
  · exact running.multiplicand
  · have shifted : b.toNat % 2 ^ 31 * 2 ^ count * 2 < 2 ^ 63 := by
      have grown : 2 ^ count ≤ 2 ^ 31 := Nat.pow_le_pow_right (by decide) (by omega)
      have bound := Nat.mul_lt_mul_of_lt_of_le factor grown (by decide)
      omega
    rw [BitVec.toNat_shiftLeft, running.multiplier, Nat.shiftLeft_eq, Nat.pow_one,
      Nat.mod_eq_of_lt shifted]
    ring
  · exact running.next_result

theorem Running.finish (running : Running a b 32 r) : Finished a b (r.clock i) := by
  have last : (r.count == 32) = true := by
    simp only [beq_iff_eq, ← BitVec.toNat_inj, running.counter]
    rfl
  have result := running.next_result
  have whole : a.toNat % 2 ^ 31 % 2 ^ 33 = a.toNat % 2 ^ 31 :=
    Nat.mod_eq_of_lt (Nat.lt_trans (Nat.mod_lt _ (by decide)) (by decide))
  rw [whole] at result
  simp only [Registers.clock, running.busy, Bool.false_and, Bool.false_eq_true, ↓reduceIte,
    Bool.not_false]
  refine ⟨last, ?_⟩
  simp only [Registers.resultOut, product, running.sign]
  congr 1
  apply BitVec.eq_of_toNat_eq
  rw [BitVec.extractLsb'_toNat, result, BitVec.toNat_ofNat, Nat.shiftRight_eq_div_pow]

theorem holds_of_start (idle : r.done = true) : Holds a b (r.clock ⟨a, b, true⟩) :=
  .inl ⟨0, running_of_start idle⟩

theorem Holds.clock (holds : Holds a b r) (quiet : i.start = false) : Holds a b (r.clock i) := by
  rcases holds with ⟨count, running⟩ | finished
  · rcases Nat.lt_or_eq_of_le running.inside with more | rfl
    · exact .inl ⟨count + 1, running.step more⟩
    · exact .inr running.finish
  · rw [idle_clock finished.idle quiet]
    exact .inr finished

theorem Holds.result (holds : Holds a b r) (idle : r.done = true) :
    r.resultOut = product a b := by
  rcases holds with ⟨count, running⟩ | finished
  · cases running.busy.symm.trans idle
  · exact finished.result

end WireframeGpu.Multiplier
