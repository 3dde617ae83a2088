import WireframeGpu.Data.SerialArithmetic

namespace WireframeGpu.Divider

open WireframeGpu.Data

/-! The serial `divider` of `polygonRaster.sv`, at its parameters `Q = 15` and
`N = 32`. -/

structure Registers where
  workingQuotient : BitVec 77 := 0
  quotient : BitVec 32 := 0
  workingDividend : BitVec 46 := 0
  workingDivisor : BitVec 77 := 0
  count : BitVec 32 := 0
  done : Bool := true
  sign : Bool := false
  overflow : Bool := false
deriving DecidableEq, Repr

structure Inputs where
  dividend : BitVec 32
  divisor : BitVec 32
  start : Bool

namespace Registers

/-- `o_quotient_out`: the sign bit and bits 30 to 0 of the quotient. -/
def quotientOut (r : Registers) : BitVec 32 :=
  BitVec.cons r.sign (r.quotient.setWidth 31)

def fits (r : Registers) : Bool := r.workingDividend.setWidth 77 ≥ r.workingDivisor

def clock (r : Registers) (i : Inputs) : Registers :=
  if r.done && i.start then
    { r with
      done := false
      count := 46
      workingQuotient := 0
      overflow := false
      workingDividend := (i.dividend.setWidth 31).setWidth 46 <<< 15
      workingDivisor := (i.divisor.setWidth 31).setWidth 77 <<< 46
      sign := i.dividend.msb ^^ i.divisor.msb }
  else if !r.done then
    { r with
      workingDivisor := r.workingDivisor >>> 1
      count := r.count - 1
      workingQuotient := if r.fits then r.workingQuotient ||| (1#77 <<< r.count.toNat)
        else r.workingQuotient
      workingDividend := if r.fits
        then (r.workingDividend.setWidth 77 - r.workingDivisor).setWidth 46
        else r.workingDividend
      done := r.count == 0
      -- the copy is taken before the quotient bit of this last step is set
      quotient := if r.count == 0 then r.workingQuotient.setWidth 32 else r.quotient
      overflow := if r.count == 0 && r.workingQuotient.extractLsb' 32 45 > 0
        then true else r.overflow }
  else r

end Registers

/-- The quotient bits from `bit` upwards. Nothing is subtracted for a zero
divisor, so then every bit is set. -/
def upperQuotient (dividend divisor bit : Nat) : Nat :=
  if divisor = 0 then 2 ^ 47 - 2 ^ bit else dividend / (divisor * 2 ^ bit) * 2 ^ bit

/-- What the unit delivers: signs apart, the quotient with fifteen fraction
bits, whose lowest bit is never copied out. -/
def quotient (a b : BitVec 32) : BitVec 32 :=
  BitVec.cons (a.msb ^^ b.msb)
    (BitVec.ofNat 31 (upperQuotient (a.toNat % 2 ^ 31 * 2 ^ 15) (b.toNat % 2 ^ 31) 1))

variable {a b : BitVec 32} {r : Registers} {i : Inputs} {count left : Nat}

structure Counting (left : Nat) (r : Registers) : Prop where
  done : r.done = decide (left = 0)
  count : 0 < left → r.count.toNat + 1 = left

theorem counting_of_start (idle : r.done = true) : Counting 47 (r.clock ⟨a, b, true⟩) := by
  simp only [Registers.clock, idle, Bool.and_self, ↓reduceIte]
  exact ⟨rfl, fun _ => rfl⟩

theorem Counting.clock (counting : Counting left r) (quiet : i.start = false) :
    Counting (left - 1) (r.clock i) := by
  cases left with
  | zero =>
      have idle : r.done = true := counting.done
      have unchanged : r.clock i = r := by simp [Registers.clock, idle, quiet]
      rw [unchanged]
      exact counting
  | succ left =>
      have busy : r.done = false := counting.done
      have count := counting.count (Nat.succ_pos left)
      have one : (1 : BitVec 32).toNat = 1 := rfl
      have last : (r.count == 0) = decide (left = 0) := by
        rw [Bool.eq_iff_iff, beq_iff_eq, decide_eq_true_eq, ← BitVec.toNat_inj]
        change r.count.toNat = 0 ↔ left = 0
        omega
      simp only [Registers.clock, busy, Bool.false_and, Bool.false_eq_true, ↓reduceIte,
        Bool.not_false]
      exact ⟨last, fun _ => by simp only [BitVec.toNat_sub, one]; omega⟩

/-- The unit has been started on `a` and `b` and decides bit `count` next. -/
structure Running (a b : BitVec 32) (count : Nat) (r : Registers) : Prop where
  busy : r.done = false
  inside : count ≤ 46
  counter : r.count.toNat = count
  sign : r.sign = (a.msb ^^ b.msb)
  divisor : r.workingDivisor.toNat = b.toNat % 2 ^ 31 * 2 ^ count
  dividend : r.workingDividend.toNat =
    a.toNat % 2 ^ 31 * 2 ^ 15 % (b.toNat % 2 ^ 31 * 2 ^ (count + 1))
  quotient : r.workingQuotient.toNat =
    upperQuotient (a.toNat % 2 ^ 31 * 2 ^ 15) (b.toNat % 2 ^ 31) (count + 1)

structure Finished (a b : BitVec 32) (r : Registers) : Prop where
  idle : r.done = true
  result : r.quotientOut = quotient a b

def Holds (a b : BitVec 32) (r : Registers) : Prop :=
  (∃ count, Running a b count r) ∨ Finished a b r

theorem running_of_start (idle : r.done = true) :
    Running a b 46 (r.clock ⟨a, b, true⟩) := by
  have small : a.toNat % 2 ^ 31 * 2 ^ 15 < 2 ^ 46 := by omega
  have top : 0 < b.toNat % 2 ^ 31 →
      a.toNat % 2 ^ 31 * 2 ^ 15 < b.toNat % 2 ^ 31 * 2 ^ 47 := by omega
  simp only [Registers.clock, idle, Bool.and_self, ↓reduceIte]
  refine ⟨rfl, by decide, rfl, rfl, ?_, ?_, ?_⟩
  · simp only [BitVec.toNat_shiftLeft, BitVec.toNat_setWidth, Nat.shiftLeft_eq]
    omega
  · simp only [BitVec.toNat_shiftLeft, BitVec.toNat_setWidth, Nat.shiftLeft_eq]
    rcases Nat.eq_zero_or_pos (b.toNat % 2 ^ 31) with zero | positive
    · simp only [zero, Nat.zero_mul, Nat.mod_zero]
      omega
    · rw [Nat.mod_eq_of_lt (top positive)]
      omega
  · simp only [upperQuotient]
    split
    · rfl
    · rw [Nat.div_eq_of_lt (top (by omega))]
      rfl

theorem idle_clock (idle : r.done = true) (quiet : i.start = false) : r.clock i = r := by
  simp [Registers.clock, idle, quiet]

theorem Running.fits_iff (running : Running a b count r) :
    r.fits = decide (b.toNat % 2 ^ 31 * 2 ^ count ≤
      a.toNat % 2 ^ 31 * 2 ^ 15 % (b.toNat % 2 ^ 31 * 2 ^ (count + 1))) := by
  have wide : (r.workingDividend.setWidth 77).toNat = r.workingDividend.toNat :=
    BitVec.toNat_setWidth_of_le (by decide)
  simp only [Registers.fits, ge_iff_le, BitVec.le_def, wide, running.divisor, running.dividend]

/-- The quotient register takes in the bit that the comparison decides. -/
theorem Running.next_quotient (running : Running a b count r) :
    (if r.fits then r.workingQuotient ||| (1#77 <<< r.count.toNat)
      else r.workingQuotient).toNat =
      upperQuotient (a.toNat % 2 ^ 31 * 2 ^ 15) (b.toNat % 2 ^ 31) count := by
  have inside := running.inside
  have bit : (1#77 <<< r.count.toNat).toNat = 2 ^ count := by
    have small : 2 ^ count < 2 ^ 77 := Nat.pow_lt_pow_right (by decide) (by omega)
    rw [running.counter, BitVec.toNat_shiftLeft, Nat.shiftLeft_eq]
    simpa using Nat.mod_eq_of_lt small
  have doubled : 2 ^ (count + 1) = 2 * 2 ^ count := Nat.pow_succ'
  rw [running.fits_iff]
  rcases Nat.eq_zero_or_pos (b.toNat % 2 ^ 31) with zero | positive
  · have whole : 2 ^ 47 - 2 ^ (count + 1) = (2 ^ (46 - count) - 1) * 2 ^ (count + 1) := by
      rw [Nat.sub_mul, ← Nat.pow_add, Nat.one_mul]
      congr 2
      omega
    have room : 2 ^ (count + 1) ≤ 2 ^ 47 := Nat.pow_le_pow_right (by decide) (by omega)
    have quotient := running.quotient
    simp only [upperQuotient, zero, ↓reduceIte, Nat.zero_mul, Nat.zero_le,
      decide_true] at quotient ⊢
    rw [BitVec.toNat_or, quotient, bit, whole, SerialArithmetic.set_bit, ← whole]
    omega
  · have multiple : b.toNat % 2 ^ 31 * 2 ^ (count + 1) = 2 * (b.toNat % 2 ^ 31 * 2 ^ count) := by
      rw [doubled]; ring
    have quotient := running.quotient
    have step := (SerialArithmetic.quotient_step
      (Nat.mul_pos positive (Nat.two_pow_pos count)) (a.toNat % 2 ^ 31 * 2 ^ 15)).1
    simp only [upperQuotient, Nat.ne_of_gt positive, ↓reduceIte, multiple] at quotient ⊢
    rw [step]
    split <;> rename_i fits <;> rw [decide_eq_true_eq] at fits
    · rw [BitVec.toNat_or, quotient, bit, SerialArithmetic.set_bit, if_pos fits, doubled]
      ring
    · rw [quotient, if_neg fits, doubled]
      ring

theorem Running.next_dividend (running : Running a b count r) :
    (if r.fits then (r.workingDividend.setWidth 77 - r.workingDivisor).setWidth 46
      else r.workingDividend).toNat =
      a.toNat % 2 ^ 31 * 2 ^ 15 % (b.toNat % 2 ^ 31 * 2 ^ count) := by
  have wide : (r.workingDividend.setWidth 77).toNat = r.workingDividend.toNat :=
    BitVec.toNat_setWidth_of_le (by decide)
  have dividend := running.dividend
  have small := r.workingDividend.isLt
  rw [running.fits_iff]
  rcases Nat.eq_zero_or_pos (b.toNat % 2 ^ 31) with zero | positive
  · have divisor : r.workingDivisor.toNat = 0 := by rw [running.divisor, zero, Nat.zero_mul]
    simp only [zero, Nat.zero_mul, Nat.mod_zero, Nat.zero_le, decide_true, ↓reduceIte]
      at dividend ⊢
    rw [BitVec.toNat_setWidth, BitVec.toNat_sub, wide, divisor, dividend]
    omega
  · have multiple : b.toNat % 2 ^ 31 * 2 ^ (count + 1) = 2 * (b.toNat % 2 ^ 31 * 2 ^ count) := by
      rw [Nat.pow_succ']; ring
    have step := (SerialArithmetic.quotient_step
      (Nat.mul_pos positive (Nat.two_pow_pos count)) (a.toNat % 2 ^ 31 * 2 ^ 15)).2
    have divisor := running.divisor
    have bounded := r.workingDivisor.isLt
    rw [multiple] at dividend ⊢
    rw [step]
    split <;> rename_i fits <;> rw [decide_eq_true_eq] at fits
    · rw [if_pos fits, BitVec.toNat_setWidth, BitVec.toNat_sub, wide, dividend, divisor]
      rw [dividend] at small
      omega
    · rw [if_neg fits, dividend, Nat.sub_zero]

theorem Running.step (running : Running a b (count + 1) r) :
    Running a b count (r.clock i) := by
  have counter := running.counter
  have inside := running.inside
  have last : (r.count == 0) = false := by
    simp only [beq_eq_false_iff_ne, ne_eq, ← BitVec.toNat_inj, counter]
    simp
  simp only [Registers.clock, running.busy, Bool.false_and, Bool.false_eq_true, ↓reduceIte,
    Bool.not_false]
  constructor
  · exact last
  · omega
  · have one : (1 : BitVec 32).toNat = 1 := rfl
    rw [BitVec.toNat_sub, counter, one]
    omega
  · exact running.sign
  · have doubled : 2 ^ (count + 1) = 2 * 2 ^ count := Nat.pow_succ'
    rw [BitVec.toNat_ushiftRight, running.divisor, Nat.shiftRight_eq_div_pow, doubled,
      Nat.mul_left_comm, Nat.pow_one, Nat.mul_div_cancel_left _ (by decide)]
  · exact running.next_dividend
  · exact running.next_quotient

theorem Running.finish (running : Running a b 0 r) : Finished a b (r.clock i) := by
  have last : (r.count == 0) = true := by
    simp only [beq_iff_eq, ← BitVec.toNat_inj, running.counter]
    rfl
  simp only [Registers.clock, running.busy, Bool.false_and, Bool.false_eq_true, ↓reduceIte,
    Bool.not_false]
  refine ⟨last, ?_⟩
  simp only [Registers.quotientOut, Divider.quotient, running.sign, last, ↓reduceIte]
  congr 1
  apply BitVec.eq_of_toNat_eq
  rw [BitVec.toNat_setWidth, BitVec.toNat_setWidth, running.quotient, BitVec.toNat_ofNat,
    Nat.mod_mod_of_dvd _ (by decide)]

theorem holds_of_start (idle : r.done = true) : Holds a b (r.clock ⟨a, b, true⟩) :=
  .inl ⟨46, running_of_start idle⟩

theorem Holds.clock (holds : Holds a b r) (quiet : i.start = false) : Holds a b (r.clock i) := by
  rcases holds with ⟨count, running⟩ | finished
  · cases count with
    | zero => exact .inr running.finish
    | succ count => exact .inl ⟨count, running.step⟩
  · rw [idle_clock finished.idle quiet]
    exact .inr finished

theorem Holds.result (holds : Holds a b r) (idle : r.done = true) :
    r.quotientOut = quotient a b := by
  rcases holds with ⟨count, running⟩ | finished
  · cases running.busy.symm.trans idle
  · exact finished.result

end WireframeGpu.Divider
