import Mathlib.Tactic.Linarith

namespace WireframeGpu.PolygonRaster

/-! The rotation about the x axis, computed combinationally for every vertex
in the generate loop of `polygonRaster.sv`.  All operands are 32 bits wide, so
the products, their sum and the shift are too. -/

def projX (x : BitVec 32) : BitVec 32 := x

def projY (y z sinOut cosOut : BitVec 32) : BitVec 32 := ((y * cosOut) + (sinOut * z)) >>> 15

def projZ (y z cosOut negSinOut : BitVec 32) : BitVec 32 := ((z * cosOut) + (negSinOut * y)) >>> 15

def Representable (value : Int) : Prop := -2 ^ 31 ≤ value ∧ value < 2 ^ 31

instance (value : Int) : Decidable (Representable value) :=
  inferInstanceAs (Decidable (_ ∧ _))

/-- The exact rotated ordinate before its fifteen extra fraction bits are dropped. -/
def exactY (y z sinOut cosOut : BitVec 32) : Int :=
  y.toInt * cosOut.toInt + sinOut.toInt * z.toInt

def exactZ (y z cosOut negSinOut : BitVec 32) : Int :=
  z.toInt * cosOut.toInt + negSinOut.toInt * y.toInt

theorem sum_of_products_toNat (a b c d : BitVec 32) :
    ((a * b + c * d).toNat : Int) = (a.toInt * b.toInt + c.toInt * d.toInt) % 2 ^ 32 := by
  have same : a * b + c * d =
      BitVec.ofInt 32 (a.toInt * b.toInt + c.toInt * d.toInt) := by
    rw [BitVec.ofInt_add, BitVec.ofInt_mul, BitVec.ofInt_mul]
    simp only [BitVec.ofInt_toInt]
  rw [same, BitVec.toNat_ofInt]
  omega

/-- The logical shift leaves seventeen bits, never a negative number. -/
theorem shifted_toInt (w : BitVec 32) : (w >>> 15).toInt = (w.toNat : Int) / 2 ^ 15 := by
  have small := w.isLt
  have value : (w >>> 15).toNat = w.toNat / 2 ^ 15 := by
    rw [BitVec.toNat_ushiftRight, Nat.shiftRight_eq_div_pow]
  rw [BitVec.toInt_eq_toNat_of_lt (by omega), value]
  norm_cast

/-- A rotated ordinate is right exactly when the sum of products fits the 32
unsigned bits it is computed in. -/
theorem rotated_exact_iff (a b c d : BitVec 32) :
    ((a * b + c * d) >>> 15).toInt = (a.toInt * b.toInt + c.toInt * d.toInt) / 2 ^ 15 ↔
      0 ≤ a.toInt * b.toInt + c.toInt * d.toInt ∧
        a.toInt * b.toInt + c.toInt * d.toInt < 2 ^ 32 := by
  rw [shifted_toInt, sum_of_products_toNat]
  omega

/-- The rotation of a vertex whose exact image is representable reads as signed
fixed-point arithmetic exactly when both sums of products are nonnegative and
below `2 ^ 32`: a product keeps 32 of its 64 bits and `>>` shifts zeros in. -/
theorem rotation_signed_iff (x y z sinOut cosOut negSinOut : BitVec 32) :
    (Representable (exactY y z sinOut cosOut / 2 ^ 15) ∧
        Representable (exactZ y z cosOut negSinOut / 2 ^ 15) →
      (projY y z sinOut cosOut).toInt = exactY y z sinOut cosOut / 2 ^ 15 ∧
        (projZ y z cosOut negSinOut).toInt = exactZ y z cosOut negSinOut / 2 ^ 15 ∧
        projX x = x) ↔
    (Representable (exactY y z sinOut cosOut / 2 ^ 15) ∧
        Representable (exactZ y z cosOut negSinOut / 2 ^ 15) →
      (0 ≤ exactY y z sinOut cosOut ∧ exactY y z sinOut cosOut < 2 ^ 32) ∧
        0 ≤ exactZ y z cosOut negSinOut ∧ exactZ y z cosOut negSinOut < 2 ^ 32) := by
  have ordinate := rotated_exact_iff y cosOut sinOut z
  have depth := rotated_exact_iff z cosOut negSinOut y
  simp only [projY, projZ, projX, exactY, exactZ, ordinate, depth, and_true]

/-- At angle zero (`sin = 0`, `cos = 1.0`) the vertex with `y = -1.0` is rotated
to `y = 3.0`. -/
theorem rotation_of_negative_one :
    ¬ ∀ x y z sinOut cosOut negSinOut : BitVec 32,
      Representable (exactY y z sinOut cosOut / 2 ^ 15) →
      Representable (exactZ y z cosOut negSinOut / 2 ^ 15) →
      (projY y z sinOut cosOut).toInt = exactY y z sinOut cosOut / 2 ^ 15 ∧
        (projZ y z cosOut negSinOut).toInt = exactZ y z cosOut negSinOut / 2 ^ 15 ∧
        projX x = x := by
  intro always
  have signed := (always 0x8000 0xffff8000 0x8000 0 0x8000 0
    (by decide) (by decide)).1
  exact absurd signed (by decide)

end WireframeGpu.PolygonRaster
