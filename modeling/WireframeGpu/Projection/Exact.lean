import WireframeGpu.Data.FixedPoint
import WireframeGpu.Projection.Visible

namespace WireframeGpu.Projection

open WireframeGpu.Data

/-! What the signed fixed-point words of a projection stand for. -/

variable {a d w half x : BitVec 32} {last : Nat} {c : Int}

theorem signed_toInt (negative : Bool) (small : w.toNat < 2 ^ 31) :
    (signed negative w).toInt = if negative then -(w.toNat : Int) else w.toNat := by
  have value := w.toInt_eq_toNat_of_lt (show 2 * w.toNat < 2 ^ 32 by omega)
  cases negative
  · simpa only [signed, Bool.false_eq_true, ↓reduceIte] using value
  · have negation : ~~~w + 1 = -w := (BitVec.neg_eq_not_add w).symm
    have ordinary : w ≠ BitVec.intMin 32 := by
      rintro rfl
      simp at small
    simp only [signed, ↓reduceIte]
    rw [negation, BitVec.toInt_neg_of_ne_intMin ordinary, value]

theorem scaled_toInt (bounded : -2 ^ 31 < x.toInt) : (scaled x).toInt = (3 * x.toInt).tdiv 4 := by
  obtain ⟨exact_x, small_x⟩ := magnitude_exact bounded
  have aspect : aspectRatio.toNat = 3 * 2 ^ 13 := rfl
  have quarters : (magnitude x).toNat * aspectRatio.toNat / 2 ^ 15 = 3 * x.toInt.natAbs / 4 := by
    rw [exact_x, aspect]
    omega
  have product : (Multiplier.product (magnitude x) aspectRatio).toNat = 3 * x.toInt.natAbs / 4 := by
    rw [product_toNat (by omega) (by omega) (by omega), quarters]
  have towards := FixedPoint.tdiv_of_sign (3 * x.toInt) 4
  rw [scaled, signed_toInt _ (by omega), product, BitVec.msb_eq_toInt]
  rw [show (4 : Int) = (4 : Nat) from rfl, towards]
  have size : (3 * x.toInt).natAbs = 3 * x.toInt.natAbs := by omega
  rw [size]
  by_cases negative : x.toInt < 0
  · rw [if_pos (by simpa using negative), if_pos (by omega)]
  · rw [if_neg (by simpa using negative), if_neg (by omega)]

/-- A quotient in front of the eye: fourteen fraction bits, and a zero. -/
theorem ratio_toInt (bounded : -2 ^ 31 < a.toInt) (positive : 0 < d.toNat)
    (divisor : d.toNat < 2 ^ 31) (fits : |(a.toInt * 2 ^ 14).tdiv d.toNat| < 2 ^ 30) :
    (ratio a d).toInt = 2 * (a.toInt * 2 ^ 14).tdiv d.toNat := by
  obtain ⟨exact_a, small_a⟩ := magnitude_exact bounded
  have halves : a.toInt.natAbs * 2 ^ 15 / (d.toNat * 2) = (a.toInt * 2 ^ 14).natAbs / d.toNat := by
    have size : (a.toInt * 2 ^ 14).natAbs * 2 = a.toInt.natAbs * 2 ^ 15 := by omega
    rw [← size]
    exact Nat.mul_div_mul_right _ _ (by decide)
  have towards := FixedPoint.tdiv_of_sign (a.toInt * 2 ^ 14) d.toNat
  have small : (a.toInt * 2 ^ 14).natAbs / d.toNat < 2 ^ 30 := by
    rw [Int.abs_eq_natAbs, Int.natAbs_tdiv] at fits
    exact_mod_cast fits
  have quotient : (Divider.quotient (magnitude a) d).toNat =
      (a.toInt * 2 ^ 14).natAbs / d.toNat * 2 := by
    simp only [Divider.quotient, msb_false_of_lt (w := magnitude a) (by omega),
      msb_false_of_lt divisor, Bool.xor_false]
    rw [cons_toNat, BitVec.toNat_ofNat, exact_a, Nat.mod_eq_of_lt small_a,
      Nat.mod_eq_of_lt divisor, Divider.upperQuotient, if_neg (Nat.ne_of_gt positive), Nat.pow_one,
      halves]
    omega
  rw [ratio, msb_false_of_lt divisor, Bool.not_false, Bool.and_true,
    signed_toInt _ (by omega), quotient, BitVec.msb_eq_toInt, towards]
  by_cases negative : a.toInt < 0
  · rw [if_pos (by simpa using negative), if_pos (by omega)]
    omega
  · rw [if_neg (by simpa using negative), if_neg (by omega)]
    omega

/-- The half of the last column (or row) times an even number loses nothing but
the carry past bit 30. -/
theorem placed_toInt (positive : 0 < last) (small : last < 2 ^ 9)
    (halved : half.toNat = last * 2 ^ 14)
    (even : (w + one).toInt = 2 * c) (bounded : -2 ^ 30 < c) :
    (placed half w).toInt = (last * c).tmod (2 ^ 31) := by
  obtain ⟨exact_w, small_w⟩ := magnitude_exact (a := w + one) (by omega)
  have size : (magnitude (w + one)).toNat = c.natAbs * 2 := by omega
  have twice : c.natAbs * 2 * (last * 2 ^ 14) = (last * c).natAbs * 2 ^ 15 := by
    rw [Int.natAbs_mul, Int.natAbs_natCast]
    ring
  have product : (Multiplier.product (magnitude (w + one)) half).toNat =
      (last * c).natAbs % 2 ^ 31 := by
    simp only [Multiplier.product, msb_false_of_lt (w := magnitude (w + one)) (by omega),
      msb_false_of_lt (w := half) (by omega), Bool.xor_false]
    rw [cons_toNat, BitVec.toNat_ofNat, size, halved,
      Nat.mod_eq_of_lt (show c.natAbs * 2 < 2 ^ 31 by omega),
      Nat.mod_eq_of_lt (show last * 2 ^ 14 < 2 ^ 31 by omega), twice,
      Nat.mul_div_cancel _ (by decide)]
  have towards := FixedPoint.tmod_of_sign (last * c) (2 ^ 31)
  rw [placed, signed_toInt _ (by omega), product, BitVec.msb_eq_toInt]
  rw [show ((2 : Int) ^ 31) = (2 ^ 31 : Nat) from rfl, towards]
  have factor : (0 : Int) < last := by omega
  by_cases negative : c < 0
  · have below : last * c < 0 := Int.mul_neg_of_pos_of_neg factor negative
    rw [if_pos (by simpa using show (w + one).toInt < 0 by omega), if_pos below]
  · have above : 0 ≤ last * c := Int.mul_nonneg (by omega) (by omega)
    rw [if_neg (by simpa using show 0 ≤ (w + one).toInt by omega), if_neg (by omega)]

theorem masked_toNat (w : BitVec 32) : (w &&& integerMask).toNat = w.toNat / 2 ^ 15 * 2 ^ 15 := by
  have bits : ∀ i < 32, integerMask.getLsbD i = decide (15 ≤ i) := by decide
  have cut : w &&& integerMask = (w >>> 15) <<< 15 := by
    apply BitVec.eq_of_getLsbD_eq
    intro i inside
    rw [BitVec.getLsbD_and, bits i inside, BitVec.getLsbD_shiftLeft, BitVec.getLsbD_ushiftRight]
    by_cases high : 15 ≤ i
    · simp [high, inside, Nat.not_lt.mpr high]
    · simp [high, Nat.not_le.mp high]
  have bound := w.isLt
  rw [cut, BitVec.toNat_shiftLeft, BitVec.toNat_ushiftRight, Nat.shiftLeft_eq,
    Nat.shiftRight_eq_div_pow]
  omega

theorem rounded_toNat (w : BitVec 32) :
    (rounded w).toNat = (w.toNat + 2 ^ 14) / 2 ^ 15 * 2 ^ 15 % 2 ^ 32 := by
  have constant : one.toNat = 2 ^ 15 := rfl
  have bit : w.getLsbD 14 = decide (w.toNat / 2 ^ 14 % 2 = 1) := by
    rw [← BitVec.testBit_toNat, Nat.testBit_eq_decide_div_mod_eq]
  have bound := w.isLt
  rw [rounded, masked_toNat, bit]
  split <;> rename_i up <;> rw [decide_eq_true_eq] at up
  · rw [BitVec.toNat_add, constant]
    omega
  · omega

theorem rounded_toInt (small : w.toInt < 2 ^ 31 - 2 ^ 14) :
    (rounded w).toInt = 2 ^ 15 * FixedPoint.nearest (2 ^ 15) w.toInt := by
  have before := w.toInt_eq_toNat_cond
  have after := (rounded w).toInt_eq_toNat_cond
  have bound := w.isLt
  rw [rounded_toNat] at after
  rw [after, FixedPoint.nearest]
  split at before <;> split <;> omega

theorem rounded_eq_iff {w' : BitVec 32} (bounded : |w.toInt| < 2 ^ 31 - 2 ^ 14) :
    rounded w = rounded w' ↔
      FixedPoint.nearest (2 ^ 15) w.toInt = FixedPoint.nearest (2 ^ 15) w'.toInt := by
  have sign := w.toInt_eq_toNat_cond
  have sign' := w'.toInt_eq_toNat_cond
  have bound := w.isLt
  have bound' := w'.isLt
  rw [abs_lt] at bounded
  rw [← BitVec.toNat_inj, rounded_toNat, rounded_toNat, FixedPoint.nearest, FixedPoint.nearest]
  split at sign <;> split at sign' <;> omega

theorem in_range_toInt (bounded : |w.toInt + 2 ^ 15| < 2 ^ 31) :
    (w + one).toInt = w.toInt + 2 ^ 15 := by
  have constant : one.toInt = 2 ^ 15 := rfl
  rw [abs_lt] at bounded
  rw [BitVec.toInt_add, constant, Int.bmod_eq_of_le] <;> omega

/-- Where the coordinate `a` comes to lie at the depth `d`, in units of `2 ^ -15`
pixels: `last / 2` pixels per unit from the centre. -/
def position (last : Nat) (a : Int) (d : Nat) : Int := last * ((a * 2 ^ 14).tdiv d + 2 ^ 14)

theorem placed_ratio_toInt (large : 2 ^ 7 ≤ last) (small : last < 2 ^ 9)
    (halved : half.toNat = last * 2 ^ 14) (bounded : -2 ^ 31 < a.toInt) (positive : 0 < d.toNat)
    (divisor : d.toNat < 2 ^ 31) (fits : |position last a.toInt d.toNat| < 2 ^ 31 - 2 ^ 14) :
    (placed half (ratio a d)).toInt = position last a.toInt d.toNat := by
  simp only [position] at fits ⊢
  generalize quotient : (a.toInt * 2 ^ 14).tdiv d.toNat = c at fits ⊢
  have near : |c + 2 ^ 14| < 2 ^ 24 := by
    have factor : (2 ^ 7 : Int) ≤ last := by exact_mod_cast large
    rw [abs_mul, Nat.abs_cast] at fits
    nlinarith [abs_nonneg (c + 2 ^ 14)]
  rw [abs_lt] at near
  have divided : (ratio a d).toInt = 2 * c := by
    rw [ratio_toInt bounded positive divisor (by rw [quotient, abs_lt]; omega), quotient]
  have even : (ratio a d + one).toInt = 2 * (c + 2 ^ 14) := by
    rw [in_range_toInt (by rw [divided, abs_lt]; omega), divided]
    omega
  rw [placed_toInt (by omega) small halved even (by omega)]
  exact FixedPoint.tmod_of_lt (d := 2 ^ 31) (by rw [abs_lt] at fits; omega)

/-- A coordinate in front of the eye lands on the pixel nearest to its position. -/
theorem screen_toInt (last : Nat) (large : 2 ^ 7 ≤ last) (small : last < 2 ^ 9)
    (halved : half.toNat = last * 2 ^ 14) (bounded : -2 ^ 31 < a.toInt) (positive : 0 < d.toNat)
    (divisor : d.toNat < 2 ^ 31) (fits : |position last a.toInt d.toNat| < 2 ^ 31 - 2 ^ 14) :
    (screen half a d).toInt =
      2 ^ 15 * FixedPoint.nearest (2 ^ 15) (position last a.toInt d.toNat) := by
  have whole := placed_ratio_toInt large small halved bounded positive divisor fits
  rw [screen, rounded_toInt (by rw [abs_lt] at fits; omega), whole]

end WireframeGpu.Projection
