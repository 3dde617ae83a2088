import Mathlib.Algebra.Order.Group.Unbundled.Abs
import WireframeGpu.Projection.Screen

namespace WireframeGpu.Projection

/-! A vertex in the field of view lands on the screen. -/

/-- The vertex lies in front of the eye and inside the pyramid seen from it. -/
structure Visible (v : Vertex) : Prop where
  columnInRange : -2 ^ 31 < v.x.toInt
  rowInRange : -2 ^ 31 < v.y.toInt
  ahead : 0 < v.z.toInt + 3 * 2 ^ 15
  depthInRange : v.z.toInt + 3 * 2 ^ 15 < 2 ^ 31
  wide : 3 * |v.x.toInt| ≤ 4 * (v.z.toInt + 3 * 2 ^ 15)
  tall : |v.y.toInt| ≤ v.z.toInt + 3 * 2 ^ 15

variable {a d w half : BitVec 32} {v : Vertex}

theorem negated_toNat (w : BitVec 32) (positive : 0 < w.toNat) :
    (~~~w + 1).toNat = 2 ^ 32 - w.toNat := by
  have negation : ~~~w + 1 = -w := (BitVec.neg_eq_not_add w).symm
  rw [negation, BitVec.toNat_neg]
  omega

/-- Taking the magnitude is exact, the most negative number apart. -/
theorem magnitude_exact (bounded : -2 ^ 31 < a.toInt) :
    (magnitude a).toNat = a.toInt.natAbs ∧ a.toInt.natAbs < 2 ^ 31 := by
  have small := a.isLt
  have sign := a.toInt_eq_msb_cond
  simp only [magnitude]
  cases negative : a.msb <;> simp only [negative, Bool.false_eq_true, ↓reduceIte] at sign ⊢
  · have upper := BitVec.toNat_lt_of_msb_false negative
    omega
  · have lower := BitVec.le_toNat_of_msb_true negative
    rw [negated_toNat a (by omega)]
    omega

theorem msb_false_of_lt (small : w.toNat < 2 ^ 31) : w.msb = false := by
  rw [BitVec.msb_eq_decide]
  simpa using small

theorem cons_toNat (w : BitVec 31) : (BitVec.cons false w).toNat = w.toNat := by
  rw [BitVec.toNat_cons]
  simp

theorem product_toNat (first : a.toNat < 2 ^ 31) (second : w.toNat < 2 ^ 31)
    (fits : a.toNat * w.toNat / 2 ^ 15 < 2 ^ 31) :
    (Multiplier.product a w).toNat = a.toNat * w.toNat / 2 ^ 15 := by
  simp only [Multiplier.product, msb_false_of_lt first, msb_false_of_lt second, Bool.xor_false]
  rw [cons_toNat, BitVec.toNat_ofNat, Nat.mod_eq_of_lt first, Nat.mod_eq_of_lt second,
    Nat.mod_eq_of_lt fits]

theorem depth_toNat {z : BitVec 32} (ahead : 0 < z.toInt + 3 * 2 ^ 15)
    (far : z.toInt + 3 * 2 ^ 15 < 2 ^ 31) :
    ((z + three).toNat : Int) = z.toInt + 3 * 2 ^ 15 ∧ (z + three).toNat < 2 ^ 31 := by
  have small := z.isLt
  have constant : three.toNat = 98304 := rfl
  have sign := z.toInt_eq_toNat_cond
  rw [BitVec.toNat_add, constant]
  split at sign <;> omega

/-- A quotient of magnitudes, when the dividend is no larger: the lowest of its
fifteen fraction bits is lost. -/
theorem quotient_toNat (dividend : a.toNat < 2 ^ 31) (positive : 0 < d.toNat)
    (divisor : d.toNat < 2 ^ 31) (smaller : a.toNat ≤ d.toNat) :
    (Divider.quotient a d).toNat = a.toNat * 2 ^ 15 / (d.toNat * 2) * 2 ∧
      (Divider.quotient a d).toNat ≤ 2 ^ 15 := by
  have halves : a.toNat * 2 ^ 15 / (d.toNat * 2) ≤ 2 ^ 14 := by
    apply Nat.div_le_of_le_mul
    omega
  simp only [Divider.quotient, msb_false_of_lt dividend, msb_false_of_lt divisor, Bool.xor_false]
  rw [cons_toNat, BitVec.toNat_ofNat, Nat.mod_eq_of_lt dividend, Nat.mod_eq_of_lt divisor,
    Divider.upperQuotient, if_neg (Nat.ne_of_gt positive), Nat.pow_one]
  omega

/-- A coordinate within the depth is mapped to the range between 0 and 2. -/
theorem ratio_range (bounded : -2 ^ 31 < a.toInt) (positive : 0 < d.toNat)
    (divisor : d.toNat < 2 ^ 31) (within : a.toInt.natAbs ≤ d.toNat) :
    (ratio a d + one).toNat ≤ 2 ^ 16 := by
  obtain ⟨exact_a, small_a⟩ := magnitude_exact bounded
  have range := (quotient_toNat (a := magnitude a) (by omega) positive divisor (by omega)).2
  have constant : one.toNat = 2 ^ 15 := rfl
  simp only [ratio, msb_false_of_lt divisor, Bool.not_false, Bool.and_true, signed]
  cases a.msb <;> simp only [Bool.false_eq_true, ↓reduceIte]
  · rw [BitVec.toNat_add, constant]
    omega
  · rcases Nat.eq_zero_or_pos (Divider.quotient (magnitude a) d).toNat with zero | above
    · have nothing : Divider.quotient (magnitude a) d = 0 := BitVec.eq_of_toNat_eq zero
      rw [nothing]
      decide
    · rw [BitVec.toNat_add, negated_toNat _ above, constant]
      omega

/-- Half the last column (or row) per unit: the edge of the range is hit exactly. -/
theorem placed_range {last : Nat} (small : last < 2 ^ 9) (halved : half.toNat = last * 2 ^ 14)
    (range : (w + one).toNat ≤ 2 ^ 16) : (placed half w).toNat ≤ last * 2 ^ 15 := by
  have positive : (w + one).msb = false := msb_false_of_lt (by omega)
  have scaled : (w + one).toNat * half.toNat / 2 ^ 15 ≤ last * 2 ^ 15 := by
    apply Nat.div_le_of_le_mul
    rw [halved]
    calc (w + one).toNat * (last * 2 ^ 14) ≤ 2 ^ 16 * (last * 2 ^ 14) :=
          Nat.mul_le_mul_right _ range
      _ = 2 ^ 15 * (last * 2 ^ 15) := by ring
  simp only [placed, signed, magnitude, positive, Bool.false_eq_true, ↓reduceIte]
  rw [product_toNat (by omega) (by omega) (by omega)]
  exact scaled

theorem rounded_slice (w : BitVec 32) :
    ((rounded w).extractLsb' 15 9).toNat =
      (if w.toNat / 2 ^ 14 % 2 = 1 then w.toNat / 2 ^ 15 + 1 else w.toNat / 2 ^ 15) % 2 ^ 9 := by
  have constant : one.toNat = 2 ^ 15 := rfl
  have mask : integerMask.extractLsb' 15 9 = BitVec.allOnes 9 := by decide
  have bit : w.getLsbD 14 = decide (w.toNat / 2 ^ 14 % 2 = 1) := by
    rw [← BitVec.testBit_toNat, Nat.testBit_eq_decide_div_mod_eq]
  have small := w.isLt
  rw [rounded, BitVec.extractLsb'_and, mask, BitVec.and_allOnes, BitVec.extractLsb'_toNat, bit,
    Nat.shiftRight_eq_div_pow]
  split <;> rename_i up <;> rw [decide_eq_true_eq] at up
  · rw [if_pos up, BitVec.toNat_add, constant]
    omega
  · rw [if_neg up]

/-- Rounding up at a half never passes the last column, which has no fraction. -/
theorem rounded_range {last : Nat} (small : last < 2 ^ 9) (range : w.toNat ≤ last * 2 ^ 15) :
    ((rounded w).extractLsb' 15 9).toNat ≤ last := by
  rw [rounded_slice]
  split <;> omega

theorem screen_range {last : Nat} (small : last < 2 ^ 9) (halved : half.toNat = last * 2 ^ 14)
    (bounded : -2 ^ 31 < a.toInt) (positive : 0 < d.toNat) (divisor : d.toNat < 2 ^ 31)
    (within : a.toInt.natAbs ≤ d.toNat) :
    ((screen half a d).extractLsb' 15 9).toNat ≤ last :=
  rounded_range small (placed_range small halved (ratio_range bounded positive divisor within))

theorem scaled_exact {x : BitVec 32} (bounded : -2 ^ 31 < x.toInt) :
    (scaled x).toInt.natAbs = 3 * x.toInt.natAbs / 4 ∧ -2 ^ 31 < (scaled x).toInt := by
  obtain ⟨exact_x, small_x⟩ := magnitude_exact bounded
  have aspect : aspectRatio.toNat = 3 * 2 ^ 13 := rfl
  have quarters : (magnitude x).toNat * aspectRatio.toNat / 2 ^ 15 = 3 * x.toInt.natAbs / 4 := by
    rw [exact_x, aspect]
    omega
  have product : (Multiplier.product (magnitude x) aspectRatio).toNat = 3 * x.toInt.natAbs / 4 := by
    rw [product_toNat (by omega) (by omega) (by omega), quarters]
  simp only [scaled, signed]
  cases x.msb <;> simp only [Bool.false_eq_true, ↓reduceIte]
  · have sign := (Multiplier.product (magnitude x) aspectRatio).toInt_eq_toNat_of_lt (by omega)
    omega
  · have negation : ~~~Multiplier.product (magnitude x) aspectRatio + 1 =
        -Multiplier.product (magnitude x) aspectRatio := (BitVec.neg_eq_not_add _).symm
    have sign := (Multiplier.product (magnitude x) aspectRatio).toInt_eq_toNat_of_lt (by omega)
    rw [negation, BitVec.toInt_neg_of_ne_intMin (by
      intro extreme
      rw [extreme] at product
      simp at product
      omega), sign]
    omega

theorem visible_on_screen (visible : Visible v) :
    ((column v).extractLsb' 15 9).toNat ≤ 319 ∧ ((row v).extractLsb' 15 9).toNat ≤ 239 := by
  obtain ⟨exact_d, small_d⟩ := depth_toNat visible.ahead visible.depthInRange
  obtain ⟨exact_x, bounded_x⟩ := scaled_exact visible.columnInRange
  have ahead := visible.ahead
  have wide := visible.wide
  have tall := visible.tall
  rw [Int.abs_eq_natAbs] at wide tall
  exact ⟨screen_range (by decide) rfl bounded_x (by omega) small_d (by omega),
    screen_range (by decide) rfl visible.rowInRange (by omega) small_d (by omega)⟩

theorem origin_on_screen :
    (column ⟨0, 0, 0⟩).extractLsb' 15 9 = 160 ∧ (row ⟨0, 0, 0⟩).extractLsb' 15 9 = 120 := by
  decide

end WireframeGpu.Projection
