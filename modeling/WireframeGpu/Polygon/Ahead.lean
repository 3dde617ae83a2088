import WireframeGpu.Polygon.Freshness
import WireframeGpu.Projection.Visible

namespace WireframeGpu

/-! What the rotation hands to the projections.  The shift brings zeros in, so a
turned coordinate is right modulo 4.0 and is read as one between 0 and 4.0: no
vertex is ever beside the eye or behind it. -/

namespace Projection

variable {v : Vertex} {r : Registers} {start : Bool}

/-- Up to four units above the axis and up to seven in front of the eye. -/
structure Ahead (v : Vertex) : Prop where
  high : 0 ≤ v.y.toInt ∧ v.y.toInt < 2 ^ 17
  deep : 0 ≤ v.z.toInt ∧ v.z.toInt < 2 ^ 17

theorem Ahead.depth (ahead : Ahead v) :
    3 * 2 ^ 15 ≤ (v.z + three).toNat ∧ (v.z + three).toNat < 7 * 2 ^ 15 := by
  obtain ⟨lower, upper⟩ := ahead.deep
  have exact_d := (depth_toNat (z := v.z) (by omega) (by omega)).1
  omega

theorem Ahead.nonzero (ahead : Ahead v) : v.z + three ≠ 0 := by
  intro zero
  have lower := ahead.depth.1
  rw [zero] at lower
  simp at lower

theorem Ahead.positive (ahead : Ahead v) : (v.z + three).msb = false := by
  have upper := ahead.depth.2
  exact msb_false_of_lt (by omega)

/-- Neither the short cut past the division nor the negated divisor is taken. -/
structure Plain (r : Registers) (i : Inputs) : Prop where
  unflipped : r.flipDivider = false
  divisor : (r.comb i).zplusthree = i.vertex.z + three
  divides : r.state = .s7 → (r.comb i).nextState = .s8

theorem Ahead.plain (ahead : Ahead v) (unflipped : r.flipDivider = false) :
    Plain r ⟨v, start⟩ := by
  refine ⟨unflipped, ?_, fun state => ?_⟩
  · cases state : r.state <;> simp only [Registers.comb, Registers.defaults, state]
    case s8 => rw [ahead.positive, if_neg Bool.false_ne_true]
    case s12 => rw [unflipped, if_neg Bool.false_ne_true]
    case s16 => split <;> rfl
  · simp only [Registers.comb, Registers.defaults, state]
    rw [beq_false_of_ne ahead.nonzero, if_neg Bool.false_ne_true]

theorem Ahead.unflipped (ahead : Ahead v) (unflipped : r.flipDivider = false) :
    (r.clock ⟨v, start⟩).flipDivider = false := by
  show (r.comb ⟨v, start⟩).flipDividerIn = false
  cases state : r.state <;> simp only [Registers.comb, Registers.defaults, state]
  case s8 => rw [ahead.positive, if_neg Bool.false_ne_true, unflipped]
  case s16 => split <;> exact unflipped
  all_goals exact unflipped

end Projection

namespace PolygonRaster

variable {m : Megafunctions} {row : BitVec 9} {p : Projection.Vertex}

/-- A vertex of the register file, turned by a row of the angle tables. -/
def turned (m : Megafunctions) (row : BitVec 9) (p : Projection.Vertex) : Projection.Vertex where
  x := projX p.x
  y := projY p.y p.z (m.sin row) (m.cos row)
  z := projZ p.y p.z (m.cos row) (m.negSin row)

theorem shifted_modulo (a b c d : BitVec 32) :
    ((a * b + c * d) >>> 15).toInt =
      (a.toInt * b.toInt + c.toInt * d.toInt) / 2 ^ 15 % 2 ^ 17 := by
  rw [shifted_toInt, sum_of_products_toNat]
  omega

theorem projY_modulo (y z sinOut cosOut : BitVec 32) :
    (projY y z sinOut cosOut).toInt = exactY y z sinOut cosOut / 2 ^ 15 % 2 ^ 17 :=
  shifted_modulo _ _ _ _

theorem projZ_modulo (y z cosOut negSinOut : BitVec 32) :
    (projZ y z cosOut negSinOut).toInt = exactZ y z cosOut negSinOut / 2 ^ 15 % 2 ^ 17 :=
  shifted_modulo _ _ _ _

theorem rotation_ahead (x y z sinOut cosOut negSinOut : BitVec 32) :
    Projection.Ahead ⟨x, projY y z sinOut cosOut, projZ y z cosOut negSinOut⟩ := by
  constructor
  · rw [projY_modulo]
    exact ⟨Int.emod_nonneg _ (by decide), Int.emod_lt_of_pos _ (by decide)⟩
  · rw [projZ_modulo]
    exact ⟨Int.emod_nonneg _ (by decide), Int.emod_lt_of_pos _ (by decide)⟩

theorem turned_ahead (m : Megafunctions) (row : BitVec 9) (p : Projection.Vertex) :
    Projection.Ahead (turned m row p) := rotation_ahead _ _ _ _ _ _

/-- Whatever the registers and the tables hold. -/
theorem Registers.rotated_ahead (r : Registers) (i : Inputs) (t : Fin 12) (v : Fin 3) :
    Projection.Ahead (r.rotated i t v) := rotation_ahead _ _ _ _ _ _

theorem run_unflipped (m : Megafunctions) (inputs : Nat → Inputs) (n : Nat) (t : Fin 12)
    (v : Fin 3) : (((run m inputs n).triangles t).coordinate v).flipDivider = false := by
  induction n with
  | zero => rfl
  | succ n ih => exact (Registers.rotated_ahead _ (inputs n) t v).unflipped ih

end PolygonRaster

end WireframeGpu
