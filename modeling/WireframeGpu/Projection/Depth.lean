import WireframeGpu.Projection.Screen

namespace WireframeGpu.Projection

/-! The third lane of a projection: it scales the depth, divides it like a
coordinate and delivers the quotient. -/

/-- `tempz` once the depth `d` is scaled to the range from the near plane. -/
def deepened (d : BitVec 32) : BitVec 32 :=
  signed d.msb (Multiplier.product (magnitude d) q) - znearq

def Registers.laneZ (r : Registers) : Lane := ⟨r.tempz, r.flipZ, r.multz, r.d3, r.m3⟩

/-- What the depth lane holds before the range values are reached. -/
def Deep (d : BitVec 32) (r : Registers) : Prop :=
  match r.state with
  | .s0 | .s1 => r.flipZ = false
  | .s2 => r.tempz = magnitude d ∧ r.multz = q ∧ r.flipZ = d.msb
  | .s3 => Multiplier.Holds (magnitude d) q r.m3 ∧ r.flipZ = d.msb
  | .s4 => r.m3.resultOut = Multiplier.product (magnitude d) q ∧ r.flipZ = d.msb
  | .s5 => r.tempz = Multiplier.product (magnitude d) q ∧ r.flipZ = d.msb
  | .s6 => r.tempz = signed d.msb (Multiplier.product (magnitude d) q) ∧ r.flipZ = false
  | .s7 | .s8 | .s9 | .s10 | .s11 | .s12 => r.laneZ.Carries 0 (deepened d) d r.state
  | .s13 => r.tempz = ratio (deepened d) d
  | _ => True

variable {r : Registers} {v : Vertex} {start : Bool}

theorem deep_of_start {d : BitVec 32} (ready : Waiting r ∨ Completed r) :
    Deep d (r.clock ⟨v, true⟩) := by
  rcases ready with waiting | completed
  · simp [Deep, Registers.clock, Registers.comb, waiting.state]
  · simp [Deep, Registers.clock, Registers.comb, completed.state]

theorem Deep.scale (deep : Deep (v.z + three) r) (busy : Busy r)
    (early : r.state = .s0 ∨ r.state = .s00 ∨ r.state = .s1 ∨ r.state = .s2 ∨ r.state = .s3 ∨
      r.state = .s4 ∨ r.state = .s5 ∨ r.state = .s6) :
    Deep (v.z + three) (r.clock ⟨v, start⟩) := by
  have units := busy.units
  rcases early with state | state | state | state | state | state | state | state <;>
    simp only [state] at units <;> simp only [Deep, state] at deep
  · simpa only [Deep, Registers.clock, Registers.comb, Registers.defaults, state] using deep
  · simp only [Deep, Registers.clock, Registers.comb, Registers.defaults, state]
  · simp only [Deep, Registers.clock, Registers.comb, Registers.defaults, state, magnitude, deep,
      true_and]
    cases (v.z + three).msb <;> rfl
  · obtain ⟨tempz, multz, flipZ⟩ := deep
    simp only [Deep, Registers.clock, Registers.comb, Registers.defaults, state, tempz, multz]
    exact ⟨Multiplier.holds_of_start units.m3.done, flipZ⟩
  · obtain ⟨holds, flipZ⟩ := deep
    have holds' := holds.clock (i := ⟨r.tempz, r.multz, false⟩) rfl
    cases all : r.m1.done && r.m3.done
    · simpa only [Deep, Registers.clock, Registers.comb, Registers.defaults, state, all,
        Bool.false_eq_true, ↓reduceIte] using ⟨holds', flipZ⟩
    · have idle := (Bool.and_eq_true _ _ ▸ all).2
      simpa only [Deep, Registers.clock, Registers.comb, Registers.defaults, state, all,
        ↓reduceIte, Multiplier.idle_clock (r := r.m3) (i := ⟨r.tempz, r.multz, false⟩) idle rfl]
        using ⟨holds.result idle, flipZ⟩
  · obtain ⟨result, flipZ⟩ := deep
    simpa only [Deep, Registers.clock, Registers.comb, Registers.defaults, state, result,
      true_and] using flipZ
  · obtain ⟨tempz, flipZ⟩ := deep
    simp only [Deep, Registers.clock, Registers.comb, Registers.defaults, state, signed, tempz,
      flipZ, true_and]
    cases (v.z + three).msb <;> rfl
  · obtain ⟨tempz, flipZ⟩ := deep
    simpa only [Deep, Registers.clock, Registers.comb, Registers.defaults, state, Lane.Carries,
      Registers.laneZ, deepened, tempz, true_and] using flipZ

theorem Deep.divide (deep : Deep (v.z + three) r) (busy : Busy r) (depth : v.z + three ≠ 0)
    (middle : r.state = .s7 ∨ r.state = .s8 ∨ r.state = .s9 ∨ r.state = .s10 ∨ r.state = .s11) :
    Deep (v.z + three) (r.clock ⟨v, start⟩) := by
  have units := busy.units
  rcases middle with state | state | state | state | state <;> simp only [state] at units <;>
    simp only [Deep, state, Lane.Carries, Registers.laneZ] at deep
  · have eye : (v.z + three == 0) = false := by simpa using depth
    simpa only [Deep, Registers.clock, Registers.comb, Registers.defaults, state, Lane.Carries,
      Registers.laneZ, eye, Bool.false_eq_true, ↓reduceIte] using deep
  · obtain ⟨tempz, flipZ⟩ := deep
    simp only [Deep, Registers.clock, Registers.comb, Registers.defaults, state, Lane.Carries,
      Registers.laneZ, magnitude, tempz, flipZ, true_and]
    cases (deepened (v.z + three)).msb <;> rfl
  · obtain ⟨tempz, flipZ⟩ := deep
    simp only [Deep, Registers.clock, Registers.comb, Registers.defaults, state, Lane.Carries,
      Registers.laneZ, tempz]
    exact ⟨Divider.holds_of_start units.d3.done, flipZ⟩
  · obtain ⟨holds, flipZ⟩ := deep
    have holds' := holds.clock (i := ⟨r.tempz, v.z + three, false⟩) rfl
    cases all : r.d1.done && r.d2.done && r.d3.done
    · simpa only [Deep, Registers.clock, Registers.comb, Registers.defaults, state, Lane.Carries,
        Registers.laneZ, all, Bool.false_eq_true, ↓reduceIte] using ⟨holds', flipZ⟩
    · have idle := (Bool.and_eq_true _ _ ▸ all).2
      simp only [Deep, Registers.clock, Registers.comb, Registers.defaults, state, Lane.Carries,
        Registers.laneZ, all, ↓reduceIte]
      rw [Divider.idle_clock idle rfl]
      exact ⟨holds.result idle, flipZ⟩
  · obtain ⟨quotient, flipZ⟩ := deep
    simpa only [Deep, Registers.clock, Registers.comb, Registers.defaults, state, Lane.Carries,
      Registers.laneZ, quotient, true_and] using flipZ

/-- The sign of the depth lane is restored as in the other two. -/
theorem Deep.sign (deep : Deep (v.z + three) r) (state : r.state = .s12)
    (flipDivider : r.flipDivider = (v.z + three).msb) :
    Deep (v.z + three) (r.clock ⟨v, start⟩) := by
  simp only [Deep, state, Lane.Carries, Registers.laneZ] at deep
  obtain ⟨tempz, flipZ⟩ := deep
  simp only [Deep, Registers.clock, Registers.comb, Registers.defaults, state, ratio, signed,
    tempz, flipZ, flipDivider]
  cases (deepened (v.z + three)).msb <;> cases (v.z + three).msb <;> rfl

end WireframeGpu.Projection
