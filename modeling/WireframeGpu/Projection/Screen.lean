import WireframeGpu.Projection.Control

namespace WireframeGpu.Projection

/-! What a projection computes from a vertex that is held while it runs and does
not lie in the plane of the eye. -/

def magnitude (w : BitVec 32) : BitVec 32 := if w.msb then ~~~w + 1 else w

def signed (negative : Bool) (w : BitVec 32) : BitVec 32 := if negative then ~~~w + 1 else w

/-- `tempx` once the column is scaled to the shape of the screen. -/
def scaled (x : BitVec 32) : BitVec 32 :=
  signed x.msb (Multiplier.product (magnitude x) aspectRatio)

/-- A coordinate over the depth; a negative divisor leaves the sign alone. -/
def ratio (a d : BitVec 32) : BitVec 32 :=
  signed (a.msb && !d.msb) (Divider.quotient (magnitude a) d)

/-- From the range between -1 and 1 to pixels. -/
def placed (half w : BitVec 32) : BitVec 32 :=
  signed (w + one).msb (Multiplier.product (magnitude (w + one)) half)

/-- Fraction bit 14 rounds up; the fraction is then dropped. -/
def rounded (w : BitVec 32) : BitVec 32 := (if w.getLsbD 14 then w + one else w) &&& integerMask

def screen (half a d : BitVec 32) : BitVec 32 := rounded (placed half (ratio a d))

def column (v : Vertex) : BitVec 32 := screen width (scaled v.x) (v.z + three)

def row (v : Vertex) : BitVec 32 := screen height v.y (v.z + three)

structure Lane where
  temp : BitVec 32
  flip : Bool
  mult : BitVec 32
  divider : Divider.Registers
  multiplier : Multiplier.Registers

def Registers.laneX (r : Registers) : Lane := ⟨r.tempx, r.flipX, r.multx, r.d1, r.m1⟩

def Registers.laneY (r : Registers) : Lane := ⟨r.tempy, r.flipY, r.multy, r.d2, r.m2⟩

/-- What a lane holds on its way from the range value `w` to the screen. -/
def Lane.Places (half w : BitVec 32) (state : State) (l : Lane) : Prop :=
  match state with
  | .s13 => l.temp = w ∧ l.flip = false
  | .s14 => l.temp = w + one ∧ l.flip = false
  | .s15 => l.temp = magnitude (w + one) ∧ l.flip = (w + one).msb ∧ l.mult = half
  | .s16 => Multiplier.Holds (magnitude (w + one)) half l.multiplier ∧ l.flip = (w + one).msb
  | .s17 => l.temp = Multiplier.product (magnitude (w + one)) half ∧ l.flip = (w + one).msb
  | .s18 => l.temp = placed half w
  | .s19 => l.temp = if (placed half w).getLsbD 14 then placed half w + one else placed half w
  | .donestate1 => l.temp = rounded (placed half w)
  | _ => False

/-- The column and the row on the screen of the range values `w`; the depth is
delivered as it is. -/
def onScreen (w : Vertex) : Vertex where
  x := rounded (placed width w.x)
  y := rounded (placed height w.y)
  z := w.z

/-- The last states of a projection, which only depend on the range values `w`. -/
def Placing (w : Vertex) (r : Registers) : Prop :=
  match r.state with
  | .donestate2 => r.newx = (onScreen w).x ∧ r.newy = (onScreen w).y ∧ r.newz = (onScreen w).z
  | state => r.laneX.Places width w.x state ∧ r.laneY.Places height w.y state ∧ r.tempz = w.z

/-- What a lane holds on its way from the coordinate `a` to the screen. -/
def Lane.Carries (half a d : BitVec 32) (state : State) (l : Lane) : Prop :=
  match state with
  | .s6 | .s7 | .s8 => l.temp = a ∧ l.flip = false
  | .s9 => l.temp = magnitude a ∧ l.flip = a.msb
  | .s10 => Divider.Holds (magnitude a) d l.divider ∧ l.flip = a.msb
  | .s11 => l.divider.quotientOut = Divider.quotient (magnitude a) d ∧ l.flip = a.msb
  | .s12 => l.temp = Divider.quotient (magnitude a) d ∧ l.flip = a.msb
  | .s13 => l.temp = ratio a d ∧ l.flip = false
  | .s14 => l.temp = ratio a d + one ∧ l.flip = false
  | .s15 => l.temp = magnitude (ratio a d + one) ∧ l.flip = (ratio a d + one).msb ∧ l.mult = half
  | .s16 => Multiplier.Holds (magnitude (ratio a d + one)) half l.multiplier ∧
      l.flip = (ratio a d + one).msb
  | .s17 => l.temp = Multiplier.product (magnitude (ratio a d + one)) half ∧
      l.flip = (ratio a d + one).msb
  | .s18 => l.temp = placed half (ratio a d)
  | .s19 => l.temp =
      if (placed half (ratio a d)).getLsbD 14 then placed half (ratio a d) + one
      else placed half (ratio a d)
  | .donestate1 => l.temp = screen half a d
  | _ => True

/-- The multiplication of the column by the shape of the screen comes first. -/
def Shaping (v : Vertex) (r : Registers) : Prop :=
  r.flipX = v.x.msb ∧ r.flipY = false ∧ r.flipDivider = false

/-- What a projection of `v` holds in each state. -/
def Aimed (v : Vertex) (r : Registers) : Prop :=
  match r.state with
  | .wait | .s00 => True
  | .s0 | .s1 => r.flipX = false ∧ r.flipY = false ∧ r.flipDivider = false
  | .s2 => r.tempx = magnitude v.x ∧ r.multx = aspectRatio ∧ Shaping v r
  | .s3 => Multiplier.Holds (magnitude v.x) aspectRatio r.m1 ∧ Shaping v r
  | .s4 => r.m1.resultOut = Multiplier.product (magnitude v.x) aspectRatio ∧ Shaping v r
  | .s5 => r.tempx = Multiplier.product (magnitude v.x) aspectRatio ∧ r.tempy = v.y ∧ Shaping v r
  | .s6 | .s7 | .s8 => r.laneX.Carries width (scaled v.x) (v.z + three) r.state ∧
      r.laneY.Carries height v.y (v.z + three) r.state ∧ r.flipDivider = false
  | .s9 | .s10 | .s11 | .s12 => r.laneX.Carries width (scaled v.x) (v.z + three) r.state ∧
      r.laneY.Carries height v.y (v.z + three) r.state ∧ r.flipDivider = (v.z + three).msb
  | .s13 | .s14 | .s15 | .s16 | .s17 | .s18 | .s19 | .donestate1 =>
      r.laneX.Carries width (scaled v.x) (v.z + three) r.state ∧
        r.laneY.Carries height v.y (v.z + three) r.state
  | .donestate2 => r.newx = column v ∧ r.newy = row v

variable {r : Registers} {v : Vertex} {start : Bool}

theorem Placing.step {w : Vertex} (placing : Placing w r) (busy : Busy r) :
    Placing w (r.clock ⟨v, start⟩) := by
  have units := busy.units
  cases state : r.state <;> simp only [state] at units <;>
    simp only [Placing, state, Lane.Places, Registers.laneX, Registers.laneY, false_and] at placing
  case s13 =>
    obtain ⟨⟨tempx, flipX⟩, ⟨tempy, flipY⟩, tempz⟩ := placing
    simpa only [Placing, Registers.clock, Registers.comb, Registers.defaults, state, Lane.Places,
      Registers.laneX, Registers.laneY, tempx, tempy, true_and] using ⟨flipX, flipY, tempz⟩
  case s14 =>
    obtain ⟨⟨tempx, flipX⟩, ⟨tempy, flipY⟩, tempz⟩ := placing
    simp only [Placing, Registers.clock, Registers.comb, Registers.defaults, state, Lane.Places,
      Registers.laneX, Registers.laneY, magnitude, tempx, flipX, tempy, flipY, true_and, and_true]
    refine ⟨?_, ?_, tempz⟩
    · cases (w.x + one).msb <;> rfl
    · cases (w.y + one).msb <;> rfl
  case s15 =>
    obtain ⟨⟨tempx, flipX, multx⟩, ⟨tempy, flipY, multy⟩, tempz⟩ := placing
    simp only [Placing, Registers.clock, Registers.comb, Registers.defaults, state, Lane.Places,
      Registers.laneX, Registers.laneY, tempx, tempy, multx, multy]
    exact ⟨⟨Multiplier.holds_of_start units.m1.done, flipX⟩,
      ⟨Multiplier.holds_of_start units.m2.done, flipY⟩, tempz⟩
  case s16 =>
    obtain ⟨⟨holdsX, flipX⟩, ⟨holdsY, flipY⟩, tempz⟩ := placing
    have holdsX' := holdsX.clock (i := ⟨r.tempx, r.multx, false⟩) rfl
    have holdsY' := holdsY.clock (i := ⟨r.tempy, r.multy, false⟩) rfl
    cases all : r.m1.done && r.m2.done
    · simpa only [Placing, Registers.clock, Registers.comb, Registers.defaults, state, Lane.Places,
        Registers.laneX, Registers.laneY, all, Bool.false_eq_true, ↓reduceIte]
        using ⟨⟨holdsX', flipX⟩, ⟨holdsY', flipY⟩, tempz⟩
    · obtain ⟨idleX, idleY⟩ := by simpa only [Bool.and_eq_true] using all
      simp only [Placing, Registers.clock, Registers.comb, Registers.defaults, state, Lane.Places,
        Registers.laneX, Registers.laneY, all, ↓reduceIte]
      exact ⟨⟨holdsX.result idleX, flipX⟩, ⟨holdsY.result idleY, flipY⟩, tempz⟩
  case s17 =>
    obtain ⟨⟨tempx, flipX⟩, ⟨tempy, flipY⟩, tempz⟩ := placing
    simpa only [Placing, Registers.clock, Registers.comb, Registers.defaults, state, Lane.Places,
      Registers.laneX, Registers.laneY, placed, signed, tempx, flipX, tempy, flipY, true_and]
      using tempz
  case s18 =>
    obtain ⟨tempx, tempy, tempz⟩ := placing
    simpa only [Placing, Registers.clock, Registers.comb, Registers.defaults, state, Lane.Places,
      Registers.laneX, Registers.laneY, tempx, tempy, beq_true, true_and] using tempz
  case s19 =>
    obtain ⟨tempx, tempy, tempz⟩ := placing
    simpa only [Placing, Registers.clock, Registers.comb, Registers.defaults, state, Lane.Places,
      Registers.laneX, Registers.laneY, rounded, tempx, tempy, true_and] using tempz
  case donestate1 =>
    obtain ⟨tempx, tempy, tempz⟩ := placing
    simp only [Placing, Registers.clock, Registers.comb, Registers.defaults, state]
    rw [onScreen]
    exact ⟨tempx, tempy, tempz⟩

theorem aimed_of_start (ready : Waiting r ∨ Completed r) : Aimed v (r.clock ⟨v, true⟩) := by
  rcases ready with waiting | completed
  · simp [Aimed, Registers.clock, Registers.comb, waiting.state]
  · simp [Aimed, Registers.clock, Registers.comb, completed.state]

theorem Aimed.shape (aimed : Aimed v r) (busy : Busy r)
    (early : r.state = .s0 ∨ r.state = .s00 ∨ r.state = .s1 ∨ r.state = .s2 ∨ r.state = .s3 ∨
      r.state = .s4 ∨ r.state = .s5) : Aimed v (r.clock ⟨v, start⟩) := by
  have units := busy.units
  rcases early with state | state | state | state | state | state | state <;>
    simp only [state] at units <;> simp only [Aimed, state, Shaping] at aimed
  · simpa only [Aimed, Registers.clock, Registers.comb, Registers.defaults, state] using aimed
  · simp only [Aimed, Registers.clock, Registers.comb, Registers.defaults, state, and_self]
  · obtain ⟨flipX, flipY, flipDivider⟩ := aimed
    simp only [Aimed, Registers.clock, Registers.comb, Registers.defaults, state, Shaping,
      magnitude, flipX, flipY, flipDivider, and_self, and_true, true_and]
    cases v.x.msb <;> rfl
  · obtain ⟨tempx, multx, flips⟩ := aimed
    simp only [Aimed, Registers.clock, Registers.comb, Registers.defaults, state, Shaping,
      tempx, multx]
    exact ⟨Multiplier.holds_of_start units.m1.done, flips⟩
  · obtain ⟨holds, flips⟩ := aimed
    have holds' := holds.clock (i := ⟨r.tempx, r.multx, false⟩) rfl
    cases all : r.m1.done && r.m3.done
    · simpa only [Aimed, Registers.clock, Registers.comb, Registers.defaults, state, Shaping, all,
        Bool.false_eq_true, ↓reduceIte] using ⟨holds', flips⟩
    · have idle := (Bool.and_eq_true _ _ ▸ all).1
      rw [Multiplier.idle_clock idle rfl] at holds'
      simpa only [Aimed, Registers.clock, Registers.comb, Registers.defaults, state, Shaping, all,
        ↓reduceIte, Multiplier.idle_clock (r := r.m1) (i := ⟨r.tempx, r.multx, false⟩) idle rfl]
        using ⟨holds'.result idle, flips⟩
  · obtain ⟨result, flips⟩ := aimed
    simpa only [Aimed, Registers.clock, Registers.comb, Registers.defaults, state, Shaping, result,
      true_and] using flips
  · obtain ⟨tempx, tempy, flipX, flipY, flipDivider⟩ := aimed
    simp only [Aimed, Registers.clock, Registers.comb, Registers.defaults, state, Lane.Carries,
      Registers.laneX, Registers.laneY, scaled, signed, tempx, tempy, flipX, flipY, flipDivider,
      and_self, and_true, true_and]
    cases v.x.msb <;> rfl

theorem Aimed.aim (aimed : Aimed v r) (busy : Busy r) (depth : v.z + three ≠ 0)
    (middle : r.state = .s6 ∨ r.state = .s7 ∨ r.state = .s8 ∨ r.state = .s9) :
    Aimed v (r.clock ⟨v, start⟩) := by
  have units := busy.units
  rcases middle with state | state | state | state <;> simp only [state] at units <;>
    simp only [Aimed, state, Lane.Carries, Registers.laneX, Registers.laneY] at aimed
  · simpa only [Aimed, Registers.clock, Registers.comb, Registers.defaults, state, Lane.Carries,
      Registers.laneX, Registers.laneY] using aimed
  · have eye : (v.z + three == 0) = false := by simpa using depth
    simpa only [Aimed, Registers.clock, Registers.comb, Registers.defaults, state, Lane.Carries,
      Registers.laneX, Registers.laneY, eye, Bool.false_eq_true, ↓reduceIte] using aimed
  · obtain ⟨⟨tempx, flipX⟩, ⟨tempy, flipY⟩, flipDivider⟩ := aimed
    simp only [Aimed, Registers.clock, Registers.comb, Registers.defaults, state, Lane.Carries,
      Registers.laneX, Registers.laneY, magnitude, tempx, flipX, tempy, flipY, flipDivider,
      true_and]
    refine ⟨?_, ?_, ?_⟩
    · cases (scaled v.x).msb <;> rfl
    · cases v.y.msb <;> rfl
    · cases (v.z + three).msb <;> rfl
  · obtain ⟨⟨tempx, flipX⟩, ⟨tempy, flipY⟩, flipDivider⟩ := aimed
    simp only [Aimed, Registers.clock, Registers.comb, Registers.defaults, state, Lane.Carries,
      Registers.laneX, Registers.laneY, tempx, tempy]
    exact ⟨⟨Divider.holds_of_start units.d1.done, flipX⟩,
      ⟨Divider.holds_of_start units.d2.done, flipY⟩, flipDivider⟩

theorem Aimed.divide (aimed : Aimed v r)
    (dividing : r.state = .s10 ∨ r.state = .s11 ∨ r.state = .s12) :
    Aimed v (r.clock ⟨v, start⟩) := by
  rcases dividing with state | state | state <;>
    simp only [Aimed, state, Lane.Carries, Registers.laneX, Registers.laneY] at aimed
  · obtain ⟨⟨holdsX, flipX⟩, ⟨holdsY, flipY⟩, flipDivider⟩ := aimed
    have holdsX' := holdsX.clock (i := ⟨r.tempx, v.z + three, false⟩) rfl
    have holdsY' := holdsY.clock (i := ⟨r.tempy, v.z + three, false⟩) rfl
    cases all : r.d1.done && r.d2.done && r.d3.done
    · simpa only [Aimed, Registers.clock, Registers.comb, Registers.defaults, state, Lane.Carries,
        Registers.laneX, Registers.laneY, all, Bool.false_eq_true, ↓reduceIte]
        using ⟨⟨holdsX', flipX⟩, ⟨holdsY', flipY⟩, flipDivider⟩
    · obtain ⟨⟨idleX, idleY⟩, _⟩ := by simpa only [Bool.and_eq_true] using all
      simp only [Aimed, Registers.clock, Registers.comb, Registers.defaults, state, Lane.Carries,
        Registers.laneX, Registers.laneY, all, ↓reduceIte]
      rw [Divider.idle_clock idleX rfl, Divider.idle_clock idleY rfl]
      exact ⟨⟨holdsX.result idleX, flipX⟩, ⟨holdsY.result idleY, flipY⟩, flipDivider⟩
  · obtain ⟨⟨quotientX, flipX⟩, ⟨quotientY, flipY⟩, flipDivider⟩ := aimed
    simpa only [Aimed, Registers.clock, Registers.comb, Registers.defaults, state, Lane.Carries,
      Registers.laneX, Registers.laneY, quotientX, quotientY, true_and]
      using ⟨flipX, flipY, flipDivider⟩
  · obtain ⟨⟨tempx, flipX⟩, ⟨tempy, flipY⟩, flipDivider⟩ := aimed
    simp only [Aimed, Registers.clock, Registers.comb, Registers.defaults, state, Lane.Carries,
      Registers.laneX, Registers.laneY, ratio, signed, tempx, flipX, tempy, flipY, flipDivider,
      and_true]
    constructor
    · cases (scaled v.x).msb <;> cases (v.z + three).msb <;> rfl
    · cases v.y.msb <;> cases (v.z + three).msb <;> rfl

/-- From `S13` on, only the range value that was reached matters. -/
theorem Placing.aimed {z : BitVec 32}
    (placing : Placing ⟨ratio (scaled v.x) (v.z + three), ratio v.y (v.z + three), z⟩ r) :
    Aimed v r := by
  cases state : r.state <;>
    simp only [Placing, state, Lane.Places, false_and] at placing <;>
    simp only [Aimed, state]
  all_goals exact ⟨placing.1, placing.2.1⟩

theorem Aimed.placing (aimed : Aimed v r)
    (late : r.state = .s13 ∨ r.state = .s14 ∨ r.state = .s15 ∨ r.state = .s16 ∨ r.state = .s17 ∨
      r.state = .s18 ∨ r.state = .s19 ∨ r.state = .donestate1) :
    Placing ⟨ratio (scaled v.x) (v.z + three), ratio v.y (v.z + three), r.tempz⟩ r := by
  rcases late with state | state | state | state | state | state | state | state <;>
    simp only [Aimed, state] at aimed <;>
    simp only [Placing, state] <;>
    exact ⟨aimed.1, aimed.2, trivial⟩

theorem Aimed.place (aimed : Aimed v r) (busy : Busy r)
    (late : r.state = .s13 ∨ r.state = .s14 ∨ r.state = .s15 ∨ r.state = .s16 ∨ r.state = .s17 ∨
      r.state = .s18 ∨ r.state = .s19 ∨ r.state = .donestate1) :
    Aimed v (r.clock ⟨v, start⟩) :=
  ((aimed.placing late).step busy).aimed

theorem Aimed.step (aimed : Aimed v r) (busy : Busy r) (depth : v.z + three ≠ 0) :
    Aimed v (r.clock ⟨v, start⟩) := by
  have units := busy.units
  cases state : r.state <;> simp only [state] at units
  case s0 | s00 | s1 | s2 | s3 | s4 | s5 => exact aimed.shape busy (by simp [state])
  case s6 | s7 | s8 | s9 => exact aimed.aim busy depth (by simp [state])
  case s10 | s11 | s12 => exact aimed.divide (by simp [state])
  all_goals exact aimed.place busy (by simp [state])

end WireframeGpu.Projection
