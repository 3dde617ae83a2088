import WireframeGpu.Polygon.Ahead

namespace WireframeGpu.PolygonRaster

/-! A model in the unit cube stays on the screen at every angle: what the wrap
modulo 4.0 moves behind the model still lies inside the pyramid seen from the eye. -/

/-- The values of a register that was never written, or holds 1.0 or -1.0. -/
def unitValues : List (BitVec 32) := [0, 0x8000, 0xFFFF8000]

structure Unit (p : Projection.Vertex) : Prop where
  x : p.x ∈ unitValues
  y : p.y ∈ unitValues
  z : p.z ∈ unitValues

/-- The rows of the three tables side by side. -/
def angleRows : List (BitVec 32 × BitVec 32 × BitVec 32) :=
  Rom.sinValues.zip (Rom.cosValues.zip Rom.negSinValues)

/-- No vertex of the unit cube gets farther from the axis than it is from the eye. -/
def low : BitVec 32 × BitVec 32 × BitVec 32 → Bool := fun (sinOut, cosOut, negSinOut) =>
  unitValues.all fun y => unitValues.all fun z =>
    (projY y z sinOut cosOut).toNat ≤ (projZ y z cosOut negSinOut).toNat + 3 * 2 ^ 15

theorem angleRows_low : angleRows.all low = true := by
  decide +kernel

theorem angleRows_length : angleRows.length = 315 := by
  decide +kernel

variable {row : BitVec 9} {p : Projection.Vertex}

theorem unit_toInt {w : BitVec 32} (unit : w ∈ unitValues) : |w.toInt| ≤ 2 ^ 15 := by
  simp only [unitValues, List.mem_cons, List.not_mem_nil, or_false] at unit
  rcases unit with rfl | rfl | rfl <;> decide

theorem angleRows_at (bound : row.toNat < angleRows.length) : angleRows[row.toNat] =
    (Megafunctions.initFiles.sin row, Megafunctions.initFiles.cos row,
      Megafunctions.initFiles.negSin row) := by
  have lengths := bound
  simp only [angleRows, List.length_zip, lt_inf_iff] at lengths
  obtain ⟨sin, cos, negSin⟩ := lengths
  simp only [angleRows, List.getElem_zip, Megafunctions.initFiles, Rom.table,
    List.getD_eq_getElem _ _ sin, List.getD_eq_getElem _ _ cos, List.getD_eq_getElem _ _ negSin]

theorem mem_angleRows (inside : row.toNat < 315) :
    (Megafunctions.initFiles.sin row, Megafunctions.initFiles.cos row,
      Megafunctions.initFiles.negSin row) ∈ angleRows := by
  have bound : row.toNat < angleRows.length := by rwa [angleRows_length]
  exact List.mem_iff_getElem.mpr ⟨row.toNat, bound, angleRows_at bound⟩

theorem Unit.low (unit : Unit p) (inside : row.toNat < 315) :
    (turned .initFiles row p).y.toNat ≤ (turned .initFiles row p).z.toNat + 3 * 2 ^ 15 := by
  have each := List.all_eq_true.mp angleRows_low _ (mem_angleRows inside)
  have ordinate := List.all_eq_true.mp each p.y unit.y
  exact of_decide_eq_true (List.all_eq_true.mp ordinate p.z unit.z)

/-- With the tables of the initialisation files, every vertex of the unit cube is
in the field of view in every row. -/
theorem unit_visible (unit : Unit p) (inside : row.toNat < 315) :
    Projection.Visible (turned .initFiles row p) := by
  have ahead := turned_ahead .initFiles row p
  obtain ⟨above, top⟩ := ahead.high
  obtain ⟨near, far⟩ := ahead.deep
  have width := unit_toInt unit.x
  have low := unit.low inside
  have column : (turned .initFiles row p).x = p.x := rfl
  have row_small := (turned .initFiles row p).y.isLt
  have depth_small := (turned .initFiles row p).z.isLt
  have row_value := (turned .initFiles row p).y.toInt_eq_toNat_cond
  have depth_value := (turned .initFiles row p).z.toInt_eq_toNat_cond
  rw [abs_le] at width
  constructor
  · rw [column]
    omega
  · omega
  · omega
  · omega
  · rw [column]
    have bound := abs_le.mpr width
    omega
  · rw [abs_of_nonneg above]
    split at row_value <;> split at depth_value <;> omega

end WireframeGpu.PolygonRaster
