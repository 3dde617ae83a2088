import WireframeGpu.Top.Loading

namespace WireframeGpu

open WireframeGpu.Data WireframeGpu.Software

/-! From the text of an object file to the pixels of a picture. -/

namespace Software

variable {Value : Type} [BEq Value] [OfNat Value 1] {file : List Statement} {stores : List Store}
  {cs : List (Value × Value × Value)}

/-- A corner of the faces that the file states; a corner past the last face stays at the origin. -/
def objectVertex (file : List Statement) (c : Nat) : Projection.Vertex :=
  match (corners (indices file))[c]? with
  | none => ⟨0, 0, 0⟩
  | some i =>
      match (vertices file)[i - 1]? with
      | none => ⟨0, 0, 0⟩
      | some (x, y, z) => ⟨code x, code y, code z⟩

/-- The triangles that an object file states. -/
def objectModel (file : List Statement) : Model := fun t v => objectVertex file (3 * t + v)

/-- What no face names is left as it was. -/
theorem registers_past {c : Nat} (few : cs.length ≤ 36) (past : cs.length ≤ c) (inside : c < 36)
    (size : BitVec 32) (r : Registerfile.Registers) (block : Nat) (bank : block < 3) :
    (registers r (⟨126, 0⟩ :: writes 0 cs ++ [⟨127, size⟩, ⟨126, 1⟩])).regs
      (BitVec.ofNat 7 (36 * block + c)) = r.regs (BitVec.ofNat 7 (36 * block + c)) := by
  refine registers_frame (by omega) fun s member => ?_
  simp only [List.cons_append, List.mem_cons, List.mem_append, List.not_mem_nil, or_false] at member
  rcases member with rfl | corner | rfl | rfl
  · exact ⟨by decide, by show 126 ≠ _; omega⟩
  · obtain ⟨place, written⟩ := List.mem_iff_getElem?.mp corner
    obtain ⟨named, index⟩ := writes_place written
    have banked := writes_bank few written
    have early : place / 3 < cs.length := Nat.div_lt_of_lt_mul named
    simp only [bankIndex] at index
    have three : place % 3 < 3 := Nat.mod_lt place (by decide)
    generalize place / 3 = corner at early index
    generalize place % 3 = axis at three banked index
    exact ⟨by omega, by omega⟩
  · exact ⟨by show 127 < 128; decide, by show 127 ≠ _; omega⟩
  · exact ⟨by decide, by show 126 ≠ _; omega⟩

section

variable {cs : List (ℚ × ℚ × ℚ)} {junk : Nat → Junk}

theorem objectVertex_none {c : Nat} (past : (corners (indices file))[c]? = none) :
    objectVertex file c = ⟨0, 0, 0⟩ := by
  rw [objectVertex, past]

theorem objectVertex_some {c i : Nat} {x y z : Int} (index : (corners (indices file))[c]? = some i)
    (counted : (vertices file)[i - 1]? = some (x, y, z)) :
    objectVertex file c = ⟨code x, code y, code z⟩ := by
  simp only [objectVertex, index, counted]

/-- Loaded into cleared registers, the model is what the file states. -/
theorem model_of_resolved (executed : main (stated junk 0 file) = .ok stores)
    (few : (indices file).length ≤ 12) (resolved : Resolved file (registers {} stores)) :
    (registers {} stores).model = objectModel file := by
  obtain ⟨cs, found, rfl⟩ := main_eq executed
  have count := congrArg List.length found
  rw [List.length_map, List.length_map, corners_length, faces_stated_length,
    ← corners_length] at count
  have small : cs.length ≤ 36 := by
    rw [← count, corners_length]
    omega
  funext t v
  rw [objectModel]
  cases index : (corners (indices file))[3 * t.val + v.val]? with
  | none =>
      have past : cs.length ≤ 3 * t.val + v.val := by
        rw [← count]
        exact List.getElem?_eq_none_iff.mp index
      have rest := registers_past small past (by omega)
        (BitVec.ofNat 32 (faces (stated junk 0 file)).length) {}
      have x := rest 0 (by decide)
      rw [Nat.mul_zero, Nat.zero_add] at x
      rw [objectVertex_none index]
      simp only [Registerfile.Registers.model, x, rest 1 (by decide), rest 2 (by decide)]
  | some i =>
      obtain ⟨x, y, z, counted, atX, atY, atZ⟩ := resolved.corner t v i v.isLt index
      rw [Nat.add_assoc] at atY atZ
      rw [objectVertex_some index counted]
      simp only [Registerfile.Registers.model, atX, atY, atZ]

end

end Software

namespace Gpu

section

variable {text : List Char} {file : List Statement}
  (spelled : List.Forall₂ Spells (text.splitOn '\n') file)
  (short : ∀ line ∈ text.splitOn '\n', line.length < 128) (few : (indices file).length ≤ 12)
  (preceded : Preceded 0 file) (sound : Sound file)

include spelled short few preceded sound

/-- Read to its end, the file is what the registers hold before the first frame and ever after. -/
theorem object_file_posed (junk : Nat → Junk) (buffer1 buffer2 : FrameBuffer) :
    ∃ fuel stores, program junk text fuel = .ok stores ∧
      ∀ schedule : Nat → Option Store, Carries schedule stores → ∀ switched : Nat → Bool,
        Posed .initFiles (powerUp buffer1 buffer2) (driven schedule switched)
          (objectModel file) := by
  have loads : Loads junk text file := sound_loads spelled short few preceded sound
  obtain ⟨fuel, stores, finished, resolved⟩ := loads
  have executed := (program_iff.mp ⟨fuel, finished⟩).2
  refine ⟨fuel, stores, finished, fun schedule carries switched => ?_⟩
  have posed := loaded_posed ⟨_, executed⟩ carries buffer1 buffer2 switched
  rw [readLines_eq spelled] at executed
  rwa [model_of_resolved executed few (resolved {})] at posed

end

/-- From text to pixels: the machine shows a sound object file at one angle after
the other, whatever the pace of the loader and of the display. -/
theorem object_file_pictured (junk : Nat → Junk) (text : List Char) (file : List Statement)
    (spelled : List.Forall₂ Spells (text.splitOn '\n') file)
    (short : ∀ line ∈ text.splitOn '\n', line.length < 128) (few : (indices file).length ≤ 12)
    (preceded : Preceded 0 file) (sound : Sound file) (buffer1 buffer2 : FrameBuffer) :
    ∃ fuel stores, program junk text fuel = .ok stores ∧
      ∀ schedule : Nat → Option Store, Carries schedule stores → ∀ (switched : Nat → Bool) first,
        (run .initFiles (powerUp buffer1 buffer2) (driven schedule switched)
          first).top.state.phase = .start →
        ∃ n, first < n ∧ n ≤ first + 255807 ∧
          FrameAt .initFiles (powerUp buffer1 buffer2) (driven schedule switched) first n ∧
          (run .initFiles (powerUp buffer1 buffer2) (driven schedule switched) n).top.state.phase =
            .finished ∧
          (run .initFiles (powerUp buffer1 buffer2) (driven schedule switched) n).target.Shows
            (wireframe .initFiles (angle (frames .initFiles (powerUp buffer1 buffer2)
              (driven schedule switched) n)) (objectModel file)) := by
  obtain ⟨fuel, stores, finished, poses⟩ :=
    object_file_posed spelled short few preceded sound junk buffer1 buffer2
  exact ⟨fuel, stores, finished, fun schedule carries switched first starts =>
    (poses schedule carries switched).completes starts⟩

/-! A file with one face. -/

theorem minus_sign : ∀ c ∈ some '-', isSign c := by simp [isSign]

def minusOne : Numeral := { Software.one with sign := some '-', signs := minus_sign }

theorem minus_one_spelled : Coordinate ['-', '1'] (-1) where
  unit := .inr rfl
  spelled := ⟨minusOne, rfl, by
    simp [minusOne, Software.one, Field.value, Field.magnitude, Field.exponent, Nat.ofDigitChars]⟩

def sheet : List (List Char) :=
  [['v', ' ', '1', ' ', '1', ' ', '1'], ['v', ' ', '-', '1', ' ', '1', ' ', '1'],
    ['v', ' ', '1', ' ', '-', '1', ' ', '1'], ['f', ' ', '1', ' ', '2', ' ', '3']]

def sheetFile : List Statement :=
  [.vertex 1 1 1, .vertex (-1) 1 1, .vertex 1 (-1) 1, .face 1 2 3]

theorem sheet_spelled : List.Forall₂ Spells ((joined sheet).splitOn '\n') sheetFile := by
  have lines : (joined sheet).splitOn '\n' = sheet := by decide +kernel
  have first : Index ['1'] 1 := ⟨by simp, List.cons_ne_nil _ _, by decide⟩
  have second : Index ['2'] 2 := ⟨by simp, List.cons_ne_nil _ _, by decide⟩
  have third : Index ['3'] 3 := ⟨by simp, List.cons_ne_nil _ _, by decide⟩
  have empty : Software.Blank [] := fun _ member => absurd member List.not_mem_nil
  rw [lines]
  exact .cons (.vertex space_gap one_spelled space_gap one_spelled space_gap one_spelled empty)
    (.cons (.vertex space_gap minus_one_spelled space_gap one_spelled space_gap one_spelled empty)
      (.cons (.vertex space_gap one_spelled space_gap minus_one_spelled space_gap one_spelled empty)
        (.cons (.face space_gap first space_gap second space_gap third empty) .nil)))

theorem sheet_sound : Sound sheetFile := by
  constructor
  · intro i j k member
    simp only [sheetFile, indices, List.filterMap_cons, List.filterMap_nil, List.mem_cons,
      List.not_mem_nil, or_false, Prod.mk.injEq] at member
    omega
  · decide

theorem object_file_pictured_sheet :
    ∃ fuel stores, program noJunk (joined sheet) fuel = .ok stores ∧
      ∀ schedule : Nat → Option Store, Carries schedule stores → ∀ (switched : Nat → Bool) first,
        (run .initFiles (powerUp (fun _ => 0) (fun _ => 0)) (driven schedule switched)
          first).top.state.phase = .start →
        ∃ n, first < n ∧ n ≤ first + 255807 ∧
          FrameAt .initFiles (powerUp (fun _ => 0) (fun _ => 0))
            (driven schedule switched) first n ∧
          (run .initFiles (powerUp (fun _ => 0) (fun _ => 0)) (driven schedule switched)
            n).top.state.phase = .finished ∧
          (run .initFiles (powerUp (fun _ => 0) (fun _ => 0)) (driven schedule switched)
            n).target.Shows
            (wireframe .initFiles (angle (frames .initFiles (powerUp (fun _ => 0) (fun _ => 0))
              (driven schedule switched) n)) (objectModel sheetFile)) :=
  object_file_pictured noJunk (joined sheet) sheetFile sheet_spelled (by decide +kernel) (by decide)
    ⟨by decide, trivial⟩ sheet_sound (fun _ => 0) (fun _ => 0)

end Gpu

end WireframeGpu
