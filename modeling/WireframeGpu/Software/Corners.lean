import WireframeGpu.Software.Main

namespace WireframeGpu.Software

/-! What the loader has stored of the faces, up to the end of the file or to an index
that names no vertex. -/

variable {Value : Type}

/-- What the vertex lines push on the three vectors. -/
def pushes (file : List (Line Value)) : List (Value × Value × Value) :=
  file.filterMap fun
    | .v x y z => some (x, y, z)
    | _ => none

/-- The indices that the face lines name. -/
def faces (file : List (Line Value)) : List (Int × Int × Int) :=
  file.filterMap fun
    | .f face0 face1 face2 => some (face0, face1, face2)
    | _ => none

def corners {Index : Type} (faces : List (Index × Index × Index)) : List Index :=
  faces.flatMap fun (face0, face1, face2) => [face0, face1, face2]

theorem corners_length {Index : Type} (faces : List (Index × Index × Index)) :
    (corners faces).length = 3 * faces.length := by
  induction faces with
  | nil => rfl
  | cons face faces ih => simp [corners] at ih ⊢; omega

/-- Every face names vertices that come before it; there are `before` ones already. -/
def Named : (before : Nat) → List (Line Value) → Prop
  | _, [] => True
  | before, .v _ _ _ :: file => Named (before + 1) file
  | before, .f face0 face1 face2 :: file =>
      (∀ face ∈ [face0, face1, face2], 1 ≤ face ∧ face ≤ before) ∧ Named before file
  | before, .other :: file => Named before file

/-- The three vectors have been pushed together. -/
structure Loader.Holds (l : Loader Value) (ps : List (Value × Value × Value)) : Prop where
  xvals : l.xvals = ps.map (·.1)
  yvals : l.yvals = ps.map (·.2.1)
  zvals : l.zvals = ps.map (·.2.2)

theorem Loader.holds_start : Loader.Holds ({} : Loader Value) [] := ⟨rfl, rfl, rfl⟩

variable {l l' : Loader Value} {ps cs : List (Value × Value × Value)} {face : Int}

theorem vertex_map {α β : Type} (f : α → β) (values : List α) :
    vertex (values.map f) face = (vertex values face).map f := by
  simp only [vertex]
  split
  · exact List.getElem?_map
  · rfl

theorem vertex_append {α : Type} {values more : List α} {p : α}
    (found : vertex values face = some p) :
    vertex (values ++ more) face = some p := by
  simp only [vertex] at found ⊢
  split at found
  · rw [if_pos ‹_›]
    exact List.getElem?_append_left (List.getElem?_eq_some_iff.mp found).1 ▸ found
  · cases found

theorem vertex_named {α : Type} {values : List α} :
    (∃ p, vertex values face = some p) ↔ 1 ≤ face ∧ face ≤ values.length := by
  simp only [vertex]
  split
  · rename_i low
    constructor
    · rintro ⟨p, found⟩
      have inside := (List.getElem?_eq_some_iff.mp found).1
      omega
    · rintro ⟨-, high⟩
      exact ⟨_, List.getElem?_eq_getElem (by omega)⟩
  · rename_i low
    simp [low]

/-- A vertex line pushes on all three vectors. -/
theorem Loader.Holds.push (holds : l.Holds ps) (x y z : Value) :
    Loader.Holds { l with
      xvals := l.xvals ++ [x], yvals := l.yvals ++ [y], zvals := l.zvals ++ [z] }
      (ps ++ [(x, y, z)]) :=
  ⟨by simp [holds.xvals], by simp [holds.yvals], by simp [holds.zvals]⟩

theorem Loader.Holds.count (holds : l.Holds ps) : Loader.Holds { l with size := l.size + 1 } ps :=
  ⟨holds.xvals, holds.yvals, holds.zvals⟩

variable [BEq Value] [OfNat Value 1]

/-- The three stores of one corner. -/
def Store.corner (tracker : Nat) (p : Value × Value × Value) : List Store :=
  [⟨tracker, fixed p.1⟩, ⟨tracker + 36, fixed p.2.1⟩, ⟨tracker + 72, fixed p.2.2⟩]

def writes : (tracker : Nat) → List (Value × Value × Value) → List Store
  | _, [] => []
  | tracker, p :: rest => Store.corner tracker p ++ writes (tracker + 1) rest

theorem writes_append (tracker : Nat) (p : Value × Value × Value) :
    writes tracker (cs ++ [p]) = writes tracker cs ++ Store.corner (tracker + cs.length) p := by
  induction cs generalizing tracker with
  | nil => simp [writes]
  | cons q cs ih =>
      rw [List.cons_append, writes, ih, writes, List.append_assoc, List.length_cons]
      congr 3
      omega

/-- The corners `cs` have been stored, one after the other. -/
structure Loader.Made (l : Loader Value) (cs : List (Value × Value × Value)) : Prop where
  stores : l.stores = ⟨126, 0⟩ :: writes 0 cs
  tracker : l.tracker = cs.length

def Loader.store (l : Loader Value) (p : Value × Value × Value) : Loader Value :=
  { l with tracker := l.tracker + 1, stores := l.stores ++ Store.corner l.tracker p }

theorem Loader.Made.store (made : l.Made cs) (p : Value × Value × Value) :
    (l.store p).Made (cs ++ [p]) := by
  refine ⟨?_, by simp [Loader.store, made.tracker]⟩
  rw [writes_append, Nat.zero_add, ← made.tracker, ← List.cons_append, ← made.stores]
  rfl

theorem Loader.Made.count (made : l.Made cs) : Loader.Made { l with size := l.size + 1 } cs :=
  ⟨made.stores, made.tracker⟩

theorem Loader.Holds.store (holds : l.Holds ps) (p : Value × Value × Value) :
    (l.store p).Holds ps := ⟨holds.xvals, holds.yvals, holds.zvals⟩

/-- A corner is stored as a whole, or its index is in none of the vectors. -/
theorem Loader.Holds.corner (holds : l.Holds ps) (face : Int) :
    l.corner face = match vertex ps face with
      | some p => .ok (l.store p)
      | none => .error l := by
  have x : vertex l.xvals face = (vertex ps face).map (·.1) := by rw [holds.xvals, vertex_map]
  have y : vertex l.yvals face = (vertex ps face).map (·.2.1) := by rw [holds.yvals, vertex_map]
  have z : vertex l.zvals face = (vertex ps face).map (·.2.2) := by rw [holds.zvals, vertex_map]
  cases found : vertex ps face with
  | none => simp [Loader.corner, Loader.coordinate, x, found, bind, Except.bind]
  | some p =>
      simp [Loader.corner, Loader.coordinate, x, y, z, found, bind, Except.bind, pure, Except.pure,
        Loader.store, Store.corner]

variable {file : List (Line Value)} {stores : List Store}

/-- A face line stores its three corners, when they name vertices. -/
theorem Loader.Holds.triangle (holds : l.Holds ps) {face0 face1 face2 : Int}
    {p0 p1 p2 : Value × Value × Value} (found0 : vertex ps face0 = some p0)
    (found1 : vertex ps face1 = some p1) (found2 : vertex ps face2 = some p2) :
    l.line (.f face0 face1 face2) =
      .ok (((Loader.store { l with size := l.size + 1 } p0).store p1).store p2) := by
  have holds1 := holds.count.store p0
  have holds2 := holds1.store p1
  simp [Loader.line, holds.count.corner, holds1.corner, holds2.corner, found0, found1, found2, bind,
    Except.bind]

/-- A face line stores its corners in front of the first one that names no vertex. -/
theorem Loader.Holds.faceLine (holds : l.Holds ps) (made : l.Made cs) (face0 face1 face2 : Int) :
    (∃ l' p0 p1 p2, l.line (.f face0 face1 face2) = .ok l' ∧ l'.Holds ps ∧
        l'.Made (cs ++ [p0, p1, p2]) ∧ l'.size = l.size + 1 ∧
        [face0, face1, face2].map (vertex ps) = [p0, p1, p2].map some) ∨
      ∃ l' more, l.line (.f face0 face1 face2) = .error l' ∧ l'.Made (cs ++ more) ∧
        more.length < 3 ∧ ∃ face ∈ [face0, face1, face2], vertex ps face = none := by
  have first := holds.count.corner face0
  cases found0 : vertex ps face0 with
  | none =>
      refine .inr ⟨_, [], ?_, by simpa using made.count, by simp, face0, by simp, found0⟩
      simp only [found0] at first
      simp [Loader.line, first, bind, Except.bind]
  | some p0 =>
      have holds1 := holds.count.store p0
      have made1 := made.count.store p0
      have second := holds1.corner face1
      simp only [found0] at first
      cases found1 : vertex ps face1 with
      | none =>
          refine .inr ⟨_, [p0], ?_, made1, by simp, face1, by simp, found1⟩
          simp only [found1] at second
          simp [Loader.line, first, second, bind, Except.bind]
      | some p1 =>
          have holds2 := holds1.store p1
          have made2 := made1.store p1
          have third := holds2.corner face2
          simp only [found1] at second
          cases found2 : vertex ps face2 with
          | none =>
              refine .inr ⟨_, [p0, p1], ?_, by simpa using made2, by simp, face2, by simp, found2⟩
              simp only [found2] at third
              simp [Loader.line, first, second, third, bind, Except.bind]
          | some p2 =>
              exact .inl ⟨_, p0, p1, p2, holds.triangle found0 found1 found2, holds2.store p2,
                by simpa using made2.store p2, rfl, by simp [found0, found1, found2]⟩

/-- A run of the loader: every face index has named one of the vertices pushed so far,
and their coordinates have been stored one corner after the other. -/
theorem Loader.Holds.lines (holds : l.Holds ps) (made : l.Made cs)
    (executed : file.foldlM Loader.line l = .ok l') :
    ∃ more, (corners (faces file)).map (vertex (ps ++ pushes file)) = more.map some ∧
      l'.Made (cs ++ more) ∧ l'.size = l.size + (faces file).length := by
  induction file generalizing l ps cs with
  | nil =>
      cases executed
      exact ⟨[], rfl, by simpa using made, rfl⟩
  | cons line file ih =>
      rw [List.foldlM_cons] at executed
      obtain ⟨next, one, rest⟩ := bind_ok.mp executed
      cases line with
      | v x y z =>
          cases one
          obtain ⟨more, found, stores, size⟩ :=
            ih (holds.push x y z) ⟨made.stores, made.tracker⟩ rest
          refine ⟨more, ?_, stores, size⟩
          rw [List.append_assoc] at found
          exact found
      | f face0 face1 face2 =>
          rcases holds.faceLine made face0 face1 face2 with
            ⟨l1, p0, p1, p2, stored, holds1, made1, counted, found1⟩ | ⟨l1, _, stored, _⟩
          · cases stored.symm.trans one
            obtain ⟨more, found, stores, size⟩ := ih holds1 made1 rest
            simp only [List.map_cons, List.map_nil, List.cons.injEq, and_true] at found1
            obtain ⟨found0, found1, found2⟩ := found1
            refine ⟨p0 :: p1 :: p2 :: more, ?_, by simpa using stores, ?_⟩
            · simp only [faces, pushes, corners] at found
              simp [faces, pushes, corners, vertex_append found0, vertex_append found1,
                vertex_append found2, found]
            · simp only [size, counted, faces, List.filterMap_cons, List.length_cons]
              omega
          · cases stored.symm.trans one
      | other =>
          cases one
          exact ih holds made rest

theorem Loader.made_start : Loader.Made ({} : Loader Value) [] := ⟨rfl, rfl⟩

/-- The stores of an execution: the vertices of the corners between the clearing of the
start word and the two stores at the end. -/
theorem main_eq (executed : main file = .ok stores) :
    ∃ cs, (corners (faces file)).map (vertex (pushes file)) = cs.map some ∧
      stores = ⟨126, 0⟩ :: writes 0 cs ++
        [⟨127, BitVec.ofNat 32 (faces file).length⟩, ⟨126, 1⟩] := by
  obtain ⟨l, loaded, done⟩ := bind_ok.mp executed
  cases done
  obtain ⟨cs, found, made, size⟩ := Loader.holds_start.lines Loader.made_start loaded
  refine ⟨cs, by simpa using found, ?_⟩
  rw [made.stores, size]
  simp

/-- The loader gets to the end of the file exactly if no index leaves the vectors. -/
theorem Loader.Holds.loads_iff (holds : l.Holds ps) (made : l.Made cs) :
    (∃ l', file.foldlM Loader.line l = .ok l') ↔ Named ps.length file := by
  induction file generalizing l ps cs with
  | nil => exact iff_of_true ⟨l, rfl⟩ trivial
  | cons line file ih =>
      rw [List.foldlM_cons]
      cases line with
      | v x y z =>
          have rest := ih (holds.push x y z) ⟨made.stores, made.tracker⟩
          rw [List.length_append, List.length_singleton] at rest
          exact rest
      | f face0 face1 face2 =>
          rcases holds.faceLine made face0 face1 face2 with
            ⟨l1, p0, p1, p2, stored, holds1, made1, -, found⟩
              | ⟨l1, _, stored, -, -, face, member, none⟩
          · have named : ∀ face ∈ [face0, face1, face2], 1 ≤ face ∧ face ≤ ps.length := by
              intro face member
              refine vertex_named.mp ?_
              have some := List.mem_map_of_mem (f := vertex ps) member
              rw [found] at some
              obtain ⟨p, -, same⟩ := List.mem_map.mp some
              exact ⟨p, same.symm⟩
            rw [stored]
            exact (ih holds1 made1).trans (and_iff_right named).symm
          · rw [stored]
            refine iff_of_false ?_ fun both => ?_
            · rintro ⟨_, more⟩
              cases more
            · obtain ⟨p, found⟩ := vertex_named.mpr (both.1 face member)
              cases none.symm.trans found
      | other => exact ih holds made

theorem main_ends_iff : (∃ stores, main file = .ok stores) ↔ Named 0 file := by
  refine Iff.trans ?_ (Loader.holds_start.loads_iff Loader.made_start)
  constructor
  · rintro ⟨stores, executed⟩
    obtain ⟨l, loaded, -⟩ := bind_ok.mp executed
    exact ⟨l, loaded⟩
  · rintro ⟨l, loaded⟩
    exact ⟨_, bind_ok.mpr ⟨l, loaded, rfl⟩⟩

end WireframeGpu.Software
