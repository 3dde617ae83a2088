import WireframeGpu.Software.Spelling

namespace WireframeGpu.Software

open WireframeGpu.Data

/-! The registers after an object file has been loaded, against the faces it states. -/

/-- The vertices that the indices of the file count. -/
def vertices (file : List Statement) : List (Int × Int × Int) :=
  file.filterMap fun
    | .vertex x y z => some (x, y, z)
    | _ => none

/-- The lines that begin with `v`; those that state no vertex are `none`. -/
def marked (file : List Statement) : List (Option (Int × Int × Int)) :=
  file.filterMap fun
    | .vertex x y z => some (some (x, y, z))
    | .auxiliary => some none
    | _ => none

def indices (file : List Statement) : List (Nat × Nat × Nat) :=
  file.filterMap fun
    | .face i j k => some (i, j, k)
    | _ => none

/-- Every face names vertices that come before it; there are `before` ones already. -/
def Preceded : (before : Nat) → List Statement → Prop
  | _, [] => True
  | before, .vertex _ _ _ :: file => Preceded (before + 1) file
  | before, .face i j k :: file =>
      (∀ n ∈ [i, j, k], 1 ≤ n ∧ n ≤ before) ∧ Preceded before file
  | before, _ :: file => Preceded before file

/-- A number in fixed point, with fifteen bits behind the point. -/
def code (x : Int) : BitVec 32 := BitVec.ofInt 32 (x * 2 ^ 15)

def registers (r : Registerfile.Registers) (stores : List Store) : Registerfile.Registers :=
  stores.foldl (fun r s => r.clock s.bus) r

/-- The registers hold the faces of the file. -/
structure Resolved (file : List Statement) (r : Registerfile.Registers) : Prop where
  corner : ∀ t m i, m < 3 → (corners (indices file))[3 * t + m]? = some i → ∃ x y z,
    (vertices file)[i - 1]? = some (x, y, z) ∧
      r.regs (BitVec.ofNat 7 (3 * t + m)) = code x ∧
      r.regs (BitVec.ofNat 7 (36 + 3 * t + m)) = code y ∧
      r.regs (BitVec.ofNat 7 (72 + 3 * t + m)) = code z
  size : r.regs 127 = BitVec.ofNat 32 (indices file).length

/-- The loader finishes, and has filled the registers whatever they held before. -/
def Loads (junk : Nat → Junk) (file : List Char) (statements : List Statement) : Prop :=
  ∃ fuel stores, program junk file fuel = .ok stores ∧ ∀ r, Resolved statements (registers r stores)

/-- What is asked of the file: the index of a corner counts the lines that begin
with `v` as it counts the vertices. -/
def Sound (file : List Statement) : Prop :=
  (∀ i j k, (i, j, k) ∈ indices file → i < 2 ^ 31 ∧ j < 2 ^ 31) ∧
    ∀ i ∈ corners (indices file),
      (marked file)[min i (2 ^ 31 - 1) - 1]? = some (vertices file)[i - 1]?

/-! The registers after the stores. -/

variable {junk : Nat → Junk} {stores : List Store} {r : Registerfile.Registers}

theorem Store.clock_regs {s : Store} (inside : s.index < 128) (address : BitVec 7) :
    (r.clock s.bus).regs address =
      if address = BitVec.ofNat 7 s.index then s.value else r.regs address := by
  rw [Registerfile.Registers.clock_regs]
  by_cases here : address = BitVec.ofNat 7 s.index <;>
    simp [Registerfile.Inputs.written, Store.bus, inside, here]

theorem registers_append (first second : List Store) :
    registers r (first ++ second) = registers (registers r first) second :=
  List.foldl_append

theorem registers_frame {index : Nat} (bound : index < 128)
    (others : ∀ s ∈ stores, s.index < 128 ∧ s.index ≠ index) :
    (registers r stores).regs (BitVec.ofNat 7 index) = r.regs (BitVec.ofNat 7 index) := by
  induction stores generalizing r with
  | nil => rfl
  | cons s stores ih =>
      obtain ⟨⟨inside, other⟩, others⟩ := List.forall_mem_cons.mp others
      have apart : BitVec.ofNat 7 index ≠ BitVec.ofNat 7 s.index := by
        intro same
        have values := congrArg BitVec.toNat same
        simp only [BitVec.toNat_ofNat] at values
        omega
      rw [registers, List.foldl_cons]
      exact (ih others).trans (by rw [Store.clock_regs inside, if_neg apart])

/-- A store that is the last one to its register. -/
theorem registers_last (before : List Store) {after : List Store} {s : Store}
    (inside : s.index < 128)
    (others : ∀ t ∈ after, t.index < 128 ∧ t.index ≠ s.index) :
    (registers r (before ++ s :: after)).regs (BitVec.ofNat 7 s.index) = s.value := by
  rw [registers_append]
  have frame := registers_frame (r := (registers r before).clock s.bus) inside others
  rw [Store.clock_regs inside, if_pos rfl] at frame
  exact frame

section

variable {cs : List (ℚ × ℚ × ℚ)} {p : ℚ × ℚ × ℚ} {size : BitVec 32}

theorem mem_writes {tracker c : Nat} (found : cs[c]? = some p) {s : Store}
    (member : s ∈ Store.corner (tracker + c) p) : s ∈ writes tracker cs := by
  induction cs generalizing tracker c with
  | nil => simp at found
  | cons q cs ih =>
      rw [writes, List.mem_append]
      cases c with
      | zero =>
          obtain rfl := Option.some.inj found
          exact .inl member
      | succ c => exact .inr (ih found (by rwa [Nat.add_right_comm]))

/-- Every store of a corner is still there in the end. -/
theorem registers_corner (few : cs.length ≤ 36) {s : Store} (written : s ∈ writes 0 cs) :
    (registers r (⟨126, 0⟩ :: writes 0 cs ++ [⟨127, size⟩, ⟨126, 1⟩])).regs
      (BitVec.ofNat 7 s.index) = s.value := by
  have confined : Confined (⟨126, 0⟩ :: writes 0 cs ++ [⟨127, size⟩, ⟨126, 1⟩]) (writes 0 cs) :=
    confined_of_few few List.prefix_rfl
  obtain ⟨-, -, once, control, inside⟩ := confined
  obtain ⟨before, after, split⟩ := List.append_of_mem written
  have bound := inside s (by simp [written])
  rw [split] at once inside control ⊢
  have later : ∀ t ∈ after ++ [⟨127, size⟩, ⟨126, 1⟩], t.index < 128 ∧ t.index ≠ s.index := by
    intro t member
    refine ⟨inside t (by simp at member ⊢; tauto), ?_⟩
    rcases List.mem_append.mp member with after' | last
    · simp only [List.map_append, List.map_cons, List.nodup_append, List.nodup_cons] at once
      exact fun same => once.2.1.1 (same ▸ List.mem_map_of_mem after')
    · have reserved := control s (by simp)
      simp only [List.mem_cons, List.not_mem_nil, or_false] at last
      rcases last with rfl | rfl
      · exact reserved.2.symm
      · exact reserved.1.symm
  have final := registers_last (r := r) (⟨126, 0⟩ :: before) bound later
  simpa using final

theorem registers_place {c : Nat} (few : cs.length ≤ 36) (stored : cs[c]? = some p) :
    let final := registers r (⟨126, 0⟩ :: writes 0 cs ++ [⟨127, size⟩, ⟨126, 1⟩])
    final.regs (BitVec.ofNat 7 c) = fixed p.1 ∧ final.regs (BitVec.ofNat 7 (c + 36)) = fixed p.2.1 ∧
      final.regs (BitVec.ofNat 7 (c + 72)) = fixed p.2.2 := by
  intro final
  have place : ∀ s ∈ Store.corner c p, final.regs (BitVec.ofNat 7 s.index) = s.value :=
    fun s member => registers_corner few (mem_writes stored (by rwa [Nat.zero_add]))
  exact ⟨place ⟨c, fixed p.1⟩ (by simp [Store.corner]),
    place ⟨c + 36, fixed p.2.1⟩ (by simp [Store.corner]),
    place ⟨c + 72, fixed p.2.2⟩ (by simp [Store.corner])⟩

theorem registers_size :
    (registers r (⟨126, 0⟩ :: writes 0 cs ++ [⟨127, size⟩, ⟨126, 1⟩])).regs 127 = size := by
  have later : ∀ t ∈ [(⟨126, 1⟩ : Store)], t.index < 128 ∧ t.index ≠ 127 := by simp
  have final := registers_last (r := r) (s := ⟨127, size⟩) (⟨126, 0⟩ :: writes 0 cs)
    (Nat.lt_succ_self 127) later
  simpa using final

end

/-! The lines as the loader reads them, against their statements. -/

/-- What the loader reads from lines that state `file`. -/
def stated (junk : Nat → Junk) (pass : Nat) (file : List Statement) : List (Line ℚ) :=
  (file.zipIdx pass).map fun (statement, pass) => statement.line (junk pass)

theorem stated_cons (pass : Nat) (statement : Statement) (file : List Statement) :
    stated junk pass (statement :: file) =
      statement.line (junk pass) :: stated junk (pass + 1) file := by
  simp [stated, List.zipIdx_cons]

section

variable {lines : List (List Char)} {file : List Statement} {i : Nat}

theorem readLines_eq (spelled : List.Forall₂ Spells lines file) (pass : Nat) :
    readLines junk pass lines = stated junk pass file := by
  induction spelled generalizing pass with
  | nil => rfl
  | cons spells _ ih =>
      rw [stated_cons, ← ih, ← spells.read]
      simp [readLines, List.zipIdx_cons]

theorem vertex_unit (spelled : List.Forall₂ Spells lines file) {x y z : Int}
    (member : .vertex x y z ∈ file) :
    (x = 1 ∨ x = -1) ∧ (y = 1 ∨ y = -1) ∧ (z = 1 ∨ z = -1) := by
  induction spelled with
  | nil => cases member
  | cons spells _ ih =>
      rcases List.mem_cons.mp member with rfl | later
      · cases spells with
        | vertex _ first _ second _ third _ => exact ⟨first.unit, second.unit, third.unit⟩
      · exact ih later

/-- When the first two indices of each face are in range, all three are read. -/
theorem corners_stated (junk : Nat → Junk)
    (readable : ∀ i j k, (i, j, k) ∈ indices file → i < 2 ^ 31 ∧ j < 2 ^ 31) (pass : Nat) :
    corners (faces (stated junk pass file)) = (corners (indices file)).map clamp := by
  induction file generalizing pass with
  | nil => rfl
  | cons statement file ih =>
      rw [stated_cons]
      cases statement with
      | face i j k =>
          obtain ⟨small, small'⟩ := readable i j k List.mem_cons_self
          rw [Statement.face_line (junk pass) small small' k]
          have rest :=
            ih (fun i j k later => readable i j k (List.mem_cons_of_mem _ later)) (pass + 1)
          exact congrArg ([clamp i, clamp j, clamp k] ++ ·) rest
      | vertex x y z => exact ih readable (pass + 1)
      | auxiliary => exact ih readable (pass + 1)
      | other => exact ih readable (pass + 1)

theorem mem_faces_stated (values : Junk) {face : Nat × Nat × Nat} (member : face ∈ indices file)
    (pass : Nat) : values.face face ∈ faces (stated (fun _ => values) pass file) := by
  induction file generalizing pass with
  | nil => cases member
  | cons statement file ih =>
      rw [stated_cons]
      cases statement with
      | face i j k =>
          rcases List.mem_cons.mp member with rfl | later
          · exact List.mem_cons_self
          · exact List.mem_cons_of_mem _ (ih later (pass + 1))
      | vertex x y z => exact ih member (pass + 1)
      | auxiliary => exact ih member (pass + 1)
      | other => exact ih member (pass + 1)

theorem faces_stated_length (pass : Nat) :
    (faces (stated junk pass file)).length = (indices file).length := by
  induction file generalizing pass with
  | nil => rfl
  | cons statement file ih =>
      rw [stated_cons]
      cases statement with
      | face i j k => exact congrArg (· + 1) (ih (pass + 1))
      | vertex x y z => exact ih (pass + 1)
      | auxiliary => exact ih (pass + 1)
      | other => exact ih (pass + 1)

/-- What a line that begins with `v` pushes: a line that states no vertex pushes zero
and whatever the variables hold. -/
def pushed (junk : Junk) : Option (Int × Int × Int) → ℚ × ℚ × ℚ
  | some (x, y, z) => (x, y, z)
  | none => (0, junk.y, junk.z)

theorem pushes_stated (junk : Nat → Junk) (pass : Nat) :
    List.Forall₂ (fun mark p => ∃ n, p = pushed (junk n) mark) (marked file)
      (pushes (stated junk pass file)) := by
  induction file generalizing pass with
  | nil => exact .nil
  | cons statement file ih =>
      rw [stated_cons]
      cases statement with
      | vertex x y z => exact .cons ⟨pass, rfl⟩ (ih (pass + 1))
      | auxiliary => exact .cons ⟨pass, rfl⟩ (ih (pass + 1))
      | face i j k => exact ih (pass + 1)
      | other => exact ih (pass + 1)

theorem forall₂_getElem? {α β : Type} {R : α → β → Prop} {as : List α} {bs : List β} {a : α}
    (all : List.Forall₂ R as bs) (found : as[i]? = some a) : ∃ b, bs[i]? = some b ∧ R a b := by
  induction all generalizing i with
  | nil => simp at found
  | cons related _ ih =>
      cases i with
      | zero =>
          obtain rfl := Option.some.inj found
          exact ⟨_, rfl, related⟩
      | succ i => exact ih found

theorem Preceded.bounds {before : Nat} (preceded : Preceded before file) :
    ∀ i ∈ corners (indices file), 1 ≤ i ∧ i ≤ before + (vertices file).length := by
  induction file generalizing before with
  | nil => exact nofun
  | cons statement file ih =>
      cases statement with
      | vertex x y z =>
          intro i member
          obtain ⟨low, high⟩ := ih preceded i member
          refine ⟨low, high.trans ?_⟩
          simp only [vertices, List.filterMap_cons, List.length_cons]
          omega
      | face i j k =>
          intro n member
          rcases List.mem_append.mp (show n ∈ [i, j, k] ++ corners (indices file) from member) with
            here | later
          · obtain ⟨low, high⟩ := preceded.1 n here
            exact ⟨low, high.trans (Nat.le_add_right _ _)⟩
          · exact ih preceded.2 n later
      | auxiliary => exact ih preceded
      | other => exact ih preceded

theorem vertex_clamp {α : Type} {values : List α} {i : Nat} (low : 1 ≤ i) :
    vertex values (clamp i) = values[min i (2 ^ 31 - 1) - 1]? := by
  have one : (1 : Int) ≤ clamp i := by
    simp only [clamp]
    omega
  rw [vertex, if_pos one]
  congr 1
  simp only [clamp]
  omega

/-- An index that is read from the file names a vertex that the loader has pushed. -/
theorem named_stated (junk : Nat → Junk) {before more : Nat} (preceded : Preceded before file)
    (enough : before ≤ more)
    (readable : ∀ i j k, (i, j, k) ∈ indices file → i < 2 ^ 31 ∧ j < 2 ^ 31) (pass : Nat) :
    Named more (stated junk pass file) := by
  induction file generalizing before more pass with
  | nil => trivial
  | cons statement file ih =>
      rw [stated_cons]
      cases statement with
      | vertex x y z => exact ih preceded (Nat.add_le_add_right enough 1) readable (pass + 1)
      | auxiliary => exact ih preceded (enough.trans (Nat.le_succ more)) readable (pass + 1)
      | face i j k =>
          obtain ⟨named, preceded⟩ := preceded
          obtain ⟨small, small'⟩ := readable i j k List.mem_cons_self
          rw [Statement.face_line (junk pass) small small' k]
          refine ⟨?_, ih preceded enough
            (fun i j k later => readable i j k (List.mem_cons_of_mem _ later)) (pass + 1)⟩
          have bounds : ∀ n ∈ [i, j, k], (1 : Int) ≤ clamp n ∧ clamp n ≤ more := by
            intro n member
            obtain ⟨low, high⟩ := named n member
            simp only [clamp]
            omega
          intro face member
          simp only [List.mem_cons, List.not_mem_nil, or_false] at member
          rcases member with rfl | rfl | rfl
          · exact bounds i (by simp)
          · exact bounds j (by simp)
          · exact bounds k (by simp)
      | other => exact ih preceded enough readable (pass + 1)

theorem fixed_code {x : Int} (unit : x = 1 ∨ x = -1) : fixed (x : ℚ) = code x := by
  rcases unit with rfl | rfl
  · simp [fixed, code, fixedOne]
  · have other : ((-1 : Int) : ℚ) ≠ 1 := by norm_num
    simp only [fixed, beq_iff_eq, other, if_false]
    decide

theorem code_injective {x y : Int} (unit : x = 1 ∨ x = -1) (unit' : y = 1 ∨ y = -1)
    (same : code x = code y) : x = y := by
  rcases unit with rfl | rfl <;> rcases unit' with rfl | rfl
  · rfl
  · exact absurd same (by decide)
  · exact absurd same (by decide)
  · rfl

/-- What the registers of a corner come to hold. -/
def Shows (p : ℚ × ℚ × ℚ) (v : Int × Int × Int) : Prop :=
  fixed p.1 = code v.1 ∧ fixed p.2.1 = code v.2.1 ∧ fixed p.2.2 = code v.2.2

/-- The registers are right when every corner shows the vertex that its index counts. -/
theorem resolved_iff {stores : List Store} (executed : main (stated junk 0 file) = .ok stores)
    (few : (indices file).length ≤ 12) :
    (∀ r, Resolved file (registers r stores)) ↔
      ∀ (c i : Nat) (named : Int), (corners (indices file))[c]? = some i →
        (corners (faces (stated junk 0 file)))[c]? = some named → ∃ p v,
          vertex (pushes (stated junk 0 file)) named = some p ∧
            (vertices file)[i - 1]? = some v ∧ Shows p v := by
  obtain ⟨cs, found, rfl⟩ := main_eq executed
  have count := congrArg List.length found
  rw [List.length_map, List.length_map, corners_length, faces_stated_length] at count
  have small : cs.length ≤ 36 := by omega
  have corner : ∀ (c : Nat) (named : Int),
      (corners (faces (stated junk 0 file)))[c]? = some named → ∃ p, cs[c]? = some p ∧
        vertex (pushes (stated junk 0 file)) named = some p := by
    intro c named read
    have place := congrArg (·[c]?) found
    simp only [List.getElem?_map, read, Option.map_some] at place
    obtain ⟨p, stored, same⟩ := Option.map_eq_some_iff.mp place.symm
    exact ⟨p, stored, same.symm⟩
  constructor
  · intro resolved c i named index read
    obtain ⟨p, stored, same⟩ := corner c named read
    have split : 3 * (c / 3) + c % 3 = c := Nat.div_add_mod c 3
    obtain ⟨x, y, z, counted, atX, atY, atZ⟩ :=
      (resolved {}).corner (c / 3) (c % 3) i (Nat.mod_lt _ (by decide)) (by rwa [split])
    obtain ⟨first, second, third⟩ := registers_place small stored
    rw [split] at atX
    rw [Nat.add_assoc, split, Nat.add_comm] at atY atZ
    exact ⟨p, (x, y, z), same, counted, first.symm.trans atX, second.symm.trans atY,
      third.symm.trans atZ⟩
  · intro shows r
    refine ⟨?_, ?_⟩
    · intro t m i _ index
      have inside : 3 * t + m < (corners (faces (stated junk 0 file))).length := by
        rw [corners_length, faces_stated_length, ← corners_length]
        exact (List.getElem?_eq_some_iff.mp index).1
      have read := List.getElem?_eq_getElem inside
      obtain ⟨p, ⟨x, y, z⟩, same, counted, atX, atY, atZ⟩ := shows _ i _ index read
      obtain ⟨q, stored, same'⟩ := corner _ _ read
      obtain rfl := Option.some.inj (same.symm.trans same')
      obtain ⟨first, second, third⟩ := registers_place small stored
      rw [Nat.add_assoc, Nat.add_assoc, Nat.add_comm 36, Nat.add_comm 72]
      exact ⟨x, y, z, counted, first.trans atX, second.trans atY, third.trans atZ⟩
    · rw [registers_size, faces_stated_length]

theorem loads_iff {text : List Char} (spelled : List.Forall₂ Spells (text.splitOn '\n') file)
    (short : ∀ line ∈ text.splitOn '\n', line.length < 128) :
    Loads junk text file ↔
      ∃ stores, main (stated junk 0 file) = .ok stores ∧
        ∀ r, Resolved file (registers r stores) := by
  constructor
  · rintro ⟨fuel, stores, finished, resolved⟩
    have executed := (program_iff.mp ⟨fuel, finished⟩).2
    rw [readLines_eq spelled] at executed
    exact ⟨stores, executed, resolved⟩
  · rintro ⟨stores, executed, resolved⟩
    rw [← readLines_eq spelled] at executed
    obtain ⟨fuel, finished⟩ := program_iff.mpr ⟨short, executed⟩
    exact ⟨fuel, stores, finished, resolved⟩

theorem mem_vertices {x y z : Int} (member : (x, y, z) ∈ vertices file) :
    .vertex x y z ∈ file := by
  obtain ⟨statement, member, same⟩ := List.mem_filterMap.mp member
  cases statement with
  | vertex => cases same; exact member
  | _ => cases same

theorem mem_marked {x y z : Int} (member : some (x, y, z) ∈ marked file) :
    .vertex x y z ∈ file := by
  obtain ⟨statement, member, same⟩ := List.mem_filterMap.mp member
  cases statement with
  | vertex => cases same; exact member
  | auxiliary => cases same
  | _ => cases same

/-- An index of a face counts a vertex of the file. -/
theorem Preceded.counted (preceded : Preceded 0 file) {i : Nat}
    (member : i ∈ corners (indices file)) : 1 ≤ i ∧
      ∃ x y z, (vertices file)[i - 1]? = some (x, y, z) ∧ .vertex x y z ∈ file := by
  obtain ⟨low, high⟩ := preceded.bounds i member
  have inside : i - 1 < (vertices file).length := by omega
  exact ⟨low, _, _, _, List.getElem?_eq_getElem inside, mem_vertices (List.getElem_mem inside)⟩

theorem sound_loads {text : List Char} (spelled : List.Forall₂ Spells (text.splitOn '\n') file)
    (short : ∀ line ∈ text.splitOn '\n', line.length < 128) (few : (indices file).length ≤ 12)
    (preceded : Preceded 0 file) (sound : Sound file) : Loads junk text file := by
  obtain ⟨readable, counts⟩ := sound
  obtain ⟨stores, executed⟩ := main_ends_iff.mpr (named_stated junk preceded le_rfl readable 0)
  refine (loads_iff spelled short).mpr ⟨_, executed, (resolved_iff executed few).mpr ?_⟩
  intro c i named index read
  rw [corners_stated junk readable 0, List.getElem?_map, index] at read
  obtain rfl := Option.some.inj read
  have member := List.mem_of_getElem? index
  obtain ⟨low, x, y, z, vertex_eq, present⟩ := preceded.counted member
  have mark := counts i member
  rw [vertex_eq] at mark
  obtain ⟨p, pushed_eq, k, rfl⟩ := forall₂_getElem? (pushes_stated junk 0) mark
  obtain ⟨unitX, unitY, unitZ⟩ := vertex_unit spelled present
  rw [vertex_clamp low]
  exact ⟨_, _, pushed_eq, vertex_eq, fixed_code unitX, fixed_code unitY, fixed_code unitZ⟩

/-- The first two indices are read: one that is not may be zero, which names no vertex. -/
theorem Loads.readable {text : List Char} (spelled : List.Forall₂ Spells (text.splitOn '\n') file)
    (short : ∀ line ∈ text.splitOn '\n', line.length < 128) (loads : Loads noJunk text file)
    {i j k : Nat} (member : (i, j, k) ∈ indices file) : i < 2 ^ 31 ∧ j < 2 ^ 31 := by
  obtain ⟨stores, executed, -⟩ := (loads_iff spelled short).mp loads
  obtain ⟨cs, found, -⟩ := main_eq executed
  have named : 0 ∉ corners (faces (stated noJunk 0 file)) := by
    intro zero
    have none := List.mem_map_of_mem (f := vertex (pushes (stated noJunk 0 file))) zero
    rw [found] at none
    simp [vertex] at none
  have face := mem_faces_stated (noJunk 0) member 0
  have absent : ∀ n ∈ [((noJunk 0).face (i, j, k)).1, ((noJunk 0).face (i, j, k)).2.1,
      ((noJunk 0).face (i, j, k)).2.2], n ≠ 0 := fun n here zero =>
    named (List.mem_flatMap.mpr ⟨_, face, zero ▸ here⟩)
  simp only [Junk.face, noJunk, List.mem_cons, List.not_mem_nil, or_false, ne_eq, forall_eq_or_imp,
    forall_eq] at absent
  obtain ⟨-, second, third⟩ := absent
  have small : i < 2 ^ 31 := by
    by_contra large
    exact second (if_neg large)
  refine ⟨small, ?_⟩
  by_contra large
  exact third (if_neg fun both => large both.2)

theorem loads_sound {text : List Char} (spelled : List.Forall₂ Spells (text.splitOn '\n') file)
    (short : ∀ line ∈ text.splitOn '\n', line.length < 128) (few : (indices file).length ≤ 12)
    (preceded : Preceded 0 file) (loads : ∀ junk, Loads junk text file) : Sound file := by
  have readable := fun i j k member =>
    Loads.readable (i := i) (j := j) (k := k) spelled short (loads noJunk) member
  refine ⟨readable, fun i member => ?_⟩
  obtain ⟨c, index⟩ := List.mem_iff_getElem?.mp member
  obtain ⟨low, x, y, z, vertex_eq, present⟩ := preceded.counted member
  -- The variable `y` may hold the other of the two numbers.
  let junk : Nat → Junk := fun _ => ⟨' ', 0, ((-y : Int) : ℚ), 0, 0, 0, 0⟩
  obtain ⟨stores, executed, resolved⟩ := (loads_iff spelled short).mp (loads junk)
  have read : (corners (faces (stated junk 0 file)))[c]? = some (clamp i) := by
    rw [corners_stated junk readable 0, List.getElem?_map, index]
    rfl
  obtain ⟨p, v, found, vertex_eq', shows⟩ :=
    (resolved_iff executed few).mp resolved c i (clamp i) index read
  obtain rfl := Option.some.inj (vertex_eq.symm.trans vertex_eq')
  rw [vertex_clamp low] at found
  obtain ⟨mark, marked_eq, n, rfl⟩ := forall₂_getElem? (pushes_stated junk 0).flip found
  obtain ⟨unitX, unitY, unitZ⟩ := vertex_unit spelled present
  obtain ⟨showsX, showsY, showsZ⟩ := shows
  rw [marked_eq, vertex_eq]
  cases mark with
  | none =>
      have opposite : -y = 1 ∨ -y = -1 := by omega
      have same := code_injective opposite unitY ((fixed_code opposite).symm.trans showsY)
      omega
  | some w =>
      obtain ⟨x', y', z'⟩ := w
      obtain ⟨unitX', unitY', unitZ'⟩ :=
        vertex_unit spelled (mem_marked (List.mem_of_getElem? marked_eq))
      rw [code_injective unitX' unitX ((fixed_code unitX').symm.trans showsX),
        code_injective unitY' unitY ((fixed_code unitY').symm.trans showsY),
        code_injective unitZ' unitZ ((fixed_code unitZ').symm.trans showsZ)]

/-- Whatever the uninitialised variables hold, the registers get the faces of the file
exactly when each index counts the same vertex among the lines that begin with `v`. -/
theorem faces_resolve_iff (text : List Char) (file : List Statement)
    (spelled : List.Forall₂ Spells (text.splitOn '\n') file)
    (short : ∀ line ∈ text.splitOn '\n', line.length < 128) (few : (indices file).length ≤ 12)
    (preceded : Preceded 0 file) : (∀ junk, Loads junk text file) ↔ Sound file :=
  ⟨loads_sound spelled short few preceded,
    fun sound _ => sound_loads spelled short few preceded sound⟩

end

/-! A cube corner with a texture coordinate between its vertices. -/

def one : Numeral where
  sign := none
  whole := ['1']
  point := none
  fraction := []
  mark := none
  powerSign := none
  power := []
  signs := nofun
  wholes := by simp
  points := nofun
  fractions := nofun
  marks := nofun
  powerSigns := nofun
  powers := nofun
  pointed _ := rfl
  marked _ := ⟨rfl, rfl⟩
  complete := by decide

theorem one_spelled : Coordinate ['1'] 1 where
  unit := .inl rfl
  spelled :=
    ⟨one, rfl, by simp [one, Field.value, Field.magnitude, Field.exponent, Nat.ofDigitChars]⟩

theorem space_gap : Gap [' '] := ⟨by simp [Blank, isSpace], List.cons_ne_nil _ _⟩

def textured : List (List Char) :=
  [['v', ' ', '1', ' ', '1', ' ', '1'], ['v', 't', ' ', '0', '.', '5'],
    ['v', ' ', '1', ' ', '1', ' ', '1'], ['f', ' ', '2', ' ', '2', ' ', '2']]

def texturedFile : List Statement := [.vertex 1 1 1, .auxiliary, .vertex 1 1 1, .face 2 2 2]

theorem textured_spelled : List.Forall₂ Spells ((joined textured).splitOn '\n') texturedFile := by
  have lines : (joined textured).splitOn '\n' = textured := by decide +kernel
  have two : Index ['2'] 2 := ⟨by simp, List.cons_ne_nil _ _, by decide⟩
  have empty : Blank [] := nofun
  have corner : Spells ['v', ' ', '1', ' ', '1', ' ', '1'] (.vertex 1 1 1) :=
    .vertex space_gap one_spelled space_gap one_spelled space_gap one_spelled empty
  rw [lines]
  exact .cons corner (.cons .texture (.cons corner (.cons
    (.face space_gap two space_gap two space_gap two empty) .nil)))

theorem textured_short : ∀ line ∈ (joined textured).splitOn '\n', line.length < 128 := by
  decide +kernel

theorem textured_preceded : Preceded 0 texturedFile := ⟨by decide, trivial⟩

theorem faces_resolve_iff_textured :
    (∀ junk, Loads junk (joined textured) texturedFile) ↔ Sound texturedFile :=
  faces_resolve_iff (joined textured) texturedFile textured_spelled textured_short (by decide)
    textured_preceded

/-- The face names the second vertex and gets the texture coordinate. -/
theorem textured_face_misresolved :
    List.Forall₂ Spells ((joined textured).splitOn '\n') texturedFile ∧
      (∀ line ∈ (joined textured).splitOn '\n', line.length < 128) ∧
      (indices texturedFile).length ≤ 12 ∧ Preceded 0 texturedFile ∧
      ¬ Loads noJunk (joined textured) texturedFile := by
  refine ⟨textured_spelled, textured_short, by decide, textured_preceded, fun loads => ?_⟩
  obtain ⟨stores, executed, resolved⟩ := (loads_iff textured_spelled textured_short).mp loads
  obtain ⟨p, v, found, counted, shows, -⟩ :=
    (resolved_iff executed (by decide)).mp resolved 0 2 2 rfl rfl
  obtain rfl : (0, 0, 0) = p := Option.some.inj found
  obtain rfl : (1, 1, 1) = v := Option.some.inj counted
  exact absurd shows (by decide)

end WireframeGpu.Software
