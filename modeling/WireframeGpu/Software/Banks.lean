import Mathlib.Data.List.Nodup
import WireframeGpu.Software.Text

namespace WireframeGpu.Software

open WireframeGpu.Data

/-! The registers that an execution stores to, as far as it has come. -/

section

variable {Value : Type} [BEq Value] [OfNat Value 1]

/-- The register that a store of the vertices goes to, by its place among them. -/
def bankIndex (tracker place : Nat) : Nat := tracker + place / 3 + 36 * (place % 3)

theorem writes_indices (tracker : Nat) (cs : List (Value × Value × Value)) :
    (writes tracker cs).map Store.index =
      (List.range (3 * cs.length)).map (bankIndex tracker) := by
  induction cs generalizing tracker with
  | nil => rfl
  | cons p cs ih =>
      have places : List.range (3 * (cs.length + 1)) =
          0 :: 1 :: 2 :: (List.range (3 * cs.length)).map (· + 3) := by
        rw [show 3 * (cs.length + 1) = 3 + 3 * cs.length by omega, List.range_add]
        simp [List.range_succ, Nat.add_comm]
      have next : ∀ place, bankIndex tracker (place + 3) = bankIndex (tracker + 1) place := by
        intro place
        simp only [bankIndex]
        omega
      rw [List.length_cons, places]
      simp only [writes, Store.corner, ih, List.map_cons, List.map_map, List.cons_append,
        List.nil_append, Function.comp_def, next]
      rfl

theorem writes_length (tracker : Nat) (cs : List (Value × Value × Value)) :
    (writes tracker cs).length = 3 * cs.length := by
  have indices := congrArg List.length (writes_indices tracker cs)
  simpa using indices

end

/-- The stores made so far keep to their places: `written` are those of the vertices,
`x`, `y` and `z` of one corner after the other. -/
structure Confined (stores written : List Store) : Prop where
  explicit : ∃ size, stores <+: ⟨126, 0⟩ :: written ++ [⟨127, size⟩, ⟨126, 1⟩]
  banks : ∀ place s, written[place]? = some s →
    36 * (place % 3) ≤ s.index ∧ s.index < 36 * (place % 3) + 36
  once : (written.map Store.index).Nodup
  control : ∀ s ∈ written, s.index ≠ 126 ∧ s.index ≠ 127
  inside : ∀ s ∈ stores, s.index < 128

section

variable {Value : Type} [BEq Value] [OfNat Value 1] {cs : List (Value × Value × Value)}
  {size : BitVec 32} {stores : List Store}

theorem writes_place {place : Nat} {s : Store} (written : (writes 0 cs)[place]? = some s) :
    place < 3 * cs.length ∧ s.index = bankIndex 0 place := by
  have indices := congrArg (·[place]?) (writes_indices 0 cs)
  simp only [List.getElem?_map, written, Option.map_some] at indices
  rcases Nat.lt_or_ge place (3 * cs.length) with inside | outside
  · rw [List.getElem?_range inside] at indices
    exact ⟨inside, Option.some.inj indices⟩
  · rw [List.getElem?_eq_none (by simpa using outside)] at indices
    cases indices

/-- Twelve faces keep each coordinate of a corner to the 36 registers of its bank. -/
theorem writes_bank {place : Nat} {s : Store} (few : cs.length ≤ 36)
    (written : (writes 0 cs)[place]? = some s) :
    36 * (place % 3) ≤ s.index ∧ s.index < 36 * (place % 3) + 36 := by
  obtain ⟨inside, index⟩ := writes_place written
  simp only [bankIndex] at index
  omega

theorem writes_below (few : cs.length ≤ 36) : ∀ s ∈ writes 0 cs, s.index < 108 := by
  intro s member
  obtain ⟨place, written⟩ := List.mem_iff_getElem?.mp member
  have bank := writes_bank few written
  omega

theorem writes_nodup (few : cs.length ≤ 36) : ((writes 0 cs).map Store.index).Nodup := by
  rw [writes_indices]
  refine List.Nodup.map_on ?_ List.nodup_range
  intro first member second member' same
  simp only [List.mem_range] at member member'
  simp only [bankIndex] at same
  omega

/-- A thirty-seventh corner stores its `x` into the bank of `y`. -/
theorem Confined.few (confined : Confined stores (writes 0 cs)) : cs.length ≤ 36 := by
  by_contra many
  have inside : 108 < (writes 0 cs).length := by
    rw [writes_length]
    omega
  have written := List.getElem?_eq_getElem inside
  have bank := confined.banks 108 _ written
  have index := (writes_place written).2
  simp only [bankIndex] at index
  omega

theorem confined_of_few (few : cs.length ≤ 36)
    (explicit : stores <+: ⟨126, 0⟩ :: writes 0 cs ++ [⟨127, size⟩, ⟨126, 1⟩]) :
    Confined stores (writes 0 cs) := by
  refine ⟨⟨size, explicit⟩, fun _ _ => writes_bank few, writes_nodup few, ?_, ?_⟩
  · intro s member
    have below := writes_below few s member
    omega
  · intro s member
    have whole := explicit.mem member
    simp only [List.cons_append, List.mem_cons, List.mem_append, List.not_mem_nil,
      or_false] at whole
    rcases whole with rfl | written | rfl | rfl
    · decide
    · exact (writes_below few s written).trans (by decide)
    · exact Nat.lt_succ_self 127
    · decide

end

/-! The face lines of a text. -/

def faceLines (file : List Char) : Nat :=
  (file.splitOn '\n').countP fun line => line.head? = some 'f'

theorem terminated_head (line : List Char) (c : Char) (visible : c.toNat ≠ 0) :
    (terminated line).head? = some c ↔ line.head? = some c := by
  cases line with
  | nil => rfl
  | cons first line =>
      by_cases null : first.toNat = 0
      · have other : first ≠ c := fun same => visible (same ▸ null)
        simp [terminated, null, other]
      · simp [terminated, null]

theorem read_face (junk : Junk) (line : List Char) :
    (∃ face0 face1 face2, read junk line = .f face0 face1 face2) ↔ line.head? = some 'f' := by
  by_cases vertex : line.head? = some 'v'
  · simp [read, vertex]
  · by_cases face : line.head? = some 'f' <;> simp [read, vertex, face]

theorem faces_readLines (junk : Nat → Junk) (pass : Nat) (lines : List (List Char)) :
    (faces (readLines junk pass lines)).length =
      lines.countP fun line => line.head? = some 'f' := by
  induction lines generalizing pass with
  | nil => rfl
  | cons line lines ih =>
      have one :=
        (read_face (junk pass) (terminated line)).trans (terminated_head line 'f' (by decide))
      have rest := ih (pass + 1)
      simp only [readLines] at rest
      simp only [readLines, List.zipIdx_cons, List.map_cons, List.countP_cons]
      cases kind : read (junk pass) (terminated line) with
      | f face0 face1 face2 =>
          have face : line.head? = some 'f' := one.mp ⟨_, _, _, kind⟩
          simpa [faces, face] using rest
      | v x y z =>
          have other : ¬ line.head? = some 'f' := fun face => by simpa [kind] using one.mpr face
          simpa [faces, other] using rest
      | other =>
          have other : ¬ line.head? = some 'f' := fun face => by simpa [kind] using one.mpr face
          simpa [faces, other] using rest

/-! How far the faces of a file can get. -/

/-- The face lines in what is left of a stream that can still be read. -/
def remaining (f : Istream) : Nat := if f.good then faceLines f.rest else 0

theorem faceLines_joined {lines : List (List Char)} (separate : Lines lines)
    (nonempty : lines ≠ []) :
    faceLines (joined lines) = lines.countP fun line => line.head? = some 'f' := by
  rw [faceLines, joined, List.splitOn_intercalate '\n' separate nonempty]

variable {junk : Nat → Junk} {file : List Char} {fuel pass : Nat} {f : Istream} {l : Loader ℚ}
  {ps cs : List (ℚ × ℚ × ℚ)} {stores : List Store}

/-- A call of `getline` uses up the face line that it reads, even one too long for it. -/
theorem remaining_joined {lines : List (List Char)} (separate : Lines lines)
    (nonempty : lines ≠ []) :
    ((Istream.getline { rest := joined lines } 128).1.head? = some 'f' →
        remaining (Istream.getline { rest := joined lines } 128).2 + 1 ≤ faceLines (joined lines)) ∧
      remaining (Istream.getline { rest := joined lines } 128).2 ≤ faceLines (joined lines) := by
  rw [faceLines_joined separate nonempty]
  cases lines with
  | nil => exact (nonempty rfl).elim
  | cons line more =>
      obtain ⟨whole, separate⟩ := List.forall_mem_cons.mp separate
      rw [List.countP_cons]
      by_cases short : line.length < 128
      · cases more with
        | nil =>
            rw [show joined [line] = line by simp [joined], Istream.getline_last whole short]
            simp only [remaining, Istream.good]
            refine ⟨fun face => ?_, Nat.zero_le _⟩
            simp [face]
        | cons next more =>
            rw [joined_cons, Istream.getline_line whole short]
            have rest : remaining { rest := joined (next :: more) } =
                (next :: more).countP fun line => line.head? = some 'f' :=
              faceLines_joined separate (List.cons_ne_nil _ _)
            rw [rest]
            refine ⟨fun face => ?_, Nat.le_add_right _ _⟩
            simp [face]
      · obtain ⟨rest, text⟩ := joined_append line more
        rw [text, Istream.getline_long rest whole (Nat.le_of_not_lt short) (by decide)]
        simp only [remaining, Istream.good]
        refine ⟨fun face => ?_, Nat.zero_le _⟩
        rw [List.head?_take] at face
        simp_all

/-- A pass takes the face line that it reads from what remains. -/
theorem getline_remaining (f : Istream) :
    ((f.getline 128).1.head? = some 'f' → remaining (f.getline 128).2 + 1 ≤ remaining f) ∧
      remaining (f.getline 128).2 ≤ remaining f := by
  by_cases good : f.good = true
  · obtain ⟨rest, eof, fail⟩ := f
    obtain ⟨rfl, rfl⟩ : eof = false ∧ fail = false := by simpa [Istream.good] using good
    have text := remaining_joined (lines_split rest) (List.splitOn_ne_nil '\n' rest)
    rw [split_joined] at text
    simpa [remaining, good] using text
  · have nothing : f.getline 128 = ([], { f with fail := true }) := by
      rw [Istream.getline, if_neg good]
    rw [nothing]
    simp [remaining, Istream.good]

/-- However the loop goes on, it stores whole corners, three for each face line at most. -/
theorem loop_made (junk : Nat → Junk) (fuel pass : Nat) (f : Istream) (holds : l.Holds ps)
    (made : l.Made cs) :
    ∃ more, (standing (loop junk fuel pass f l)).Made (cs ++ more) ∧
      more.length ≤ 3 * remaining f := by
  induction fuel generalizing pass f l ps cs with
  | zero =>
      refine ⟨[], ?_, Nat.zero_le _⟩
      rw [loop, List.append_nil]
      split <;> exact made
  | succ fuel ih =>
      rw [loop]
      split
      · exact ⟨[], by simpa [standing] using made, Nat.zero_le _⟩
      · obtain ⟨used, rest⟩ := getline_remaining f
        have kind := read_face (junk pass) (terminated (f.getline 128).1)
        rw [terminated_head _ _ (by decide)] at kind
        simp only
        cases line : read (junk pass) (terminated (f.getline 128).1) with
        | v x y z =>
            obtain ⟨more, made', size⟩ := ih (pass + 1) (f.getline 128).2
              (holds.push x y z) ⟨made.stores, made.tracker⟩
            exact ⟨more, made', by omega⟩
        | other =>
            obtain ⟨more, made', size⟩ := ih (pass + 1) (f.getline 128).2 holds made
            exact ⟨more, made', by omega⟩
        | f face0 face1 face2 =>
            have less := used (kind.mp ⟨_, _, _, line⟩)
            rcases holds.faceLine made face0 face1 face2 with
              ⟨l1, p0, p1, p2, stored, holds1, made1, -⟩ | ⟨l1, more, stored, made1, few, -⟩
            · obtain ⟨more, made', size⟩ := ih (pass + 1) (f.getline 128).2
                holds1 made1
              refine ⟨p0 :: p1 :: p2 :: more, ?_, ?_⟩
              · simpa only [stored, List.append_assoc, List.cons_append, List.nil_append]
                  using made'
              · simp only [List.length_cons]
                omega
            · refine ⟨more, ?_, by omega⟩
              rw [stored]
              exact made1

/-- The stores of the vertices among those made so far. -/
def vertexWrites (junk : Nat → Junk) (file : List Char) (fuel : Nat) : List Store :=
  (reached junk file fuel).stores.tail

theorem vertexWrites_eq (junk : Nat → Junk) (file : List Char) (fuel : Nat) :
    ∃ cs : List (ℚ × ℚ × ℚ), vertexWrites junk file fuel = writes 0 cs ∧
      cs.length ≤ 3 * faceLines file ∧
      ∃ size, stored junk file fuel <+: ⟨126, 0⟩ :: writes 0 cs ++ [⟨127, size⟩, ⟨126, 1⟩] := by
  obtain ⟨cs, made, size⟩ := loop_made junk fuel 0 { rest := file } Loader.holds_start
    Loader.made_start
  rw [List.nil_append] at made
  refine ⟨cs, ?_, size, ?_⟩
  · have all : (reached junk file fuel).stores = ⟨126, 0⟩ :: writes 0 cs := made.stores
    rw [vertexWrites, all, List.tail_cons]
  · have all := made.stores
    cases left : loop junk fuel 0 { rest := file } {} with
    | error fault =>
        refine ⟨0, ?_⟩
        simp only [standing, left] at all
        simp only [stored, program, left, all]
        exact List.prefix_append _ _
    | ok l =>
        refine ⟨BitVec.ofNat 32 l.size, ?_⟩
        simp only [standing, left] at all
        simp only [stored, program, left, all]
        exact List.prefix_rfl

/-- When the execution ends, it has stored three corners for each face line. -/
theorem vertexWrites_length (finished : program junk file fuel = .ok stores) :
    stored junk file fuel = stores ∧
      (vertexWrites junk file fuel).length = 9 * faceLines file := by
  have count := faces_readLines junk 0 (file.splitOn '\n')
  obtain ⟨cs, found, whole⟩ := main_eq (program_iff.mp ⟨fuel, finished⟩).2
  have corners := congrArg List.length found
  rw [List.length_map, List.length_map, corners_length, count] at corners
  refine ⟨by rw [stored, finished], ?_⟩
  cases left : loop junk fuel 0 { rest := file } {} with
  | error fault => simp only [program, left, reduceCtorEq] at finished
  | ok l =>
      simp only [program, left, Except.ok.injEq] at finished
      have same := congrArg List.length (finished.trans whole)
      simp only [List.length_append, List.length_cons, List.length_nil, writes_length] at same
      simp only [vertexWrites, reached, left, standing, List.length_tail, faceLines]
      omega

/-- Whatever the file, its vertices are stored into their banks as long as there are
faces for at most the twelve triangles of the renderer, however far the execution gets;
one that gets to the end with more faces has left the banks. -/
theorem confined_iff (junk : Nat → Junk) (file : List Char) :
    (faceLines file ≤ 12 → ∀ fuel part, part <+: stored junk file fuel →
        Confined part (vertexWrites junk file fuel)) ∧
      ∀ fuel stores, program junk file fuel = .ok stores →
        (Confined stores (vertexWrites junk file fuel) ↔ faceLines file ≤ 12) := by
  have few : faceLines file ≤ 12 → ∀ fuel part, part <+: stored junk file fuel →
      Confined part (vertexWrites junk file fuel) := by
    intro twelve fuel part made
    obtain ⟨cs, written, count, size, explicit⟩ := vertexWrites_eq junk file fuel
    rw [written]
    exact confined_of_few (by omega) (made.trans explicit)
  refine ⟨few, fun fuel stores finished => ⟨fun confined => ?_, fun twelve => ?_⟩⟩
  · obtain ⟨cs, written, -⟩ := vertexWrites_eq junk file fuel
    have count := (vertexWrites_length finished).2
    rw [written] at confined count
    have size := confined.few
    rw [writes_length] at count
    omega
  · have made := (vertexWrites_length finished).1
    exact few twelve fuel stores (made ▸ List.prefix_rfl)

/-- A triangle, and a comment that the loop does not get past. -/
def stuck : List Char :=
  joined [['v', ' ', '1', ' ', '1', ' ', '1'], ['v', ' ', '-', '1', ' ', '1', ' ', '1'],
    ['v', ' ', '1', ' ', '-', '1', ' ', '1'], ['f', ' ', '1', ' ', '2', ' ', '3'],
    List.replicate 128 '#']

theorem confined_iff_stuck :
    (¬ ∃ fuel stores, program noJunk stuck fuel = .ok stores) ∧
      (stored noJunk stuck 5).length = 10 ∧
      Confined (stored noJunk stuck 5) (vertexWrites noJunk stuck 5) := by
  refine ⟨?_, by decide +kernel, ?_⟩
  · rintro ⟨fuel, stores, finished⟩
    have short := (program_iff.mp ⟨fuel, finished⟩).1
    exact absurd short (by decide +kernel)
  · exact (confined_iff noJunk stuck).1 (by decide +kernel) 5 _ List.prefix_rfl

/-- `v -1.0 1 1` and a number of faces `f 1 1 1`. -/
def sameVertex (count : Nat) : List Char :=
  joined (['v', ' ', '-', '1', '.', '0', ' ', '1', ' ', '1'] ::
    List.replicate count ['f', ' ', '1', ' ', '1', ' ', '1'])

/-- A thirteenth face puts its `x` into the bank of `y`. -/
theorem thirteen_faces_mixed :
    ∃ stores, program noJunk (sameVertex 13) 14 = .ok stores ∧
      ¬ Confined stores (vertexWrites noJunk (sameVertex 13) 14) := by
  have finished : (program noJunk (sameVertex 13) 14).toOption.isSome := by decide +kernel
  cases executed : program noJunk (sameVertex 13) 14 with
  | error fault => simp [executed, Except.toOption] at finished
  | ok stores =>
      refine ⟨stores, rfl, fun confined => ?_⟩
      obtain ⟨cs, written, -⟩ := vertexWrites_eq noJunk (sameVertex 13) 14
      have count := (vertexWrites_length executed).2
      have many : faceLines (sameVertex 13) = 13 := by decide +kernel
      rw [written] at confined count
      have size := confined.few
      rw [writes_length, many] at count
      omega

end WireframeGpu.Software
