import WireframeGpu.Data.Istream
import WireframeGpu.Software.Corners

namespace WireframeGpu.Software

open WireframeGpu.Data

/-! `main.cpp` on the text of the object file: each pass of the loop takes one line of at
most 127 characters, and reads it through a stream of its own. -/

/-- What the variables of one pass hold before it assigns them. -/
structure Junk where
  temp : Char
  x : ℚ
  y : ℚ
  z : ℚ
  face0 : Int
  face1 : Int
  face2 : Int

/-- The part of the array in front of its null character. -/
def terminated (line : List Char) : List Char := line.takeWhile (·.toNat ≠ 0)

/-- One line; only its first character says what it is. -/
def read (junk : Junk) (line : List Char) : Line ℚ :=
  let s : Istream := { rest := line }
  if line.head? = some 'v' then
    let (_, s) := s.char junk.temp
    let (x, s) := s.float junk.x
    let (y, s) := s.float junk.y
    let (z, _) := s.float junk.z
    .v x y z
  else if line.head? = some 'f' then
    let (_, s) := s.char junk.temp
    let (face0, s) := s.int junk.face0
    let (face1, s) := s.int junk.face1
    let (face2, _) := s.int junk.face2
    .f face0 face1 face2
  else .other

/-- An execution that has not stored the size and the start word, where it stands: it
is still in the loop, or has left a vector. -/
inductive Fault where
  | running (l : Loader ℚ)
  | index (l : Loader ℚ)
deriving DecidableEq

def Fault.loader : Fault → Loader ℚ
  | .running l | .index l => l

def loop (junk : Nat → Junk) : (fuel pass : Nat) → Istream → Loader ℚ → Except Fault (Loader ℚ)
  | 0, _, f, l => if f.eof then .ok l else .error (.running l)
  | fuel + 1, pass, f, l =>
      if f.eof then .ok l
      else
        let (line, f) := f.getline 128
        match l.line (read (junk pass) (terminated line)) with
        | .error l => .error (.index l)
        | .ok l => loop junk fuel (pass + 1) f l

/-- The stores of an execution of at most `fuel` passes. -/
def program (junk : Nat → Junk) (file : List Char) (fuel : Nat) : Except Fault (List Store) :=
  match loop junk fuel 0 { rest := file } {} with
  | .error fault => .error fault
  | .ok l => .ok (l.stores ++ [⟨127, BitVec.ofNat 32 l.size⟩, ⟨126, 1⟩])

def standing : Except Fault (Loader ℚ) → Loader ℚ
  | .error fault => fault.loader
  | .ok l => l

/-- The variables of an execution of at most `fuel` passes, where it stands. -/
def reached (junk : Nat → Junk) (file : List Char) (fuel : Nat) : Loader ℚ :=
  standing (loop junk fuel 0 { rest := file } {})

/-- What it has stored, whether it has come to its end or not. -/
def stored (junk : Nat → Junk) (file : List Char) (fuel : Nat) : List Store :=
  match program junk file fuel with
  | .error fault => fault.loader.stores
  | .ok stores => stores

/-- The file after a number of calls of `getline`. -/
def calls (file : List Char) : Nat → Istream
  | 0 => { rest := file }
  | n + 1 => ((calls file n).getline 128).2

/-- The lines of a file, each as its pass reads it. -/
def readLines (junk : Nat → Junk) (pass : Nat) (lines : List (List Char)) : List (Line ℚ) :=
  (lines.zipIdx pass).map fun (line, pass) => read (junk pass) (terminated line)

variable {junk : Nat → Junk} {file : List Char} {fuel pass : Nat} {f : Istream} {l l' : Loader ℚ}

/-! What the calls leave of a text of lines. -/

def joined (lines : List (List Char)) : List Char := ['\n'].intercalate lines

/-- The lines of a text: none has a newline of its own. -/
def Lines (lines : List (List Char)) : Prop := ∀ line ∈ lines, '\n' ∉ line

theorem lines_split (file : List Char) : Lines (file.splitOn '\n') := by
  induction file with
  | nil => simp [Lines]
  | cons c file ih =>
      rw [List.splitOn_cons_eq_if_modifyHead]
      split
      · exact List.forall_mem_cons.mpr ⟨List.not_mem_nil, ih⟩
      · rename_i other
        cases split : file.splitOn '\n' with
        | nil => exact (List.splitOn_ne_nil '\n' file split).elim
        | cons line more =>
            rw [split] at ih
            obtain ⟨whole, rest⟩ := List.forall_mem_cons.mp ih
            refine List.forall_mem_cons.mpr ⟨?_, rest⟩
            simp only [List.mem_cons, not_or]
            exact ⟨fun same => other (beq_iff_eq.mpr same.symm), whole⟩

theorem split_joined (file : List Char) : joined (file.splitOn '\n') = file :=
  List.intercalate_splitOn '\n'

theorem joined_cons (line next : List Char) (more : List (List Char)) :
    joined (line :: next :: more) = line ++ '\n' :: joined (next :: more) := by
  simp [joined, List.intercalate_cons_cons]

theorem joined_append (line : List Char) (more : List (List Char)) :
    ∃ rest, joined (line :: more) = line ++ rest := by
  cases more with
  | nil => exact ⟨[], by simp [joined]⟩
  | cons next more => exact ⟨_, joined_cons line next more⟩

theorem calls_next {file' : List Char}
    (next : (Istream.getline { rest := file } 128).2 = { rest := file' }) (n : Nat) :
    calls file (n + 1) = calls file' n := by
  induction n with
  | zero => exact next
  | succ n ih => rw [calls, ih, calls]

theorem calls_stuck {left : List Char}
    (stuck : (Istream.getline { rest := file } 128).2 = { rest := left, fail := true }) (n : Nat) :
    calls file (n + 1) = { rest := left, fail := true } := by
  induction n with
  | zero => exact stuck
  | succ n ih => rw [calls, ih, Istream.getline_failed rfl]

/-- A long line is never left again: `failbit` is set and `eofbit` is not. -/
theorem never_ends {left : List Char}
    (stuck : (Istream.getline { rest := file } 128).2 = { rest := left, fail := true }) :
    ¬ ∃ n, (calls file n).eof = true := by
  rintro ⟨n, ended⟩
  cases n with
  | zero => cases ended
  | succ n =>
      rw [calls_stuck stuck] at ended
      cases ended

theorem joined_ends_iff {lines : List (List Char)} (separate : Lines lines)
    (nonempty : lines ≠ []) :
    (∃ n, (calls (joined lines) n).eof = true) ↔ ∀ line ∈ lines, line.length < 128 := by
  induction lines with
  | nil => exact (nonempty rfl).elim
  | cons line more ih =>
      obtain ⟨whole, separate⟩ := List.forall_mem_cons.mp separate
      rw [List.forall_mem_cons]
      by_cases short : line.length < 128
      · cases more with
        | nil =>
            refine iff_of_true ⟨1, ?_⟩ ⟨short, nofun⟩
            simp only [joined, List.intercalate_singleton]
            rw [calls, calls, Istream.getline_last whole short]
        | cons next more =>
            have step : (Istream.getline { rest := joined (line :: next :: more) } 128).2 =
                { rest := joined (next :: more) } := by
              rw [joined_cons, Istream.getline_line whole short]
            rw [and_iff_right short, ← ih separate (List.cons_ne_nil _ _)]
            constructor
            · rintro ⟨n, ended⟩
              cases n with
              | zero => cases ended
              | succ n => exact ⟨n, calls_next step n ▸ ended⟩
            · rintro ⟨n, ended⟩
              exact ⟨n + 1, (calls_next step n).symm ▸ ended⟩
      · obtain ⟨rest, text⟩ := joined_append line more
        have stuck := congrArg Prod.snd
          (Istream.getline_long rest whole (Nat.le_of_not_lt short) (by decide))
        exact iff_of_false (never_ends (text ▸ stuck)) fun all => short all.1

/-- The calls get to the end of the file exactly when no line is longer than the buffer. -/
theorem calls_end_iff (file : List Char) :
    (∃ n, (calls file n).eof = true) ↔ ∀ line ∈ file.splitOn '\n', line.length < 128 := by
  rw [← joined_ends_iff (lines_split file) (List.splitOn_ne_nil '\n' file), split_joined]

/-! The loop on a text of short lines is the loader on its lines. -/

theorem loop_joined {lines : List (List Char)} (separate : Lines lines) (nonempty : lines ≠ [])
    (short : ∀ line ∈ lines, line.length < 128) (enough : lines.length ≤ fuel)
    (pass : Nat) (l : Loader ℚ) :
    loop junk fuel pass { rest := joined lines } l =
      match (readLines junk pass lines).foldlM Loader.line l with
      | .error l' => .error (.index l')
      | .ok l' => .ok l' := by
  induction lines generalizing fuel pass l with
  | nil => exact (nonempty rfl).elim
  | cons line more ih =>
      obtain ⟨whole, separate⟩ := List.forall_mem_cons.mp separate
      obtain ⟨fits, short⟩ := List.forall_mem_cons.mp short
      cases fuel with
      | zero => simp at enough
      | succ fuel =>
          cases more with
          | nil =>
              simp only [joined, List.intercalate_singleton, readLines, List.zipIdx_cons,
                List.zipIdx_nil, List.map_cons, List.map_nil, List.foldlM_cons, List.foldlM_nil]
              rw [loop, Istream.getline_last whole fits]
              cases stored : l.line (read (junk pass) (terminated line)) with
              | error l' => simp [stored, bind, Except.bind]
              | ok l' => cases fuel <;> simp [loop, stored, bind, Except.bind, pure, Except.pure]
          | cons next more =>
              have rest := fun l' => ih separate (List.cons_ne_nil _ _) short
                (Nat.le_of_succ_le_succ enough) (pass + 1) l'
              rw [joined_cons, loop, Istream.getline_line whole fits]
              simp only [readLines, List.zipIdx_cons, List.map_cons, List.foldlM_cons] at rest ⊢
              cases stored : l.line (read (junk pass) (terminated line)) with
              | error l' => simp [bind, Except.bind]
              | ok l' => simpa [bind, Except.bind] using rest l'

theorem loop_file (short : ∀ line ∈ file.splitOn '\n', line.length < 128)
    (enough : (file.splitOn '\n').length ≤ fuel) :
    loop junk fuel 0 { rest := file } l =
      match (readLines junk 0 (file.splitOn '\n')).foldlM Loader.line l with
      | .error l' => .error (.index l')
      | .ok l' => .ok l' := by
  have run : loop junk fuel 0 { rest := joined (file.splitOn '\n') } l = _ :=
    loop_joined (lines_split file) (List.splitOn_ne_nil '\n' file) short enough 0 l
  rwa [split_joined] at run

theorem loop_mono (finished : loop junk fuel pass f l = .ok l') (more : Nat) :
    loop junk (fuel + more) pass f l = .ok l' := by
  induction fuel generalizing pass f l with
  | zero =>
      rw [loop] at finished
      split at finished
      · cases more <;> simpa [loop, ‹f.eof = true›] using finished
      · cases finished
  | succ fuel ih =>
      rw [Nat.add_right_comm, loop]
      rw [loop] at finished
      split
      · simpa [‹f.eof = true›] using finished
      · simp only [‹¬f.eof = true›] at finished ⊢
        cases stored : l.line (read (junk pass) (terminated (f.getline 128).1)) with
        | error next => simp [stored] at finished
        | ok next =>
            simp only [stored] at finished ⊢
            exact ih finished

/-- To leave the loop, the execution has called `getline` until the end of the file. -/
theorem loop_calls (finished : loop junk fuel pass (calls file pass) l = .ok l') :
    ∃ n, (calls file n).eof = true := by
  induction fuel generalizing pass l with
  | zero =>
      rw [loop] at finished
      split at finished
      · exact ⟨pass, ‹_›⟩
      · cases finished
  | succ fuel ih =>
      rw [loop] at finished
      split at finished
      · exact ⟨pass, ‹_›⟩
      · simp only at finished
        split at finished
        · cases finished
        · exact ih finished

/-- An execution finishes exactly when every line is short and every face names
vertices; its stores are those of the loader on the lines. -/
theorem program_iff {stores : List Store} :
    (∃ fuel, program junk file fuel = .ok stores) ↔
      (∀ line ∈ file.splitOn '\n', line.length < 128) ∧
        main (readLines junk 0 (file.splitOn '\n')) = .ok stores := by
  constructor
  · rintro ⟨fuel, finished⟩
    rw [program] at finished
    split at finished
    · cases finished
    · rename_i l left
      have short := (calls_end_iff file).mp (loop_calls left)
      have run := loop_mono left (file.splitOn '\n').length
      rw [loop_file short (Nat.le_add_left _ _)] at run
      refine ⟨short, ?_⟩
      split at run
      · cases run
      · rename_i executed
        cases run
        refine bind_ok.mpr ⟨_, executed, ?_⟩
        exact congrArg Except.ok (Except.ok.inj finished)
  · rintro ⟨short, executed⟩
    refine ⟨(file.splitOn '\n').length, ?_⟩
    rw [program, loop_file short le_rfl]
    obtain ⟨l, loaded, done⟩ := bind_ok.mp executed
    simp only [loaded]
    exact congrArg Except.ok (Except.ok.inj done)

/-- The loop is left, and the size and the start word are stored, exactly if no line is
longer than the buffer and no index leaves the vectors. -/
theorem loop_ends_iff (junk : Nat → Junk) (file : List Char) :
    (∃ fuel stores size, program junk file fuel = .ok (stores ++ [⟨127, size⟩, ⟨126, 1⟩])) ↔
      (∀ line ∈ file.splitOn '\n', line.length < 128) ∧
        Named 0 (readLines junk 0 (file.splitOn '\n')) := by
  rw [← main_ends_iff]
  constructor
  · rintro ⟨fuel, stores, size, finished⟩
    obtain ⟨short, executed⟩ := program_iff.mp ⟨fuel, finished⟩
    exact ⟨short, _, executed⟩
  · rintro ⟨short, stores, executed⟩
    obtain ⟨fuel, finished⟩ := program_iff.mpr ⟨short, executed⟩
    obtain ⟨cs, -, rfl⟩ := main_eq executed
    exact ⟨fuel, _, _, finished⟩

def noJunk : Nat → Junk := fun _ => ⟨' ', 0, 0, 0, 0, 0, 0⟩

/-- A line of 128 characters is one too many. -/
theorem long_line_never_ends :
    ¬ ∃ fuel stores, program noJunk (List.replicate 128 '#') fuel = .ok stores := by
  rintro ⟨fuel, stores, finished⟩
  have short := (program_iff.mp ⟨fuel, finished⟩).1
  exact absurd short (by decide +kernel)

end WireframeGpu.Software
