import WireframeGpu.Data.Numeral

namespace WireframeGpu.Data

/-! Input streams of characters, as the extraction operators and `getline` of C++
leave them. -/

/-- The characters that are not read yet, with `eofbit` and `failbit`. -/
structure Istream where
  rest : List Char
  eof : Bool := false
  fail : Bool := false
deriving DecidableEq

def isSpace (c : Char) : Bool := c.toNat == 32 || (9 ≤ c.toNat && c.toNat ≤ 13)

namespace Istream

def good (s : Istream) : Bool := !s.eof && !s.fail

/-- A line goes into `room` places.  The end of the stream and the newline are looked
for before a lack of room; the newline is taken but not stored. -/
def fill : List Char → (room : Nat) → List Char × Istream
  | [], _ => ([], { rest := [], eof := true })
  | c :: rest, room =>
      if c = '\n' then ([], { rest })
      else if room = 0 then ([], { rest := c :: rest, fail := true })
      else
        let (line, s) := fill rest (room - 1)
        (c :: line, s)

/-- `getline(line, size)`: the last place is for the null character.  Nothing is taken
from a stream that is not good, and to take nothing is a failure. -/
def getline (s : Istream) (size : Nat) : List Char × Istream :=
  if s.good then
    if s.rest = [] then ([], { s with eof := true, fail := true }) else fill s.rest (size - 1)
  else ([], { s with fail := true })

/-- Formatted extraction skips blanks first. -/
def sentry (s : Istream) : Istream :=
  if s.good then
    let rest := s.rest.dropWhile isSpace
    { rest, eof := rest.isEmpty, fail := rest.isEmpty }
  else { s with fail := true }

/-- `s >> temp` for a character. -/
def char (s : Istream) (old : Char) : Char × Istream :=
  let s := s.sentry
  match s.good, s.rest with
  | true, c :: rest => (c, { s with rest })
  | _, _ => (old, s)

/-- `s >> n`: a number out of range is replaced by the limit, and no number by zero. -/
def int (s : Istream) (old : Int) : Int × Istream :=
  let s := s.sentry
  if s.good then
    let (sign, rest) := optional isSign s.rest
    let (digits, rest) := rest.span Char.isDigit
    let n : Int :=
      if sign = some '-' then -(Nat.ofDigitChars 10 digits 0 : Int)
        else Nat.ofDigitChars 10 digits 0
    let s : Istream := { rest, eof := rest.isEmpty }
    if digits = [] then (0, { s with fail := true })
    else if n < -2 ^ 31 then (-2 ^ 31, { s with fail := true })
    else if 2 ^ 31 ≤ n then (2 ^ 31 - 1, { s with fail := true })
    else (n, s)
  else (old, s)

/-- `s >> x` for a `float`. -/
def float (s : Istream) (old : ℚ) : ℚ × Istream :=
  let s := s.sentry
  if s.good then
    let (field, rest) := Field.scan s.rest
    let s : Istream := { rest, eof := rest.isEmpty }
    let x := binary32 field.value
    if ¬ field.Complete then (0, { s with fail := true })
    else if x ≤ -2 ^ 128 then (-(2 ^ 128 - 2 ^ 104), { s with fail := true })
    else if 2 ^ 128 ≤ x then (2 ^ 128 - 2 ^ 104, { s with fail := true })
    else (x, s)
  else (old, s)

/-! Reading lines. -/

variable {line rest : List Char} {room size : Nat}

theorem fill_line (whole : '\n' ∉ line) (short : line.length ≤ room) :
    fill (line ++ '\n' :: rest) room = (line, { rest }) := by
  induction line generalizing room with
  | nil => simp [fill]
  | cons c line ih =>
      obtain ⟨other, whole⟩ := List.ne_and_not_mem_of_not_mem_cons whole
      have space : 0 < room := Nat.zero_lt_of_lt short
      rw [List.cons_append, fill, if_neg (Ne.symm other), if_neg space.ne',
        ih whole (Nat.le_sub_one_of_lt short)]

theorem fill_last (whole : '\n' ∉ line) (short : line.length ≤ room) :
    fill line room = (line, { rest := [], eof := true }) := by
  induction line generalizing room with
  | nil => rfl
  | cons c line ih =>
      obtain ⟨other, whole⟩ := List.ne_and_not_mem_of_not_mem_cons whole
      have space : 0 < room := Nat.zero_lt_of_lt short
      rw [fill, if_neg (Ne.symm other), if_neg space.ne', ih whole (Nat.le_sub_one_of_lt short)]

theorem fill_long (whole : '\n' ∉ line) (long : room < line.length) :
    fill (line ++ rest) room =
      (line.take room, { rest := line.drop room ++ rest, fail := true }) := by
  induction line generalizing room with
  | nil => simp at long
  | cons c line ih =>
      obtain ⟨other, whole⟩ := List.ne_and_not_mem_of_not_mem_cons whole
      cases room with
      | zero => simp [fill, Ne.symm other]
      | succ room =>
          rw [List.cons_append, fill, if_neg (Ne.symm other), if_neg (Nat.succ_ne_zero room),
            Nat.add_sub_cancel, ih whole (Nat.lt_of_succ_lt_succ long)]
          rfl

theorem getline_line (whole : '\n' ∉ line) (short : line.length < size) :
    getline { rest := line ++ '\n' :: rest } size = (line, { rest }) := by
  have nonempty : line ++ '\n' :: rest ≠ [] := by simp
  simp only [getline, good, Bool.not_false, Bool.and_self, if_true, if_neg nonempty]
  exact fill_line whole (Nat.le_sub_one_of_lt short)

theorem getline_last (whole : '\n' ∉ line) (short : line.length < size) :
    getline { rest := line } size = (line, { rest := [], eof := true, fail := line.isEmpty }) := by
  cases line with
  | nil => rfl
  | cons c line =>
      simp only [getline, good, Bool.not_false, Bool.and_self, if_true, reduceCtorEq, if_false]
      exact fill_last whole (Nat.le_sub_one_of_lt short)

/-- A line that does not fit leaves a stream that has failed but not ended. -/
theorem getline_long (rest : List Char) (whole : '\n' ∉ line) (long : size ≤ line.length)
    (positive : 0 < size) : getline { rest := line ++ rest } size =
      (line.take (size - 1), { rest := line.drop (size - 1) ++ rest, fail := true }) := by
  have nonempty : line ++ rest ≠ [] := by
    have := List.ne_nil_of_length_pos (positive.trans_le long)
    simp [this]
  simp only [getline, good, Bool.not_false, Bool.and_self, if_true, if_neg nonempty]
  exact fill_long whole (by omega)

theorem getline_failed {s : Istream} (failed : s.fail = true) : s.getline size = ([], s) := by
  cases s
  simp_all [getline, good]

/-! Reading numbers. -/

theorem not_space {c : Char} (printed : Printed c) : isSpace c = false := by
  simp only [Printed] at printed
  simp only [isSpace, Bool.or_eq_false_iff, Bool.and_eq_false_iff, beq_eq_false_iff_ne,
    decide_eq_false_iff_not]
  omega

theorem ends_of_blank (blank : ∀ c ∈ rest.head?, isSpace c) : Ends rest where
  digit c head := Bool.eq_false_iff.mpr fun digit => by
    cases (blank c head).symm.trans (not_space (digit_printed digit))
  point c head := Bool.eq_false_iff.mpr fun point => by
    cases (blank c head).symm.trans (not_space (point_printed point))
  mark c head := Bool.eq_false_iff.mpr fun mark => by
    cases (blank c head).symm.trans (not_space (mark_printed mark))

variable {blanks : List Char}

theorem sentry_blanks (blank : ∀ c ∈ blanks, isSpace c) (starts : Stops isSpace rest)
    (nonempty : rest ≠ []) : sentry { rest := blanks ++ rest } = { rest } := by
  have skipped : (blanks ++ rest).dropWhile isSpace = rest := by
    have run := span_append blank starts
    rw [List.span_eq_takeWhile_dropWhile] at run
    exact congrArg Prod.snd run
  have more : rest.isEmpty = false := by simpa using nonempty
  simp [sentry, good, skipped, more]

theorem char_cons {c old : Char} (starts : isSpace c = false) :
    char { rest := c :: rest } old = (c, { rest }) := by
  simp [char, sentry, good, starts]

theorem float_failed {s : Istream} {old : ℚ} (failed : s.fail = true) :
    s.float old = (old, s) := by
  cases s
  simp_all [float, sentry, good]

theorem int_failed {s : Istream} {old : Int} (failed : s.fail = true) : s.int old = (old, s) := by
  cases s
  simp_all [int, sentry, good]

/-- One of the two numbers that vertices are made of. -/
theorem float_numeral (n : Numeral) {old : ℚ} (unit : |n.value| = 1)
    (blank : ∀ c ∈ blanks, isSpace c) (ends : ∀ c ∈ rest.head?, isSpace c) :
    float { rest := blanks ++ (n.text ++ rest) } old =
      (n.value, { rest, eof := rest.isEmpty }) := by
  have starts : Stops isSpace (n.text ++ rest) :=
    n.text_starts (fun _ sign => not_space (sign_printed sign))
      (fun _ digit => not_space (digit_printed digit)) fun _ point =>
        not_space (point_printed point)
  have nonempty : n.text ++ rest ≠ [] := by simp [n.text_ne_nil]
  obtain ⟨lower, upper⟩ := abs_le.mp unit.le
  have above : ¬ n.value ≤ -2 ^ 128 := by linarith
  have below : ¬ (2 : ℚ) ^ 128 ≤ n.value := by linarith
  simp only [float, sentry_blanks blank starts nonempty, good, Bool.not_false, Bool.and_self,
    if_true, n.scan_text (ends_of_blank ends), n.complete, not_true_eq_false, if_false,
    binary32_unit unit, if_neg above, if_neg below]

/-- A word that does not begin like a number stores zero and fails. -/
theorem float_word {c : Char} {old : ℚ} (space : isSpace c = false) (sign : isSign c = false)
    (digit : c.isDigit = false) (point : isPoint c = false) :
    float { rest := c :: rest } old = (0, { rest := c :: rest, fail := true }) := by
  have empty : Field.scan (c :: rest) = (⟨none, [], none, [], none, none, []⟩, c :: rest) := by
    simp [Field.scan, optional, List.span_eq_takeWhile_dropWhile, sign, digit, point]
  simp [float, sentry, good, space, empty, Field.Complete]

theorem int_digits {digits : List Char} {old : Int} (nonempty : digits ≠ [])
    (numeric : ∀ c ∈ digits, c.isDigit) (blank : ∀ c ∈ blanks, isSpace c)
    (ends : ∀ c ∈ rest.head?, isSpace c) :
    int { rest := blanks ++ (digits ++ rest) } old =
      if Nat.ofDigitChars 10 digits 0 < 2 ^ 31
      then ((Nat.ofDigitChars 10 digits 0 : Int), { rest, eof := rest.isEmpty })
      else (2 ^ 31 - 1, { rest, eof := rest.isEmpty, fail := true }) := by
  have starts : Stops isSpace (digits ++ rest) :=
    stops_append (fun c member => not_space (digit_printed (numeric c member)))
      fun none => (nonempty none).elim
  have unsigned : Stops isSign (digits ++ rest) :=
    stops_append (fun c member => digit_not_sign (numeric c member)) fun none =>
      (nonempty none).elim
  have sign : optional isSign (Option.toList none ++ (digits ++ rest)) = (none, digits ++ rest) :=
    optional_append nofun fun _ => unsigned
  have run := span_append numeric (ends_of_blank ends).digit
  have more : digits ++ rest ≠ [] := by simp [nonempty]
  simp only [Option.toList_none, List.nil_append] at sign
  simp only [int, sentry_blanks blank starts more, good, Bool.not_false, Bool.and_self, if_true,
    sign, run, reduceCtorEq, if_false, if_neg nonempty]
  have above : ¬ (Nat.ofDigitChars 10 digits 0 : Int) < -2 ^ 31 := by omega
  rw [if_neg above]
  split <;> split <;> first | rfl | omega

end Istream

end WireframeGpu.Data
