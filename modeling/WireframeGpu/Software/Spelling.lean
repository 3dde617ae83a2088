import Mathlib.Data.List.TakeWhile
import WireframeGpu.Software.Banks

namespace WireframeGpu.Software

open WireframeGpu.Data

/-! What an object file states, and what the loader reads from a line that states it. -/

/-- A line by its statement; a texture coordinate or a normal is auxiliary. -/
inductive Statement where
  | vertex (x y z : Int)
  | auxiliary
  | face (i j k : Nat)
  | other

/-- A coordinate `1` or `-1`, in any of its decimal spellings. -/
structure Coordinate (word : List Char) (x : Int) : Prop where
  unit : x = 1 ∨ x = -1
  spelled : ∃ n : Numeral, word = n.text ∧ n.value = x

structure Index (word : List Char) (i : Nat) : Prop where
  numeric : ∀ c ∈ word, c.isDigit
  nonempty : word ≠ []
  value : Nat.ofDigitChars 10 word 0 = i

def Blank (word : List Char) : Prop := ∀ c ∈ word, isSpace c

structure Gap (word : List Char) : Prop where
  blank : Blank word
  nonempty : word ≠ []

/-- The lines that state something. -/
inductive Spells : List Char → Statement → Prop where
  | vertex {s₁ s₂ s₃ s₄ a b c : List Char} {x y z : Int} :
      Gap s₁ → Coordinate a x → Gap s₂ → Coordinate b y → Gap s₃ → Coordinate c z → Blank s₄ →
      Spells ('v' :: (s₁ ++ (a ++ (s₂ ++ (b ++ (s₃ ++ (c ++ s₄))))))) (.vertex x y z)
  | texture {rest : List Char} : Spells ('v' :: 't' :: rest) .auxiliary
  | normal {rest : List Char} : Spells ('v' :: 'n' :: rest) .auxiliary
  | face {s₁ s₂ s₃ s₄ a b c : List Char} {i j k : Nat} :
      Gap s₁ → Index a i → Gap s₂ → Index b j → Gap s₃ → Index c k → Blank s₄ →
      Spells ('f' :: (s₁ ++ (a ++ (s₂ ++ (b ++ (s₃ ++ (c ++ s₄))))))) (.face i j k)
  | other {line : List Char} : line.head? ≠ some 'v' → line.head? ≠ some 'f' → Spells line .other

/-- An index that is out of the range of `int` is read as the limit. -/
def clamp (i : Nat) : Int := (min i (2 ^ 31 - 1) : Nat)

/-- The indices that are read from a face; nothing is read behind one out of range. -/
def Junk.face (junk : Junk) : Nat × Nat × Nat → Int × Int × Int
  | (i, j, k) => (clamp i, if i < 2 ^ 31 then clamp j else junk.face1,
      if i < 2 ^ 31 ∧ j < 2 ^ 31 then clamp k else junk.face2)

/-- A texture coordinate or a normal stores zero in `x` and nothing in `y` and `z`. -/
def Statement.line (junk : Junk) : Statement → Line ℚ
  | .vertex x y z => .v x y z
  | .auxiliary => .v 0 junk.y junk.z
  | .face i j k =>
      let (face0, face1, face2) := junk.face (i, j, k)
      .f face0 face1 face2
  | .other => .other

theorem Statement.face_line (junk : Junk) {i j : Nat} (small : i < 2 ^ 31) (small' : j < 2 ^ 31)
    (k : Nat) : (Statement.face i j k).line junk = .f (clamp i) (clamp j) (clamp k) := by
  simp only [Statement.line, Junk.face, small, small', and_self, if_true]

section

variable {word rest : List Char} {line : List Char}

theorem terminated_eq (visible : ∀ c ∈ line, c.toNat ≠ 0) : terminated line = line :=
  List.takeWhile_eq_self_iff.mpr fun c member => decide_eq_true (visible c member)

theorem Coordinate.visible {x : Int} (coordinate : Coordinate word x) :
    ∀ c ∈ word, c.toNat ≠ 0 := by
  obtain ⟨n, rfl, -⟩ := coordinate.spelled
  exact fun c member => Nat.ne_of_gt (Nat.zero_lt_of_lt (n.text_printed c member))

theorem Index.visible {i : Nat} (index : Index word i) : ∀ c ∈ word, c.toNat ≠ 0 :=
  fun c member => Nat.ne_of_gt (Nat.zero_lt_of_lt (digit_printed (index.numeric c member)))

theorem Blank.visible (blank : Blank word) : ∀ c ∈ word, c.toNat ≠ 0 := by
  intro c member null
  have space := blank c member
  simp [isSpace, null] at space

theorem Gap.starts (gap : Gap word) : ∀ c ∈ (word ++ rest).head?, isSpace c := by
  intro c head
  cases word with
  | nil => exact (gap.nonempty rfl).elim
  | cons d word =>
      obtain rfl := Option.some.inj head
      exact gap.blank d List.mem_cons_self

theorem Gap.isEmpty (gap : Gap word) : (word ++ rest).isEmpty = false := by
  simp [gap.nonempty]

theorem Blank.starts (blank : Blank word) : ∀ c ∈ word.head?, isSpace c :=
  fun c head => blank c (List.mem_of_mem_head? head)

theorem Coordinate.read {blanks : List Char} {x : Int} {old : ℚ} (coordinate : Coordinate word x)
    (blank : Blank blanks) (ends : ∀ c ∈ rest.head?, isSpace c) :
    Istream.float { rest := blanks ++ (word ++ rest) } old =
      ((x : ℚ), { rest, eof := rest.isEmpty }) := by
  obtain ⟨n, rfl, value⟩ := coordinate.spelled
  have unit : |n.value| = 1 := by
    rw [value]
    rcases coordinate.unit with rfl | rfl <;> norm_num
  rw [Istream.float_numeral n unit blank ends, value]

theorem Index.read {blanks : List Char} {i : Nat} {old : Int} (index : Index word i)
    (blank : Blank blanks) (ends : ∀ c ∈ rest.head?, isSpace c) :
    Istream.int { rest := blanks ++ (word ++ rest) } old =
      (clamp i, { rest, eof := rest.isEmpty, fail := decide (2 ^ 31 ≤ i) }) := by
  rw [Istream.int_digits index.nonempty index.numeric blank ends, index.value]
  split
  · rw [decide_eq_false (by omega), clamp, Nat.min_eq_left (by omega)]
  · rw [decide_eq_true (by omega), clamp, Nat.min_eq_right (by omega)]
    rfl

theorem terminated_cons {c : Char} (visible : c.toNat ≠ 0) (line : List Char) :
    terminated (c :: line) = c :: terminated line :=
  List.takeWhile_cons_of_pos (decide_eq_true visible)

theorem read_auxiliary (junk : Junk) {kind : Char} (printed : Printed kind)
    (sign : isSign kind = false) (digit : kind.isDigit = false) (point : isPoint kind = false) :
    read junk (terminated ('v' :: kind :: rest)) = .v 0 junk.y junk.z := by
  have visible : kind.toNat ≠ 0 := Nat.ne_of_gt (Nat.zero_lt_of_lt printed)
  rw [terminated_cons (by decide), terminated_cons visible]
  simp only [read, List.head?_cons, if_true, Istream.char_cons (show isSpace 'v' = false by decide),
    Istream.float_word (Istream.not_space printed) sign digit point]
  rw [Istream.float_failed rfl, Istream.float_failed rfl]

/-- What the loader reads from a line that states something. -/
theorem Spells.read {statement : Statement} (spells : Spells line statement) (junk : Junk) :
    read junk (terminated line) = statement.line junk := by
  cases spells with
  | vertex gap₁ x gap₂ y gap₃ z blank =>
      rw [terminated_eq]
      · simp only [Software.read, List.head?_cons, if_true,
          Istream.char_cons (show isSpace 'v' = false by decide),
          x.read gap₁.blank gap₂.starts, gap₂.isEmpty, y.read gap₂.blank gap₃.starts, gap₃.isEmpty,
          z.read gap₃.blank blank.starts, Statement.line]
      · simp only [List.forall_mem_cons, List.forall_mem_append]
        exact ⟨by decide, gap₁.blank.visible, x.visible, gap₂.blank.visible, y.visible,
          gap₃.blank.visible, z.visible, blank.visible⟩
  | texture => exact read_auxiliary junk (show 33 ≤ 116 by decide) rfl rfl rfl
  | normal => exact read_auxiliary junk (show 33 ≤ 110 by decide) rfl rfl rfl
  | @face _ _ _ _ _ _ _ i j k gap₁ first gap₂ second gap₃ third blank =>
      rw [terminated_eq]
      · simp only [Software.read, List.head?_cons, if_true, Option.some.injEq, Char.reduceEq,
          if_false, Istream.char_cons (show isSpace 'f' = false by decide),
          first.read gap₁.blank gap₂.starts, gap₂.isEmpty, Statement.line, Junk.face]
        by_cases small : i < 2 ^ 31
        · rw [decide_eq_false (show ¬ 2 ^ 31 ≤ i by omega)]
          simp only [second.read gap₂.blank gap₃.starts, gap₃.isEmpty]
          by_cases small' : j < 2 ^ 31
          · rw [decide_eq_false (show ¬ 2 ^ 31 ≤ j by omega)]
            simp only [third.read gap₃.blank blank.starts, small, small', and_self, if_true]
          · rw [decide_eq_true (show 2 ^ 31 ≤ j by omega), Istream.int_failed rfl]
            simp only [small, small', and_false, if_true, if_false]
        · rw [decide_eq_true (show 2 ^ 31 ≤ i by omega), Istream.int_failed rfl,
            Istream.int_failed rfl]
          simp only [small, false_and, if_false]
      · simp only [List.forall_mem_cons, List.forall_mem_append]
        exact ⟨by decide, gap₁.blank.visible, first.visible, gap₂.blank.visible, second.visible,
          gap₃.blank.visible, third.visible, blank.visible⟩
  | other vertex face =>
      have vertex' := mt (terminated_head line 'v' (by decide)).mp vertex
      have face' := mt (terminated_head line 'f' (by decide)).mp face
      simp only [Software.read, if_neg vertex', if_neg face', Statement.line]

end

end WireframeGpu.Software
