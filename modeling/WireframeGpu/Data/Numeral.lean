import Mathlib.Algebra.Order.Field.Power
import Mathlib.Data.Int.Log
import Mathlib.Data.Rat.Floor
import Mathlib.Tactic.FieldSimp
import Mathlib.Tactic.NormNum
import Mathlib.Tactic.Ring

namespace WireframeGpu.Data

/-! Decimal numerals: the field that a stream collects for one, and its value. -/

/-- The first character, if it is one of those allowed here. -/
def optional (p : Char → Bool) : List Char → Option Char × List Char
  | [] => (none, [])
  | c :: rest => if p c then (some c, rest) else (none, c :: rest)

def isSign (c : Char) : Bool := c == '+' || c == '-'
def isPoint (c : Char) : Bool := c == '.'
def isMark (c : Char) : Bool := c == 'e' || c == 'E'

/-- No character of this kind comes next. -/
def Stops (p : Char → Bool) (rest : List Char) : Prop := ∀ c ∈ rest.head?, p c = false

section

variable {p : Char → Bool} {taken : Option Char} {front rest : List Char}

theorem optional_append (allowed : ∀ c ∈ taken, p c) (stops : taken = none → Stops p rest) :
    optional p (taken.toList ++ rest) = (taken, rest) := by
  cases taken with
  | some c => simp [optional, allowed c rfl]
  | none =>
      cases rest with
      | nil => rfl
      | cons c rest => simp [optional, stops rfl c rfl]

theorem stops_append (others : ∀ c ∈ front, p c = false) (stops : front = [] → Stops p rest) :
    Stops p (front ++ rest) := by
  cases front with
  | nil => exact stops rfl
  | cons c front =>
      intro d head
      obtain rfl := Option.some.inj head
      exact others c List.mem_cons_self

/-- A run of characters of one kind ends where they stop. -/
theorem span_append (allowed : ∀ c ∈ front, p c) (stops : Stops p rest) :
    (front ++ rest).span p = (front, rest) := by
  rw [List.span_eq_takeWhile_dropWhile, List.takeWhile_append_of_pos allowed,
    List.dropWhile_append_of_pos allowed]
  cases rest with
  | nil => simp
  | cons c rest => simp [stops c rfl]

end

/-- The characters that the extraction of a number takes from the stream. -/
structure Field where
  sign : Option Char
  whole : List Char
  point : Option Char
  fraction : List Char
  mark : Option Char
  powerSign : Option Char
  power : List Char
deriving DecidableEq

namespace Field

def text (f : Field) : List Char :=
  f.sign.toList ++ (f.whole ++ (f.point.toList ++ (f.fraction ++ (f.mark.toList ++
    (f.powerSign.toList ++ f.power)))))

/-- The longest field at the front; an exponent needs digits before it. -/
def scan (s : List Char) : Field × List Char :=
  let (sign, s) := optional isSign s
  let (whole, s) := s.span Char.isDigit
  let (point, s) := optional isPoint s
  let (fraction, s) := if point.isSome then s.span Char.isDigit else ([], s)
  let (mark, s) := if whole ++ fraction = [] then (none, s) else optional isMark s
  let (powerSign, s) := if mark.isSome then optional isSign s else (none, s)
  let (power, s) := if mark.isSome then s.span Char.isDigit else ([], s)
  (⟨sign, whole, point, fraction, mark, powerSign, power⟩, s)

/-- The whole field is a number. -/
def Complete (f : Field) : Prop := f.whole ++ f.fraction ≠ [] ∧ (f.mark.isSome → f.power ≠ [])

instance (f : Field) : Decidable f.Complete := inferInstanceAs (Decidable (_ ∧ _))

def exponent (f : Field) : Int :=
  if f.powerSign = some '-' then -(Nat.ofDigitChars 10 f.power 0 : Int)
  else Nat.ofDigitChars 10 f.power 0

def magnitude (f : Field) : ℚ :=
  Nat.ofDigitChars 10 (f.whole ++ f.fraction) 0 * 10 ^ (f.exponent - f.fraction.length)

def value (f : Field) : ℚ := if f.sign = some '-' then -f.magnitude else f.magnitude

end Field

/-- A complete field, such as `1`, `-1.000000` or `+10e-1`. -/
structure Numeral extends Field where
  signs : ∀ c ∈ sign, isSign c
  wholes : ∀ c ∈ whole, c.isDigit
  points : ∀ c ∈ point, isPoint c
  fractions : ∀ c ∈ fraction, c.isDigit
  marks : ∀ c ∈ mark, isMark c
  powerSigns : ∀ c ∈ powerSign, isSign c
  powers : ∀ c ∈ power, c.isDigit
  pointed : point = none → fraction = []
  marked : mark = none → powerSign = none ∧ power = []
  complete : toField.Complete

/-- No character that could continue a number comes next. -/
structure Ends (rest : List Char) : Prop where
  digit : Stops Char.isDigit rest
  point : Stops isPoint rest
  mark : Stops isMark rest

section

variable {c : Char}

/-- Neither a blank nor a control character. -/
def Printed (c : Char) : Prop := 33 ≤ c.toNat

theorem sign_printed (sign : isSign c) : Printed c := by
  simp only [isSign, Bool.or_eq_true, beq_iff_eq] at sign
  rcases sign with rfl | rfl <;> exact Nat.le_of_ble_eq_true rfl

theorem digit_printed (digit : c.isDigit) : Printed c := by
  simp only [Char.isDigit, Bool.and_eq_true, decide_eq_true_eq, UInt32.le_iff_toNat_le] at digit
  exact le_trans (show 33 ≤ 48 by decide) digit.1

theorem point_printed (point : isPoint c) : Printed c := by
  obtain rfl := beq_iff_eq.mp point
  exact Nat.le_of_ble_eq_true rfl

theorem mark_printed (mark : isMark c) : Printed c := by
  simp only [isMark, Bool.or_eq_true, beq_iff_eq] at mark
  rcases mark with rfl | rfl <;> exact Nat.le_of_ble_eq_true rfl

theorem digit_not_sign (digit : c.isDigit) : isSign c = false := by
  by_contra sign
  simp only [isSign, Bool.or_eq_false_iff, beq_eq_false_iff_ne, not_and_or, not_not] at sign
  rcases sign with rfl | rfl <;> cases digit

theorem point_not_sign (point : isPoint c) : isSign c = false := by
  obtain rfl := beq_iff_eq.mp point
  rfl

theorem point_not_digit (point : isPoint c) : c.isDigit = false := by
  obtain rfl := beq_iff_eq.mp point
  rfl

theorem mark_not_digit (mark : isMark c) : c.isDigit = false := by
  simp only [isMark, Bool.or_eq_true, beq_iff_eq] at mark
  rcases mark with rfl | rfl <;> rfl

theorem mark_not_point (mark : isMark c) : isPoint c = false := by
  simp only [isMark, Bool.or_eq_true, beq_iff_eq] at mark
  rcases mark with rfl | rfl <;> rfl

end

namespace Numeral

variable {rest : List Char}

theorem powerSign_stops (n : Numeral) (marked : n.mark.isSome) :
    Stops isSign (n.power ++ rest) :=
  stops_append (fun c member => digit_not_sign (n.powers c member))
    fun none => (n.complete.2 marked none).elim

/-- What follows the digits of the fraction. -/
theorem exponent_stops (n : Numeral) {p : Char → Bool} (stops : Stops p rest)
    (marks : ∀ c, isMark c → p c = false) :
    Stops p (n.mark.toList ++ (n.powerSign.toList ++ (n.power ++ rest))) := by
  refine stops_append (fun c member => marks c (n.marks c (Option.mem_toList.mp member)))
    fun none => ?_
  obtain ⟨sign, power⟩ := n.marked (Option.toList_eq_nil_iff.mp none)
  simpa only [sign, power, Option.toList_none, List.nil_append] using stops

theorem fraction_stops (n : Numeral) {p : Char → Bool} (stops : Stops p rest)
    (marks : ∀ c, isMark c → p c = false) (point : n.point = none) :
    Stops p (n.fraction ++ (n.mark.toList ++ (n.powerSign.toList ++ (n.power ++ rest)))) := by
  rw [n.pointed point, List.nil_append]
  exact n.exponent_stops stops marks

theorem whole_stops (n : Numeral) (ends : Ends rest) :
    Stops Char.isDigit (n.point.toList ++ (n.fraction ++ (n.mark.toList ++
      (n.powerSign.toList ++ (n.power ++ rest))))) :=
  stops_append (fun c member => point_not_digit (n.points c (Option.mem_toList.mp member)))
    fun none => n.fraction_stops ends.digit (fun _ => mark_not_digit)
      (Option.toList_eq_nil_iff.mp none)

/-- A number begins with a digit or its point. -/
theorem whole_starts (n : Numeral) (rest : List Char) {p : Char → Bool}
    (digits : ∀ c, c.isDigit → p c = false) (points : ∀ c, isPoint c → p c = false) :
    Stops p (n.whole ++ (n.point.toList ++ (n.fraction ++ (n.mark.toList ++
      (n.powerSign.toList ++ (n.power ++ rest)))))) := by
  refine stops_append (fun c member => digits c (n.wholes c member)) fun whole => ?_
  refine stops_append (fun c member => points c (n.points c (Option.mem_toList.mp member)))
    fun point => ?_
  have empty := n.pointed (Option.toList_eq_nil_iff.mp point)
  exact (n.complete.1 (by rw [whole, empty, List.append_nil])).elim

theorem text_starts (n : Numeral) {p : Char → Bool} (signs : ∀ c, isSign c → p c = false)
    (digits : ∀ c, c.isDigit → p c = false) (points : ∀ c, isPoint c → p c = false) :
    Stops p (n.text ++ rest) := by
  simp only [Field.text, List.append_assoc]
  exact stops_append (fun c member => signs c (n.signs c (Option.mem_toList.mp member)))
    fun _ => n.whole_starts rest digits points

theorem text_ne_nil (n : Numeral) : n.text ≠ [] := by
  intro empty
  simp only [Field.text, List.append_eq_nil_iff] at empty
  exact n.complete.1 (by rw [empty.2.1, empty.2.2.2.1, List.append_nil])

theorem text_printed (n : Numeral) : ∀ c ∈ n.text, Printed c := by
  intro c member
  simp only [Field.text, List.mem_append, Option.mem_toList] at member
  rcases member with sign | digit | point | digit | mark | sign | digit
  · exact sign_printed (n.signs c sign)
  · exact digit_printed (n.wholes c digit)
  · exact point_printed (n.points c point)
  · exact digit_printed (n.fractions c digit)
  · exact mark_printed (n.marks c mark)
  · exact sign_printed (n.powerSigns c sign)
  · exact digit_printed (n.powers c digit)

/-- A numeral is read whole when nothing after it could continue it. -/
theorem scan_text (n : Numeral) (ends : Ends rest) :
    Field.scan (n.text ++ rest) = (n.toField, rest) := by
  have point := optional_append n.points fun none =>
    n.fraction_stops ends.point (fun _ => mark_not_point) none
  have fraction : (if n.point.isSome then
      (n.fraction ++ (n.mark.toList ++ (n.powerSign.toList ++ (n.power ++ rest)))).span Char.isDigit
      else ([], n.fraction ++ (n.mark.toList ++ (n.powerSign.toList ++ (n.power ++ rest))))) =
      (n.fraction, n.mark.toList ++ (n.powerSign.toList ++ (n.power ++ rest))) := by
    split
    · exact span_append n.fractions (n.exponent_stops ends.digit fun _ => mark_not_digit)
    · rw [n.pointed (Option.not_isSome_iff_eq_none.mp ‹_›), List.nil_append]
  have mark : optional isMark (n.mark.toList ++ (n.powerSign.toList ++ (n.power ++ rest))) =
      (n.mark, n.powerSign.toList ++ (n.power ++ rest)) :=
    optional_append n.marks fun none => by
      obtain ⟨sign, power⟩ := n.marked none
      simpa only [sign, power, Option.toList_none, List.nil_append] using ends.mark
  have powerSign : (if n.mark.isSome then optional isSign (n.powerSign.toList ++ (n.power ++ rest))
      else (none, n.powerSign.toList ++ (n.power ++ rest))) = (n.powerSign, n.power ++ rest) := by
    split
    · exact optional_append n.powerSigns fun _ => n.powerSign_stops ‹_›
    · rw [(n.marked (Option.not_isSome_iff_eq_none.mp ‹_›)).1, Option.toList_none, List.nil_append]
  have power : (if n.mark.isSome then (n.power ++ rest).span Char.isDigit
      else ([], n.power ++ rest)) = (n.power, rest) := by
    split
    · exact span_append n.powers ends.digit
    · rw [(n.marked (Option.not_isSome_iff_eq_none.mp ‹_›)).2, List.nil_append]
  have sign := optional_append n.signs fun _ =>
    n.whole_starts rest (fun _ => digit_not_sign) fun _ => point_not_sign
  simp only [Field.scan, Field.text, List.append_assoc, sign,
    span_append n.wholes (n.whole_stops ends),
    point, fraction, if_neg n.complete.1, mark, powerSign, power]

end Numeral

/-! Binary32 numbers. -/

/-- The nearest integer; halves go to the even one. -/
def tiesToEven (x : ℚ) : Int :=
  if x - ⌊x⌋ < 1 / 2 ∨ (x - ⌊x⌋ = 1 / 2 ∧ ⌊x⌋ % 2 = 0) then ⌊x⌋ else ⌊x⌋ + 1

/-- The distance between binary32 numbers next to `x`. -/
def ulp (x : ℚ) : ℚ := 2 ^ (max (Int.log 2 |x|) (-126) - 23)

/-- The binary32 number nearest to `x`, as long as that has no limit above. -/
def binary32 (x : ℚ) : ℚ := tiesToEven (x / ulp x) * ulp x

theorem tiesToEven_intCast (n : Int) : tiesToEven n = n := by
  simp [tiesToEven]

theorem binary32_of_multiple {x : ℚ} {n : Int} (multiple : x = n * ulp x) : binary32 x = x := by
  have positive : 0 < ulp x := zpow_pos (by norm_num) _
  have quotient : x / ulp x = n := by
    rw [div_eq_iff positive.ne']
    exact multiple
  rw [binary32, quotient, tiesToEven_intCast]
  exact multiple.symm

theorem binary32_unit {x : ℚ} (unit : |x| = 1) : binary32 x = x := by
  have spacing : ulp x = 2 ^ (-23 : Int) := by
    rw [ulp, unit, Int.log_one_right]
    rfl
  rcases eq_or_eq_neg_of_abs_eq unit with rfl | rfl
  · exact binary32_of_multiple (n := 2 ^ 23) (by rw [spacing]; norm_num)
  · exact binary32_of_multiple (n := -2 ^ 23) (by rw [spacing]; norm_num)

end WireframeGpu.Data
