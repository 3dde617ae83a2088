import Mathlib.Tactic.Common

namespace WireframeGpu.Lineoutput

/-! The line FIFO of `lineoutput.v`: a 512-word `scfifo` that shows a popped
word one clock after `rdreq` and holds it. -/

structure Registers where
  words : List (BitVec 18) := []
  q : BitVec 18 := 0
deriving DecidableEq, Repr

def depth : Nat := 512

/-- What the component does when it is written while full or read while empty.
Both checks are switched off in its parameters, so nothing is known. -/
abbrev Misuse := Registers → Option (BitVec 18) → Bool → Registers

namespace Registers

variable (misuse : Misuse)

def clock (r : Registers) (data : Option (BitVec 18)) (rdreq : Bool) : Registers :=
  if (data.isSome && r.words.length == depth) || (rdreq && r.words.isEmpty) then
    misuse r data rdreq
  else
    { words := (if rdreq then r.words.tail else r.words) ++ data.toList
      q := if rdreq then r.words.headD r.q else r.q }

variable {misuse} {r : Registers} {word : BitVec 18} {rest : List (BitVec 18)}

@[simp] theorem clock_idle : r.clock misuse none false = r := by
  simp [clock]

theorem clock_push (room : r.words.length < depth) :
    r.clock misuse (some word) false = { r with words := r.words ++ [word] } := by
  simp [clock, Nat.ne_of_lt room]

theorem clock_pop (stored : r.words = word :: rest) :
    r.clock misuse none true = { words := rest, q := word } := by
  simp [clock, stored]

end Registers

end WireframeGpu.Lineoutput
