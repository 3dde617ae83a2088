import Mathlib.Order.Monotone.Basic
import Mathlib.Data.Nat.Find

namespace WireframeGpu.Data

/-! Runs of a synchronous machine.

A machine is its next-state function alone: the registers after a clock edge,
from the registers before it and the inputs sampled on it.  Inputs arrive as
an infinite stream, so a statement about every run is a statement about every
stream and every cycle.
-/

variable {State Input Word : Type}

def trace (step : State → Input → State) (start : State) (inputs : Nat → Input) : Nat → State
  | 0 => start
  | cycle + 1 => step (trace step start inputs cycle) (inputs cycle)

theorem trace_succ (step : State → Input → State) (start : State) (inputs : Nat → Input)
    (cycle : Nat) :
    trace step start inputs (cycle + 1) = step (trace step start inputs cycle) (inputs cycle) := rfl

/-- A state depends on the inputs of the earlier cycles only. -/
theorem trace_congr {step : State → Input → State} {start : State} {inputs inputs' : Nat → Input}
    {cycle : Nat} (same : ∀ k < cycle, inputs k = inputs' k) :
    trace step start inputs cycle = trace step start inputs' cycle := by
  induction cycle with
  | zero => rfl
  | succ cycle ih =>
      rw [trace_succ, trace_succ, same cycle (Nat.lt_succ_self cycle),
        ih fun k before => same k (Nat.lt_succ_of_lt before)]

theorem trace_invariant {step : State → Input → State} {start : State} {inputs : Nat → Input}
    (invariant : State → Prop) (initial : invariant start)
    (preserved : ∀ state input, invariant state → invariant (step state input)) (cycle : Nat) :
    invariant (trace step start inputs cycle) := by
  induction cycle with
  | zero => exact initial
  | succ cycle ih => exact preserved _ _ ih

/-- Progress by a rank: if every step from a state `inside` reaches the goal or
stays inside with a smaller rank, the goal is reached, within the rank. -/
theorem reaches_of_rank (states : Nat → State) (inside goal : State → Prop) (rank : State → Nat)
    (progress : ∀ cycle, inside (states cycle) → goal (states (cycle + 1)) ∨
      (inside (states (cycle + 1)) ∧ rank (states (cycle + 1)) < rank (states cycle)))
    {cycle : Nat} (start : inside (states cycle)) :
    ∃ last, cycle ≤ last ∧ last ≤ cycle + rank (states cycle) ∧ goal (states (last + 1)) ∧
      ∀ between, cycle ≤ between → between ≤ last → inside (states between) := by
  generalize bound : rank (states cycle) = budget
  induction budget using Nat.strong_induction_on generalizing cycle with
  | _ budget ih =>
      rcases progress cycle start with goal | ⟨inside', less⟩
      · refine ⟨cycle, le_rfl, Nat.le_add_right _ _, goal, fun between lower upper => ?_⟩
        rwa [Nat.le_antisymm upper lower]
      · obtain ⟨last, lower, upper, goal, before⟩ :=
          ih (rank (states (cycle + 1))) (by omega) inside' rfl
        refine ⟨last, by omega, by omega, goal, fun between least most => ?_⟩
        rcases Nat.eq_or_lt_of_le least with rfl | later
        · exact start
        · exact before between later most

/-- What happens at all from some point on happens a first time. -/
theorem first_time {happens : Nat → Bool} {start : Nat} (soon : ∃ k, start ≤ k ∧ happens k = true) :
    ∃ first, start ≤ first ∧ happens first = true ∧
      ∀ k, start ≤ k → k < first → happens k = false := by
  classical
  obtain ⟨after, holds⟩ := Nat.find_spec soon
  refine ⟨Nat.find soon, after, holds, fun k lower before => ?_⟩
  have early := Nat.find_min soon before
  rw [not_and] at early
  exact Bool.eq_false_iff.mpr (early lower)

/-- A count that grows one by one, and without a bound, passes every number. -/
theorem counts_through {count : Nat → Nat} {target : Nat} (steps : ∀ k, count (k + 1) ≤ count k + 1)
    (start : count 0 ≤ target) (grows : ∃ k, target ≤ count k) : ∃ k, count k = target := by
  obtain ⟨k, high⟩ := grows
  induction k with
  | zero => exact ⟨0, Nat.le_antisymm start high⟩
  | succ k ih =>
      by_cases earlier : target ≤ count k
      · exact ih earlier
      · have next := steps k
        exact ⟨k + 1, by omega⟩

def emitted (signal : Nat → Option Word) : Nat → List Word
  | 0 => []
  | cycle + 1 => emitted signal cycle ++ (signal cycle).toList

theorem emitted_succ (signal : Nat → Option Word) (cycle : Nat) :
    emitted signal (cycle + 1) = emitted signal cycle ++ (signal cycle).toList := rfl

/-- A signal that falls silent has emitted all it will. -/
theorem emitted_silent {signal : Nat → Option Word} {first last : Nat}
    (silent : ∀ k, first ≤ k → signal k = none) (ordered : first ≤ last) :
    emitted signal last = emitted signal first := by
  induction last, ordered using Nat.le_induction with
  | base => rfl
  | succ last ordered ih => rw [emitted_succ, silent last ordered, ih]; exact List.append_nil _

theorem emitted_prefix (signal : Nat → Option Word) {first last : Nat} (ordered : first ≤ last) :
    emitted signal first <+: emitted signal last := by
  induction last, ordered using Nat.le_induction with
  | base => exact List.prefix_rfl
  | succ last _ ih => exact ih.trans (List.prefix_append _ _)

/-! A register that some inputs write and others reset. -/

/-- The inputs since the last reset, the latest one first. -/
def sinceReset (reset : Input → Bool) (inputs : Nat → Input) (cycle : Nat) : List Input :=
  ((List.range cycle).reverse.map inputs).takeWhile fun input => !reset input

def lastWritten (reset : Input → Bool) (written : Input → Option Word) (inputs : Nat → Input)
    (cycle : Nat) : Option Word :=
  (sinceReset reset inputs cycle).findSome? written

section

variable {reset : Input → Bool} {written : Input → Option Word} {inputs : Nat → Input}
  {cycle : Nat} {word : Word}

theorem sinceReset_reset (resets : reset (inputs cycle) = true) :
    sinceReset reset inputs (cycle + 1) = [] := by
  simp [sinceReset, List.range_succ, resets]

theorem sinceReset_succ (runs : reset (inputs cycle) = false) :
    sinceReset reset inputs (cycle + 1) = inputs cycle :: sinceReset reset inputs cycle := by
  simp [sinceReset, List.range_succ, runs]

theorem lastWritten_reset (resets : reset (inputs cycle) = true) :
    lastWritten reset written inputs (cycle + 1) = none := by
  rw [lastWritten, sinceReset_reset resets]
  rfl

theorem lastWritten_write (runs : reset (inputs cycle) = false)
    (writes : written (inputs cycle) = some word) :
    lastWritten reset written inputs (cycle + 1) = some word := by
  rw [lastWritten, sinceReset_succ runs, List.findSome?_cons, writes]

theorem lastWritten_keep (runs : reset (inputs cycle) = false)
    (keeps : written (inputs cycle) = none) :
    lastWritten reset written inputs (cycle + 1) = lastWritten reset written inputs cycle := by
  rw [lastWritten, sinceReset_succ runs, List.findSome?_cons, keeps]
  rfl

end

/-- A part of the state that each input writes, resets or keeps shows what was
written last, once it has been cleared. -/
theorem trace_lastWritten {step : State → Input → State} {start : State} {inputs : Nat → Input}
    {reset : Input → Bool} {written : Input → Option Word} (part : State → Word) (zero : Word)
    (writes : ∀ state input word, written input = some word → part (step state input) = word)
    (resets : ∀ state input, written input = none → reset input = true →
      part (step state input) = zero)
    (keeps : ∀ state input, written input = none → reset input = false →
      part (step state input) = part state)
    (quiet : ∀ k, reset (inputs k) = true → written (inputs k) = none) {cycle : Nat}
    (cleared : part start = zero ∨ ∃ k < cycle, reset (inputs k) = true) :
    part (trace step start inputs cycle) =
      (lastWritten reset written inputs cycle).getD zero := by
  induction cycle with
  | zero => exact cleared.resolve_right fun ⟨k, before, _⟩ => absurd before (Nat.not_lt_zero k)
  | succ cycle ih =>
      rw [trace_succ]
      cases resetting : reset (inputs cycle) with
      | true =>
          rw [resets _ _ (quiet cycle resetting) resetting, lastWritten_reset resetting]
          rfl
      | false =>
          cases writing : written (inputs cycle) with
          | some word =>
              rw [writes _ _ word writing, lastWritten_write resetting writing]
              rfl
          | none =>
              rw [keeps _ _ writing resetting, lastWritten_keep resetting writing]
              refine ih (cleared.imp_right fun ⟨k, before, earlier⟩ => ⟨k, ?_, earlier⟩)
              refine Nat.lt_of_le_of_ne (Nat.le_of_lt_succ before) ?_
              rintro rfl
              cases resetting.symm.trans earlier

end WireframeGpu.Data
