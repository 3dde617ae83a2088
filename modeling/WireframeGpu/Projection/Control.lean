import WireframeGpu.Projection.Machine

namespace WireframeGpu.Projection

/-! The `START`/`DONE` protocol of one projection.  It does not depend on the
vertex, which may even change while the projection runs. -/

/-- The multipliers are done in `multiplying` clocks, the dividers in `dividing`. -/
structure Units (multiplying dividing : Nat) (r : Registers) : Prop where
  m1 : Multiplier.Counting multiplying r.m1
  m2 : Multiplier.Counting multiplying r.m2
  m3 : Multiplier.Counting multiplying r.m3
  d1 : Divider.Counting dividing r.d1
  d2 : Divider.Counting dividing r.d2
  d3 : Divider.Counting dividing r.d3

structure Waiting (r : Registers) : Prop where
  state : r.state = .wait
  done : r.done = false
  units : Units 0 0 r

/-- Between `START` and `DONE`: the units run only in the states that wait for them. -/
structure Busy (r : Registers) : Prop where
  done : r.done = false
  units : match r.state with
    | .wait | .donestate2 => False
    | .s3 | .s16 => ∃ left ≤ 33, Units left 0 r
    | .s10 => ∃ left ≤ 47, Units 0 left r
    | _ => Units 0 0 r

structure Completed (r : Registers) : Prop where
  state : r.state = .donestate2
  done : r.done = true
  units : Units 0 0 r

def multiplying (m : Multiplier.Registers) : Nat := if m.done then 0 else 33 - m.count.toNat

def dividing (d : Divider.Registers) : Nat := if d.done then 0 else d.count.toNat + 1

def latency (r : Registers) : Nat :=
  match r.state with
  | .s0 | .s00 => 134
  | .s1 => 133
  | .s2 => 132
  | .s3 => 98 + multiplying r.m1
  | .s4 => 97
  | .s5 => 96
  | .s6 => 95
  | .s7 => 94
  | .s8 => 93
  | .s9 => 92
  | .s10 => 44 + dividing r.d1
  | .s11 => 43
  | .s12 => 42
  | .s13 => 41
  | .s14 => 40
  | .s15 => 39
  | .s16 => 5 + multiplying r.m1
  | .s17 => 4
  | .s18 => 3
  | .s19 => 2
  | .donestate1 => 1
  | .wait | .donestate2 => 0

variable {r : Registers} {v : Vertex} {i : Inputs} {ml dl : Nat}

theorem multiplying_eq {left : Nat} {m : Multiplier.Registers}
    (counting : Multiplier.Counting left m) : multiplying m = left := by
  cases left with
  | zero =>
      have done : m.done = true := counting.done
      simp [multiplying, done]
  | succ left =>
      have busy : m.done = false := counting.done
      have count := counting.count (Nat.succ_pos left)
      simp only [multiplying, busy, Bool.false_eq_true, ↓reduceIte]
      omega

theorem dividing_eq {left : Nat} {d : Divider.Registers}
    (counting : Divider.Counting left d) : dividing d = left := by
  cases left with
  | zero =>
      have done : d.done = true := counting.done
      simp [dividing, done]
  | succ left =>
      have busy : d.done = false := counting.done
      have count := counting.count (Nat.succ_pos left)
      simpa only [dividing, busy, Bool.false_eq_true, ↓reduceIte] using count

theorem mstart_eq : (r.comb i).mstart = (r.state == .s2 || r.state == .s15) := by
  cases state : r.state <;> simp only [Registers.comb, Registers.defaults, state]
  case s16 => split <;> rfl
  all_goals rfl

theorem dstart_eq : (r.comb i).dstart = (r.state == .s9) := by
  cases state : r.state <;> simp only [Registers.comb, Registers.defaults, state]
  case s16 => split <;> rfl
  all_goals rfl

/-- `DONE` only rises on the edge out of `DONESTATE1`. -/
theorem done_low (low : r.done = false)
    (unfinished : r.state ≠ .donestate1 ∧ r.state ≠ .donestate2) : (r.clock i).done = false := by
  cases state : r.state <;> simp only [Registers.clock, Registers.comb, Registers.defaults, state]
  case s16 => split <;> exact low
  case donestate1 => exact absurd state unfinished.1
  case donestate2 => exact absurd state unfinished.2
  all_goals exact low

theorem Units.clock (units : Units ml dl r) (multipliers : (r.comb i).mstart = false)
    (dividers : (r.comb i).dstart = false) : Units (ml - 1) (dl - 1) (r.clock i) :=
  ⟨units.m1.clock multipliers, units.m2.clock multipliers, units.m3.clock multipliers,
    units.d1.clock dividers, units.d2.clock dividers, units.d3.clock dividers⟩

theorem Units.multiply (units : Units 0 0 r) (multipliers : (r.comb i).mstart = true)
    (dividers : (r.comb i).dstart = false) : Units 33 0 (r.clock i) := by
  refine ⟨?_, ?_, ?_, units.d1.clock dividers, units.d2.clock dividers, units.d3.clock dividers⟩ <;>
    simp only [Registers.clock, multipliers]
  · exact Multiplier.counting_of_start units.m1.done
  · exact Multiplier.counting_of_start units.m2.done
  · exact Multiplier.counting_of_start units.m3.done

theorem Units.divide (units : Units 0 0 r) (multipliers : (r.comb i).mstart = false)
    (dividers : (r.comb i).dstart = true) : Units 0 47 (r.clock i) := by
  refine ⟨units.m1.clock multipliers, units.m2.clock multipliers, units.m3.clock multipliers,
    ?_, ?_, ?_⟩ <;>
    simp only [Registers.clock, dividers]
  · exact Divider.counting_of_start units.d1.done
  · exact Divider.counting_of_start units.d2.done
  · exact Divider.counting_of_start units.d3.done

theorem Waiting.hold (waiting : Waiting r) : Waiting (r.clock ⟨v, false⟩) := by
  have state := waiting.state
  exact ⟨by simp [Registers.clock, Registers.comb, state],
    by simpa [Registers.clock, Registers.comb, Registers.defaults, state] using waiting.done,
    waiting.units.clock (by simp [mstart_eq, state]) (by simp [dstart_eq, state])⟩

theorem Completed.hold (completed : Completed r) : r.clock ⟨v, false⟩ = r := by
  have units := completed.units
  have state := completed.state
  have done := completed.done
  simp only [Registers.clock, Registers.comb, Registers.defaults, state]
  rw [Multiplier.idle_clock units.m1.done rfl, Multiplier.idle_clock units.m2.done rfl,
    Multiplier.idle_clock units.m3.done rfl, Divider.idle_clock units.d1.done rfl,
    Divider.idle_clock units.d2.done rfl, Divider.idle_clock units.d3.done rfl]
  cases r
  simp_all

/-- `START` is accepted, and a `DONE` of an earlier run dropped, in one clock. -/
theorem busy_of_start (ready : Waiting r ∨ Completed r) :
    Busy (r.clock ⟨v, true⟩) ∧
      ((r.clock ⟨v, true⟩).state = .s0 ∨ (r.clock ⟨v, true⟩).state = .s00) := by
  rcases ready with ⟨state, done, units⟩ | ⟨state, done, units⟩
  · have next : (r.clock ⟨v, true⟩).state = .s0 := by
      simp [Registers.clock, Registers.comb, state]
    refine ⟨⟨?_, ?_⟩, .inl next⟩
    · simpa [Registers.clock, Registers.comb, Registers.defaults, state] using done
    · rw [next]
      exact units.clock (by simp [mstart_eq, state]) (by simp [dstart_eq, state])
  · have next : (r.clock ⟨v, true⟩).state = .s00 := by
      simp [Registers.clock, Registers.comb, state]
    refine ⟨⟨?_, ?_⟩, .inr next⟩
    · simp [Registers.clock, Registers.comb, state]
    · rw [next]
      exact units.clock (by simp [mstart_eq, state]) (by simp [dstart_eq, state])

theorem busy_of_idle (done : r.done = false) (units : Units 0 0 r)
    (moving : r.state ≠ .wait ∧ r.state ≠ .donestate2) : Busy r := by
  refine ⟨done, ?_⟩
  split
  · exact moving.1 ‹_›
  · exact moving.2 ‹_›
  · exact ⟨0, Nat.zero_le _, units⟩
  · exact ⟨0, Nat.zero_le _, units⟩
  · exact ⟨0, Nat.zero_le _, units⟩
  · exact units

theorem busy_of_multiplying {left : Nat} (done : r.done = false) (units : Units left 0 r)
    (small : left ≤ 33) (state : r.state = .s3 ∨ r.state = .s16) : Busy r := by
  refine ⟨done, ?_⟩
  rcases state with state | state <;> rw [state] <;> exact ⟨left, small, units⟩

theorem busy_of_dividing {left : Nat} (done : r.done = false) (units : Units 0 left r)
    (small : left ≤ 47) (state : r.state = .s10) : Busy r := by
  refine ⟨done, ?_⟩
  rw [state]
  exact ⟨left, small, units⟩

/-- The states passed in one clock each, with the units idle. -/
theorem Busy.pass (busy : Busy r)
    (passing : r.state ≠ .s2 ∧ r.state ≠ .s3 ∧ r.state ≠ .s7 ∧ r.state ≠ .s9 ∧ r.state ≠ .s10 ∧
      r.state ≠ .s15 ∧ r.state ≠ .s16 ∧ r.state ≠ .donestate1) :
    Busy (r.clock i) ∧ latency (r.clock i) + 1 = latency r := by
  have units := busy.units
  cases state : r.state <;> simp only [state] at units <;>
    simp only [state, ne_eq, not_true_eq_false, false_and, and_false] at passing
  all_goals
    have done := done_low (i := i) busy.done (by simp [state])
    have units' := units.clock (i := i) (by simp [mstart_eq, state]) (by simp [dstart_eq, state])
    refine ⟨busy_of_idle done units' ?_, ?_⟩
    · simp [Registers.clock, Registers.comb, state]
    · simp [latency, Registers.clock, Registers.comb, state]

/-- `S7` goes past the division or into it. -/
theorem Busy.branch (busy : Busy r) (branches : r.state = .s7) :
    Busy (r.clock i) ∧ latency (r.clock i) < latency r ∧
      ((r.clock i).state = .s8 → latency (r.clock i) + 1 = latency r) := by
  have units := busy.units
  simp only [branches] at units
  have done := done_low (i := i) busy.done (by simp [branches])
  have units' := units.clock (i := i) (by simp [mstart_eq, branches])
    (by simp [dstart_eq, branches])
  have next : (r.clock i).state = .s11 ∨ (r.clock i).state = .s8 := by
    simp only [Registers.clock, Registers.comb, branches]
    split
    · exact .inl rfl
    · exact .inr rfl
  refine ⟨busy_of_idle done units' ?_, ?_, fun divides => ?_⟩
  · rcases next with next | next <;> simp [next]
  · rcases next with next | next <;> simp [latency, next, branches]
  · simp [latency, divides, branches]

theorem Busy.launch (busy : Busy r)
    (launching : r.state = .s2 ∨ r.state = .s9 ∨ r.state = .s15) :
    Busy (r.clock i) ∧ latency (r.clock i) + 1 = latency r := by
  have units := busy.units
  rcases launching with state | state | state <;> simp only [state] at units <;>
    have done := done_low (i := i) busy.done (by simp [state])
  · have units' := units.multiply (i := i) (by simp [mstart_eq, state]) (by simp [dstart_eq, state])
    have next : (r.clock i).state = .s3 := by simp only [Registers.clock, Registers.comb, state]
    refine ⟨busy_of_multiplying done units' le_rfl (.inl next), ?_⟩
    simp [latency, next, state, multiplying_eq units'.m1]
  · have units' := units.divide (i := i) (by simp [mstart_eq, state]) (by simp [dstart_eq, state])
    have next : (r.clock i).state = .s10 := by simp only [Registers.clock, Registers.comb, state]
    refine ⟨busy_of_dividing done units' le_rfl next, ?_⟩
    simp [latency, next, state, dividing_eq units'.d1]
  · have units' := units.multiply (i := i) (by simp [mstart_eq, state]) (by simp [dstart_eq, state])
    have next : (r.clock i).state = .s16 := by simp only [Registers.clock, Registers.comb, state]
    refine ⟨busy_of_multiplying done units' le_rfl (.inr next), ?_⟩
    simp [latency, next, state, multiplying_eq units'.m1]

theorem Units.await_multipliers {left : Nat} (units : Units left 0 r)
    (awaiting : r.state = .s3 ∨ r.state = .s16) : (r.clock i).state =
      if left ≠ 0 then r.state else if r.state = .s3 then .s4 else .s17 := by
  rcases awaiting with state | state <;>
    simp only [Registers.clock, Registers.comb, state, units.m1.done, units.m2.done,
      units.m3.done] <;>
    by_cases none : left = 0 <;> simp [none]

theorem Units.await_dividers {left : Nat} (units : Units 0 left r) (awaiting : r.state = .s10) :
    (r.clock i).state = if left ≠ 0 then .s10 else .s11 := by
  simp only [Registers.clock, Registers.comb, awaiting, units.d1.done, units.d2.done, units.d3.done]
  by_cases none : left = 0 <;> simp [none]

theorem Busy.await_multipliers (busy : Busy r) (awaiting : r.state = .s3 ∨ r.state = .s16) :
    Busy (r.clock i) ∧ latency (r.clock i) + 1 = latency r := by
  obtain ⟨left, small, units⟩ : ∃ left ≤ 33, Units left 0 r := by
    have units := busy.units
    rcases awaiting with state | state <;> rwa [state] at units
  have done : (r.clock i).done = false := by
    apply done_low busy.done
    rcases awaiting with state | state <;> simp [state]
  have units' : Units (left - 1) 0 (r.clock i) := by
    apply units.clock
    · rcases awaiting with state | state <;> simp [mstart_eq, state]
    · rcases awaiting with state | state <;> simp [dstart_eq, state]
  have next := units.await_multipliers (i := i) awaiting
  cases left with
  | zero =>
      refine ⟨busy_of_idle done units' ?_, ?_⟩
      · rcases awaiting with state | state <;> simp [next, state]
      · rcases awaiting with state | state <;>
          simp [latency, next, state, multiplying_eq units.m1]
  | succ left =>
      rw [if_pos (Nat.succ_ne_zero left)] at next
      refine ⟨busy_of_multiplying done units' (Nat.le_of_succ_le small) (next ▸ awaiting), ?_⟩
      rcases awaiting with state | state <;>
        simp only [latency, next, state, multiplying_eq units.m1, multiplying_eq units'.m1] <;>
        omega

theorem Busy.await_dividers (busy : Busy r) (awaiting : r.state = .s10) :
    Busy (r.clock i) ∧ latency (r.clock i) + 1 = latency r := by
  obtain ⟨left, small, units⟩ : ∃ left ≤ 47, Units 0 left r := by
    have units := busy.units
    rwa [awaiting] at units
  have done : (r.clock i).done = false := done_low busy.done (by simp [awaiting])
  have units' :=
    units.clock (i := i) (by simp [mstart_eq, awaiting]) (by simp [dstart_eq, awaiting])
  have next := units.await_dividers (i := i) awaiting
  cases left with
  | zero =>
      refine ⟨busy_of_idle done units' (by simp [next]), ?_⟩
      simp [latency, next, awaiting, dividing_eq units.d1]
  | succ left =>
      rw [if_pos (Nat.succ_ne_zero left)] at next
      refine ⟨busy_of_dividing done units' (Nat.le_of_succ_le small) next, ?_⟩
      simp only [latency, next, awaiting, dividing_eq units.d1, dividing_eq units'.d1]
      omega

theorem Busy.complete (busy : Busy r) (last : r.state = .donestate1) :
    Completed (r.clock i) := by
  have units := busy.units
  simp only [last] at units
  exact ⟨by simp only [Registers.clock, Registers.comb, last],
    by simp only [Registers.clock, Registers.comb, last],
    units.clock (by simp [mstart_eq, last]) (by simp [dstart_eq, last])⟩

theorem loads_coordinates (last : r.state = .donestate1) :
    (r.clock i).newx = r.tempx ∧ (r.clock i).newy = r.tempy := by
  simp only [Registers.clock, Registers.comb, last, and_self]

/-- Every state before `DONESTATE1` costs what `latency` says, if `S7` goes into the division. -/
theorem Busy.advance (busy : Busy r) (unfinished : r.state ≠ .donestate1) :
    Busy (r.clock i) ∧ latency (r.clock i) < latency r ∧
      ((r.state = .s7 → (r.clock i).state = .s8) → latency (r.clock i) + 1 = latency r) := by
  by_cases branches : r.state = .s7
  · obtain ⟨busy', less, exact⟩ := busy.branch (i := i) branches
    exact ⟨busy', less, fun divides => exact (divides branches)⟩
  have next : Busy (r.clock i) ∧ latency (r.clock i) + 1 = latency r := by
    by_cases launching : r.state = .s2 ∨ r.state = .s9 ∨ r.state = .s15
    · exact busy.launch launching
    by_cases multiplying : r.state = .s3 ∨ r.state = .s16
    · exact busy.await_multipliers multiplying
    by_cases dividing : r.state = .s10
    · exact busy.await_dividers dividing
    · exact busy.pass (by simp_all)
  exact ⟨next.1, Nat.lt_of_lt_of_eq (Nat.lt_succ_self _) next.2, fun _ => next.2⟩

/-- One clock of a projection under way; `START` and the vertex do not matter. -/
theorem Busy.step (busy : Busy r) :
    (r.state ≠ .donestate1 ∧ Busy (r.clock i) ∧ latency (r.clock i) < latency r) ∨
      (r.state = .donestate1 ∧ Completed (r.clock i)) := by
  by_cases last : r.state = .donestate1
  · exact .inr ⟨last, busy.complete last⟩
  · obtain ⟨busy', less, -⟩ := busy.advance (i := i) last
    exact .inl ⟨last, busy', less⟩

theorem Busy.latency_pos (busy : Busy r) : 0 < latency r := by
  have units := busy.units
  cases state : r.state <;> simp only [state] at units <;> simp [latency, state]

theorem Busy.latency_le (busy : Busy r) : latency r ≤ 134 := by
  have units := busy.units
  cases state : r.state <;> simp only [state] at units <;> simp only [latency, state] <;>
    try decide
  · obtain ⟨left, small, units⟩ := units
    rw [multiplying_eq units.m1]
    omega
  · obtain ⟨left, small, units⟩ := units
    rw [dividing_eq units.d1]
    omega
  · obtain ⟨left, small, units⟩ := units
    rw [multiplying_eq units.m1]
    omega

theorem Completed.latency_zero (completed : Completed r) : latency r = 0 := by
  simp [latency, completed.state]

end WireframeGpu.Projection
