import WireframeGpu.Data.Trace

namespace WireframeGpu.Data

/-! A machine among others.

It hears some of the events of an interleaving and sleeps through the rest.  What
it makes of them is a run of its own, with the events it has heard for inputs.
-/

variable {State Input Event Word : Type} {heard : Nat → Option Event} {rest event : Event}
  {n last : Nat}

/-- How many of the first events were heard. -/
def ticks (heard : Nat → Option Event) (n : Nat) : Nat := (emitted heard n).length

/-- The events heard up to the last, one after the other; `rest` is heard from then on. -/
def own (heard : Nat → Option Event) (rest : Event) (last k : Nat) : Event :=
  (emitted heard last)[k]?.getD rest

theorem ticks_heard (hears : heard n = some event) : ticks heard (n + 1) = ticks heard n + 1 := by
  rw [ticks, emitted_succ, hears]
  exact List.length_append

theorem ticks_silent (silent : heard n = none) : ticks heard (n + 1) = ticks heard n := by
  rw [ticks, emitted_succ, silent]
  exact congrArg List.length (List.append_nil _)

theorem ticks_congr {other : Nat → Option Word}
    (same : ∀ k, (heard k).isSome = (other k).isSome) (n : Nat) :
    ticks heard n = ticks other n := by
  induction n with
  | zero => rfl
  | succ n ih =>
      have alike := same n
      cases event : heard n <;> cases event' : other n <;> rw [event, event'] at alike
      · rw [ticks_silent event, ticks_silent event', ih]
      · cases alike
      · cases alike
      · rw [ticks_heard event, ticks_heard event', ih]

theorem ticks_mono (ordered : n ≤ last) : ticks heard n ≤ ticks heard last := by
  have part := emitted_prefix heard ordered
  exact part.length_le

/-- Where every event is heard, the machine keeps pace. -/
theorem ticks_all (ordered : n ≤ last) (hears : ∀ k, n ≤ k → k < last → heard k ≠ none) :
    ticks heard last = ticks heard n + (last - n) := by
  induction last, ordered using Nat.le_induction with
  | base => rw [Nat.sub_self, Nat.add_zero]
  | succ last ordered ih =>
      obtain ⟨event, heard'⟩ :=
        Option.ne_none_iff_exists'.mp (hears last ordered (Nat.lt_succ_self _))
      rw [ticks_heard heard', ih fun k after before => hears k after (Nat.lt_succ_of_lt before)]
      omega

/-- Each count is reached by hearing an event. -/
theorem ticks_reaches {count : Nat} (more : ticks heard n < count)
    (upper : count ≤ ticks heard last) :
    ∃ k event, n ≤ k ∧ k < last ∧ heard k = some event ∧ ticks heard (k + 1) = count := by
  have ordered : n ≤ last := by
    by_contra later
    have fewer : ticks heard last ≤ ticks heard n := ticks_mono (Nat.le_of_not_le later)
    omega
  induction last, ordered using Nat.le_induction with
  | base => omega
  | succ last ordered ih =>
      by_cases earlier : count ≤ ticks heard last
      · obtain ⟨k, event, after, before, hears, reached⟩ := ih earlier
        exact ⟨k, event, after, Nat.lt_succ_of_lt before, hears, reached⟩
      · cases event : heard last with
        | none =>
            rw [ticks_silent event] at upper
            exact (earlier upper).elim
        | some e =>
            have next := ticks_heard event
            exact ⟨last, e, ordered, Nat.lt_succ_self last, event, by omega⟩

/-- The machine is given what it hears. -/
def Given (heard : Nat → Option Event) (events : Nat → Event) (last : Nat) : Prop :=
  ∀ k < last, ∀ event, heard k = some event → events (ticks heard k) = event

section

variable {events : Nat → Event} (given : Given heard events last)

include given

/-- Seen at its own pace, the machine runs. -/
theorem Given.trace {step : State → Input → State} (input : Event → Input) (states : Nat → State)
    (silent : ∀ k, heard k = none → states (k + 1) = states k)
    (hears : ∀ k event, heard k = some event → states (k + 1) = step (states k) (input event))
    (before : n ≤ last) :
    Data.trace step (states 0) (fun k => input (events k)) (ticks heard n) = states n := by
  induction n with
  | zero => rfl
  | succ n ih =>
      have earlier := ih (Nat.le_of_succ_le before)
      cases event : heard n with
      | none => rw [ticks_silent event, silent n event, earlier]
      | some e =>
          rw [ticks_heard event, trace_succ, earlier, given n before e event, hears n e event]

/-- What its events carry is carried in the same order. -/
theorem Given.emitted (word : Event → Option Word) (before : n ≤ last) :
    Data.emitted (fun k => word (events k)) (ticks heard n) =
      Data.emitted (fun k => (heard k).bind word) n := by
  induction n with
  | zero => rfl
  | succ n ih =>
      have earlier := ih (Nat.le_of_succ_le before)
      cases event : heard n with
      | none =>
          rw [ticks_silent event, earlier, emitted_succ, event]
          exact (List.append_nil _).symm
      | some e =>
          rw [ticks_heard event, emitted_succ, earlier, given n before e event, emitted_succ, event]
          rfl

end

theorem own_given (heard : Nat → Option Event) (rest : Event) (last : Nat) :
    Given heard (own heard rest last) last := by
  intro k before event hears
  obtain ⟨later, whole⟩ := emitted_prefix heard (Nat.succ_le_of_lt before)
  rw [emitted_succ, hears, List.append_assoc] at whole
  rw [own, ← whole, ticks, List.getElem?_append_right (Nat.le_refl _), Nat.sub_self]
  rfl

theorem own_rest {k : Nat} (after : ticks heard last ≤ k) : own heard rest last k = rest := by
  rw [own, List.getElem?_eq_none_iff.mpr after]
  rfl

/-- However long the run goes on, nothing else is carried. -/
theorem emitted_own_part (word : Event → Option Word) (silent : word rest = none) (k : Nat) :
    emitted (fun j => word (own heard rest last j)) k <+:
      emitted (fun j => (heard j).bind word) last := by
  rw [← (own_given heard rest last).emitted word (Nat.le_refl last)]
  rcases Nat.le_total k (ticks heard last) with early | late
  · exact emitted_prefix _ early
  · have still : ∀ j, ticks heard last ≤ j → word (own heard rest last j) = none :=
      fun j after => by rw [own_rest after, silent]
    exact emitted_silent still late ▸ List.prefix_rfl

/-! A machine that goes on hearing has an endless run of its own. -/

section

variable (endless : ∀ count, ∃ n, count < ticks heard n)

/-- The events heard, one after the other. -/
noncomputable def owns (rest : Event) (count : Nat) : Event :=
  own heard rest (Classical.choose (endless count)) count

theorem owns_given (rest : Event) (last : Nat) : Given heard (owns endless rest) last := by
  intro k _ event hears
  have late := Classical.choose_spec (endless (ticks heard k))
  refine own_given heard rest _ k ?_ event hears
  by_contra early
  have fewer : ticks heard _ ≤ ticks heard k := ticks_mono (Nat.not_lt.mp early)
  omega

end

end WireframeGpu.Data
