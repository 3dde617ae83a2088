import WireframeGpu.Projection.Outcome

namespace WireframeGpu.Projection

/-! What an earlier projection leaves behind for the next one. -/

variable {inputs inputs' : Nat → Inputs} {first first' : Nat} {v : Vertex}

/-- After a projection of `w` has finished, `v` is projected. -/
theorem later_request (w v : Vertex) : ∃ inputs first, Request inputs first v ∧
    (run inputs first).quotients = remaining (Registers.quotients {}) w := by
  obtain ⟨last, finishes, idle, _, quotients⟩ := (steady_request w).finishes
  let inputs (cycle : Nat) : Inputs := if cycle < last then ⟨w, true⟩ else ⟨v, true⟩
  have same : run inputs last = run (steady w) last :=
    Data.trace_congr fun cycle before => if_pos before
  refine ⟨inputs, last, ⟨?_, ?_, ?_, ?_⟩, ?_⟩
  · rw [same]
    exact .inr idle
  · simp [inputs]
  · simp [inputs]
  · intro k after _
    simp [inputs, Nat.not_lt_of_gt after]
  · rw [same]
    exact quotients

/-- Two projections of one vertex agree unless it lies in the plane of the eye:
there each delivers the quotients that its dividers still show. -/
theorem same_outcome_iff (request : Request inputs first v) (request' : Request inputs' first' v) :
    (∃ last last', Finishes inputs first last ∧ Finishes inputs' first' last' ∧
        (run inputs last).delivered = (run inputs' last').delivered) ↔
      (v.z + three ≠ 0 ∨
        onScreen (run inputs first).quotients = onScreen (run inputs' first').quotients) := by
  obtain ⟨last, finishes, _, delivered, _⟩ := request.finishes
  obtain ⟨last', finishes', _, delivered', _⟩ := request'.finishes
  have agree : (∃ last last', Finishes inputs first last ∧ Finishes inputs' first' last' ∧
        (run inputs last).delivered = (run inputs' last').delivered) ↔
      projected (run inputs first).quotients v = projected (run inputs' first').quotients v := by
    rw [← delivered, ← delivered']
    constructor
    · rintro ⟨other, other', ends, ends', same⟩
      rwa [finishes.unique ends, finishes'.unique ends']
    · intro same
      exact ⟨last, last', finishes, finishes', same⟩
  rw [agree, projected, projected, ranged, ranged]
  by_cases eye : v.z + three = 0
  · rw [if_pos eye, if_pos eye]
    exact (or_iff_right (not_not_intro eye)).symm
  · rw [if_neg eye, if_neg eye]
    exact iff_of_true rfl (.inl eye)

/-- A vertex is projected at power-up, and after another one that has left its quotients. -/
theorem same_outcome_later :
    ∃ inputs first, (run inputs first).quotients ≠ (run (steady ⟨one, -16384, 0⟩) 0).quotients ∧
      ∃ last last', Finishes (steady ⟨one, -16384, 0⟩) 0 last ∧ Finishes inputs first last' ∧
        (run (steady ⟨one, -16384, 0⟩) last).delivered = (run inputs last').delivered := by
  obtain ⟨inputs, first, request, quotients⟩ := later_request ⟨0, one, 0⟩ ⟨one, -16384, 0⟩
  refine ⟨inputs, first, ?_, ?_⟩
  · rw [quotients]
    decide
  · exact (same_outcome_iff (steady_request _) request).mpr (.inl (by decide))

/-- The vertex in the centre of the plane of the eye appears in row 120 after
power-up, and in row 159 once a vertex has been projected to that row. -/
theorem outcome_depends_on_history :
    ¬ ∀ (v : Vertex) (inputs inputs' : Nat → Inputs) (first first' : Nat),
      Request inputs first v → Request inputs' first' v →
        ∃ last last', Finishes inputs first last ∧ Finishes inputs' first' last' ∧
          (run inputs last).delivered = (run inputs' last').delivered := by
  intro independent
  let eye : Vertex := ⟨0, 0, 0 - three⟩
  obtain ⟨inputs, first, request, quotients⟩ := later_request ⟨0, one, 0⟩ eye
  have same := (same_outcome_iff (steady_request eye) request).mp
    (independent eye _ _ _ _ (steady_request eye) request)
  rw [quotients] at same
  revert same
  decide

end WireframeGpu.Projection
