import WireframeGpu.Projection.Machine

namespace WireframeGpu.TriangleProjection

/-! `triangleProjection`: three projections started together and awaited
together. -/

inductive State where
  | wait | s0 | s1 | s2 | donestate
deriving DecidableEq, Repr

structure Registers where
  state : State := .wait
  done : Bool := false
  /-- `coordinate1` to `coordinate3`. -/
  coordinate : Fin 3 → Projection.Registers := fun _ => {}

structure Inputs where
  vertex : Fin 3 → Projection.Vertex
  start : Bool

structure Signals where
  nextState : State
  doneIn : Bool
  projStart : Bool

namespace Registers

def comb (r : Registers) (start : Bool) : Signals :=
  match r.state with
  | .wait => ⟨if start == false then .wait else .s1, false, false⟩
  | .s0 => ⟨.s0, r.done, false⟩
  | .s1 => ⟨.s2, r.done, true⟩
  | .s2 =>
      ⟨if (r.coordinate 0).done && (r.coordinate 1).done && (r.coordinate 2).done
        then .donestate else .s2, r.done, false⟩
  | .donestate =>
      if start == true then ⟨.s1, false, false⟩ else ⟨.donestate, true, false⟩

def clock (r : Registers) (i : Inputs) : Registers where
  state := (r.comb i.start).nextState
  done := (r.comb i.start).doneIn
  coordinate v := (r.coordinate v).clock ⟨i.vertex v, (r.comb i.start).projStart⟩

variable {r : Registers} {vertex : Fin 3 → Projection.Vertex} {start : Bool}

/-- The three projections after a clock without `START`. -/
def coasted (r : Registers) (vertex : Fin 3 → Projection.Vertex) (v : Fin 3) :
    Projection.Registers :=
  (r.coordinate v).clock ⟨vertex v, false⟩

theorem clock_wait (state : r.state = .wait) :
    r.clock ⟨vertex, start⟩ =
      ⟨if start then .s1 else .wait, false, r.coasted vertex⟩ := by
  cases start <;> simp [clock, comb, state, coasted, funext_iff]

theorem clock_s1 (state : r.state = .s1) :
    r.clock ⟨vertex, start⟩ =
      ⟨.s2, r.done, fun v => (r.coordinate v).clock ⟨vertex v, true⟩⟩ := by
  simp [clock, comb, state]

theorem clock_s2 (state : r.state = .s2) :
    r.clock ⟨vertex, start⟩ =
      ⟨if (r.coordinate 0).done && (r.coordinate 1).done && (r.coordinate 2).done
        then .donestate else .s2, r.done, r.coasted vertex⟩ := by
  simp [clock, comb, state, coasted, funext_iff]

theorem clock_donestate (state : r.state = .donestate) :
    r.clock ⟨vertex, start⟩ =
      ⟨if start then .s1 else .donestate, !start, r.coasted vertex⟩ := by
  cases start <;> simp [clock, comb, state, coasted, funext_iff]

end Registers

end WireframeGpu.TriangleProjection
