import WireframeGpu.Top.Render

namespace WireframeGpu.Top

/-! The render FSM has two copies of one loop, one for each buffer.  A state is
the phase of that loop and the buffer it draws. -/

inductive Phase where
  | off | start | clear | cleared | await | ask | write | check | finished
deriving DecidableEq, Repr

def State.phase : State → Phase
  | .wait2 | .dumb | .s4 => .off
  | .initial | .f25 => .start
  | .cl1 | .cl3 => .clear
  | .cl2 | .cl4 => .cleared
  | .wait1 | .f26 => .await
  | .s23 | .f27 => .ask
  | .start | .s2 => .write
  | .s24 | .f28 => .check
  | .s1 | .s3 => .finished

/-- The loop that draws buffer 2; it comes first. -/
def State.second : State → Bool
  | .f25 | .cl3 | .cl4 | .f26 | .f27 | .s2 | .f28 | .s3 => false
  | _ => true

theorem State.finished_cases {s : State} (phase : s.phase = .finished) :
    s = (if s.second then .s1 else .s3) := by
  cases s <;> simp_all [State.phase, State.second]

namespace Registers

variable (r : Registers) (i : Inputs)

def nextPhase : Phase :=
  match r.state.phase with
  | .off => if r.state = .dumb then .start else .off
  | .start => .clear
  | .clear => .cleared
  | .cleared => if r.memCounter == 76800 then .await else .clear
  | .await => if i.rasterDone then .ask else .await
  | .ask => .write
  | .write => .check
  | .check => if i.bufferEmpty then .finished else .ask
  | .finished => if i.frameSwitched then .start else .finished

theorem clock_phase : (r.clock i).state.phase = r.nextPhase i := by
  cases state : r.state <;> simp only [clock, comb, defaults, nextPhase, state]
  case wait2 => split <;> rfl
  case cl2 | cl4 | s24 | f28 => exact apply_ite State.phase _ _ _
  case wait1 | f26 | s1 | s3 => split <;> simp_all [State.phase]
  all_goals rfl

/-- A frame stays with its buffer; the next frame takes the other one. -/
theorem clock_second : (r.clock i).state.second =
    (if r.state.phase = .finished ∧ i.frameSwitched = true then !r.state.second
      else r.state.second) := by
  cases state : r.state <;> simp only [clock, comb, defaults, state]
  case wait2 | cl2 | cl4 | s24 | f28 => split <;> rfl
  case wait1 | f26 | s1 | s3 => split <;> simp_all [State.phase, State.second]
  all_goals rfl

theorem clock_memCounter : (r.clock i).memCounter =
    (if r.state.phase = .clear then r.memCounter + 1
      else if (r.state.phase = .await ∧ i.rasterDone = true) ∨
        (r.state.phase = .finished ∧ i.frameSwitched = true) then 0
      else r.memCounter) := by
  cases state : r.state <;> simp only [clock, comb, defaults, state]
  case wait1 | f26 | s1 | s3 => split <;> simp_all [State.phase]
  all_goals rfl

theorem startRaster_eq : (r.comb i).startRaster = (r.state.phase == .start) := by
  cases state : r.state <;> simp only [comb, defaults, state, State.phase] <;>
    (repeat' split) <;> rfl

theorem readCoord_eq : (r.comb i).readCoord = (r.state.phase == .ask) := by
  cases state : r.state <;> simp only [comb, defaults, state, State.phase] <;>
    (repeat' split) <;> rfl

theorem drawDone_eq : (r.comb i).drawDone = (r.state.phase == .finished) := by
  cases state : r.state <;> simp only [comb, defaults, state, State.phase] <;>
    (repeat' split) <;> rfl

theorem bufferWr_eq :
    (r.comb i).buffer1Wr = (!r.state.second &&
        (r.state.phase == .clear || r.state.phase == .write)) ∧
      (r.comb i).buffer2Wr = (r.state.second &&
        (r.state.phase == .clear || r.state.phase == .write)) := by
  cases state : r.state <;> simp only [comb, defaults, state, State.phase, State.second] <;>
    (repeat' split) <;> exact ⟨rfl, rfl⟩

theorem bufferData_eq :
    (r.comb i).buffer1Data = (if !r.state.second && r.state.phase == .write then 7 else 0) ∧
      (r.comb i).buffer2Data = (if r.state.second && r.state.phase == .write then 7 else 0) := by
  cases state : r.state <;> simp only [comb, defaults, state, State.phase, State.second] <;>
    (repeat' split) <;> exact ⟨rfl, rfl⟩

def clearing : Bool := r.state.phase == .clear || r.state.phase == .cleared

theorem clrBuffer_eq :
    (r.comb i).clrBuffer1 = (!r.state.second && r.clearing) ∧
      (r.comb i).clrBuffer2 = (r.state.second && r.clearing) := by
  cases state : r.state <;>
    simp only [comb, defaults, clearing, state, State.phase, State.second] <;>
    (repeat' split) <;> exact ⟨rfl, rfl⟩

end Registers

end WireframeGpu.Top
