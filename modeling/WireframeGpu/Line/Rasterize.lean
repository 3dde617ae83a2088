import Mathlib.Tactic.Common

namespace WireframeGpu.Linerasterize

/-! The line FSM of `linerasterize.sv`.

`comb` is the module's `always_comb` block and `clock` its `always_ff` block.
The FIFO the module instantiates is kept beside these registers: the FSM only
drives its write port.
-/

inductive State where
  | initial | begin | s1 | s2 | s3 | s4 | done | wait1 | wait2 | t1 | t2 | t3 | t4 | clearCalc
deriving DecidableEq, Repr

/-- The order of the states while `start` is low, outside `S1`. -/
def State.successor : State → State
  | .t1 => .t2
  | .t2 => .t3
  | .t3 => .t4
  | .t4 => .begin
  | .begin => .s1
  | .s2 => .s1
  | .done => .clearCalc
  | .clearCalc => .initial
  | state => state

structure Registers where
  state : State := .initial
  minX : BitVec 9 := 0
  maxX : BitVec 9 := 0
  minY : BitVec 9 := 0
  maxY : BitVec 9 := 0
  dx : BitVec 9 := 0
  dy : BitVec 9 := 0
  x : BitVec 9 := 0
  y : BitVec 9 := 0
  size : BitVec 9 := 0
  p : BitVec 32 := 0
  negslope : Bool := false
  bigslope : Bool := false
  isDone : Bool := false
  isCalculating : Bool := false
deriving DecidableEq, Repr

structure Endpoints where
  x0 : BitVec 9
  y0 : BitVec 9
  x1 : BitVec 9
  y1 : BitVec 9
deriving DecidableEq, Repr

structure Inputs where
  ends : Endpoints
  start : Bool

/-- What the combinational block drives: the next value of each register and
the write port of the FIFO. -/
structure Signals where
  nextState : State
  isDoneIn : Bool
  sizeIn : BitVec 9
  xIn : BitVec 9
  yIn : BitVec 9
  writeFifo : Bool
  pIn : BitVec 32
  coordinateData : BitVec 18
  minXIn : BitVec 9
  maxXIn : BitVec 9
  minYIn : BitVec 9
  maxYIn : BitVec 9
  negslopeIn : Bool
  bigslopeIn : Bool
  dyIn : BitVec 9
  dxIn : BitVec 9
  isCalculatingIn : Bool

namespace Registers

def defaults (r : Registers) : Signals where
  nextState := r.state
  isDoneIn := r.isDone
  sizeIn := r.size
  xIn := r.x
  yIn := r.y
  writeFifo := false
  pIn := r.p
  coordinateData := 0
  minXIn := r.minX
  maxXIn := r.maxX
  minYIn := r.minY
  maxYIn := r.maxY
  negslopeIn := r.negslope
  bigslopeIn := r.bigslope
  dyIn := r.dy
  dxIn := r.dx
  isCalculatingIn := r.isCalculating

/-- `2*dx` and `2*dy` are formed in the 32 bits of `p`. -/
def twice (d : BitVec 9) : BitVec 32 := 2 * d.setWidth 32

def comb (r : Registers) (i : Inputs) : Signals :=
  match r.state with
  | .initial => { r.defaults with nextState := if i.start then .t1 else .initial }
  | .t1 => { r.defaults with
      minXIn := if i.ends.x0 < i.ends.x1 then i.ends.x0 else i.ends.x1
      maxXIn := if i.ends.x0 > i.ends.x1 then i.ends.x0 else i.ends.x1
      nextState := .t2 }
  | .t2 => { r.defaults with
      minYIn := if i.ends.y0 < i.ends.y1 then i.ends.y0 else i.ends.y1
      maxYIn := if i.ends.y0 > i.ends.y1 then i.ends.y0 else i.ends.y1
      nextState := .t3 }
  | .t3 => { r.defaults with
      negslopeIn := (i.ends.x0 < i.ends.x1 && i.ends.y0 > i.ends.y1) ||
        (i.ends.x1 < i.ends.x0 && i.ends.y1 > i.ends.y0)
      dyIn := r.maxY - r.minY
      dxIn := r.maxX - r.minX
      nextState := .t4 }
  | .t4 => { r.defaults with bigslopeIn := r.dy > r.dx, nextState := .begin }
  | .begin => { r.defaults with
      xIn := if r.bigslope then r.minY else r.minX
      yIn := if r.negslope then (if r.bigslope then r.maxX else r.maxY)
        else (if r.bigslope then r.minX else r.minY)
      sizeIn := 0
      pIn := if r.bigslope then twice r.dx - r.dy.setWidth 32 else twice r.dy - r.dx.setWidth 32
      nextState := .s1 }
  | .s1 =>
      if r.bigslope then
        if r.x ≤ r.maxY then { r.defaults with
          coordinateData := r.y ++ r.x
          writeFifo := true
          xIn := r.x + 1
          sizeIn := r.size + 1
          nextState := .s2 }
        else { r.defaults with nextState := .done }
      else
        if r.x ≤ r.maxX then { r.defaults with
          coordinateData := r.x ++ r.y
          writeFifo := true
          xIn := r.x + 1
          sizeIn := r.size + 1
          nextState := .s2 }
        else { r.defaults with nextState := .done }
  | .s2 =>
      if r.p[31] then { r.defaults with
        pIn := if r.bigslope then r.p + twice r.dx else r.p + twice r.dy
        nextState := .s1 }
      else { r.defaults with
        pIn := if r.bigslope then r.p + twice r.dx - twice r.dy
          else r.p + twice r.dy - twice r.dx
        yIn := if r.negslope then r.y - 1 else r.y + 1
        nextState := .s1 }
  | .done => { r.defaults with isDoneIn := true, nextState := .clearCalc }
  | .clearCalc => { r.defaults with isCalculatingIn := false, nextState := .initial }
  -- declared in the enumeration, but no branch of the case: the defaults stand
  | .s3 | .s4 | .wait1 | .wait2 => r.defaults

def clock (r : Registers) (i : Inputs) : Registers :=
  let s := r.comb i
  { state := s.nextState
    x := s.xIn
    y := s.yIn
    size := s.sizeIn
    p := s.pIn
    minX := if i.start then 0 else s.minXIn
    maxX := if i.start then 0 else s.maxXIn
    minY := if i.start then 0 else s.minYIn
    maxY := if i.start then 0 else s.maxYIn
    negslope := if i.start then false else s.negslopeIn
    bigslope := if i.start then false else s.bigslopeIn
    isDone := if i.start then false else s.isDoneIn
    dy := if i.start then 0 else s.dyIn
    dx := if i.start then 0 else s.dxIn
    isCalculating := if i.start then true else s.isCalculatingIn }

def fifoSize (r : Registers) : BitVec 9 := r.size

def push (r : Registers) (i : Inputs) : Option (BitVec 18) :=
  if (r.comb i).writeFifo then some (r.comb i).coordinateData else none

/-! What one clock does in each state, the inputs held and `start` low. -/

variable {r : Registers} {e : Endpoints}

theorem clock_initial (state : r.state = .initial) :
    r.clock ⟨e, false⟩ = r ∧ r.push ⟨e, false⟩ = none := by
  cases r
  subst state
  exact ⟨rfl, rfl⟩

theorem clock_t1 (state : r.state = .t1) :
    r.clock ⟨e, false⟩ = { r with
      state := .t2
      minX := if e.x0 < e.x1 then e.x0 else e.x1
      maxX := if e.x0 > e.x1 then e.x0 else e.x1 } ∧
    r.push ⟨e, false⟩ = none := by
  simp [clock, push, comb, state, defaults]

theorem clock_t2 (state : r.state = .t2) :
    r.clock ⟨e, false⟩ = { r with
      state := .t3
      minY := if e.y0 < e.y1 then e.y0 else e.y1
      maxY := if e.y0 > e.y1 then e.y0 else e.y1 } ∧
    r.push ⟨e, false⟩ = none := by
  simp [clock, push, comb, state, defaults]

theorem clock_t3 (state : r.state = .t3) :
    r.clock ⟨e, false⟩ = { r with
      state := .t4
      negslope := (e.x0 < e.x1 && e.y0 > e.y1) || (e.x1 < e.x0 && e.y1 > e.y0)
      dy := r.maxY - r.minY
      dx := r.maxX - r.minX } ∧
    r.push ⟨e, false⟩ = none := by
  simp [clock, push, comb, state, defaults]

theorem clock_t4 (state : r.state = .t4) :
    r.clock ⟨e, false⟩ = { r with state := .begin, bigslope := r.dy > r.dx } ∧
    r.push ⟨e, false⟩ = none := by
  simp [clock, push, comb, state, defaults]

theorem clock_begin (state : r.state = .begin) :
    r.clock ⟨e, false⟩ = { r with
      state := .s1
      x := if r.bigslope then r.minY else r.minX
      y := if r.negslope then (if r.bigslope then r.maxX else r.maxY)
        else (if r.bigslope then r.minX else r.minY)
      size := 0
      p := if r.bigslope then twice r.dx - r.dy.setWidth 32
        else twice r.dy - r.dx.setWidth 32 } ∧
    r.push ⟨e, false⟩ = none := by
  simp [clock, push, comb, state, defaults]

theorem clock_s1_draw (state : r.state = .s1)
    (passes : if r.bigslope then r.x ≤ r.maxY else r.x ≤ r.maxX) :
    r.clock ⟨e, false⟩ = { r with state := .s2, x := r.x + 1, size := r.size + 1 } ∧
    r.push ⟨e, false⟩ = some (if r.bigslope then r.y ++ r.x else r.x ++ r.y) := by
  cases steep : r.bigslope <;> simp only [steep, Bool.false_eq_true, ↓reduceIte] at passes <;>
    simp [clock, push, comb, state, defaults, steep, passes]

theorem clock_s1_stop (state : r.state = .s1)
    (fails : ¬ if r.bigslope then r.x ≤ r.maxY else r.x ≤ r.maxX) :
    r.clock ⟨e, false⟩ = { r with state := .done } ∧ r.push ⟨e, false⟩ = none := by
  cases steep : r.bigslope <;> simp only [steep, Bool.false_eq_true, ↓reduceIte] at fails <;>
    simp [clock, push, comb, state, defaults, steep, fails]

theorem clock_s2 (state : r.state = .s2) :
    r.clock ⟨e, false⟩ = { r with
      state := .s1
      p := if r.p[31] then (if r.bigslope then r.p + twice r.dx else r.p + twice r.dy)
        else (if r.bigslope then r.p + twice r.dx - twice r.dy
          else r.p + twice r.dy - twice r.dx)
      y := if r.p[31] then r.y else (if r.negslope then r.y - 1 else r.y + 1) } ∧
    r.push ⟨e, false⟩ = none := by
  cases sign : r.p[31] <;> simp [clock, push, comb, state, defaults, sign]

theorem clock_done (state : r.state = .done) :
    r.clock ⟨e, false⟩ = { r with state := .clearCalc, isDone := true } ∧
    r.push ⟨e, false⟩ = none := by
  simp [clock, push, comb, state, defaults]

theorem clock_clearCalc (state : r.state = .clearCalc) :
    r.clock ⟨e, false⟩ = { r with state := .initial, isCalculating := false } ∧
    r.push ⟨e, false⟩ = none := by
  simp [clock, push, comb, state, defaults]

theorem clock_state (drawing : r.state ≠ .s1) :
    (r.clock ⟨e, false⟩).state = r.state.successor ∧ r.push ⟨e, false⟩ = none := by
  cases state : r.state
  case s1 => exact (drawing state).elim
  case s2 => simp [r.clock_s2 (e := e) state, State.successor]
  all_goals simp [clock, push, comb, state, defaults, State.successor]

theorem clock_start (state : r.state = .initial) :
    r.clock ⟨e, true⟩ = { r with
      state := .t1, minX := 0, maxX := 0, minY := 0, maxY := 0, dx := 0, dy := 0
      negslope := false, bigslope := false, isDone := false, isCalculating := true } ∧
    r.push ⟨e, true⟩ = none := by
  simp [clock, push, comb, state, defaults]

end Registers

end WireframeGpu.Linerasterize
