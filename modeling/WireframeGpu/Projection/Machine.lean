import WireframeGpu.Projection.Multiplier
import WireframeGpu.Projection.Divider

namespace WireframeGpu.Projection

/-! The `projection` sequencer of `polygonRaster.sv`, with the three dividers
and three multipliers it instantiates. -/

inductive State where
  | wait | s0 | s00 | s1 | s2 | s3 | s4 | s5 | s6 | s7 | s8 | s9 | s10 | s11 | s12 | s13 | s14
  | s15 | s16 | s17 | s18 | s19 | donestate1 | donestate2
deriving DecidableEq, Repr

structure Registers where
  state : State := .wait
  newx : BitVec 32 := 0
  newy : BitVec 32 := 0
  newz : BitVec 32 := 0
  tempx : BitVec 32 := 0
  tempy : BitVec 32 := 0
  tempz : BitVec 32 := 0
  flipX : Bool := false
  flipY : Bool := false
  flipZ : Bool := false
  flipDivider : Bool := false
  multx : BitVec 32 := 0
  multy : BitVec 32 := 0
  multz : BitVec 32 := 0
  done : Bool := false
  d1 : Divider.Registers := {}
  d2 : Divider.Registers := {}
  d3 : Divider.Registers := {}
  m1 : Multiplier.Registers := {}
  m2 : Multiplier.Registers := {}
  m3 : Multiplier.Registers := {}
deriving DecidableEq, Repr

structure Vertex where
  x : BitVec 32
  y : BitVec 32
  z : BitVec 32
deriving DecidableEq, Repr

structure Inputs where
  vertex : Vertex
  start : Bool

structure Signals where
  nextState : State
  newxIn : BitVec 32
  newyIn : BitVec 32
  newzIn : BitVec 32
  tempxIn : BitVec 32
  tempyIn : BitVec 32
  tempzIn : BitVec 32
  flipXIn : Bool
  flipYIn : Bool
  flipZIn : Bool
  flipDividerIn : Bool
  multxIn : BitVec 32
  multyIn : BitVec 32
  multzIn : BitVec 32
  doneIn : Bool
  dstart : Bool
  mstart : Bool
  zplusthree : BitVec 32

/-- 240/320. -/
def aspectRatio : BitVec 32 := 0b00000000000000000110000000000000

/-- 319 * 0.5. -/
def width : BitVec 32 := 0b00000000010011111100000000000000

/-- 239 * 0.5. -/
def height : BitVec 32 := 0b00000000001110111100000000000000

def q : BitVec 32 := 0b00000000000000001000000000000011

def znearq : BitVec 32 := 0b00000000000000000000110011001101

def three : BitVec 32 := 0b00000000000000011000000000000000

def one : BitVec 32 := 0b00000000000000001000000000000000

/-- The fifteen fraction bits, cleared one by one in `S19`. -/
def integerMask : BitVec 32 := 0b11111111111111111000000000000000

namespace Registers

def defaults (r : Registers) (v : Vertex) : Signals where
  nextState := r.state
  newxIn := r.newx
  newyIn := r.newy
  newzIn := r.newz
  tempxIn := r.tempx
  tempyIn := r.tempy
  tempzIn := r.tempz
  flipXIn := r.flipX
  flipYIn := r.flipY
  flipZIn := r.flipZ
  flipDividerIn := r.flipDivider
  multxIn := r.multx
  multyIn := r.multy
  multzIn := r.multz
  doneIn := r.done
  dstart := false
  mstart := false
  zplusthree := v.z + three

def comb (r : Registers) (i : Inputs) : Signals :=
  let s := r.defaults i.vertex
  match r.state with
  | .wait => { s with
      newxIn := 0, newyIn := 0, newzIn := 0
      tempxIn := 0, tempyIn := 0, tempzIn := 0
      flipXIn := false, flipYIn := false, flipZIn := false, flipDividerIn := false
      multxIn := 0, multyIn := 0, multzIn := 0
      nextState := if i.start == false then .wait else .s0 }
  | .s0 => { s with nextState := .s1 }
  | .s00 => { s with
      tempxIn := 0, tempyIn := 0, tempzIn := 0
      newxIn := 0, newyIn := 0, newzIn := 0
      flipXIn := false, flipYIn := false, flipZIn := false, flipDividerIn := false
      multxIn := 0, multyIn := 0, multzIn := 0
      nextState := .s1 }
  | .s1 => { s with
      flipXIn := if i.vertex.x.msb then true else r.flipX
      tempxIn := if i.vertex.x.msb then ~~~i.vertex.x + 1 else i.vertex.x
      flipZIn := if s.zplusthree.msb then true else r.flipZ
      tempzIn := if s.zplusthree.msb then ~~~s.zplusthree + 1 else s.zplusthree
      multxIn := aspectRatio
      multzIn := q
      nextState := .s2 }
  | .s2 => { s with mstart := true, nextState := .s3 }
  | .s3 => { s with nextState := if r.m1.done && r.m3.done then .s4 else .s3 }
  | .s4 => { s with
      tempxIn := r.m1.resultOut
      tempyIn := i.vertex.y
      tempzIn := r.m3.resultOut
      nextState := .s5 }
  | .s5 => { s with
      flipXIn := if r.flipX then false else r.flipX
      tempxIn := if r.flipX then ~~~r.tempx + 1 else r.tempx
      flipZIn := if r.flipZ then false else r.flipZ
      tempzIn := if r.flipZ then ~~~r.tempz + 1 else r.tempz
      nextState := .s6 }
  | .s6 => { s with tempzIn := r.tempz - znearq, nextState := .s7 }
  | .s7 => { s with nextState := if s.zplusthree == 0 then .s11 else .s8 }
  | .s8 => { s with
      flipXIn := if r.tempx.msb then true else r.flipX
      tempxIn := if r.tempx.msb then ~~~r.tempx + 1 else r.tempx
      flipYIn := if r.tempy.msb then true else r.flipY
      tempyIn := if r.tempy.msb then ~~~r.tempy + 1 else r.tempy
      flipZIn := if r.tempz.msb then true else r.flipZ
      tempzIn := if r.tempz.msb then ~~~r.tempz + 1 else r.tempz
      flipDividerIn := if s.zplusthree.msb then true else r.flipDivider
      -- combinational: the divisor is back to its own sign in the next state
      zplusthree := if s.zplusthree.msb then ~~~s.zplusthree + 1 else s.zplusthree
      nextState := .s9 }
  | .s9 => { s with dstart := true, nextState := .s10 }
  | .s10 => { s with nextState := if r.d1.done && r.d2.done && r.d3.done then .s11 else .s10 }
  | .s11 => { s with
      tempxIn := r.d1.quotientOut
      tempyIn := r.d2.quotientOut
      tempzIn := r.d3.quotientOut
      nextState := .s12 }
  | .s12 => { s with
      tempxIn := if (r.flipX || r.flipDivider) && (r.flipX == true && r.flipDivider == false)
        then ~~~r.tempx + 1 else r.tempx
      tempyIn := if (r.flipY || r.flipDivider) && (r.flipY == true && r.flipDivider == false)
        then ~~~r.tempy + 1 else r.tempy
      tempzIn := if (r.flipZ || r.flipDivider) && (r.flipZ == true && r.flipDivider == false)
        then ~~~r.tempz + 1 else r.tempz
      zplusthree := if r.flipDivider then ~~~s.zplusthree + 1 else s.zplusthree
      flipXIn := false, flipYIn := false, flipZIn := false, flipDividerIn := false
      nextState := .s13 }
  | .s13 => { s with
      tempxIn := r.tempx + one
      tempyIn := r.tempy + one
      nextState := .s14 }
  | .s14 => { s with
      multxIn := width
      multyIn := height
      flipXIn := if r.tempx.msb then true else r.flipX
      tempxIn := if r.tempx.msb then ~~~r.tempx + 1 else r.tempx
      flipYIn := if r.tempy.msb then true else r.flipY
      tempyIn := if r.tempy.msb then ~~~r.tempy + 1 else r.tempy
      nextState := .s15 }
  | .s15 => { s with mstart := true, nextState := .s16 }
  | .s16 =>
      if r.m1.done && r.m2.done then { s with
        tempxIn := r.m1.resultOut
        tempyIn := r.m2.resultOut
        nextState := .s17 }
      else { s with nextState := .s16 }
  | .s17 => { s with
      flipXIn := if r.flipX then false else r.flipX
      tempxIn := if r.flipX then ~~~r.tempx + 1 else r.tempx
      flipYIn := if r.flipY then false else r.flipY
      tempyIn := if r.flipY then ~~~r.tempy + 1 else r.tempy
      nextState := .s18 }
  | .s18 => { s with
      tempxIn := if r.tempx.getLsbD 14 == true then r.tempx + one else r.tempx
      tempyIn := if r.tempy.getLsbD 14 == true then r.tempy + one else r.tempy
      nextState := .s19 }
  | .s19 => { s with
      tempxIn := r.tempx &&& integerMask
      tempyIn := r.tempy &&& integerMask
      nextState := .donestate1 }
  | .donestate1 => { s with
      newxIn := r.tempx
      newyIn := r.tempy
      newzIn := r.tempz
      doneIn := true
      nextState := .donestate2 }
  | .donestate2 => { s with
      doneIn := if i.start == true then false else true
      nextState := if i.start == true then .s00 else .donestate2 }

def clock (r : Registers) (i : Inputs) : Registers :=
  let s := r.comb i
  { state := s.nextState
    newx := s.newxIn
    newy := s.newyIn
    newz := s.newzIn
    tempx := s.tempxIn
    tempy := s.tempyIn
    tempz := s.tempzIn
    flipX := s.flipXIn
    flipY := s.flipYIn
    flipZ := s.flipZIn
    flipDivider := s.flipDividerIn
    multx := s.multxIn
    multy := s.multyIn
    multz := s.multzIn
    done := s.doneIn
    d1 := r.d1.clock ⟨r.tempx, s.zplusthree, s.dstart⟩
    d2 := r.d2.clock ⟨r.tempy, s.zplusthree, s.dstart⟩
    d3 := r.d3.clock ⟨r.tempz, s.zplusthree, s.dstart⟩
    m1 := r.m1.clock ⟨r.tempx, r.multx, s.mstart⟩
    m2 := r.m2.clock ⟨r.tempy, r.multy, s.mstart⟩
    m3 := r.m3.clock ⟨r.tempz, r.multz, s.mstart⟩ }

end Registers

end WireframeGpu.Projection
