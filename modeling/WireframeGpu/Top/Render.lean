import Mathlib.Tactic.Common

namespace WireframeGpu.Top

/-! The render FSM of `top.sv`: it starts the raster core, clears a frame
buffer, and then copies the core's points into that buffer. -/

inductive State where
  | wait2 | initial | start | s1 | s2 | s3 | s4 | wait1 | s23 | s24 | f25 | f26 | f27 | f28
  | cl1 | cl2 | cl3 | cl4 | dumb
deriving DecidableEq, Repr

structure Registers where
  state : State := .wait2
  memCounter : BitVec 17 := 0
deriving DecidableEq, Repr

structure Inputs where
  /-- `startRender[0]`. -/
  startRender : Bool
  rasterDone : Bool
  bufferEmpty : Bool
  frameSwitched : Bool
  outputFifo : BitVec 18

structure Signals where
  nextState : State
  drawDone : Bool := false
  buffer2Wr : Bool := false
  buffer2Data : BitVec 3 := 0
  buffer1Wr : Bool := false
  buffer1Data : BitVec 3 := 0
  resetRaster : Bool := false
  incrementAngle : Bool := false
  startRaster : Bool := false
  readCoord : Bool := false
  clrBuffer1 : Bool := false
  clrBuffer2 : Bool := false
  memCounterIn : BitVec 17

/-- `mem`: the address of a point `{x, y}`. -/
def mem (outputFifo : BitVec 18) : BitVec 32 :=
  (outputFifo.extractLsb' 0 9).setWidth 32 * 320 + (outputFifo.extractLsb' 9 9).setWidth 32

namespace Registers

def defaults (r : Registers) : Signals where
  nextState := r.state
  memCounterIn := r.memCounter

def comb (r : Registers) (i : Inputs) : Signals :=
  match r.state with
  | .wait2 => { r.defaults with nextState := if i.startRender then .dumb else .wait2 }
  | .dumb => { r.defaults with nextState := .initial }
  | .initial => { r.defaults with startRaster := true, nextState := .cl1 }
  | .wait1 =>
      if i.rasterDone then { r.defaults with resetRaster := true, nextState := .s23 }
      else { r.defaults with nextState := .wait1 }
  | .s23 => { r.defaults with readCoord := true, nextState := .start }
  | .start => { r.defaults with buffer2Data := 7, buffer2Wr := true, nextState := .s24 }
  | .s24 => { r.defaults with nextState := if i.bufferEmpty then .s1 else .s23 }
  | .s1 =>
      if i.frameSwitched then { r.defaults with
        drawDone := true, incrementAngle := true, resetRaster := true, nextState := .f25 }
      else { r.defaults with drawDone := true, nextState := .s1 }
  | .f25 => { r.defaults with startRaster := true, nextState := .cl3 }
  | .f26 =>
      if i.rasterDone then { r.defaults with resetRaster := true, nextState := .f27 }
      else { r.defaults with nextState := .f26 }
  | .f27 => { r.defaults with readCoord := true, nextState := .s2 }
  | .s2 => { r.defaults with buffer1Data := 7, buffer1Wr := true, nextState := .f28 }
  | .f28 => { r.defaults with nextState := if i.bufferEmpty then .s3 else .f27 }
  | .s3 =>
      if i.frameSwitched then { r.defaults with
        drawDone := true, incrementAngle := true, resetRaster := true, nextState := .initial }
      else { r.defaults with drawDone := true, nextState := .s3 }
  | .cl1 => { r.defaults with
      clrBuffer2 := true, buffer2Data := 0, buffer2Wr := true
      memCounterIn := r.memCounter + 1, nextState := .cl2 }
  | .cl2 => { r.defaults with
      clrBuffer2 := true, nextState := if r.memCounter == 76800 then .wait1 else .cl1 }
  | .cl3 => { r.defaults with
      clrBuffer1 := true, buffer1Data := 0, buffer1Wr := true
      memCounterIn := r.memCounter + 1, nextState := .cl4 }
  | .cl4 => { r.defaults with
      clrBuffer1 := true, nextState := if r.memCounter == 76800 then .f26 else .cl3 }
  -- declared in the enumeration, but no branch of the case: the defaults stand
  | .s4 => r.defaults

def clock (r : Registers) (i : Inputs) : Registers where
  state := (r.comb i).nextState
  memCounter := if (r.comb i).resetRaster then 0 else (r.comb i).memCounterIn

def buffer1Addr (r : Registers) (i : Inputs) : BitVec 17 :=
  if (r.comb i).clrBuffer1 then r.memCounter else (mem i.outputFifo).setWidth 17

def buffer2Addr (r : Registers) (i : Inputs) : BitVec 17 :=
  if (r.comb i).clrBuffer2 then r.memCounter else (mem i.outputFifo).setWidth 17

end Registers

end WireframeGpu.Top
