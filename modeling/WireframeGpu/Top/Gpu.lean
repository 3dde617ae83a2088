import WireframeGpu.Data.Trace
import WireframeGpu.Polygon.Raster
import WireframeGpu.Top.Registerfile
import WireframeGpu.Top.Render

namespace WireframeGpu

/-- A frame RAM, `GBUFFER1` or `GBUFFER2`.  It has 76800 words; nothing is
said about addresses beyond them. -/
abbrev FrameBuffer := BitVec 17 → BitVec 3

def FrameBuffer.clock (b : FrameBuffer) (wren : Bool) (address : BitVec 17) (data : BitVec 3) :
    FrameBuffer :=
  fun place => if wren && place == address then data else b place

/-- What `CLOCK_50` drives: the register file, the render FSM, the raster core
and the write ports of both frame RAMs. -/
structure Gpu where
  registerfile : Registerfile.Registers := {}
  top : Top.Registers := {}
  raster : PolygonRaster.Registers := {}
  buffer1 : FrameBuffer
  buffer2 : FrameBuffer

namespace Gpu

open WireframeGpu.Data

/-- What one edge of `CLOCK_50` samples: the Avalon bus, and the flag of the
display process. -/
structure Inputs where
  bus : Registerfile.Inputs := {}
  frameSwitched : Bool := false

def topInputs (g : Gpu) (frameSwitched : Bool) : Top.Inputs where
  startRender := g.registerfile.exportStart.getLsbD 0
  rasterDone := g.raster.rasterDone
  bufferEmpty := g.raster.bufferEmpty
  frameSwitched := frameSwitched
  outputFifo := g.raster.coord

def wires (g : Gpu) (frameSwitched : Bool) : Top.Signals := g.top.comb (g.topInputs frameSwitched)

def rasterInputs (g : Gpu) (frameSwitched : Bool) : PolygonRaster.Inputs where
  startRaster := (g.wires frameSwitched).startRaster
  readCoord := (g.wires frameSwitched).readCoord
  x := ArrayPacker.unpacked g.registerfile.exportX
  y := ArrayPacker.unpacked g.registerfile.exportY
  z := ArrayPacker.unpacked g.registerfile.exportZ

def clock (m : Megafunctions) (g : Gpu) (i : Inputs) : Gpu where
  registerfile := g.registerfile.clock i.bus
  top := g.top.clock (g.topInputs i.frameSwitched)
  raster := g.raster.clock m (g.rasterInputs i.frameSwitched)
  buffer1 := g.buffer1.clock (g.wires i.frameSwitched).buffer1Wr
    (g.top.buffer1Addr (g.topInputs i.frameSwitched)) (g.wires i.frameSwitched).buffer1Data
  buffer2 := g.buffer2.clock (g.wires i.frameSwitched).buffer2Wr
    (g.top.buffer2Addr (g.topInputs i.frameSwitched)) (g.wires i.frameSwitched).buffer2Data

/-- All registers zero, the frame RAMs holding anything. -/
def powerUp (buffer1 buffer2 : FrameBuffer) : Gpu where
  buffer1 := buffer1
  buffer2 := buffer2

def run (m : Megafunctions) (start : Gpu) (inputs : Nat → Inputs) : Nat → Gpu :=
  trace (clock m) start inputs

theorem run_succ (m : Megafunctions) (start : Gpu) (inputs : Nat → Inputs) (cycle : Nat) :
    run m start inputs (cycle + 1) = (run m start inputs cycle).clock m (inputs cycle) :=
  trace_succ _ _ _ _

def push (g : Gpu) (frameSwitched : Bool) (line : Fin 36) : Option (BitVec 18) :=
  (g.raster.lines line).push
    ⟨g.raster.ends line, (g.raster.comb (g.rasterInputs frameSwitched)).start line⟩

def whitening (g : Gpu) (frameSwitched : Bool) : Bool :=
  (g.wires frameSwitched).buffer1Wr && (g.wires frameSwitched).buffer1Data == 7 ||
    (g.wires frameSwitched).buffer2Wr && (g.wires frameSwitched).buffer2Data == 7

/-- What a frame has done so far, kept beside the registers and read by none of
them: the words each line has pushed and the points written in white since the
last `startRaster`. -/
structure Ledger where
  pushed : Fin 36 → List (BitVec 18) := fun _ => []
  whitened : List (BitVec 18) := []

def record (g : Gpu) (frameSwitched : Bool) (l : Ledger) : Ledger :=
  if (g.wires frameSwitched).startRaster then {}
  else
    { pushed := fun line => l.pushed line ++ (g.push frameSwitched line).toList
      whitened := l.whitened ++ if g.whitening frameSwitched then [g.raster.coord] else [] }

def ledger (m : Megafunctions) (start : Gpu) (inputs : Nat → Inputs) : Nat → Ledger
  | 0 => {}
  | cycle + 1 => (run m start inputs cycle).record (inputs cycle).frameSwitched
      (ledger m start inputs cycle)

theorem rasterInputs_x (g : Gpu) (frameSwitched : Bool) (t : Fin 12) (v : Fin 3) :
    (g.rasterInputs frameSwitched).x t v = g.registerfile.regs (BitVec.ofNat 7 (3 * t + v)) :=
  (ArrayPacker.unpacked_concatenated g.registerfile.regs 0 t v).trans (by rw [Nat.zero_add])

theorem rasterInputs_y (g : Gpu) (frameSwitched : Bool) (t : Fin 12) (v : Fin 3) :
    (g.rasterInputs frameSwitched).y t v =
      g.registerfile.regs (BitVec.ofNat 7 (36 + (3 * t + v))) :=
  ArrayPacker.unpacked_concatenated g.registerfile.regs 36 t v

theorem rasterInputs_z (g : Gpu) (frameSwitched : Bool) (t : Fin 12) (v : Fin 3) :
    (g.rasterInputs frameSwitched).z t v =
      g.registerfile.regs (BitVec.ofNat 7 (72 + (3 * t + v))) :=
  ArrayPacker.unpacked_concatenated g.registerfile.regs 72 t v

end Gpu

end WireframeGpu
