import WireframeGpu.Line.Output
import WireframeGpu.Line.Rasterize
import WireframeGpu.Polygon.Angles
import WireframeGpu.Polygon.Rotation
import WireframeGpu.Projection.Triangle

namespace WireframeGpu

/-- What is not logic of the core: the three angle tables, and the FIFO outside
its contract. -/
structure Megafunctions where
  sin : BitVec 9 → BitVec 32
  cos : BitVec 9 → BitVec 32
  negSin : BitVec 9 → BitVec 32
  misuse : Lineoutput.Misuse

/-- The tables of the initialisation files, and a FIFO that ignores misuse. -/
def Megafunctions.initFiles : Megafunctions where
  sin := Rom.table Rom.sinValues
  cos := Rom.table Rom.cosValues
  negSin := Rom.table Rom.negSinValues
  misuse r _ _ := r

namespace PolygonRaster

/-! The render core of `polygonRaster.sv`: rotation, twelve triangle
projections, thirty-six lines with their FIFOs, and the FSM that runs them. -/

inductive State where
  | initial | startproj | start | startrast | s1 | s2 | s3 | s4 | s5 | s6 | s7
  | test1 | test2 | test3 | test4
deriving DecidableEq, Repr

/-- `NUM_LINES_TEST`. -/
def numLinesTest : BitVec 9 := 36

structure Registers where
  state : State := .initial
  counter : BitVec 9 := 0
  muxselect : BitVec 9 := 0
  rasterDone : Bool := false
  bufferEmpty : Bool := false
  angleAddress : BitVec 9 := 0
  sinRom : Rom.Registers := {}
  cosRom : Rom.Registers := {}
  negSinRom : Rom.Registers := {}
  triangles : Fin 12 → TriangleProjection.Registers := fun _ => {}
  lines : Fin 36 → Linerasterize.Registers := fun _ => {}
  fifos : Fin 36 → Lineoutput.Registers := fun _ => {}

structure Inputs where
  startRaster : Bool
  readCoord : Bool
  x : Fin 12 → Fin 3 → BitVec 32
  y : Fin 12 → Fin 3 → BitVec 32
  z : Fin 12 → Fin 3 → BitVec 32

structure Signals where
  nextState : State
  counterIn : BitVec 9
  muxselectIn : BitVec 9
  bufferEmptyIn : Bool
  start : Fin 36 → Bool
  rasterDoneIn : Bool
  readFifo : Fin 36 → Bool
  startProj : Fin 12 → Bool

def select {α : Type} (a : Fin 36 → α) (index : BitVec 9) (outside : α) : α :=
  if inside : index.toNat < 36 then a ⟨index.toNat, inside⟩ else outside

namespace Registers

/-- The vertices as fed to `triangleProjection`. -/
def rotated (r : Registers) (i : Inputs) (t : Fin 12) (v : Fin 3) : Projection.Vertex where
  x := projX (i.x t v)
  y := projY (i.y t v) (i.z t v) r.sinRom.q r.cosRom.q
  z := projZ (i.y t v) (i.z t v) r.cosRom.q r.negSinRom.q

/-- `X[row][index]`: the integer part of the screen column, nine bits of it. -/
def screenX (r : Registers) (t : Fin 12) (v : Fin 3) : BitVec 9 :=
  ((r.triangles t).coordinate v).newx.extractLsb' 15 9

def screenY (r : Registers) (t : Fin 12) (v : Fin 3) : BitVec 9 :=
  ((r.triangles t).coordinate v).newy.extractLsb' 15 9

/-- The triangle and the first vertex of a line. -/
def edgeTriangle (line : Fin 36) : Fin 12 := ⟨line.val / 3, by omega⟩
def edgeVertex (line : Fin 36) : Fin 3 := ⟨line.val % 3, by omega⟩

/-- `(index+1)%3`. -/
def edgeEnd (line : Fin 36) : Fin 3 := ⟨(line.val % 3 + 1) % 3, by omega⟩

/-- The endpoint ports of `lineinst`. -/
def ends (r : Registers) (line : Fin 36) : Linerasterize.Endpoints where
  x0 := r.screenX (edgeTriangle line) (edgeVertex line)
  y0 := r.screenY (edgeTriangle line) (edgeVertex line)
  x1 := r.screenX (edgeTriangle line) (edgeEnd line)
  y1 := r.screenY (edgeTriangle line) (edgeEnd line)

/-- `projDone == compDone`. -/
def allProjected (r : Registers) : Bool := decide (∀ t, (r.triangles t).done = true)

/-- The output of `coordinateMux`, whose select port is six bits wide. -/
def coord (r : Registers) : BitVec 18 :=
  select (fun line => (r.fifos line).q) ((r.muxselect.setWidth 6).setWidth 9) 0

def defaults (r : Registers) : Signals where
  nextState := r.state
  counterIn := r.counter
  muxselectIn := r.muxselect
  bufferEmptyIn := r.bufferEmpty
  start := fun _ => false
  rasterDoneIn := r.rasterDone
  readFifo := fun _ => false
  startProj := fun _ => false

/-- `counter == fifoSize[muxselect]`. -/
def drained (r : Registers) : Bool :=
  r.counter == select (fun line => (r.lines line).fifoSize) r.muxselect 0

def comb (r : Registers) (i : Inputs) : Signals :=
  match r.state with
  | .initial => { r.defaults with nextState := if i.startRaster then .test4 else .initial }
  | .test4 => { r.defaults with nextState := .test3 }
  | .test3 => { r.defaults with nextState := .test2 }
  | .test2 => { r.defaults with nextState := .test1 }
  | .test1 => { r.defaults with startProj := fun _ => true, nextState := .startproj }
  | .startproj => { r.defaults with
      nextState := if r.allProjected then .startrast else .startproj }
  | .startrast => { r.defaults with start := fun _ => true, nextState := .start }
  | .start => { r.defaults with
      nextState := if select (fun line => (r.lines line).isDone) r.counter false then .s3
        else if select (fun line => (r.lines line).isCalculating) r.counter false then .start
        else .s3 }
  | .s3 => { r.defaults with counterIn := r.counter + 1, nextState := .s1 }
  | .s1 =>
      if r.counter == numLinesTest then { r.defaults with counterIn := 0, nextState := .s4 }
      else { r.defaults with nextState := .start }
  | .s4 => { r.defaults with rasterDoneIn := true, nextState := .s5 }
  | .s5 =>
      if i.readCoord then { r.defaults with
        readFifo := fun line => line.val == r.muxselect.toNat
        counterIn := r.counter + 1
        nextState := .s6 }
      else { r.defaults with nextState := .s5 }
  | .s6 =>
      if r.drained && r.muxselect == numLinesTest - 1 then
        { r.defaults with bufferEmptyIn := true, nextState := .initial }
      else if r.drained then
        { r.defaults with counterIn := 0, muxselectIn := r.muxselect + 1, nextState := .s5 }
      else { r.defaults with nextState := .s5 }
  -- declared in the enumeration, but no branch of the case: the defaults stand
  | .s2 | .s7 => r.defaults

def clock (m : Megafunctions) (r : Registers) (i : Inputs) : Registers where
  state := (r.comb i).nextState
  counter := if i.startRaster then 0 else (r.comb i).counterIn
  muxselect := if i.startRaster then 0 else (r.comb i).muxselectIn
  rasterDone := if i.startRaster then false else (r.comb i).rasterDoneIn
  bufferEmpty := if i.startRaster then false else (r.comb i).bufferEmptyIn
  angleAddress := if r.angleAddress > 313 then 0
    else if i.startRaster then r.angleAddress + 1 else r.angleAddress
  sinRom := r.sinRom.clock m.sin r.angleAddress
  cosRom := r.cosRom.clock m.cos r.angleAddress
  negSinRom := r.negSinRom.clock m.negSin r.angleAddress
  triangles t := (r.triangles t).clock ⟨r.rotated i t, (r.comb i).startProj t⟩
  lines line := (r.lines line).clock ⟨r.ends line, (r.comb i).start line⟩
  fifos line := (r.fifos line).clock m.misuse
    ((r.lines line).push ⟨r.ends line, (r.comb i).start line⟩) ((r.comb i).readFifo line)

end Registers

end PolygonRaster

end WireframeGpu
