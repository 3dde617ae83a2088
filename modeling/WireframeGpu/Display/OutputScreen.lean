import WireframeGpu.Top.Gpu

namespace WireframeGpu

namespace OutputScreen

/-! The frame-switch process of `output_screen.sv`, clocked by the falling edge
of `VGA_VS`. -/

structure Registers where
  /-- The buffer on screen: low shows buffer 1, high buffer 2. -/
  select : Bool := false
  frameSwitched : Bool := false
deriving DecidableEq, Repr

def Registers.clock (r : Registers) (drawDone : Bool) : Registers :=
  if drawDone then { select := !r.select, frameSwitched := true }
  else { r with frameSwitched := false }

end OutputScreen

structure Board where
  gpu : Gpu
  screen : OutputScreen.Registers := {}

namespace Board

open WireframeGpu.Data

inductive Event where
  /-- A rising edge of `CLOCK_50`, with what it finds on the Avalon bus. -/
  | clock50 (bus : Registerfile.Inputs)
  /-- A falling edge of `VGA_VS`. -/
  | vsFalling

def wires (b : Board) : Top.Signals := b.gpu.wires b.screen.frameSwitched

def step (m : Megafunctions) (b : Board) : Event → Board
  | .clock50 bus => { b with gpu := b.gpu.clock m ⟨bus, b.screen.frameSwitched⟩ }
  | .vsFalling => { b with screen := b.screen.clock b.wires.drawDone }

def run (m : Megafunctions) (start : Board) (events : Nat → Event) : Nat → Board :=
  trace (step m) start events

def powerUp (buffer1 buffer2 : FrameBuffer) : Board where
  gpu := Gpu.powerUp buffer1 buffer2

end Board

end WireframeGpu
