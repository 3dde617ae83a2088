import WireframeGpu.Top.Registerfile

namespace WireframeGpu.Software

/-! The loader, `main.cpp`: the stores that one execution makes, in order. -/

/-- A store to `AES_PTR[index]`. -/
structure Store where
  index : Nat
  value : BitVec 32
deriving DecidableEq, Repr

/-- The transfer that a store becomes on the Avalon bus.  The slave decodes 128 words. -/
def Store.bus (s : Store) : Registerfile.Inputs where
  avlWrite := true
  avlCs := s.index < 128
  avlAddr := BitVec.ofNat 7 s.index
  avlWritedata := s.value

def bus : Option Store → Registerfile.Inputs
  | none => {}
  | some s => s.bus

/-- A line of the object file, as the stream operators read it.  The loader
compares the numbers with one and uses them for nothing else. -/
inductive Line (Value : Type) where
  | v (x y z : Value)
  | f (face0 face1 face2 : Int)
  | other

/-- The variables of `main`, and what it has stored. -/
structure Loader (Value : Type) where
  size : Nat := 0
  tracker : Nat := 0
  xvals : List Value := []
  yvals : List Value := []
  zvals : List Value := []
  stores : List Store := [⟨126, 0⟩]
deriving DecidableEq

section

variable {Value : Type} [BEq Value] [OfNat Value 1]

def fixedOne : BitVec 32 := 0x00008000
def fixedNegOne : BitVec 32 := 0xFFFF8000

/-- Every number but one is stored as minus one. -/
def fixed (value : Value) : BitVec 32 := if value == 1 then fixedOne else fixedNegOne

/-- `values[face-1]`, which has no meaning outside the vector. -/
def vertex (values : List Value) (face : Int) : Option Value :=
  if 1 ≤ face then values[(face - 1).toNat]? else none

namespace Loader

/-- One `if` of the innermost loop.  An index outside the vector ends the execution
where it stands. -/
def coordinate (l : Loader Value) (values : List Value) (face : Int) (index : Nat) :
    Except (Loader Value) (Loader Value) :=
  match vertex values face with
  | some value => .ok { l with stores := l.stores ++ [⟨index, fixed value⟩] }
  | none => .error l

def corner (l : Loader Value) (face : Int) : Except (Loader Value) (Loader Value) := do
  let l ← l.coordinate l.xvals face l.tracker
  let l ← l.coordinate l.yvals face (l.tracker + 36)
  let l ← l.coordinate l.zvals face (l.tracker + 72)
  return { l with tracker := l.tracker + 1 }

def line (l : Loader Value) : Line Value → Except (Loader Value) (Loader Value)
  | .v x y z => .ok { l with
      xvals := l.xvals ++ [x], yvals := l.yvals ++ [y], zvals := l.zvals ++ [z] }
  | .f face0 face1 face2 => do
      let l ← corner { l with size := l.size + 1 } face0
      let l ← l.corner face1
      l.corner face2
  | .other => .ok l

end Loader

/-- The stores of one execution, if every face names vertices of the file. -/
def main (file : List (Line Value)) : Except (Loader Value) (List Store) := do
  let l ← file.foldlM Loader.line {}
  return l.stores ++ [⟨127, BitVec.ofNat 32 l.size⟩, ⟨126, 1⟩]

theorem bind_ok {ε α β : Type} {x : Except ε α} {f : α → Except ε β} {b : β} :
    x >>= f = .ok b ↔ ∃ a, x = .ok a ∧ f a = .ok b := by
  cases x with
  | error fault => simp [bind, Except.bind]
  | ok a => simp [bind, Except.bind]

/-! The start word across whole executions. -/

def startBit (bit : Bool) (stores : List Store) : Bool :=
  stores.foldl (fun bit s => if s.index = 126 then s.value.getLsbD 0 else bit) bit

def Store.Quiet (s : Store) : Prop := s.index = 126 → s.value.getLsbD 0 = false

theorem constants_low : fixedOne.getLsbD 0 = false ∧ fixedNegOne.getLsbD 0 = false := by decide

theorem fixed_quiet (index : Nat) (value : Value) : Store.Quiet ⟨index, fixed value⟩ := by
  intro _
  simp only [fixed]
  split
  · exact constants_low.1
  · exact constants_low.2

/-- The stores so far: the start word is cleared first, and not set since. -/
def Loader.Clear (l : Loader Value) : Prop :=
  ∃ rest, l.stores = ⟨126, 0⟩ :: rest ∧ ∀ s ∈ rest, s.Quiet

theorem Loader.Clear.coordinate {l l' : Loader Value} (clear : l.Clear) {values : List Value}
    {face : Int} {index : Nat} (stored : l.coordinate values face index = .ok l') : l'.Clear := by
  obtain ⟨rest, stores, quiet⟩ := clear
  rw [Loader.coordinate] at stored
  split at stored
  · rename_i value _
    cases stored
    refine ⟨rest ++ [⟨index, fixed value⟩], by simp [stores], fun s member => ?_⟩
    rcases List.mem_append.mp member with earlier | new
    · exact quiet s earlier
    · obtain rfl := List.mem_singleton.mp new
      exact fixed_quiet _ _
  · cases stored

theorem Loader.Clear.corner {l l' : Loader Value} (clear : l.Clear) {face : Int}
    (stored : l.corner face = .ok l') : l'.Clear := by
  obtain ⟨first, x, stored⟩ := bind_ok.mp stored
  obtain ⟨second, y, stored⟩ := bind_ok.mp stored
  obtain ⟨third, z, stored⟩ := bind_ok.mp stored
  cases stored
  have cleared : third.Clear := ((clear.coordinate x).coordinate y).coordinate z
  exact cleared

theorem Loader.Clear.line {l l' : Loader Value} (clear : l.Clear) {read : Line Value}
    (stored : l.line read = .ok l') : l'.Clear := by
  cases read with
  | v x y z =>
      cases stored
      exact clear
  | f face0 face1 face2 =>
      obtain ⟨first, one, stored⟩ := bind_ok.mp stored
      obtain ⟨second, two, three⟩ := bind_ok.mp stored
      exact ((Loader.Clear.corner (l := { l with size := l.size + 1 }) clear one).corner two).corner
        three
  | other =>
      cases stored
      exact clear

theorem Loader.Clear.lines {file : List (Line Value)} {l l' : Loader Value} (clear : l.Clear)
    (stored : file.foldlM Loader.line l = .ok l') : l'.Clear := by
  induction file generalizing l with
  | nil =>
      cases stored
      exact clear
  | cons read file ih =>
      rw [List.foldlM_cons] at stored
      obtain ⟨next, one, more⟩ := bind_ok.mp stored
      exact ih (clear.line one) more

theorem main_stores {file : List (Line Value)} {stores : List Store}
    (executed : main file = .ok stores) :
    ∃ body, stores = ⟨126, 0⟩ :: body ++ [⟨126, 1⟩] ∧ ∀ s ∈ body, s.Quiet := by
  obtain ⟨l, loaded, done⟩ := bind_ok.mp executed
  cases done
  have start : Loader.Clear ({} : Loader Value) := ⟨[], rfl, nofun⟩
  obtain ⟨rest, stores, quiet⟩ := start.lines loaded
  refine ⟨rest ++ [⟨127, BitVec.ofNat 32 l.size⟩], by simp [stores], fun s member => ?_⟩
  rcases List.mem_append.mp member with earlier | new
  · exact quiet s earlier
  · obtain rfl := List.mem_singleton.mp new
    intro other
    simp at other

end

theorem startBit_append (bit : Bool) (first second : List Store) :
    startBit bit (first ++ second) = startBit (startBit bit first) second :=
  List.foldl_append

theorem startBit_quiet {stores : List Store} (quiet : ∀ s ∈ stores, s.Quiet) :
    startBit false stores = false := by
  induction stores with
  | nil => rfl
  | cons s stores ih =>
      have clear : (if s.index = 126 then s.value.getLsbD 0 else false) = false := by
        split
        · exact quiet s List.mem_cons_self ‹_›
        · rfl
      rw [startBit, List.foldl_cons, clear]
      exact ih fun s member => quiet s (List.mem_cons_of_mem _ member)

section

variable (Value : Type) [BEq Value] [OfNat Value 1]

def Execution (stores : List Store) : Prop := ∃ file : List (Line Value), main file = .ok stores

/-- A number of executions one after the other, the last one perhaps not over. -/
def Issued (stores : List Store) : Prop :=
  ∃ executions : List (List Store), (∀ e ∈ executions, Execution Value e) ∧
    stores <+: executions.flatten

/-- Every execution is over: the model is loaded. -/
def Whole (stores : List Store) : Prop :=
  ∃ executions : List (List Store), (∀ e ∈ executions, Execution Value e) ∧
    stores = executions.flatten

variable {Value} {stores : List Store} {bit : Bool}

theorem Whole.none : Whole Value [] := ⟨[], nofun, rfl⟩

theorem startBit_within {body : List Store} (quiet : ∀ s ∈ body, s.Quiet)
    (part : stores <+: ⟨126, 0⟩ :: body) (begun : stores ≠ []) : startBit bit stores = false := by
  obtain ⟨rest, rfl⟩ : ∃ rest, stores = ⟨126, 0⟩ :: rest := by
    cases stores with
    | nil => exact (begun rfl).elim
    | cons s rest => exact ⟨rest, by rw [(List.cons_prefix_cons.mp part).1]⟩
  have inside := (List.cons_prefix_cons.mp part).2
  have cleared : startBit bit (⟨126, 0⟩ :: rest) = startBit false rest := rfl
  rw [cleared]
  exact startBit_quiet fun s member => quiet s (inside.mem member)

/-- The start bit is only ever high between executions. -/
theorem Issued.whole (issued : Issued Value stores) (high : startBit bit stores = true) :
    Whole Value stores := by
  obtain ⟨executions, all, part⟩ := issued
  induction executions generalizing stores bit with
  | nil =>
      obtain rfl := List.prefix_nil.mp part
      exact Whole.none
  | cons e executions ih =>
      obtain ⟨file, executed⟩ := all e List.mem_cons_self
      rw [List.flatten_cons] at part
      rcases List.prefix_or_prefix_of_prefix part (List.prefix_append e _) with inside
        | ⟨later, rfl⟩
      · obtain ⟨body, rfl, quiet⟩ := main_stores executed
        rcases List.prefix_concat_iff.mp inside with whole | inside
        · exact ⟨[stores], by simpa [whole] using all _ List.mem_cons_self, by simp⟩
        · by_cases none : stores = []
          · rw [none]
            exact Whole.none
          · cases high.symm.trans (startBit_within quiet inside none)
      · rw [startBit_append] at high
        obtain ⟨others, all', rfl⟩ :=
          ih high (fun e member => all e (List.mem_cons_of_mem _ member))
          ((List.prefix_append_right_inj e).mp part)
        exact ⟨e :: others, List.forall_mem_cons.mpr ⟨⟨file, executed⟩, all'⟩, by simp⟩

end

end WireframeGpu.Software
