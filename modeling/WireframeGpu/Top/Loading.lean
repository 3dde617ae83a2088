import WireframeGpu.Polygon.Cube
import WireframeGpu.Software.Faces
import WireframeGpu.Top.Animation
import WireframeGpu.Top.StartGate

namespace WireframeGpu

open WireframeGpu.Data WireframeGpu.Software WireframeGpu.PolygonRaster

/-! One execution of the loader, and what the machine makes of it. -/

namespace Software

/-- The vertex registers hold 1.0, -1.0 or nothing. -/
def UnitRegisters (r : Registerfile.Registers) : Prop :=
  ∀ index < 108, r.regs (BitVec.ofNat 7 index) ∈ unitValues

theorem UnitRegisters.model {r : Registerfile.Registers} (unit : UnitRegisters r) (t : Fin 12)
    (v : Fin 3) : Unit (r.model t v) :=
  ⟨unit (3 * t + v) (by omega), unit (36 + (3 * t + v)) (by omega),
    unit (72 + (3 * t + v)) (by omega)⟩

/-- Below register 108 the loader stores 1.0 and -1.0 only. -/
def Store.Unit (s : Store) : Prop := s.index < 108 → s.value ∈ unitValues

theorem Store.unit_control {s : Store} (control : 108 ≤ s.index) : s.Unit :=
  fun below => absurd below (Nat.not_lt.mpr control)

/-- A store goes to one register, or past all of them. -/
theorem Store.clock_other {r : Registerfile.Registers} {s : Store} {index : Nat}
    (inside : index < 128) (other : s.index ≠ index) :
    (r.clock s.bus).regs (BitVec.ofNat 7 index) = r.regs (BitVec.ofNat 7 index) := by
  have unwritten : s.bus.written (BitVec.ofNat 7 index) = none := by
    refine Registerfile.Inputs.written_none fun _ selected same => other ?_
    have selected' : s.index < 128 := of_decide_eq_true selected
    have places : (BitVec.ofNat 7 index).toNat = (BitVec.ofNat 7 s.index).toNat :=
      congrArg BitVec.toNat same
    rw [BitVec.toNat_ofNat, BitVec.toNat_ofNat] at places
    omega
  rw [Registerfile.Registers.clock_regs, unwritten]
  rfl

theorem UnitRegisters.store {r : Registerfile.Registers} (unit : UnitRegisters r) {s : Store}
    (stored : s.Unit) : UnitRegisters (r.clock s.bus) := by
  intro index inside
  by_cases here : s.index = index
  · subst here
    rw [Store.clock_regs (by omega), if_pos rfl]
    exact stored inside
  · rw [Store.clock_other (by omega) here]
    exact unit index inside

theorem UnitRegisters.stores {r : Registerfile.Registers} (unit : UnitRegisters r)
    {stores : List Store} (stored : ∀ s ∈ stores, s.Unit) : UnitRegisters (registers r stores) := by
  induction stores generalizing r with
  | nil => exact unit
  | cons s stores ih =>
      obtain ⟨first, rest⟩ := List.forall_mem_cons.mp stored
      exact ih (unit.store first) rest

section

variable {Value : Type} [BEq Value] [OfNat Value 1] {stores : List Store}

theorem fixed_unit (value : Value) : fixed value ∈ unitValues := by
  simp only [fixed]
  split <;> decide

theorem writes_unit (tracker : Nat) (cs : List (Value × Value × Value)) :
    ∀ s ∈ writes tracker cs, s.value ∈ unitValues := by
  induction cs generalizing tracker with
  | nil => nofun
  | cons p cs ih =>
      intro s member
      rcases List.mem_append.mp member with corner | later
      · simp only [Store.corner, List.mem_cons, List.not_mem_nil, or_false] at corner
        rcases corner with rfl | rfl | rfl <;> exact fixed_unit _
      · exact ih (tracker + 1) s later

theorem Execution.unit (execution : Execution Value stores) : ∀ s ∈ stores, s.Unit := by
  obtain ⟨file, executed⟩ := execution
  obtain ⟨cs, -, rfl⟩ := main_eq executed
  intro s member
  simp only [List.cons_append, List.mem_cons, List.mem_append, List.not_mem_nil, or_false] at member
  rcases member with rfl | corner | rfl | rfl
  · exact Store.unit_control (by decide)
  · exact fun _ => writes_unit 0 cs s corner
  · exact Store.unit_control (show 108 ≤ 127 by decide)
  · exact Store.unit_control (by decide)

/-- An execution has set the start bit only once it has made all of its stores. -/
theorem Execution.whole {part : List Store} (execution : Execution Value stores)
    (part_of : part <+: stores) (high : startBit false part = true) : part = stores := by
  obtain ⟨file, executed⟩ := execution
  obtain ⟨body, rfl, quiet⟩ := main_stores executed
  rcases List.prefix_concat_iff.mp part_of with whole | inside
  · exact whole
  · by_cases none : part = []
    · subst none
      cases high
    · cases high.symm.trans (startBit_within quiet inside none)

theorem Execution.high (execution : Execution Value stores) (bit : Bool) :
    startBit bit stores = true := by
  obtain ⟨file, executed⟩ := execution
  obtain ⟨body, rfl, -⟩ := main_stores executed
  rw [startBit_append]
  rfl

end

def triangle : List (Line Int) := [.v 1 1 1, .v (-1) 1 1, .v 1 (-1) 1, .f 1 2 3]

def triangleStores : List Store :=
  ⟨126, 0⟩ :: writes 0 [((1 : Int), (1 : Int), (1 : Int)), (-1, 1, 1), (1, -1, 1)] ++
    [⟨127, 1⟩, ⟨126, 1⟩]

theorem triangle_execution : Execution Int triangleStores := ⟨triangle, by decide⟩

end Software

namespace Gpu

variable {m : Megafunctions} {buffer1 buffer2 : FrameBuffer} {schedule : Nat → Option Store}
  {switched : Nat → Bool} {stores : List Store}

theorem driven_registerfile (n : Nat) :
    (run m (powerUp buffer1 buffer2) (driven schedule switched) n).registerfile =
      registers {} (emitted schedule n) := by
  induction n with
  | zero => rfl
  | succ n ih =>
      rw [emitted_succ, registers_append, ← ih]
      show (run m (powerUp buffer1 buffer2) (driven schedule switched) n).registerfile.clock
        (bus (schedule n)) = _
      cases schedule n with
      | none =>
          simp [Registerfile.Registers.clock, bus, registers]
      | some s => rfl

/-- Top leaves `WAIT2` once the start bit is set. -/
theorem begins_of_start {n : Nat} (high : startBit false (emitted schedule n) = true) :
    ∃ n, (run m (powerUp buffer1 buffer2) (driven schedule switched) n).top.state ≠ .wait2 := by
  by_cases waits : (run m (powerUp buffer1 buffer2) (driven schedule switched) n).top.state = .wait2
  · have initial := starts (m := m) (i := driven schedule switched n)
      (j := driven schedule switched (n + 1)) waits ((start_bit n).trans high)
    rw [← run_succ, ← run_succ] at initial
    exact ⟨n + 2, by simp [initial]⟩
  · exact ⟨n, waits⟩

/-- Top leaves `WAIT2` only once the start bit has been set. -/
theorem high_before {n : Nat}
    (begun : (run m (powerUp buffer1 buffer2) (driven schedule switched) n).top.state ≠ .wait2) :
    ∃ k ≤ n, startBit false (emitted schedule k) = true := by
  induction n with
  | zero => exact (begun rfl).elim
  | succ n ih =>
      by_cases waiting : (run m (powerUp buffer1 buffer2) (driven schedule switched)
          n).top.state = .wait2
      · refine ⟨n, Nat.le_succ n, ?_⟩
        by_contra low
        exact begun (waits waiting ((start_bit n).trans (Bool.eq_false_iff.mpr low)))
      · obtain ⟨k, before, high⟩ := ih waiting
        exact ⟨k, Nat.le_succ_of_le before, high⟩

/-- The stores of one execution reach the bus in order, at any pace. -/
def Carries (schedule : Nat → Option Store) (stores : List Store) : Prop :=
  ∀ n, emitted schedule n <+: stores

theorem Carries.whole_later (carries : Carries schedule stores) {n k : Nat} (ordered : n ≤ k)
    (whole : emitted schedule n = stores) : emitted schedule k = stores := by
  have part := emitted_prefix schedule ordered
  rw [whole] at part
  exact (part.eq_of_length_le (carries k).length_le).symm

section

variable {Value : Type} [BEq Value] [OfNat Value 1] (execution : Execution Value stores)
  (carries : Carries schedule stores)

include execution carries

/-- Top leaves `WAIT2` with the whole model loaded. -/
theorem begun_whole {n : Nat}
    (begun : (run m (powerUp buffer1 buffer2) (driven schedule switched) n).top.state ≠ .wait2) :
    emitted schedule n = stores := by
  obtain ⟨k, before, high⟩ := high_before begun
  exact carries.whole_later before (execution.whole (carries k) high)

theorem loaded_posed (buffer1 buffer2 : FrameBuffer) (switched : Nat → Bool) :
    Posed .initFiles (powerUp buffer1 buffer2) (driven schedule switched)
    (registers {} stores).model := by
  constructor
  · intro n begun
    rw [driven_registerfile, begun_whole execution carries begun]
  · intro row inside t v
    have unit : UnitRegisters (registers {} stores) :=
      UnitRegisters.stores (fun index _ => List.mem_cons_self) execution.unit
    exact unit_visible (unit.model t v) (by omega)

/-- Whatever the object file says and however the display is timed, every frame is
complete within 255807 clocks, and its buffer shows the loaded model at the angle of
that frame. -/
theorem loaded_frame_completes (buffer1 buffer2 : FrameBuffer) (switched : Nat → Bool) (first : Nat)
    (starts : (run .initFiles (powerUp buffer1 buffer2) (driven schedule switched)
      first).top.state.phase = .start) :
    ∃ n, first < n ∧ n ≤ first + 255807 ∧
      FrameAt .initFiles (powerUp buffer1 buffer2) (driven schedule switched) first n ∧
      (run .initFiles (powerUp buffer1 buffer2) (driven schedule switched) n).top.state.phase =
        .finished ∧
      (run .initFiles (powerUp buffer1 buffer2) (driven schedule switched) n).target.Shows
        (wireframe .initFiles (angle (frames .initFiles (powerUp buffer1 buffer2)
          (driven schedule switched) n)) (registers {} stores).model) :=
  (loaded_posed execution carries buffer1 buffer2 switched).completes starts

/-- In every cycle the buffer that is not being drawn shows the picture before the
one at hand, at its own angle; odd pictures are in buffer 2. -/
theorem loaded_pictures_in_turn (buffer1 buffer2 : FrameBuffer) (switched : Nat → Bool) (n : Nat) :
    Exhibited .initFiles (registers {} stores).model
      (run .initFiles (powerUp buffer1 buffer2) (driven schedule switched) n)
      (frames .initFiles (powerUp buffer1 buffer2) (driven schedule switched) n) :=
  ((loaded_posed execution carries buffer1 buffer2 switched).exhibited n).1

/-- No loaded model makes the machine overrun a memory. -/
theorem loaded_bounded (buffer1 buffer2 : FrameBuffer) (switched : Nat → Bool) (n : Nat)
    (fs : Bool) :
    Bounded (run .initFiles (powerUp buffer1 buffer2) (driven schedule switched) n) fs :=
  (loaded_posed execution carries buffer1 buffer2 switched).bounded n fs

omit carries in
theorem loaded_begins (buffer1 buffer2 : FrameBuffer) (switched : Nat → Bool)
    (through : ∃ n, emitted schedule n = stores) :
    ∃ n, (run .initFiles (powerUp buffer1 buffer2) (driven schedule switched) n).top.state ≠
      .wait2 := by
  obtain ⟨n, whole⟩ := through
  exact begins_of_start (n := n) (by rw [whole]; exact execution.high false)

/-- Once the loader is through, every picture is drawn in its turn, for as long as
the display switches them. -/
theorem loaded_goes_on (buffer1 buffer2 : FrameBuffer) (switched : Nat → Bool)
    (through : ∃ n, emitted schedule n = stores) (switches : ∀ n, ∃ k, n ≤ k ∧ switched k = true)
    (count : Nat) :
    ∃ n, (run .initFiles (powerUp buffer1 buffer2) (driven schedule switched) n).top.state.phase =
        .finished ∧
      frames .initFiles (powerUp buffer1 buffer2) (driven schedule switched) n = count + 1 ∧
      (run .initFiles (powerUp buffer1 buffer2) (driven schedule switched) n).target.Shows
        (wireframe .initFiles (angle (count + 1)) (registers {} stores).model) := by
  have posed := loaded_posed execution carries buffer1 buffer2 switched
  have begun := loaded_begins execution buffer1 buffer2 switched through
  obtain ⟨first, starts, rfl⟩ := goes_on posed.below begun switches count
  obtain ⟨n, -, -, frame, finished, shows⟩ := posed.completes starts
  have counted := frames_of_frame frame
  exact ⟨n, finished, counted, counted ▸ shows⟩

end

/-! A triangle, loaded with one store per clock. -/

def eachClock (stores : List Store) (k : Nat) : Option Store := stores[k]?

theorem emitted_eachClock (stores : List Store) (n : Nat) :
    emitted (eachClock stores) n = stores.take n := by
  induction n with
  | zero => rfl
  | succ n ih => rw [emitted_succ, ih, eachClock, List.take_add_one]

theorem eachClock_carries (stores : List Store) : Carries (eachClock stores) stores := by
  intro n
  rw [emitted_eachClock]
  exact List.take_prefix n stores

theorem eachClock_through (stores : List Store) :
    ∃ n, emitted (eachClock stores) n = stores :=
  ⟨stores.length, by rw [emitted_eachClock, List.take_length]⟩

section

variable (loads : ∀ n ≤ 12, emitted schedule n = triangleStores.take n)

include loads

theorem triangle_waits (m : Megafunctions) (buffer1 buffer2 : FrameBuffer) (switched : Nat → Bool)
    {n : Nat} (inside : n ≤ 12) :
    (run m (powerUp buffer1 buffer2) (driven schedule switched) n).top.state = .wait2 := by
  induction n with
  | zero => rfl
  | succ n ih =>
      have before := Nat.le_of_succ_le inside
      have low : ∀ n < 12, startBit false (triangleStores.take n) = false := by decide
      refine waits (ih before) ((start_bit n).trans ?_)
      rw [loads n before]
      exact low n inside

/-- Whatever is stored next, the first frame starts two clocks after the triangle is loaded. -/
theorem triangle_starts (m : Megafunctions) (buffer1 buffer2 : FrameBuffer)
    (switched : Nat → Bool) :
    (run m (powerUp buffer1 buffer2) (driven schedule switched) 14).top.state = .initial := by
  refine starts (triangle_waits loads m buffer1 buffer2 switched le_rfl) ((start_bit 12).trans ?_)
  rw [loads 12 le_rfl]
  decide

end

theorem triangle_posed (buffer1 buffer2 : FrameBuffer) (switched : Nat → Bool) :
    Posed .initFiles (powerUp buffer1 buffer2) (driven (eachClock triangleStores) switched)
      (registers {} triangleStores).model :=
  loaded_posed triangle_execution (eachClock_carries triangleStores) buffer1 buffer2 switched

/-- The first frame of the triangle. -/
theorem triangle_frame (buffer1 buffer2 : FrameBuffer) (switched : Nat → Bool) :
    ∃ n, FrameAt .initFiles (powerUp buffer1 buffer2)
      (driven (eachClock triangleStores) switched) 14 n ∧
      (run .initFiles (powerUp buffer1 buffer2) (driven (eachClock triangleStores) switched)
        n).top.state = .s1 := by
  have initial := triangle_starts (fun n _ => emitted_eachClock triangleStores n) .initFiles buffer1
    buffer2 switched
  have begins : (run .initFiles (powerUp buffer1 buffer2)
      (driven (eachClock triangleStores) switched) 14).top.state.phase = .start := by
    rw [initial]
    rfl
  obtain ⟨n, -, -, frame, finished, second, -⟩ := frame_completes
    (triangle_posed buffer1 buffer2 switched).below begins
  refine ⟨n, frame, ?_⟩
  rw [Top.State.finished_cases finished, second, initial]
  rfl

theorem loaded_frame_completes_triangle :
    ∃ first n, first < n ∧ n ≤ first + 255807 ∧
      FrameAt .initFiles (powerUp (fun _ => 0) (fun _ => 0))
        (driven (eachClock triangleStores) early) first n ∧
      (run .initFiles (powerUp (fun _ => 0) (fun _ => 0)) (driven (eachClock triangleStores) early)
        n).top.state.phase = .finished ∧
      (run .initFiles (powerUp (fun _ => 0) (fun _ => 0)) (driven (eachClock triangleStores) early)
        n).target.Shows (wireframe .initFiles (angle (frames .initFiles
          (powerUp (fun _ => 0) (fun _ => 0)) (driven (eachClock triangleStores) early) n))
            (registers {} triangleStores).model) := by
  have carries := eachClock_carries triangleStores
  obtain ⟨first, starts, -⟩ :=
    first_begins (loaded_begins triangle_execution (fun _ => 0) (fun _ => 0) early
      (eachClock_through triangleStores))
  exact ⟨first, loaded_frame_completes triangle_execution carries (fun _ => 0) (fun _ => 0) early
    first starts⟩

theorem loaded_pictures_in_turn_triangle :
    Exhibited .initFiles (registers {} triangleStores).model
      (run .initFiles (powerUp (fun _ => 0) (fun _ => 0)) (driven (eachClock triangleStores) early)
        1000000)
      (frames .initFiles (powerUp (fun _ => 0) (fun _ => 0))
        (driven (eachClock triangleStores) early) 1000000) :=
  loaded_pictures_in_turn triangle_execution (eachClock_carries triangleStores) (fun _ => 0)
    (fun _ => 0) early 1000000

theorem loaded_bounded_triangle :
    Bounded (run .initFiles (powerUp (fun _ => 0) (fun _ => 0))
      (driven (eachClock triangleStores) early) 1000000) true :=
  loaded_bounded triangle_execution (eachClock_carries triangleStores) (fun _ => 0) (fun _ => 0)
    early 1000000 true

theorem loaded_goes_on_triangle :
    ∃ n, (run .initFiles (powerUp (fun _ => 0) (fun _ => 0))
      (driven (eachClock triangleStores) early)
        n).top.state.phase = .finished ∧
      frames .initFiles (powerUp (fun _ => 0) (fun _ => 0))
        (driven (eachClock triangleStores) early)
        n = 314 + 1 ∧
      (run .initFiles (powerUp (fun _ => 0) (fun _ => 0)) (driven (eachClock triangleStores) early)
        n).target.Shows
          (wireframe .initFiles (angle (314 + 1)) (registers {} triangleStores).model) :=
  loaded_goes_on triangle_execution (eachClock_carries triangleStores) (fun _ => 0) (fun _ => 0)
    early (eachClock_through triangleStores)
    (fun n => ⟨n + 3, Nat.le_add_right n 3, decide_eq_true (Nat.le_add_left 3 n)⟩) 314

end Gpu

end WireframeGpu
