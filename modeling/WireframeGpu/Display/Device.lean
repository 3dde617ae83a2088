import WireframeGpu.Display.Blackout
import WireframeGpu.Display.ScanOut

namespace WireframeGpu

open WireframeGpu.Data WireframeGpu.Software

/-- The board and its display: `VGA_VS` is what the controller makes of `VGA_CLK`. -/
structure Device where
  board : Board
  scan : ScanOut.Registers := {}

namespace Device

inductive Event where
  /-- A rising edge of `CLOCK_50`, with what it finds on the Avalon bus. -/
  | clock50 (bus : Registerfile.Inputs)
  /-- A rising edge of `VGA_CLK`. -/
  | vgaClk

/-- Whether the next edge of `VGA_CLK` takes `VGA_VS` down. -/
def vsFalls (d : Device) : Bool := d.scan.vga.vs && !d.scan.clock.vga.vs

def step (m : Megafunctions) (d : Device) : Event → Device
  | .clock50 bus => { d with board := d.board.step m (.clock50 bus) }
  | .vgaClk =>
      { board := if d.vsFalls then d.board.step m .vsFalling else d.board, scan := d.scan.clock }

def run (m : Megafunctions) (start : Device) (events : Nat → Event) : Nat → Device :=
  trace (step m) start events

def powerUp (buffer1 buffer2 : FrameBuffer) : Device where
  board := Board.powerUp buffer1 buffer2

def timed (schedule : Nat → Option Store) (ticks : Nat → Bool) (n : Nat) : Event :=
  if ticks n then .vgaClk else .clock50 (bus (schedule n))

/-- The edges of `VGA_CLK` among the first events. -/
def vgaCycle (ticks : Nat → Bool) (n : Nat) : Nat :=
  Data.ticks (fun k => if ticks k then some () else none) n

variable {m : Megafunctions} {buffer1 buffer2 : FrameBuffer} {schedule : Nat → Option Store}
  {ticks : Nat → Bool} {stores : List Store} {n k : Nat}

theorem run_succ (m : Megafunctions) (start : Device) (events : Nat → Event) (n : Nat) :
    run m start events (n + 1) = (run m start events n).step m (events n) :=
  trace_succ _ _ _ _

theorem vgaCycle_tick (tick : ticks n = true) : vgaCycle ticks (n + 1) = vgaCycle ticks n + 1 :=
  ticks_heard (if_pos tick)

theorem vgaCycle_clock (clock : ticks n = false) : vgaCycle ticks (n + 1) = vgaCycle ticks n :=
  ticks_silent (if_neg (Bool.eq_false_iff.mp clock))

/-- Each count is reached by an edge of `VGA_CLK`. -/
theorem vgaCycle_reaches {count last : Nat} (more : vgaCycle ticks n < count)
    (upper : count ≤ vgaCycle ticks last) :
    ∃ k, n ≤ k ∧ ticks k = true ∧ vgaCycle ticks k + 1 = count := by
  obtain ⟨k, event, after, -, ticked, reached⟩ := ticks_reaches more upper
  have tick : ticks k = true := by
    by_contra clock
    rw [if_neg clock] at ticked
    cases ticked
  exact ⟨k, after, tick, (vgaCycle_tick tick).symm.trans reached⟩

/-! What the display does is not up to the renderer. -/

theorem scan_run (n : Nat) : (run m (powerUp buffer1 buffer2) (timed schedule ticks) n).scan =
    ScanOut.run (vgaCycle ticks n) := by
  induction n with
  | zero => rfl
  | succ n ih =>
      cases tick : ticks n
      · rw [vgaCycle_clock tick, ← ih, run_succ, timed, if_neg (Bool.eq_false_iff.mp tick)]
        rfl
      · rw [vgaCycle_tick tick, ScanOut.run, ← ih, run_succ, timed, if_pos tick]
        rfl

theorem vga_run (n : Nat) : (ScanOut.run n).vga = VgaController.run (fun _ => false) n := by
  induction n with
  | zero => rfl
  | succ n ih =>
      rw [(VgaController.run_clock rfl).1, ← ih]
      rfl

theorem age_run (n : Nat) : VgaController.age (fun _ => false) n = n := by
  induction n with
  | zero => rfl
  | succ n ih => rw [(VgaController.run_clock rfl).2, ih]

theorem vsFalls_iff (m : Megafunctions) (buffer1 buffer2 : FrameBuffer)
    (schedule : Nat → Option Store) (ticks : Nat → Bool) (n : Nat) :
    (run m (powerUp buffer1 buffer2) (timed schedule ticks) n).vsFalls = true ↔
      (vgaCycle ticks n + 1) % 420000 = 392000 := by
  have falls := VgaController.vs_falls_iff (fun _ => false) (vgaCycle ticks n) rfl
  rw [age_run, ← vga_run, ← vga_run] at falls
  rw [vsFalls, scan_run, Bool.and_eq_true, Bool.not_eq_true']
  exact falls

/-! The board hears each edge of `CLOCK_50`, and the edges of `VGA_CLK` that take
`VGA_VS` down. -/

def heard (m : Megafunctions) (buffer1 buffer2 : FrameBuffer) (schedule : Nat → Option Store)
    (ticks : Nat → Bool) (n : Nat) : Option (Option Store × Bool) :=
  if ticks n then
    if (run m (powerUp buffer1 buffer2) (timed schedule ticks) n).vsFalls then some (none, true)
    else none
  else some (schedule n, false)

theorem heard_clock (clock : ticks n = false) :
    heard m buffer1 buffer2 schedule ticks n = some (schedule n, false) :=
  if_neg (Bool.eq_false_iff.mp clock)

theorem heard_tick (tick : ticks n = true) : heard m buffer1 buffer2 schedule ticks n =
    if (run m (powerUp buffer1 buffer2) (timed schedule ticks) n).vsFalls then some (none, true)
    else none :=
  if_pos tick

theorem heard_edge (hears : heard m buffer1 buffer2 schedule ticks n = some (none, true)) :
    ticks n = true ∧ (vgaCycle ticks n + 1) % 420000 = 392000 := by
  cases tick : ticks n
  · have other := (heard_clock tick).symm.trans hears
    simp at other
  · refine ⟨rfl, (vsFalls_iff m buffer1 buffer2 schedule ticks n).mp ?_⟩
    by_contra still
    rw [heard_tick tick, if_neg still] at hears
    cases hears

theorem heard_of_edge (tick : ticks n = true) (line : (vgaCycle ticks n + 1) % 420000 = 392000) :
    heard m buffer1 buffer2 schedule ticks n = some (none, true) := by
  rw [heard_tick tick, if_pos ((vsFalls_iff m buffer1 buffer2 schedule ticks n).mpr line)]

/-- The board does not see that there is a display. -/
theorem board_run {events : Nat → Option Store × Bool} {last : Nat}
    (given : Given (heard m buffer1 buffer2 schedule ticks) events last) (before : n ≤ last) :
    Board.run m (Board.powerUp buffer1 buffer2)
        (Board.timed (fun k => (events k).1) fun k => (events k).2)
        (Data.ticks (heard m buffer1 buffer2 schedule ticks) n) =
      (run m (powerUp buffer1 buffer2) (timed schedule ticks) n).board := by
  refine given.trace
    (fun e => if e.2 then Board.Event.vsFalling else Board.Event.clock50 (bus e.1))
    (fun k => (run m (powerUp buffer1 buffer2) (timed schedule ticks) k).board)
    (fun k silent => ?_) (fun k event hears => ?_) before
  · cases tick : ticks k
    · cases (heard_clock tick).symm.trans silent
    · rw [heard_tick tick] at silent
      rw [run_succ, timed, if_pos tick]
      split at silent
      · cases silent
      · rename_i still
        exact if_neg still
  · cases tick : ticks k
    · obtain rfl := Option.some.inj ((heard_clock tick).symm.trans hears)
      rw [run_succ, timed, if_neg (Bool.eq_false_iff.mp tick)]
      rfl
    · rw [heard_tick tick] at hears
      rw [run_succ, timed, if_pos tick]
      split at hears
      · rename_i falls
        obtain rfl := Option.some.inj hears
        exact if_pos falls
      · cases hears

theorem heard_store (m : Megafunctions) (buffer1 buffer2 : FrameBuffer)
    (schedule : Nat → Option Store) (ticks : Nat → Bool) :
    (fun k => (heard m buffer1 buffer2 schedule ticks k).bind fun e => if e.2 then none else e.1) =
      Board.sent schedule ticks := by
  funext k
  rw [heard, Board.sent]
  split
  · split <;> rfl
  · rfl

/-! Two edges of `CLOCK_50` at least for each one of `VGA_CLK`, as the PLL makes it. -/

/-- How the two clocks stand between two moments; a tick may be ahead of its clocks. -/
structure Paced (ticks : Nat → Bool) (first n : Nat) : Prop where
  any : 2 * vgaCycle ticks n + Board.cycle ticks first ≤
    2 * vgaCycle ticks first + Board.cycle ticks n + 2
  tick : ticks n = true → 2 * vgaCycle ticks n + Board.cycle ticks first ≤
    2 * vgaCycle ticks first + Board.cycle ticks n
  next : ticks n = false → ticks (n + 1) = true → 2 * vgaCycle ticks n + Board.cycle ticks first ≤
    2 * vgaCycle ticks first + Board.cycle ticks n + 1

theorem paced (pace : ∀ n, ticks n = true → ticks (n + 1) = false ∧ ticks (n + 2) = false)
    {first : Nat} (ordered : first ≤ n) : Paced ticks first n := by
  induction n, ordered using Nat.le_induction with
  | base => exact ⟨by omega, fun _ => by omega, fun _ _ => by omega⟩
  | succ n ordered ih =>
      cases tick : ticks n
      · have clocks := Board.cycle_clock tick
        have still := vgaCycle_clock tick
        refine ⟨?_, fun tick' => ?_, fun _ _ => ?_⟩
        · have := ih.any
          omega
        · have := ih.next tick tick'
          omega
        · have := ih.any
          omega
      · have clocks := Board.cycle_falls tick
        have ticked := vgaCycle_tick tick
        obtain ⟨one, two⟩ := pace n tick
        refine ⟨?_, fun tick' => ?_, fun _ tick' => ?_⟩
        · have := ih.tick tick
          omega
        · cases one.symm.trans tick'
        · cases two.symm.trans tick'

theorem cycle_le_heard (m : Megafunctions) (buffer1 buffer2 : FrameBuffer)
    (schedule : Nat → Option Store) (ticks : Nat → Bool) {first : Nat} (ordered : first ≤ n) :
    Data.ticks (heard m buffer1 buffer2 schedule ticks) first + Board.cycle ticks n ≤
      Data.ticks (heard m buffer1 buffer2 schedule ticks) n + Board.cycle ticks first := by
  induction n, ordered using Nat.le_induction with
  | base => exact le_rfl
  | succ n ordered ih =>
      cases tick : ticks n
      · rw [ticks_heard (heard_clock tick), Board.cycle_clock tick]
        omega
      · have more : Data.ticks (heard m buffer1 buffer2 schedule ticks) n ≤
            Data.ticks (heard m buffer1 buffer2 schedule ticks) (n + 1) :=
          ticks_mono (Nat.le_succ n)
        rw [Board.cycle_falls tick]
        omega

/-- An edge of `VGA_VS` in the board's own time is one in the time of the device. -/
theorem edge_moment {events : Nat → Option Store × Bool} {last : Nat}
    (given : Given (heard m buffer1 buffer2 schedule ticks) events last)
    (inside : k < Data.ticks (heard m buffer1 buffer2 schedule ticks) last)
    (edge : (events k).2 = true) :
    ∃ n, heard m buffer1 buffer2 schedule ticks n = some (none, true) ∧
      Data.ticks (heard m buffer1 buffer2 schedule ticks) n = k := by
  obtain ⟨n, event, -, before, hears, reached⟩ :=
    ticks_reaches (show Data.ticks (heard m buffer1 buffer2 schedule ticks) 0 < k + 1 from
      Nat.succ_pos k) inside
  have place := Nat.succ.inj ((ticks_heard hears).symm.trans reached)
  have same := given n before event hears
  rw [place] at same
  refine ⟨n, hears.trans ?_, place⟩
  rw [← same] at hears ⊢
  rw [heard] at hears
  split at hears
  · split at hears
    · exact hears.symm
    · cases hears
  · rw [← Option.some.inj hears] at edge
    cases edge

section

variable (pace : ∀ n, ticks n = true → ticks (n + 1) = false ∧ ticks (n + 2) = false)
  (running : ∀ n, ∃ k, n ≤ k ∧ ticks k = true)

include pace in
theorem heard_endless (m : Megafunctions) (buffer1 buffer2 : FrameBuffer)
    (schedule : Nat → Option Store) (count : Nat) :
    ∃ n, count < Data.ticks (heard m buffer1 buffer2 schedule ticks) n := by
  have supply := Board.cycle_supply (fun k tick => (pace k tick).1) 0 (count + 1)
  have more := cycle_le_heard m buffer1 buffer2 schedule ticks (Nat.zero_le (0 + 2 * (count + 1)))
  refine ⟨0 + 2 * (count + 1), ?_⟩
  omega

include running in
theorem vga_reaches (n count : Nat) : ∃ k, n ≤ k ∧ vgaCycle ticks n + count ≤ vgaCycle ticks k := by
  induction count with
  | zero => exact ⟨n, le_rfl, le_rfl⟩
  | succ count ih =>
      obtain ⟨k, after, reached⟩ := ih
      obtain ⟨tick, later, ticked⟩ := running k
      have more : vgaCycle ticks k ≤ vgaCycle ticks tick := ticks_mono later
      have next := vgaCycle_tick ticked
      exact ⟨tick + 1, by omega, by omega⟩

include running in
/-- As long as `VGA_CLK` runs, `VGA_VS` falls again. -/
theorem edge_again (m : Megafunctions) (buffer1 buffer2 : FrameBuffer)
    (schedule : Nat → Option Store) (n : Nat) :
    ∃ k, n ≤ k ∧ heard m buffer1 buffer2 schedule ticks k = some (none, true) := by
  obtain ⟨last, -, upper⟩ := vga_reaches running n 840000
  obtain ⟨k, after, tick, reached⟩ := vgaCycle_reaches
    (show vgaCycle ticks n < (vgaCycle ticks n / 420000 + 1) * 420000 + 392000 by omega)
    (show _ ≤ vgaCycle ticks last by omega)
  exact ⟨k, after, heard_of_edge tick (by omega)⟩

include pace in
/-- Between two falling edges of `VGA_VS` the clock has time for a screen of 420000 pixels. -/
theorem edges_apart {first : Nat}
    (edge : heard m buffer1 buffer2 schedule ticks first = some (none, true))
    (edge' : heard m buffer1 buffer2 schedule ticks n = some (none, true)) (later : first < n) :
    Data.ticks (heard m buffer1 buffer2 schedule ticks) first + 839998 ≤
      Data.ticks (heard m buffer1 buffer2 schedule ticks) n := by
  obtain ⟨tick, line⟩ := heard_edge edge
  obtain ⟨-, line'⟩ := heard_edge edge'
  have ticked := vgaCycle_tick tick
  have more : vgaCycle ticks (first + 1) ≤ vgaCycle ticks n := ticks_mono later
  have clocks := (paced pace (Nat.le_of_lt later)).any
  have hears := cycle_le_heard m buffer1 buffer2 schedule ticks (Nat.le_of_lt later)
  omega

variable {Value : Type} [BEq Value] [OfNat Value 1]

include pace running in
/-- At the real rates the two buffers are no help.  With two edges of `CLOCK_50` or
more for each one of `VGA_CLK`, two frames fit between any two edges of `VGA_VS`, and
whatever model is loaded, the screen goes black again and again. -/
theorem screen_goes_black (execution : Execution Value stores)
    (carries : Gpu.Carries (Board.sent schedule ticks) stores)
    (through : ∃ n, emitted (Board.sent schedule ticks) n = stores)
    (buffer1 buffer2 : FrameBuffer) (n : Nat) :
    ∃ k, n < k ∧ (run .initFiles (powerUp buffer1 buffer2) (timed schedule ticks)
      k).board.displayed.Shows ∅ := by
  have endless := heard_endless pace .initFiles buffer1 buffer2 schedule
  have given := owns_given endless (none, false)
  have word : ∀ last, emitted (Board.sent (fun k => (owns endless (none, false) k).1)
      fun k => (owns endless (none, false) k).2)
        (Data.ticks (heard .initFiles buffer1 buffer2 schedule ticks) last) =
      emitted (Board.sent schedule ticks) last := by
    intro last
    rw [← heard_store .initFiles buffer1 buffer2 schedule ticks]
    exact (given last).emitted (fun e => if e.2 then none else e.1) le_rfl
  have goes_black : ∀ j, ∃ k, j < k ∧ (Board.run .initFiles (Board.powerUp buffer1 buffer2)
      (Board.timed (fun k => (owns endless (none, false) k).1)
        fun k => (owns endless (none, false) k).2) k).displayed.Shows ∅ := by
    refine Board.goes_black_again execution ?_ ?_ ?_ ?_
    · intro k
      obtain ⟨last, upper⟩ := endless k
      have part := emitted_prefix (Board.sent (fun k => (owns endless (none, false) k).1)
        fun k => (owns endless (none, false) k).2) (Nat.le_of_lt upper)
      rw [word] at part
      exact part.trans (carries last)
    · obtain ⟨last, whole⟩ := through
      exact ⟨_, (word last).trans whole⟩
    · intro count
      obtain ⟨last, upper⟩ := endless count
      obtain ⟨k, after, edge⟩ := edge_again running .initFiles buffer1 buffer2 schedule last
      have more : Data.ticks (heard .initFiles buffer1 buffer2 schedule ticks) last ≤
          Data.ticks (heard .initFiles buffer1 buffer2 schedule ticks) k := ticks_mono after
      refine ⟨_, Nat.le_trans (Nat.le_of_lt upper) more, ?_⟩
      rw [given (k + 1) k (Nat.lt_succ_self k) _ edge]
    · intro first second edge later soon
      by_contra edge'
      obtain ⟨last, upper⟩ := endless second
      obtain ⟨a, hears, rfl⟩ := edge_moment (given last) (Nat.lt_trans later upper) edge
      obtain ⟨b, hears', rfl⟩ :=
        edge_moment (given last) upper (Bool.eq_true_of_not_eq_false edge')
      have ordered : a < b := by
        by_contra other
        have fewer : Data.ticks (heard .initFiles buffer1 buffer2 schedule ticks) b ≤
            Data.ticks (heard .initFiles buffer1 buffer2 schedule ticks) a :=
          ticks_mono (Nat.not_lt.mp other)
        omega
      have apart := edges_apart pace hears hears' ordered
      omega
  obtain ⟨k, later, black⟩ :=
    goes_black (Data.ticks (heard .initFiles buffer1 buffer2 schedule ticks) n)
  obtain ⟨last, upper⟩ := endless k
  obtain ⟨j, event, after, before, hears, reached⟩ := ticks_reaches later (Nat.le_of_lt upper)
  refine ⟨j + 1, Nat.lt_succ_of_le after, ?_⟩
  rwa [← board_run (given last) before, reached]

end

/-- 25 MHz beside 50 MHz, once the stores of the triangle are through. -/
def vgaRate (k : Nat) : Bool := 12 ≤ k && k % 3 == 2

theorem vgaRate_iff : vgaRate k = true ↔ 12 ≤ k ∧ k % 3 = 2 := by
  rw [vgaRate, Bool.and_eq_true, decide_eq_true_eq, beq_iff_eq]

theorem screen_goes_black_triangle : ∃ k, 1000000 < k ∧
    (run .initFiles (powerUp (fun _ => 0) (fun _ => 0)) (timed (Gpu.eachClock triangleStores)
      vgaRate) k).board.displayed.Shows ∅ := by
  have whole : Board.sent (Gpu.eachClock triangleStores) vgaRate =
      Gpu.eachClock triangleStores := by
    refine Board.sent_late fun k before => Bool.eq_false_iff.mpr fun tick => ?_
    have few : triangleStores.length = 12 := rfl
    have late := (vgaRate_iff.mp tick).1
    omega
  refine screen_goes_black (fun n tick => ?_) (fun n => ?_) triangle_execution ?_ ?_ (fun _ => 0)
    (fun _ => 0) 1000000
  · rw [vgaRate_iff] at tick
    rw [Bool.eq_false_iff, Bool.eq_false_iff, ne_eq, ne_eq, vgaRate_iff, vgaRate_iff]
    omega
  · exact ⟨3 * (n + 12) + 2, by omega, vgaRate_iff.mpr (by omega)⟩
  · rw [whole]
    exact Gpu.eachClock_carries triangleStores
  · rw [whole]
    exact Gpu.eachClock_through triangleStores

end Device

end WireframeGpu
