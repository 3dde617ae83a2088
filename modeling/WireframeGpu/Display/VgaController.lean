import Mathlib.Tactic.Common
import WireframeGpu.Data.Trace

namespace WireframeGpu.VgaController

/-! `VGA_controller.sv`: the counters that scan the screen, and the sync and blank signals
registered beside them. -/

def hTotal : BitVec 10 := 800
def vTotal : BitVec 10 := 525

structure Registers where
  hs : Bool := false
  vs : Bool := false
  blankN : Bool := false
  hCounter : BitVec 10 := 0
  vCounter : BitVec 10 := 0
deriving DecidableEq, Repr

namespace Registers

def hCounterIn (r : Registers) : BitVec 10 :=
  if r.hCounter + 1 = hTotal then 0 else r.hCounter + 1

def vCounterIn (r : Registers) : BitVec 10 :=
  if r.hCounter + 1 = hTotal then if r.vCounter + 1 = vTotal then 0 else r.vCounter + 1
  else r.vCounter

def clock (r : Registers) (reset : Bool) : Registers :=
  if reset then {}
  else
    { hs := !(656 ≤ r.hCounterIn && r.hCounterIn < 752)
      vs := !(490 ≤ r.vCounterIn && r.vCounterIn < 492)
      blankN := r.hCounterIn < 640 && r.vCounterIn < 480
      hCounter := r.hCounterIn
      vCounter := r.vCounterIn }

/-- The counters stand at cycle `n` of the scan. -/
structure At (n : Nat) (r : Registers) : Prop where
  hCounter : r.hCounter.toNat = n % 800
  vCounter : r.vCounter.toNat = n / 800 % 525

variable {r : Registers} {n : Nat}

theorem hCounter_last : r.hCounter + 1 = hTotal ↔ r.hCounter.toNat = 799 := by
  rw [hTotal]
  bv_omega

theorem vCounter_last : r.vCounter + 1 = vTotal ↔ r.vCounter.toNat = 524 := by
  rw [vTotal]
  bv_omega

theorem next_toNat {counter : BitVec 10} (small : counter.toNat < 1023) :
    (counter + 1).toNat = counter.toNat + 1 := by
  bv_omega

theorem At.hCounterIn (at_ : At n r) : r.hCounterIn.toNat = (n + 1) % 800 := by
  have place := at_.hCounter
  simp only [Registers.hCounterIn, hCounter_last]
  split
  · show 0 = (n + 1) % 800
    omega
  · rw [next_toNat (by omega)]
    omega

theorem At.vCounterIn (at_ : At n r) : r.vCounterIn.toNat = (n + 1) / 800 % 525 := by
  have place := at_.hCounter
  have line := at_.vCounter
  simp only [Registers.vCounterIn, hCounter_last, vCounter_last]
  split
  · have next : (n + 1) / 800 = n / 800 + 1 := by omega
    split
    · show 0 = (n + 1) / 800 % 525
      omega
    · rw [next_toNat (by omega)]
      omega
  · have same : (n + 1) / 800 = n / 800 := by omega
    rw [same, line]

theorem At.clock (at_ : At n r) : At (n + 1) (r.clock false) :=
  ⟨at_.hCounterIn, at_.vCounterIn⟩

/-- Blanking is registered beside the counters, so that it belongs to the same cycle. -/
theorem At.blankN (at_ : At n r) :
    (r.clock false).blankN = decide ((n + 1) % 800 < 640 ∧ (n + 1) / 800 % 525 < 480) := by
  have column : r.hCounterIn < 640 ↔ (n + 1) % 800 < 640 := by
    rw [BitVec.lt_def, at_.hCounterIn]
    rfl
  have row : r.vCounterIn < 480 ↔ (n + 1) / 800 % 525 < 480 := by
    rw [BitVec.lt_def, at_.vCounterIn]
    rfl
  simp only [Registers.clock, Bool.false_eq_true, if_false]
  rw [← Bool.decide_and]
  exact decide_eq_decide.mpr (and_congr column row)

/-- The sync pulses belong to the same cycle, too: 96 pixels and two lines. -/
theorem At.sync (at_ : At n r) :
    (r.clock false).hs = !decide (656 ≤ (n + 1) % 800 ∧ (n + 1) % 800 < 752) ∧
      (r.clock false).vs = !decide (490 ≤ (n + 1) / 800 % 525 ∧ (n + 1) / 800 % 525 < 492) := by
  have column := at_.hCounterIn
  have row := at_.vCounterIn
  simp only [Registers.clock, Bool.false_eq_true, if_false, BitVec.le_def, BitVec.lt_def,
    column, row, Bool.decide_and]
  exact ⟨rfl, rfl⟩

end Registers

open Data

/-- A run of the controller under any `Reset`. -/
def run (resets : Nat → Bool) : Nat → Registers := trace Registers.clock {} resets

/-- The cycles since the last reset, or since power-up. -/
def age (resets : Nat → Bool) : Nat → Nat
  | 0 => 0
  | n + 1 => if resets n then 0 else age resets n + 1

variable {resets : Nat → Bool} {n : Nat}

theorem run_reset (reset : resets n = true) :
    run resets (n + 1) = {} ∧ age resets (n + 1) = 0 := by
  rw [run, trace_succ, age, reset]
  exact ⟨rfl, rfl⟩

theorem run_clock (runs : resets n = false) :
    run resets (n + 1) = (run resets n).clock false ∧ age resets (n + 1) = age resets n + 1 := by
  rw [run, trace_succ, age, runs]
  exact ⟨rfl, rfl⟩

theorem run_at (resets : Nat → Bool) (n : Nat) : (run resets n).At (age resets n) := by
  have begins : ({} : Registers).At 0 := ⟨rfl, rfl⟩
  induction n with
  | zero => exact begins
  | succ n ih =>
      cases reset : resets n
      · rw [(run_clock reset).1, (run_clock reset).2]
        exact ih.clock
      · rw [(run_reset reset).1, (run_reset reset).2]
        exact begins

theorem sync_run (runs : resets n = false) :
    (run resets (n + 1)).hs =
        !decide (656 ≤ (age resets n + 1) % 800 ∧ (age resets n + 1) % 800 < 752) ∧
      (run resets (n + 1)).vs = !decide (490 ≤ (age resets n + 1) / 800 % 525 ∧
        (age resets n + 1) / 800 % 525 < 492) := by
  rw [(run_clock runs).1]
  exact (run_at resets n).sync

theorem vs_run (resets : Nat → Bool) (n : Nat) : (run resets n).vs = true ↔
    0 < age resets n ∧ ¬ (490 ≤ age resets n / 800 % 525 ∧ age resets n / 800 % 525 < 492) := by
  cases n with
  | zero => exact ⟨fun high => (by cases high), fun ⟨later, _⟩ => absurd later (Nat.lt_irrefl 0)⟩
  | succ n =>
      cases reset : resets n
      · rw [(sync_run reset).2, (run_clock reset).2, Bool.not_eq_true', decide_eq_false_iff_not]
        exact ⟨fun outside => ⟨Nat.succ_pos _, outside⟩, And.right⟩
      · rw [(run_reset reset).1, (run_reset reset).2]
        exact ⟨fun high => (by cases high), fun ⟨later, _⟩ => absurd later (Nat.lt_irrefl 0)⟩

/-- Left alone, `VGA_VS` falls once in 420000 cycles, as line 490 begins. -/
theorem vs_falls_iff (resets : Nat → Bool) (n : Nat) (runs : resets n = false) :
    (run resets n).vs = true ∧ (run resets (n + 1)).vs = false ↔
      (age resets n + 1) % 420000 = 392000 := by
  rw [vs_run, ← Bool.not_eq_true, vs_run, (run_clock runs).2]
  omega

/-- All the controller puts out, in every cycle: a reset holds the sync and blank
signals low, and from then on they follow the beam. -/
theorem signals_follow_beam (resets : Nat → Bool) (n : Nat) :
    ((run resets n).hCounter.toNat = age resets n % 800 ∧
        (run resets n).vCounter.toNat = age resets n / 800 % 525) ∧
      (age resets n = 0 → (run resets n).hs = false ∧ (run resets n).vs = false ∧
        (run resets n).blankN = false) ∧
      (0 < age resets n →
        (run resets n).hs = !decide (656 ≤ age resets n % 800 ∧ age resets n % 800 < 752) ∧
        (run resets n).vs =
          !decide (490 ≤ age resets n / 800 % 525 ∧ age resets n / 800 % 525 < 492) ∧
        (run resets n).blankN =
          decide (age resets n % 800 < 640 ∧ age resets n / 800 % 525 < 480)) := by
  refine ⟨⟨(run_at resets n).hCounter, (run_at resets n).vCounter⟩, ?_⟩
  cases n with
  | zero => exact ⟨fun _ => ⟨rfl, rfl, rfl⟩, fun later => absurd later (Nat.lt_irrefl 0)⟩
  | succ n =>
      have at_ := run_at resets n
      cases reset : resets n
      · rw [(run_clock reset).1, (run_clock reset).2]
        exact ⟨fun none => absurd none (Nat.succ_ne_zero _),
          fun _ => ⟨at_.sync.1, at_.sync.2, at_.blankN⟩⟩
      · rw [(run_reset reset).1, (run_reset reset).2]
        exact ⟨fun _ => ⟨rfl, rfl, rfl⟩, fun later => absurd later (Nat.lt_irrefl 0)⟩

end WireframeGpu.VgaController
