import WireframeGpu.Polygon.Drawing

namespace WireframeGpu.PolygonRaster

/-! What one clock does to the state and the four control registers, once for
each state of a frame. -/

variable {m : Megafunctions} {r : Registers} {i : Inputs}

theorem clock_state (r : Registers) (i : Inputs) : (r.clock m i).state = (r.comb i).nextState := rfl

theorem clock_core (idle : i.startRaster = false) :
    (r.clock m i).counter = (r.comb i).counterIn ∧
      (r.clock m i).muxselect = (r.comb i).muxselectIn ∧
      (r.clock m i).rasterDone = (r.comb i).rasterDoneIn ∧
      (r.clock m i).bufferEmpty = (r.comb i).bufferEmptyIn := by
  simp [Registers.clock, idle]

structure Fresh (r : Registers) : Prop where
  counter : r.counter = 0
  muxselect : r.muxselect = 0
  rasterDone : r.rasterDone = false
  bufferEmpty : r.bufferEmpty = false

theorem clock_fresh (starts : i.startRaster = true) : Fresh (r.clock m i) := by
  constructor <;> simp [Registers.clock, starts]

/-- The registers of the read-out are left as they are. -/
structure Steady (r r' : Registers) : Prop where
  muxselect : r'.muxselect = r.muxselect
  rasterDone : r'.rasterDone = r.rasterDone
  bufferEmpty : r'.bufferEmpty = r.bufferEmpty

theorem Fresh.kept {r' : Registers} (fresh : Fresh r) (steady : Steady r r')
    (counter : r'.counter = r.counter) : Fresh r' :=
  ⟨counter.trans fresh.counter, steady.muxselect.trans fresh.muxselect,
    steady.rasterDone.trans fresh.rasterDone, steady.bufferEmpty.trans fresh.bufferEmpty⟩

theorem steady_of_comb (idle : i.startRaster = false)
    (muxselect : (r.comb i).muxselectIn = r.muxselect)
    (rasterDone : (r.comb i).rasterDoneIn = r.rasterDone)
    (bufferEmpty : (r.comb i).bufferEmptyIn = r.bufferEmpty) : Steady r (r.clock m i) := by
  obtain ⟨_, muxselect', rasterDone', bufferEmpty'⟩ := clock_core (r := r) (m := m) idle
  exact ⟨muxselect'.trans muxselect, rasterDone'.trans rasterDone, bufferEmpty'.trans bufferEmpty⟩

theorem clock_early (idle : i.startRaster = false)
    (early : r.state = .test4 ∨ r.state = .test3 ∨ r.state = .test2 ∨ r.state = .test1 ∨
      r.state = .startproj) :
    Steady r (r.clock m i) ∧ (r.clock m i).counter = r.counter ∧
      ((r.clock m i).state = .test3 ∨ (r.clock m i).state = .test2 ∨
        (r.clock m i).state = .test1 ∨ (r.clock m i).state = .startproj ∨
        (r.clock m i).state = .startrast) := by
  have counter := (clock_core (r := r) (m := m) idle).1
  rw [counter, clock_state]
  rcases early with state | state | state | state | state <;>
    refine ⟨steady_of_comb idle ?_ ?_ ?_, ?_, ?_⟩ <;>
    simp only [Registers.comb, Registers.defaults, state] <;> (try split) <;> simp

theorem clock_startrast (idle : i.startRaster = false) (state : r.state = .startrast) :
    Steady r (r.clock m i) ∧ (r.clock m i).state = .start ∧ (r.clock m i).counter = r.counter := by
  rw [(clock_core (r := r) (m := m) idle).1, clock_state]
  refine ⟨steady_of_comb idle ?_ ?_ ?_, ?_, ?_⟩ <;>
    simp only [Registers.comb, Registers.defaults, state]

/-- `START` moves on when line `counter` is done, or has not taken off. -/
theorem clock_start (idle : i.startRaster = false) (state : r.state = .start)
    (inside : r.counter.toNat < 36) :
    Steady r (r.clock m i) ∧ (r.clock m i).counter = r.counter ∧
      (r.clock m i).state = if (r.lines ⟨r.counter.toNat, inside⟩).isDone ||
        !(r.lines ⟨r.counter.toNat, inside⟩).isCalculating then .s3 else .start := by
  rw [(clock_core (r := r) (m := m) idle).1, clock_state]
  refine ⟨steady_of_comb idle ?_ ?_ ?_, ?_, ?_⟩ <;>
    simp only [Registers.comb, Registers.defaults, state, select_inside _ _ inside]
  cases (r.lines ⟨r.counter.toNat, inside⟩).isDone <;>
    cases (r.lines ⟨r.counter.toNat, inside⟩).isCalculating <;> rfl

theorem clock_s3 (idle : i.startRaster = false) (state : r.state = .s3)
    (inside : r.counter.toNat < 36) :
    Steady r (r.clock m i) ∧ (r.clock m i).state = .s1 ∧
      (r.clock m i).counter.toNat = r.counter.toNat + 1 := by
  have one : (1 : BitVec 9).toNat = 1 := rfl
  rw [(clock_core (r := r) (m := m) idle).1, clock_state]
  refine ⟨steady_of_comb idle ?_ ?_ ?_, ?_, ?_⟩ <;>
    simp only [Registers.comb, Registers.defaults, state, BitVec.toNat_add, one]
  omega

theorem counter_last : (r.counter == numLinesTest) = decide (r.counter.toNat = 36) := by
  rw [Bool.eq_iff_iff, beq_iff_eq, decide_eq_true_eq, ← BitVec.toNat_inj]
  rfl

theorem clock_s1_next (idle : i.startRaster = false) (state : r.state = .s1)
    (more : r.counter.toNat ≠ 36) :
    Steady r (r.clock m i) ∧ (r.clock m i).state = .start ∧ (r.clock m i).counter = r.counter := by
  rw [(clock_core (r := r) (m := m) idle).1, clock_state]
  refine ⟨steady_of_comb idle ?_ ?_ ?_, ?_, ?_⟩ <;>
    simp [Registers.comb, Registers.defaults, state, counter_last, more]

theorem clock_s1_last (idle : i.startRaster = false) (state : r.state = .s1)
    (all : r.counter.toNat = 36) :
    Steady r (r.clock m i) ∧ (r.clock m i).state = .s4 ∧ (r.clock m i).counter = 0 := by
  rw [(clock_core (r := r) (m := m) idle).1, clock_state]
  refine ⟨steady_of_comb idle ?_ ?_ ?_, ?_, ?_⟩ <;>
    simp [Registers.comb, Registers.defaults, state, counter_last, all]

/-- The registers while the FIFOs are read: line `mux`, of which `counter` words
have been asked for. -/
structure Stands (r : Registers) (state : State) (mux counter : Nat) : Prop where
  state : r.state = state
  muxselect : r.muxselect.toNat = mux
  counter : r.counter.toNat = counter
  rasterDone : r.rasterDone = true
  bufferEmpty : r.bufferEmpty = false

theorem clock_s4 (idle : i.startRaster = false) (state : r.state = .s4) (counter : r.counter = 0)
    (muxselect : r.muxselect = 0) (bufferEmpty : r.bufferEmpty = false) :
    Stands (r.clock m i) .s5 0 0 := by
  obtain ⟨counter', muxselect', rasterDone', bufferEmpty'⟩ := clock_core (r := r) (m := m) idle
  simp only [Registers.comb, Registers.defaults,
    state] at counter' muxselect' rasterDone' bufferEmpty'
  refine ⟨?_, by rw [muxselect', muxselect]; rfl, by rw [counter', counter]; rfl, rasterDone',
    bufferEmpty'.trans bufferEmpty⟩
  simp only [clock_state, Registers.comb, state]

theorem Stands.unasked {mux counter : Nat} (stands : Stands r .s5 mux counter)
    (idle : i.startRaster = false) (unasked : i.readCoord = false) :
    Stands (r.clock m i) .s5 mux counter := by
  obtain ⟨counter', muxselect', rasterDone', bufferEmpty'⟩ := clock_core (r := r) (m := m) idle
  simp only [Registers.comb, Registers.defaults, stands.state, unasked, Bool.false_eq_true,
    ↓reduceIte] at counter' muxselect' rasterDone' bufferEmpty'
  refine ⟨?_, by rw [muxselect', stands.muxselect], by rw [counter', stands.counter],
    rasterDone'.trans stands.rasterDone, bufferEmpty'.trans stands.bufferEmpty⟩
  simp [clock_state, Registers.comb, stands.state, unasked]

theorem Stands.asked {mux counter : Nat} (stands : Stands r .s5 mux counter)
    (idle : i.startRaster = false) (asked : i.readCoord = true) (short : counter < 511) :
    Stands (r.clock m i) .s6 mux (counter + 1) := by
  obtain ⟨counter', muxselect', rasterDone', bufferEmpty'⟩ := clock_core (r := r) (m := m) idle
  simp only [Registers.comb, Registers.defaults, stands.state, asked, ↓reduceIte]
    at counter' muxselect' rasterDone' bufferEmpty'
  have one : (1 : BitVec 9).toNat = 1 := rfl
  refine ⟨?_, by rw [muxselect', stands.muxselect], ?_,
    rasterDone'.trans stands.rasterDone, bufferEmpty'.trans stands.bufferEmpty⟩
  · simp [clock_state, Registers.comb, stands.state, asked]
  · rw [counter', BitVec.toNat_add, one, stands.counter]
    omega

/-- `S6` stays with the line until it is drained, and ends the frame after the last one. -/
theorem Stands.decided {mux counter size : Nat} (stands : Stands r .s6 mux counter)
    (idle : i.startRaster = false) (inside : mux < 36)
    (fifoSize : (r.lines ⟨mux, inside⟩).fifoSize.toNat = size) :
    counter ≠ size ∧ Stands (r.clock m i) .s5 mux counter ∨
    counter = size ∧ mux + 1 < 36 ∧ Stands (r.clock m i) .s5 (mux + 1) 0 ∨
    counter = size ∧ mux = 35 ∧ (r.clock m i).state = .initial ∧
      (r.clock m i).bufferEmpty = true := by
  obtain ⟨counter', muxselect', rasterDone', bufferEmpty'⟩ := clock_core (r := r) (m := m) idle
  have drained : r.drained = decide (counter = size) := by
    have current : (⟨r.muxselect.toNat, stands.muxselect ▸ inside⟩ : Fin 36) = ⟨mux, inside⟩ :=
      Fin.ext stands.muxselect
    rw [Registers.drained, select_inside _ _ (stands.muxselect ▸ inside), current, Bool.eq_iff_iff,
      beq_iff_eq, decide_eq_true_eq, ← BitVec.toNat_inj, stands.counter, fifoSize]
  have final : (r.muxselect == numLinesTest - 1) = decide (mux = 35) := by
    rw [Bool.eq_iff_iff, beq_iff_eq, decide_eq_true_eq, ← BitVec.toNat_inj, stands.muxselect]
    rfl
  by_cases empty : counter = size
  · by_cases last : mux = 35
    · right
      right
      simp only [clock_state, bufferEmpty', Registers.comb, stands.state, drained, empty,
        final, last, decide_true, Bool.and_self, ↓reduceIte, and_self]
    · simp only [Registers.comb, Registers.defaults, stands.state, drained, empty, final, last,
        decide_true, decide_false, Bool.and_false, Bool.false_eq_true, ↓reduceIte]
        at counter' muxselect' rasterDone' bufferEmpty'
      have one : (1 : BitVec 9).toNat = 1 := rfl
      refine .inr (.inl ⟨empty, by omega, ?_, ?_, by rw [counter']; rfl,
        rasterDone'.trans stands.rasterDone, bufferEmpty'.trans stands.bufferEmpty⟩)
      · simp only [clock_state, Registers.comb, stands.state, drained, empty, final, last,
          decide_true, decide_false, Bool.and_false, Bool.false_eq_true, ↓reduceIte]
      · rw [muxselect', BitVec.toNat_add, one, stands.muxselect]
        omega
  · simp only [Registers.comb, Registers.defaults, stands.state, drained, empty, decide_false,
      Bool.false_and, Bool.false_eq_true,
      ↓reduceIte] at counter' muxselect' rasterDone' bufferEmpty'
    refine .inl ⟨empty, ?_, by rw [muxselect', stands.muxselect], by rw [counter', stands.counter],
      rasterDone'.trans stands.rasterDone, bufferEmpty'.trans stands.bufferEmpty⟩
    simp [clock_state, Registers.comb, stands.state, drained, empty]

end WireframeGpu.PolygonRaster
