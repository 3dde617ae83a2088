import Mathlib.Data.Fintype.BigOperators
import Mathlib.Logic.Equiv.Fin.Basic
import WireframeGpu.Top.Loading

namespace WireframeGpu.Gpu

open WireframeGpu.Data WireframeGpu.Top PolygonRaster

/-! How long a frame takes, to the clock: two clocks for each word that is cleared, behind
which the core has projected and drawn all lines, and three for each point. -/

variable {m : Megafunctions} {buffer1 buffer2 : FrameBuffer} {inputs : Nat → Inputs}
  {first k n t : Nat} {vertices : Model} {g : Gpu} {i : Inputs} {l : Ledger}

/-- The core will be done before its bound. -/
def InTime (g : Gpu) (t : Nat) : Prop := g.raster.rasterDone = false → t + effort g.raster ≤ 42204

/-- Where a frame stands `t` clocks after it has begun. -/
def Timed (g : Gpu) (t : Nat) : Prop :=
  match g.top.state.phase with
  | .off => False
  | .start => t = 0
  | .clear => t = 2 * g.top.memCounter.toNat + 1 ∧ InTime g t
  | .cleared => t = 2 * g.top.memCounter.toNat ∧ InTime g t
  | .await => t = 153601 ∧ InTime g t
  | .ask => t + 3 * stored g.raster = 153602 + 3 * total g.raster
  | .write => t + 3 * stored g.raster + 2 = 153602 + 3 * total g.raster
  | .check => t + 3 * stored g.raster + 1 = 153602 + 3 * total g.raster
  | .finished => t = 153602 + 3 * total g.raster

theorem InTime.step (inTime : InTime g t) (filling : Filling g) (sound : Sound g.raster l.pushed)
    (idle : g.top.state.phase ≠ .start) (unasked : g.top.state.phase ≠ .ask) :
    InTime (g.clock m i) (t + 1) := by
  intro undone
  have low := startRaster_low (i := i) idle
  cases done : g.raster.rasterDone
  · have less := (filling.effort_le (m := m) (i := i) sound idle unasked).2 done
    have before := inTime done
    omega
  · rcases filling.raster with ⟨-, early⟩ | ⟨ready, -⟩
    · cases early.symm.trans done
    · cases undone.symm.trans (shown_unasked (m := m) sound low ready (readCoord_low unasked)).2.1

/-- While points are read, the lines stay. -/
theorem total_read (sound : Sound g.raster l.pushed)
    (reading : g.raster.state = .s5 ∨ g.raster.state = .s6) :
    total (g.clock m i).raster = total g.raster := by
  have settled := sound.settled (by rcases reading with state | state <;> simp [state])
  exact total_kept (triangles_hold settled (by rcases reading with state | state <;> simp [state]))

theorem timed_start (rendering : Rendering g l) (phase : g.top.state.phase = .start)
    (timed : Timed g t) : Timed (g.clock m i) (t + 1) := by
  have coupled := rendering.coupled
  simp only [Coupled, phase] at coupled
  simp only [Timed, phase] at timed
  have high : (g.rasterInputs i.frameSwitched).startRaster = true := by
    rw [startRaster_eq, phase]
    rfl
  have next : (g.clock m i).raster.state = .test4 := by
    rw [clock_raster, PolygonRaster.clock_state]
    simp [PolygonRaster.Registers.comb, coupled.1, high]
  obtain ⟨phase', counter'⟩ := clock_start (m := m) (i := i) phase
  simp only [Timed, phase', counter', coupled.2, timed, InTime, effort, next]
  exact ⟨rfl, fun _ => le_rfl⟩

theorem timed_clear (rendering : Rendering g l) (phase : g.top.state.phase = .clear)
    (timed : Timed g t) : Timed (g.clock m i) (t + 1) := by
  obtain ⟨sound, coupled⟩ := rendering
  simp only [Coupled, phase] at coupled
  simp only [Timed, phase] at timed
  obtain ⟨filling, -, bound, -⟩ := coupled
  obtain ⟨phase', counter'⟩ := clock_clear (m := m) (i := i) phase bound
  simp only [Timed, phase']
  exact ⟨by omega, timed.2.step filling sound (by simp [phase]) (by simp [phase])⟩

theorem timed_cleared (rendering : Rendering g l) (phase : g.top.state.phase = .cleared)
    (timed : Timed g t) : Timed (g.clock m i) (t + 1) := by
  obtain ⟨sound, coupled⟩ := rendering
  simp only [Coupled, phase] at coupled
  simp only [Timed, phase] at timed
  have inTime := timed.2.step (m := m) (i := i) coupled.1 sound (by simp [phase]) (by simp [phase])
  obtain ⟨phase', counter'⟩ := clock_cleared (m := m) (i := i) phase
  by_cases all : g.top.memCounter.toNat = 76800
  · rw [if_pos all] at phase'
    simp only [Timed, phase']
    exact ⟨by omega, inTime⟩
  · rw [if_neg all] at phase'
    simp only [Timed, phase', counter']
    exact ⟨by omega, inTime⟩

/-- There is nothing to wait for. -/
theorem timed_await (rendering : Rendering g l) (phase : g.top.state.phase = .await)
    (timed : Timed g t) : Timed (g.clock m i) (t + 1) := by
  obtain ⟨sound, coupled⟩ := rendering
  simp only [Coupled, phase] at coupled
  simp only [Timed, phase] at timed
  obtain ⟨place, inTime⟩ := timed
  have done : g.raster.rasterDone = true := by
    by_contra undone
    have late := inTime (Bool.eq_false_iff.mpr undone)
    omega
  have ready : g.raster.state = .s5 := by
    rcases coupled.1.raster with ⟨-, undone⟩ | ⟨ready, -⟩
    · cases undone.symm.trans done
    · exact ready
  have phase' := clock_await (m := m) (i := i) phase
  rw [if_pos done] at phase'
  have same := stored_kept (m := m) (i := g.rasterInputs i.frameSwitched) sound
    (startRaster_low (by simp [phase])) (.inr ⟨ready, readCoord_low (by simp [phase])⟩)
  rw [← clock_raster] at same
  simp only [Timed, phase']
  rw [same, total_read sound (.inl ready), stored_unread sound ready coupled.1.unshown, place]

theorem timed_ask (rendering : Rendering g l) (phase : g.top.state.phase = .ask)
    (timed : Timed g t) : Timed (g.clock m i) (t + 1) := by
  obtain ⟨sound, coupled⟩ := rendering
  simp only [Coupled, phase] at coupled
  simp only [Timed, phase] at timed
  have phase' := clock_ask (m := m) (i := i) phase
  have less := stored_pop (m := m) (i := g.rasterInputs i.frameSwitched) sound
    (startRaster_low (by simp [phase])) coupled.1 (readCoord_high phase)
  rw [← clock_raster] at less
  simp only [Timed, phase']
  rw [total_read sound (.inl coupled.1)]
  omega

theorem timed_write (rendering : Rendering g l) (phase : g.top.state.phase = .write)
    (timed : Timed g t) : Timed (g.clock m i) (t + 1) := by
  obtain ⟨sound, coupled⟩ := rendering
  simp only [Coupled, phase] at coupled
  simp only [Timed, phase] at timed
  have phase' := clock_write (m := m) (i := i) phase
  have same := stored_kept (m := m) (i := g.rasterInputs i.frameSwitched) sound
    (startRaster_low (by simp [phase])) (.inl coupled.1)
  rw [← clock_raster] at same
  simp only [Timed, phase']
  rw [total_read sound (.inr coupled.1), same]
  omega

theorem timed_check (rendering : Rendering g l) (phase : g.top.state.phase = .check)
    (timed : Timed g t) : Timed (g.clock m i) (t + 1) := by
  obtain ⟨sound, coupled⟩ := rendering
  simp only [Coupled, phase] at coupled
  simp only [Timed, phase] at timed
  have phase' := clock_check (m := m) (i := i) phase
  rcases coupled.1 with ⟨state, more⟩ | ⟨state, empty⟩
  · simp only [more, Bool.false_eq_true, ↓reduceIte] at phase'
    have same := stored_kept (m := m) (i := g.rasterInputs i.frameSwitched) sound
      (startRaster_low (by simp [phase])) (.inr ⟨state, readCoord_low (by simp [phase])⟩)
    rw [← clock_raster] at same
    simp only [Timed, phase']
    rw [total_read sound (.inl state), same]
    omega
  · simp only [empty, ↓reduceIte] at phase'
    have nothing : stored g.raster = 0 := by
      simp [stored, fun line => (sound.empty state line).words]
    have framed := sound.framed
    simp only [Framed, state] at framed
    have same : total (g.clock m i).raster = total g.raster :=
      total_kept (triangles_hold (framed.2 empty).1 (by simp [state]))
    simp only [Timed, phase']
    rw [same]
    omega

theorem Timed.step (rendering : Rendering g l) (unfinished : g.top.state.phase ≠ .finished)
    (timed : Timed g t) : Timed (g.clock m i) (t + 1) := by
  cases phase : g.top.state.phase with
  | off => simp only [Timed, phase] at timed
  | finished => exact (unfinished phase).elim
  | start => exact timed_start rendering phase timed
  | clear => exact timed_clear rendering phase timed
  | cleared => exact timed_cleared rendering phase timed
  | await => exact timed_await rendering phase timed
  | ask => exact timed_ask rendering phase timed
  | write => exact timed_write rendering phase timed
  | check => exact timed_check rendering phase timed

theorem run_timed (starts : (run m (powerUp buffer1 buffer2) inputs first).top.state.phase = .start)
    (finished : (run m (powerUp buffer1 buffer2) inputs n).top.state.phase = .finished)
    (unfinished : ∀ k, first < k → k < n →
      (run m (powerUp buffer1 buffer2) inputs k).top.state.phase ≠ .finished)
    (ordered : first ≤ k) (inside : k ≤ n) :
    Timed (run m (powerUp buffer1 buffer2) inputs k) (k - first) := by
  induction k, ordered using Nat.le_induction with
  | base =>
      simp only [Timed, starts]
      exact Nat.sub_self first
  | succ k ordered ih =>
      have rendering := rendering_before (.inr finished) (Nat.le_of_succ_le inside)
      rw [run_succ, Nat.succ_sub ordered]
      refine (ih (Nat.le_of_succ_le inside)).step rendering ?_
      rcases Nat.eq_or_lt_of_le ordered with rfl | after
      · simp [starts]
      · exact unfinished k after inside

/-- The sum over the lines is one over the sides. -/
theorem sum_sides (f : Fin 12 → Fin 3 → Fin 3 → Nat) :
    ∑ line, f (Registers.edgeTriangle line) (Registers.edgeVertex line) (Registers.edgeEnd line) =
      ∑ t, ∑ v, f t v ⟨(v + 1) % 3, Nat.mod_lt _ (by decide)⟩ := by
  rw [← Fintype.sum_prod_type']
  refine (Fintype.sum_equiv (@finProdFinEquiv 12 3) _ _ fun p => ?_).symm
  obtain ⟨t, v⟩ := p
  have triangle : Registers.edgeTriangle (@finProdFinEquiv 12 3 (t, v)) = t := by
    ext
    simp only [Registers.edgeTriangle, finProdFinEquiv_apply_val]
    omega
  have vertex : Registers.edgeVertex (@finProdFinEquiv 12 3 (t, v)) = v := by
    ext
    simp only [Registers.edgeVertex, finProdFinEquiv_apply_val]
    omega
  have last : Registers.edgeEnd (@finProdFinEquiv 12 3 (t, v)) =
      ⟨(v + 1) % 3, Nat.mod_lt _ (by decide)⟩ := by
    ext
    simp only [Registers.edgeEnd, finProdFinEquiv_apply_val]
    omega
  rw [triangle, vertex, last]

theorem total_caught (frame : FrameAt m (powerUp buffer1 buffer2) inputs first n)
    (past : (run m (powerUp buffer1 buffer2) inputs n).raster.state.projecting = false) :
    total (run m (powerUp buffer1 buffer2) inputs n).raster =
      pointCount (caught m (powerUp buffer1 buffer2) inputs first) := by
  simp only [total, segment_caught frame past]
  exact sum_sides fun t v w => (edge (caught m (powerUp buffer1 buffer2) inputs first t v)
    (caught m (powerUp buffer1 buffer2) inputs first t w)).major + 1

/-- A frame without a side that reaches coordinate 511 takes two clocks for each word of
a frame buffer, three for each point of its sides, and two more, whatever is written to
the registers meanwhile. -/
theorem frame_takes_its_points (m : Megafunctions) (buffer1 buffer2 : FrameBuffer)
    (inputs : Nat → Inputs) (first : Nat)
    (starts : (run m (powerUp buffer1 buffer2) inputs first).top.state.phase = .start)
    (below : ∀ t v, (edge (caught m (powerUp buffer1 buffer2) inputs first t v)
      (caught m (powerUp buffer1 buffer2) inputs first t (v + 1))).majorMax ≠ 511) :
    ∃ n, n = first + 153602 + 3 * pointCount (caught m (powerUp buffer1 buffer2) inputs first) ∧
      (run m (powerUp buffer1 buffer2) inputs n).top.state.phase = .finished ∧
      ∀ k, first ≤ k → k < n → Drawing (run m (powerUp buffer1 buffer2) inputs k) := by
  classical
  have ends := (ends_iff_caught starts).mpr below
  obtain ⟨after, finished⟩ := Nat.find_spec ends
  have unfinished : ∀ k, first < k → k < Nat.find ends →
      (run m (powerUp buffer1 buffer2) inputs k).top.state.phase ≠ .finished :=
    fun k later earlier done => Nat.find_min ends earlier ⟨later, done⟩
  have timed := fun k => run_timed (k := k) starts finished unfinished
  have drawing : ∀ k, first ≤ k → k < Nat.find ends →
      Drawing (run m (powerUp buffer1 buffer2) inputs k) := by
    refine fun k ordered earlier => ⟨fun off => ?_, fun done => ?_⟩
    · have place := timed k ordered (Nat.le_of_lt earlier)
      simp only [Timed, off] at place
    · rcases Nat.eq_or_lt_of_le ordered with rfl | later
      · cases starts.symm.trans done
      · exact unfinished k later earlier done
  have frame : FrameAt m (powerUp buffer1 buffer2) inputs first (Nat.find ends) := by
    refine ⟨after, ?_, fun k later earlier => ?_⟩
    · exact startRaster_of_start starts
    · rw [ports, startRaster_eq, beq_eq_false_iff_ne]
      intro again
      have place := timed k (Nat.le_of_lt later) (Nat.le_of_lt earlier)
      simp only [Timed, again] at place
      omega
  have rests := (rendering_before (.inr finished) le_rfl).coupled
  simp only [Coupled, finished] at rests
  have place := timed (Nat.find ends) (Nat.le_of_lt after) le_rfl
  simp only [Timed, finished] at place
  rw [total_caught frame (by rw [rests.1]; rfl)] at place
  exact ⟨Nat.find ends, by omega, finished, drawing⟩

open WireframeGpu.Software in
/-- The 216 points are three sides of 62, 61 and 60 points, and eleven triangles in one point. -/
theorem frame_takes_its_points_triangle :
    ∃ first n, n = first + 154250 ∧
      (run .initFiles (powerUp (fun _ => 0) (fun _ => 0)) (driven (eachClock triangleStores) early)
        n).top.state.phase = .finished ∧
      ∀ k, first ≤ k → k < n → Drawing
        (run .initFiles (powerUp (fun _ => 0) (fun _ => 0))
          (driven (eachClock triangleStores) early)
          k) := by
  have posed := triangle_posed (fun _ => 0) (fun _ => 0) early
  obtain ⟨first, starts, none⟩ := first_begins (loaded_begins triangle_execution (fun _ => 0)
    (fun _ => 0) early (eachClock_through triangleStores))
  have reads := caught_of_kept (startRaster_of_start starts) (posed.kept first)
  rw [none] at reads
  have takes := frame_takes_its_points .initFiles (fun _ => 0) (fun _ => 0)
    (driven (eachClock triangleStores) early) first starts
    (by rw [reads]; exact fun t v => posed.side_below 1 t v)
  have points : pointCount (fun t v =>
      turned .initFiles (angle (0 + 1)) ((registers {} triangleStores).model t v)) = 216 := by
    decide +kernel
  rw [reads, points] at takes
  exact ⟨first, takes⟩

end WireframeGpu.Gpu
