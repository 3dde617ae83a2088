import WireframeGpu.Projection.Exact
import WireframeGpu.Top.Loading

namespace WireframeGpu

open WireframeGpu.Data WireframeGpu.Software WireframeGpu.Top

/-! The machine under any traffic on the bus.  The model may change in the middle of
a frame: the frame then shows a mixture, but it is complete in time all the same. -/

namespace Projection

variable {v : Vertex}

/-- A coordinate between -4.0 and 8.0. -/
def Narrow (w : BitVec 32) : Prop := -2 ^ 17 ≤ w.toInt ∧ w.toInt ≤ 2 ^ 18

instance (w : BitVec 32) : Decidable (Narrow w) := inferInstanceAs (Decidable (_ ∧ _))

/-- The pixel of a coordinate that is not beyond the left (or upper) border. -/
theorem screen_slice (last bound : Nat) {half a d : BitVec 32} (large : 2 ^ 7 ≤ last)
    (small : last < 2 ^ 9) (halved : half.toNat = last * 2 ^ 14) (bounded : -2 ^ 31 < a.toInt)
    (positive : 0 < d.toNat) (divisor : d.toNat < 2 ^ 31) (left : -(d.toNat : Int) ≤ a.toInt)
    (right : a.toInt * 2 ^ 14 ≤ d.toNat * bound) (fits : last * (bound + 2 ^ 14) < 2 ^ 30) :
    ((screen half a d).extractLsb' 15 9).toNat ≤ (last * (bound + 2 ^ 14) + 2 ^ 14) / 2 ^ 15 := by
  have nonzero : (d.toNat : Int) ≠ 0 := by omega
  have lower : -2 ^ 14 ≤ (a.toInt * 2 ^ 14).tdiv d.toNat := by
    have ordered : (d.toNat : Int) * -2 ^ 14 ≤ a.toInt * 2 ^ 14 := by omega
    have quotients := Int.tdiv_le_tdiv (by omega : (0 : Int) < d.toNat) ordered
    rwa [Int.mul_tdiv_cancel_left _ nonzero] at quotients
  have upper : (a.toInt * 2 ^ 14).tdiv d.toNat ≤ (bound : Int) := by
    have quotients := Int.tdiv_le_tdiv (by omega : (0 : Int) < d.toNat) right
    rwa [Int.mul_tdiv_cancel_left _ nonzero] at quotients
  have start : 0 ≤ position last a.toInt d.toNat :=
    Int.mul_nonneg (Int.natCast_nonneg last) (by omega)
  have finish : position last a.toInt d.toNat ≤ (last * (bound + 2 ^ 14) : Nat) := by
    push_cast
    exact Int.mul_le_mul_of_nonneg_left (by omega) (Int.natCast_nonneg last)
  have pixel := screen_toInt last large small halved bounded positive divisor
    (by rw [abs_lt]; omega)
  have sign := (screen half a d).toInt_eq_toNat_cond
  have word := (screen half a d).isLt
  rw [pixel, FixedPoint.nearest] at sign
  rw [BitVec.extractLsb'_toNat, Nat.shiftRight_eq_div_pow]
  split at sign <;> omega

theorem pixel_narrow (ahead : Ahead v) (narrow : Narrow v.x) :
    (PolygonRaster.pixel v).1 ≤ 479 ∧ (PolygonRaster.pixel v).2 ≤ 279 := by
  obtain ⟨left, right⟩ := narrow
  obtain ⟨above, low⟩ := ahead.high
  obtain ⟨near, far⟩ := ahead.depth
  have shape := scaled_toInt (x := v.x) (by omega)
  have quarter := (scaled_exact (x := v.x) (by omega)).2
  have narrower : (3 * -2 ^ 17 : Int).tdiv 4 ≤ (3 * v.x.toInt).tdiv 4 ∧
      (3 * v.x.toInt).tdiv 4 ≤ (3 * 2 ^ 18 : Int).tdiv 4 :=
    ⟨Int.tdiv_le_tdiv (by decide) (by omega), Int.tdiv_le_tdiv (by decide) (by omega)⟩
  have border : (3 * -2 ^ 17 : Int).tdiv 4 = -(3 * 2 ^ 15) ∧
      (3 * 2 ^ 18 : Int).tdiv 4 = 6 * 2 ^ 15 := ⟨rfl, rfl⟩
  rw [border.1, border.2] at narrower
  rw [← shape] at narrower
  exact ⟨screen_slice 319 (2 ^ 15) (by decide) (by decide) rfl quarter (by omega)
      (by omega) (by omega) (by omega) (by decide),
    screen_slice 239 21846 (by decide) (by decide) rfl (by omega) (by omega)
      (by omega) (by omega) (by omega) (by decide)⟩

theorem edge_narrow {a b : Vertex} (first : Ahead a ∧ Narrow a.x) (second : Ahead b ∧ Narrow b.x) :
    (PolygonRaster.edge a b).majorMax ≠ 511 := by
  have start := pixel_narrow first.1 first.2
  have finish := pixel_narrow second.1 second.2
  have inside := (PolygonRaster.edge a b).majorMax_le
  have bound : max (PolygonRaster.edge a b).maxX (PolygonRaster.edge a b).maxY ≤ 479 := by
    simp only [PolygonRaster.edge, Segment.maxX, Segment.maxY]
    omega
  omega

end Projection

namespace Gpu

open PolygonRaster

variable {m : Megafunctions} {buffer1 buffer2 : FrameBuffer} {inputs : Nat → Inputs} {n : Nat}

/-! Vertices that are not too far to the side never stop the machine. -/

section

variable (narrow : ∀ k t v, Projection.Narrow
  ((run m (powerUp buffer1 buffer2) inputs k).registerfile.model t v).x)

include narrow

theorem caught_below (first : Nat) (t : Fin 12) (v : Fin 3) :
    (edge (caught m (powerUp buffer1 buffer2) inputs first t v)
      (caught m (powerUp buffer1 buffer2) inputs first t (v + 1))).majorMax ≠ 511 :=
  Projection.edge_narrow
    ⟨Projection.caught_ahead (fun _ => turned_ahead _ _ _) _, narrow (first + 6 + 1) t v⟩
    ⟨Projection.caught_ahead (fun _ => turned_ahead _ _ _) _, narrow (first + 6 + 1) t (v + 1)⟩

theorem narrow_below (k : Nat) :
    StartsBelow (run m (powerUp buffer1 buffer2) inputs k).raster := by
  intro enters
  obtain ⟨first, frame⟩ := frame_of_busy (n := k) (by rw [enters]; decide)
  exact (below_iff_caught frame (by rw [enters]; rfl)).mpr (caught_below narrow first)

end

/-! The loader stores 1.0 and -1.0 only. -/

section

variable {Value : Type} [BEq Value] [OfNat Value 1] {schedule : Nat → Option Store}
  {switched : Nat → Bool}

theorem Issued.unit {stores : List Store} (issued : Issued Value stores) :
    ∀ s ∈ stores, s.Unit := by
  obtain ⟨executions, each, part⟩ := issued
  intro s member
  obtain ⟨execution, listed, inside⟩ := List.mem_flatten.mp (part.mem member)
  exact Execution.unit (each execution listed) s inside

theorem unit_narrow {w : BitVec 32} (unit : w ∈ unitValues) : Projection.Narrow w := by
  have small := unit_toInt unit
  rw [abs_le] at small
  exact ⟨by omega, by omega⟩

theorem issued_narrow (issued : ∀ n, Issued Value (emitted schedule n)) (k : Nat) (t : Fin 12)
    (v : Fin 3) : Projection.Narrow
      ((run m (powerUp buffer1 buffer2) (driven schedule switched) k).registerfile.model t
        v).x := by
  rw [driven_registerfile]
  have unit : UnitRegisters (registers {} (emitted schedule k)) :=
    UnitRegisters.stores (fun index _ => List.mem_cons_self) (Issued.unit (issued k))
  exact unit_narrow (unit.model t v).x

end

/-- The triangle, loaded a second time as soon as it is loaded. -/
def twice : Nat → Option Store := eachClock (triangleStores ++ triangleStores)

theorem twice_issued (n : Nat) : Issued Int (emitted twice n) := by
  refine ⟨[triangleStores, triangleStores], fun e listed => ?_, ?_⟩
  · rw [List.mem_cons, List.mem_singleton, or_self] at listed
    exact listed ▸ triangle_execution
  · rw [twice, emitted_eachClock]
    exact List.take_prefix n _

theorem twice_narrow (k : Nat) (t : Fin 12) (v : Fin 3) : Projection.Narrow
    ((run .initFiles (powerUp (fun _ => 0) (fun _ => 0)) (driven twice early) k).registerfile.model
      t v).x :=
  issued_narrow twice_issued k t v

theorem twice_starts :
    (run .initFiles (powerUp (fun _ => 0) (fun _ => 0)) (driven twice early) 14).top.state.phase =
      .start := by
  have loads : ∀ n ≤ 12, emitted twice n = triangleStores.take n := fun n inside => by
    rw [twice, emitted_eachClock, List.take_append_of_le_length inside]
  rw [triangle_starts loads]
  rfl

/-- Whatever happens on the bus, a frame draws the triangles that it has read: all their
`x` in one clock, all their `y` in another and all their `z` in a third one. -/
theorem frame_draws_what_it_reads (m : Megafunctions) (buffer1 buffer2 : FrameBuffer)
    (inputs : Nat → Inputs) (first : Nat)
    (starts : (run m (powerUp buffer1 buffer2) inputs first).top.state.phase = .start) :
    ((∀ k, first + 5 ≤ k → k < first + 143 →
        (run m (powerUp buffer1 buffer2) inputs k).raster.state = .startproj) ∧
      (run m (powerUp buffer1 buffer2) inputs (first + 143)).raster.state = .startrast) ∧
    ((∃ n, first < n ∧ (run m (powerUp buffer1 buffer2) inputs n).top.state.phase = .finished) ↔
      ∀ t v, (edge (caught m (powerUp buffer1 buffer2) inputs first t v)
        (caught m (powerUp buffer1 buffer2) inputs first t (v + 1))).majorMax ≠ 511) ∧
    ∀ n, FrameAt m (powerUp buffer1 buffer2) inputs first n →
      (run m (powerUp buffer1 buffer2) inputs n).top.state.phase = .finished →
      (run m (powerUp buffer1 buffer2) inputs n).target.Shows
        (figure (caught m (powerUp buffer1 buffer2) inputs first)) := by
  have high := startRaster_of_start starts
  obtain ⟨-, works, enters, -⟩ := frame_in_step high
  refine ⟨⟨fun k after before => (works k (by omega) before).2 after, enters⟩,
    ends_iff_caught starts, fun n frame finished => finished_caught frame finished⟩

/-- The second loading is still under way when the frame reads its `x`. -/
theorem frame_draws_what_it_reads_twice :
    ∃ n, FrameAt .initFiles (powerUp (fun _ => 0) (fun _ => 0)) (driven twice early) 14 n ∧
      (run .initFiles (powerUp (fun _ => 0) (fun _ => 0)) (driven twice early)
        157).raster.state = .startrast ∧
      (run .initFiles (powerUp (fun _ => 0) (fun _ => 0)) (driven twice early)
        n).top.state.phase = .finished ∧
      (run .initFiles (powerUp (fun _ => 0) (fun _ => 0)) (driven twice early) n).target.Shows
        (figure (caught .initFiles (powerUp (fun _ => 0) (fun _ => 0)) (driven twice early)
          14)) := by
  have draws := frame_draws_what_it_reads .initFiles (fun _ => 0) (fun _ => 0)
    (driven twice early) 14 twice_starts
  obtain ⟨n, -, -, frame, finished, -⟩ :=
    frame_completes (narrow_below twice_narrow) twice_starts
  exact ⟨n, frame, draws.1.2, finished, draws.2.2 n frame finished⟩

section

variable (narrow : ∀ k t v, Projection.Narrow
  ((run m (powerUp buffer1 buffer2) inputs k).registerfile.model t v).x)

include narrow

/-- As long as no `x` register leaves the range from -4.0 to 8.0, no traffic on the bus and
no table makes the machine misuse a FIFO or miss the end of a frame. -/
theorem narrow_model_never_jams (n : Nat) :
    (∀ fs line,
      (((run m (powerUp buffer1 buffer2) inputs n).push fs line).isSome →
        ((run m (powerUp buffer1 buffer2) inputs n).raster.fifos line).words.length <
          Lineoutput.depth) ∧
      (((run m (powerUp buffer1 buffer2) inputs n).raster.comb
          ((run m (powerUp buffer1 buffer2) inputs n).rasterInputs fs)).readFifo line = true →
        ((run m (powerUp buffer1 buffer2) inputs n).raster.fifos line).words ≠ [])) ∧
    ((run m (powerUp buffer1 buffer2) inputs n).top.state.phase = .start →
      ∃ last, n < last ∧ last ≤ n + 255807 ∧ FrameAt m (powerUp buffer1 buffer2) inputs n last ∧
        (run m (powerUp buffer1 buffer2) inputs last).top.state.phase = .finished ∧
        (run m (powerUp buffer1 buffer2) inputs last).target.Shows
          (figure (caught m (powerUp buffer1 buffer2) inputs n))) := by
  have rendering := run_rendering_below (narrow_below narrow) n
  refine ⟨fun fs line => ⟨fun pushing => rendering.sound.room pushing,
    fun reading => rendering.sound.stored reading⟩, fun starts => ?_⟩
  obtain ⟨last, lower, upper, frame, finished, -⟩ := frame_completes (narrow_below narrow) starts
  exact ⟨last, lower, upper, frame, finished, finished_caught frame finished⟩

end

theorem narrow_model_never_jams_twice :
    (∀ fs line,
      (((run .initFiles (powerUp (fun _ => 0) (fun _ => 0)) (driven twice early) 165).push fs
          line).isSome →
        ((run .initFiles (powerUp (fun _ => 0) (fun _ => 0)) (driven twice early)
          165).raster.fifos line).words.length < Lineoutput.depth) ∧
      (((run .initFiles (powerUp (fun _ => 0) (fun _ => 0)) (driven twice early) 165).raster.comb
          ((run .initFiles (powerUp (fun _ => 0) (fun _ => 0)) (driven twice early)
            165).rasterInputs fs)).readFifo line = true →
        ((run .initFiles (powerUp (fun _ => 0) (fun _ => 0)) (driven twice early)
          165).raster.fifos line).words ≠ [])) ∧
    ∃ last, 14 < last ∧ last ≤ 14 + 255807 ∧
      FrameAt .initFiles (powerUp (fun _ => 0) (fun _ => 0)) (driven twice early) 14 last ∧
      (run .initFiles (powerUp (fun _ => 0) (fun _ => 0)) (driven twice early)
        last).top.state.phase = .finished ∧
      (run .initFiles (powerUp (fun _ => 0) (fun _ => 0)) (driven twice early) last).target.Shows
        (figure (caught .initFiles (powerUp (fun _ => 0) (fun _ => 0)) (driven twice early) 14)) :=
  ⟨(narrow_model_never_jams twice_narrow 165).1,
    (narrow_model_never_jams twice_narrow 14).2 twice_starts⟩

/-! Any number of executions of the loader. -/

section

variable {Value : Type} [BEq Value] [OfNat Value 1] {schedule : Nat → Option Store}
  {switched : Nat → Bool}

theorem model_kept {r : Registerfile.Registers} {store : Option Store}
    (control : ∀ s, store = some s → 108 ≤ s.index) : (r.clock (bus store)).model = r.model := by
  cases store with
  | none => simp [Registerfile.Registers.clock, bus]
  | some s =>
      have above := control s rfl
      have kept : ∀ index < 108, (r.clock (bus (some s))).regs (BitVec.ofNat 7 index) =
          r.regs (BitVec.ofNat 7 index) :=
        fun index inside => Store.clock_other (by omega) (by omega)
      funext t v
      simp only [Registerfile.Registers.model]
      rw [kept (3 * t + v) (by omega), kept (36 + (3 * t + v)) (by omega),
        kept (72 + (3 * t + v)) (by omega)]

theorem driven_kept {first last : Nat} (ordered : first ≤ last)
    (control : ∀ k, first ≤ k → k < last → ∀ s, schedule k = some s → 108 ≤ s.index) :
    (run m (powerUp buffer1 buffer2) (driven schedule switched) last).registerfile.model =
      (registers {} (emitted schedule first)).model := by
  induction last, ordered using Nat.le_induction with
  | base => rw [driven_registerfile]
  | succ last ordered ih =>
      rw [← ih fun k after before => control k after (Nat.lt_succ_of_lt before)]
      exact model_kept (control last ordered (Nat.lt_succ_self last))

/-- However often and at whatever pace models are loaded, top never stops: every picture
comes, in time.  Only stores in 41 clocks of it can make it a mixture of two models. -/
theorem reloads_never_jam (issued : ∀ n, Issued Value (emitted schedule n))
    (m : Megafunctions) (buffer1 buffer2 : FrameBuffer) (switched : Nat → Bool)
    (loaded : ∃ n, startBit false (emitted schedule n) = true)
    (switches : ∀ n, ∃ k, n ≤ k ∧ switched k = true) (count : Nat) :
    ∃ first last, first < last ∧ last ≤ first + 255807 ∧
      FrameAt m (powerUp buffer1 buffer2) (driven schedule switched) first last ∧
      frames m (powerUp buffer1 buffer2) (driven schedule switched) first = count ∧
      (run m (powerUp buffer1 buffer2) (driven schedule switched) last).top.state.phase =
        .finished ∧
      (run m (powerUp buffer1 buffer2) (driven schedule switched) last).target.Shows
        (figure (caught m (powerUp buffer1 buffer2) (driven schedule switched) first)) ∧
      ((∀ k, first + 7 ≤ k → k < first + 48 → ∀ s, schedule k = some s → 108 ≤ s.index) →
        (run m (powerUp buffer1 buffer2) (driven schedule switched) last).target.Shows
          (wireframe m (angle (count + 1))
            (registers {} (emitted schedule (first + 7))).model)) := by
  have narrow : ∀ k t v, Projection.Narrow ((run m (powerUp buffer1 buffer2)
      (driven schedule switched) k).registerfile.model t v).x := issued_narrow issued
  have begun : ∃ n, (run m (powerUp buffer1 buffer2) (driven schedule switched) n).top.state ≠
      .wait2 := loaded.elim fun _ high => begins_of_start high
  obtain ⟨first, begins, counted⟩ := goes_on (narrow_below narrow) begun switches count
  obtain ⟨last, lower, upper, frame, finished, -⟩ := frame_completes (narrow_below narrow) begins
  have shows := finished_caught frame finished
  refine ⟨first, last, lower, upper, frame, counted, finished, shows, fun control => ?_⟩
  have still : caught m (powerUp buffer1 buffer2) (driven schedule switched) first = _ :=
    caught_of_still fun k after before =>
      driven_kept after fun j later earlier => control j later (by omega)
  rw [still, counted] at shows
  exact shows

end

theorem reloads_never_jam_twice :
    ∃ first last, first < last ∧ last ≤ first + 255807 ∧
      FrameAt .initFiles (powerUp (fun _ => 0) (fun _ => 0)) (driven twice early) first last ∧
      frames .initFiles (powerUp (fun _ => 0) (fun _ => 0)) (driven twice early) first = 314 ∧
      (run .initFiles (powerUp (fun _ => 0) (fun _ => 0)) (driven twice early)
        last).top.state.phase = .finished ∧
      (run .initFiles (powerUp (fun _ => 0) (fun _ => 0)) (driven twice early) last).target.Shows
        (figure (caught .initFiles (powerUp (fun _ => 0) (fun _ => 0)) (driven twice early)
          first)) ∧
      ((∀ k, first + 7 ≤ k → k < first + 48 → ∀ s, twice k = some s → 108 ≤ s.index) →
        (run .initFiles (powerUp (fun _ => 0) (fun _ => 0)) (driven twice early) last).target.Shows
          (wireframe .initFiles (angle (314 + 1))
            (registers {} (emitted twice (first + 7))).model)) :=
  reloads_never_jam twice_issued .initFiles (fun _ => 0) (fun _ => 0) early
    ⟨12, by rw [twice, emitted_eachClock]; decide⟩
    (fun n => ⟨n + 3, Nat.le_add_right n 3, decide_eq_true (Nat.le_add_left 3 n)⟩) 314

end Gpu

end WireframeGpu
