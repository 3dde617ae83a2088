import WireframeGpu.Top.Loading

namespace WireframeGpu

open WireframeGpu.Data WireframeGpu.Software

/-! Which model a frame is projected from, when the loader is executed again and again.
Top looks at the start bit in `WAIT2` only: the first frame waits for the first model, and
every later one has to find the bus at rest. -/

namespace Software

/-- A number of executions that are over has left the start bit high. -/
theorem Whole.high {Value : Type} [BEq Value] [OfNat Value 1] {stores : List Store}
    (whole : Whole Value stores) (some : stores ≠ []) (bit : Bool) :
    startBit bit stores = true := by
  obtain ⟨executions, each, rfl⟩ := whole
  rcases List.eq_nil_or_concat executions with rfl | ⟨others, last, rfl⟩
  · exact (some rfl).elim
  · rw [List.concat_eq_append, List.flatten_append, startBit_append, List.flatten_singleton]
    exact Execution.high (each last (by simp)) _

/-- No store changes a coordinate between the start of a frame and the clock in which the
frame reads it: 7 clocks for `x`, and 48 for `y` and `z`, which are turned into each other. -/
def Spared (schedule : Nat → Option Store) (first : Nat) : Prop :=
  ∀ k s, first ≤ k → schedule k = some s → s.index < 108 →
    k < first + (if s.index < 36 then 7 else 48) →
    s.value = (registers {} (emitted schedule first)).regs (BitVec.ofNat 7 s.index)

/-- The register still holds what it held when the frame started. -/
theorem Spared.held {schedule : Nat → Option Store} {first k index : Nat}
    (spared : Spared schedule first) (inside : index < 108) (after : first ≤ k)
    (before : k ≤ first + (if index < 36 then 7 else 48)) :
    (registers {} (emitted schedule k)).regs (BitVec.ofNat 7 index) =
      (registers {} (emitted schedule first)).regs (BitVec.ofNat 7 index) := by
  induction k, after using Nat.le_induction with
  | base => rfl
  | succ k after ih =>
      have still := ih (Nat.le_of_succ_le before)
      rw [emitted_succ, registers_append]
      cases store : schedule k with
      | none => exact still
      | some s =>
          show ((registers {} (emitted schedule k)).clock s.bus).regs _ = _
          by_cases here : s.index = index
          · subst here
            rw [Store.clock_regs (by omega), if_pos rfl]
            exact spared k s after store inside before
          · rw [Store.clock_other (by omega) here]
            exact still

end Software

namespace Gpu

open PolygonRaster

variable {m : Megafunctions} {buffer1 buffer2 : FrameBuffer} {schedule : Nat → Option Store}
  {switched : Nat → Bool}

theorem caught_of_spared {first : Nat} (spared : Spared schedule first) :
    caught m (powerUp buffer1 buffer2) (driven schedule switched) first = fun t v =>
      turned m (angle (frames m (powerUp buffer1 buffer2) (driven schedule switched) first + 1))
        ((registers {} (emitted schedule first)).model t v) := by
  funext t v
  have x : ∀ k, first ≤ k → k ≤ first + 7 → _ := fun k after before =>
    spared.held (k := k) (show 3 * t.val + v < 108 by omega) after
      (by rw [if_pos (by omega)]; exact before)
  have y : ∀ k, first ≤ k → k ≤ first + 48 → _ := fun k after before =>
    spared.held (k := k) (show 36 + (3 * t.val + v) < 108 by omega) after
      (by rw [if_neg (by omega)]; exact before)
  have z : ∀ k, first ≤ k → k ≤ first + 48 → _ := fun k after before =>
    spared.held (k := k) (show 72 + (3 * t.val + v) < 108 by omega) after
      (by rw [if_neg (by omega)]; exact before)
  simp only [caught, Projection.caught, turned, driven_registerfile, Registerfile.Registers.model]
  rw [x (first + 6 + 1) (by omega) (by omega), y (first + 6 + 37) (by omega) (by omega),
    z (first + 6 + 37) (by omega) (by omega), y (first + 6 + 42) (by omega) (by omega),
    z (first + 6 + 42) (by omega) (by omega)]

/-- The start bit is set in a store, so that the bus is no longer empty then. -/
theorem stored_of_begun {n : Nat}
    (begun : (run m (powerUp buffer1 buffer2) (driven schedule switched) n).top.state ≠ .wait2) :
    emitted schedule n ≠ [] := by
  obtain ⟨k, before, high⟩ := high_before begun
  intro none
  have part := emitted_prefix schedule before
  rw [none, List.prefix_nil] at part
  rw [part] at high
  cases high

theorem begun_of_leaves {g : Gpu} {frameSwitched : Bool} (leaves : g.Leaves frameSwitched) :
    g.top.state ≠ .wait2 := by
  intro waits
  simp [Leaves, waits] at leaves

theorem high_of_whole {Value : Type} [BEq Value] [OfNat Value 1] {k : Nat}
    (leaves : (run m (powerUp buffer1 buffer2) (driven schedule switched) k).Leaves (switched k))
    (whole : Whole Value (emitted schedule (k + 1))) :
    (run m (powerUp buffer1 buffer2) (driven schedule switched)
      (k + 1)).registerfile.exportStart.getLsbD 0 = true := by
  rw [start_bit]
  refine whole.high ?_ false
  rw [emitted_succ]
  exact List.append_ne_nil_of_left_ne_nil (stored_of_begun (begun_of_leaves leaves)) _

theorem startRaster_iff_leaves (n : Nat) :
    ((run m (powerUp buffer1 buffer2) (driven schedule switched) n).wires
      (switched n)).startRaster = true ↔
      ∃ k, n = k + 1 ∧
        (run m (powerUp buffer1 buffer2) (driven schedule switched) k).Leaves (switched k) := by
  rw [wires, Top.Registers.startRaster_eq, beq_iff_eq]
  cases n with
  | zero =>
      constructor
      · intro begins
        cases begins
      · rintro ⟨k, before, -⟩
        cases before
  | succ k =>
      constructor
      · exact fun begins => ⟨k, rfl, starts_iff_leaves.mp begins⟩
      · rintro ⟨j, same, leaves⟩
        cases same
        exact starts_iff_leaves.mpr leaves

/-- The start bit is high whenever a frame starts, exactly if no execution is under way at
such an edge; and where from there on no coordinate is changed before it is read, every
frame is projected from the model of executions that are over, and shows it. -/
theorem frames_start_loaded_iff {Value : Type} [BEq Value] [OfNat Value 1] (m : Megafunctions)
    (buffer1 buffer2 : FrameBuffer) (schedule : Nat → Option Store) (switched : Nat → Bool)
    (issued : ∀ n, Issued Value (emitted schedule n)) :
    ((∀ n, ((run m (powerUp buffer1 buffer2) (driven schedule switched) n).wires
          (switched n)).startRaster = true →
        (run m (powerUp buffer1 buffer2) (driven schedule switched)
          n).registerfile.exportStart.getLsbD 0 = true) ↔
      ∀ k, (run m (powerUp buffer1 buffer2) (driven schedule switched) k).Leaves (switched k) →
        Whole Value (emitted schedule (k + 1))) ∧
    ((∀ k, (run m (powerUp buffer1 buffer2) (driven schedule switched) k).Leaves (switched k) →
        Whole Value (emitted schedule (k + 1)) ∧ Spared schedule (k + 1)) →
      ∀ n, ((run m (powerUp buffer1 buffer2) (driven schedule switched) n).wires
          (switched n)).startRaster = true →
        (run m (powerUp buffer1 buffer2) (driven schedule switched)
          n).registerfile.exportStart.getLsbD 0 = true ∧
        Whole Value (emitted schedule n) ∧
        (caught m (powerUp buffer1 buffer2) (driven schedule switched) n = fun t v =>
          turned m (angle (frames m (powerUp buffer1 buffer2) (driven schedule switched) n + 1))
            ((registers {} (emitted schedule n)).model t v)) ∧
        ∀ last, FrameAt m (powerUp buffer1 buffer2) (driven schedule switched) n last →
          (run m (powerUp buffer1 buffer2) (driven schedule switched) last).top.state.phase =
            .finished →
          (run m (powerUp buffer1 buffer2) (driven schedule switched) last).target.Shows
            (wireframe m
              (angle (frames m (powerUp buffer1 buffer2) (driven schedule switched) n + 1))
              (registers {} (emitted schedule n)).model)) := by
  refine ⟨⟨fun gated k leaves => ?_, fun rests n begins => ?_⟩, fun rests n begins => ?_⟩
  · have high := gated (k + 1) ((startRaster_iff_leaves (k + 1)).mpr ⟨k, rfl, leaves⟩)
    exact (issued (k + 1)).whole ((start_bit (k + 1)).symm.trans high)
  · obtain ⟨k, rfl, leaves⟩ := (startRaster_iff_leaves n).mp begins
    exact high_of_whole leaves (rests k leaves)
  · obtain ⟨k, rfl, leaves⟩ := (startRaster_iff_leaves n).mp begins
    obtain ⟨whole, spared⟩ := rests k leaves
    refine ⟨high_of_whole leaves whole, whole, caught_of_spared spared, fun last frame done => ?_⟩
    have shows := finished_caught frame done
    rw [caught_of_spared spared] at shows
    exact shows

/-! The triangle, and from clock 100 on, while the first frame is drawn, a second model. -/

def wedge : List (Line Int) :=
  [.v 1 1 1, .v (-1) 1 1, .v 1 (-1) 1, .v (-1) (-1) (-1), .f 1 2 3, .f 2 3 4]

def wedgeStores : List Store :=
  ⟨126, 0⟩ :: writes 0 [((1 : Int), (1 : Int), (1 : Int)), (-1, 1, 1), (1, -1, 1), (-1, 1, 1),
    (1, -1, 1), (-1, -1, -1)] ++ [⟨127, 2⟩, ⟨126, 1⟩]

theorem wedge_execution : Execution Int wedgeStores := ⟨wedge, by decide⟩

def renewed (k : Nat) : Option Store :=
  if k < 100 then triangleStores[k]? else wedgeStores[k - 100]?

theorem emitted_renewed {n : Nat} (before : n ≤ 100) :
    emitted renewed n = triangleStores.take n := by
  induction n with
  | zero => rfl
  | succ n ih =>
      rw [emitted_succ, ih (Nat.le_of_succ_le before), renewed, if_pos (Nat.lt_of_succ_le before),
        List.take_add_one]

theorem emitted_renewed_later (n : Nat) :
    emitted renewed (100 + n) = triangleStores ++ wedgeStores.take n := by
  induction n with
  | zero => exact emitted_renewed le_rfl
  | succ n ih =>
      rw [← Nat.add_assoc, emitted_succ, ih, renewed,
        if_neg (Nat.not_lt.mpr (Nat.le_add_right 100 n)),
        Nat.add_sub_cancel_left, List.append_assoc, List.take_add_one]

theorem renewed_executions : ∀ e ∈ [triangleStores, wedgeStores], Execution Int e := by
  intro e listed
  rcases List.mem_pair.mp listed with rfl | rfl
  · exact triangle_execution
  · exact wedge_execution

theorem renewed_issued (n : Nat) : Issued Int (emitted renewed n) := by
  refine ⟨[triangleStores, wedgeStores], renewed_executions, ?_⟩
  have part := emitted_prefix renewed (Nat.le_add_left n 100)
  rw [emitted_renewed_later] at part
  exact part.trans ((List.prefix_append_right_inj _).mpr (List.take_prefix n wedgeStores))

/-- Between clocks 12 and 99 the bus is at rest, and from 121 on. -/
theorem renewed_rests {k : Nat} (first : 12 ≤ k) (second : k < 100 ∨ 121 ≤ k) :
    renewed k = none := by
  have short : triangleStores.length = 12 ∧ wedgeStores.length = 21 := by decide
  rw [renewed]
  split
  · exact List.getElem?_eq_none (by omega)
  · exact List.getElem?_eq_none (by omega)

/-- The first frame starts in clock 14, and the second one later than clock 156. -/
theorem renewed_leaves {k : Nat}
    (leaves : (run m (powerUp buffer1 buffer2) (driven renewed switched) k).Leaves (switched k)) :
    k = 13 ∨ 156 ≤ k := by
  have loads : ∀ n ≤ 12, emitted renewed n = triangleStores.take n :=
    fun n inside => emitted_renewed (by omega)
  have begins : (run m (powerUp buffer1 buffer2) (driven renewed switched) 14).top.state.phase =
      .start := by
    rw [triangle_starts loads]
    rfl
  obtain ⟨frame, -⟩ := frame_in_step (startRaster_of_start begins)
  by_contra elsewhere
  rcases Nat.lt_or_ge 12 k with after | waiting
  · have again :
        (run m (powerUp buffer1 buffer2) (driven renewed switched) (k + 1)).top.state.phase =
          .start := starts_iff_leaves.mpr leaves
    cases (startRaster_of_start again).symm.trans (frame.only (k + 1) (by omega) (by omega))
  · exact begun_of_leaves leaves (triangle_waits loads m buffer1 buffer2 switched waiting)

theorem frames_start_loaded_iff_renewed :
    ((run .initFiles (powerUp (fun _ => 0) (fun _ => 0)) (driven renewed early) 14).wires
        (early 14)).startRaster = true ∧
      ∀ n, ((run .initFiles (powerUp (fun _ => 0) (fun _ => 0)) (driven renewed early) n).wires
          (early n)).startRaster = true →
        (run .initFiles (powerUp (fun _ => 0) (fun _ => 0)) (driven renewed early)
          n).registerfile.exportStart.getLsbD 0 = true ∧
        Whole Int (emitted renewed n) ∧
        (caught .initFiles (powerUp (fun _ => 0) (fun _ => 0)) (driven renewed early) n = fun t v =>
          turned .initFiles (angle (frames .initFiles (powerUp (fun _ => 0) (fun _ => 0))
            (driven renewed early) n + 1)) ((registers {} (emitted renewed n)).model t v)) ∧
        ∀ last, FrameAt .initFiles (powerUp (fun _ => 0) (fun _ => 0))
          (driven renewed early) n last →
          (run .initFiles (powerUp (fun _ => 0) (fun _ => 0)) (driven renewed early)
            last).top.state.phase = .finished →
          (run .initFiles (powerUp (fun _ => 0) (fun _ => 0)) (driven renewed early)
            last).target.Shows (wireframe .initFiles (angle (frames .initFiles
              (powerUp (fun _ => 0) (fun _ => 0)) (driven renewed early) n + 1))
                (registers {} (emitted renewed n)).model) := by
  constructor
  · rw [wires, Top.Registers.startRaster_eq,
      triangle_starts fun n inside => emitted_renewed (Nat.le_trans inside (by decide))]
    rfl
  · refine (frames_start_loaded_iff .initFiles (fun _ => 0) (fun _ => 0) renewed early
      renewed_issued).2 fun k leaves => ?_
    rcases renewed_leaves leaves with rfl | after
    · refine ⟨⟨[triangleStores], List.forall_mem_singleton.mpr triangle_execution, ?_⟩, ?_⟩
      · rw [emitted_renewed (by decide)]
        decide
      · intro k s later store _ before
        rw [renewed_rests (by omega) (.inl (by split at before <;> omega))] at store
        cases store
    · obtain ⟨n, rfl⟩ := Nat.exists_eq_add_of_le after
      refine ⟨⟨[triangleStores, wedgeStores], renewed_executions, ?_⟩, ?_⟩
      · rw [show 156 + n + 1 = 100 + (57 + n) by omega, emitted_renewed_later,
          List.take_of_length_le (show 21 ≤ 57 + n by omega)]
        rfl
      · intro k s later store _ before
        rw [renewed_rests (by omega) (.inr (by omega))] at store
        cases store

def noFaces : List Store := [⟨126, 0⟩, ⟨127, 0⟩, ⟨126, 1⟩]

theorem noFaces_execution : Execution Int noFaces := ⟨[.other], rfl⟩

/-- A first execution, and the first store of a second one. -/
def reload : Nat → Option Store
  | 0 => some ⟨126, 0⟩
  | 1 => some ⟨127, 0⟩
  | 2 => some ⟨126, 1⟩
  | k + 3 => if k = 299997 then some ⟨126, 0⟩ else none

def switch (k : Nat) : Bool := 300001 ≤ k

theorem emitted_reload {n : Nat} (loaded : 3 ≤ n) :
    emitted reload n = noFaces ++ if 300000 < n then [⟨126, 0⟩] else [] := by
  induction n, loaded using Nat.le_induction with
  | base => rfl
  | succ n loaded ih =>
      obtain ⟨k, rfl⟩ := Nat.exists_eq_add_of_le' loaded
      rw [emitted_succ, ih, reload, List.append_assoc]
      congr 1
      rcases Nat.lt_trichotomy k 299997 with before | rfl | after
      · rw [if_neg (by omega), if_neg (by omega), if_neg (by omega)]
        rfl
      · rfl
      · rw [if_pos (by omega), if_neg (by omega), if_pos (by omega)]
        rfl

theorem reload_issued (n : Nat) : Issued Int (emitted reload n) := by
  refine ⟨[noFaces, noFaces], fun e member => ?_, ?_⟩
  · obtain rfl : e = noFaces := by simpa using member
    exact noFaces_execution
  · have whole : emitted reload n <+: emitted reload (n + 300001) :=
      emitted_prefix reload (Nat.le_add_right n _)
    rw [emitted_reload (n := n + 300001) (by omega), if_pos (by omega)] at whole
    exact whole.trans ⟨[⟨127, 0⟩, ⟨126, 1⟩], rfl⟩

def second (k : Nat) : Inputs where
  bus := bus (if k = 299997 then some ⟨126, 0⟩ else none)
  frameSwitched := switch (k + 3)

theorem second_blank : Blank second := by
  intro k written _
  by_cases stores : k = 299997
  · simp [second, stores, bus, Store.bus]
  · simp [second, stores, bus] at written

theorem driven_reload : driven reload switch = boot 0 second := by
  funext k
  match k with
  | 0 | 1 | 2 => simp [driven, reload, boot, bus, switch]
  | k + 3 => rfl

/-- The start word is cleared while top waits in `S1`, and the next frame starts all
the same. -/
theorem second_load_starts_frame :
    (∀ n, Issued Int (emitted reload n)) ∧
    ¬ ∀ n, ((run .initFiles (powerUp (fun _ => 0) (fun _ => 0)) (driven reload switch) n).wires
        (switch n)).startRaster = true →
      (run .initFiles (powerUp (fun _ => 0) (fun _ => 0)) (driven reload switch)
        n).registerfile.exportStart.getLsbD 0 = true := by
  refine ⟨reload_issued, fun gated => ?_⟩
  have starts := gated 300002
  have waits : (run .initFiles (powerUp (fun _ => 0) (fun _ => 0)) (driven reload switch)
      300001).top.state = .s1 := by
    rw [driven_reload]
    obtain ⟨n, -, upper, -, state⟩ := boot_frame .initFiles (fun _ => 0) (fun _ => 0) 0 second_blank
    refine (finished_waits (n := n) (by omega) (by rw [state]; rfl) fun k _ before =>
      ?_).trans state
    rw [← driven_reload]
    simpa [driven, switch] using before
  have begins : (run .initFiles (powerUp (fun _ => 0) (fun _ => 0)) (driven reload switch)
      300002).top.state.phase = .start :=
    starts_iff_leaves.mpr (.inr ⟨.inl waits, by simp [driven, switch]⟩)
  rw [start_bit, emitted_reload (by omega), if_pos (by omega), wires,
    Top.Registers.startRaster_eq, begins] at starts
  exact absurd (starts rfl) (by decide)

end Gpu

end WireframeGpu
