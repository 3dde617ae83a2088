import WireframeGpu.Data.Interleaving
import WireframeGpu.Display.DoubleBuffer
import WireframeGpu.Top.Loading

namespace WireframeGpu

open WireframeGpu.Data WireframeGpu.Software WireframeGpu.Top

/-! What stands on the screen while the renderer works: whole pictures only, as long
as no frame is switched twice. -/

namespace Board

variable {m : Megafunctions} {buffer1 buffer2 : FrameBuffer} {schedule : Nat → Option Store}
  {falls : Nat → Bool} {stores : List Store} {n last : Nat}

/-- The buffer that the display reads. -/
def displayed (b : Board) : FrameBuffer := if b.screen.select then b.gpu.buffer2 else b.gpu.buffer1

/-- The clock edges, with the stores of the loader, and between them the falling
edges of `VGA_VS`. -/
def timed (schedule : Nat → Option Store) (falls : Nat → Bool) (n : Nat) : Event :=
  if falls n then .vsFalling else .clock50 (bus (schedule n))

/-- The stores that meet a clock edge. -/
def sent (schedule : Nat → Option Store) (falls : Nat → Bool) (n : Nat) : Option Store :=
  if falls n then none else schedule n

/-- How often `startRaster` has been given. -/
def frames (m : Megafunctions) (start : Board) (events : Nat → Event) : Nat → Nat
  | 0 => 0
  | n + 1 =>
      match events n with
      | .vsFalling => frames m start events n
      | .clock50 _ =>
          if (run m start events n).wires.startRaster then frames m start events n + 1
          else frames m start events n

/-! The renderer hears the clock, and each edge of it with a store and the flag of
the display. -/

def heard (m : Megafunctions) (buffer1 buffer2 : FrameBuffer) (schedule : Nat → Option Store)
    (falls : Nat → Bool) (n : Nat) : Option (Option Store × Bool) :=
  if falls n then none
  else some (schedule n,
    (run m (powerUp buffer1 buffer2) (timed schedule falls) n).screen.frameSwitched)

theorem heard_falls (edge : falls n = true) : heard m buffer1 buffer2 schedule falls n = none :=
  if_pos edge

theorem heard_clock (clock : falls n = false) : heard m buffer1 buffer2 schedule falls n =
    some (schedule n,
      (run m (powerUp buffer1 buffer2) (timed schedule falls) n).screen.frameSwitched) :=
  if_neg (Bool.eq_false_iff.mp clock)

/-- The clock edges among the first events. -/
def cycle (falls : Nat → Bool) (n : Nat) : Nat :=
  ticks (fun k => if falls k then none else some ()) n

theorem cycle_eq (m : Megafunctions) (buffer1 buffer2 : FrameBuffer)
    (schedule : Nat → Option Store) (falls : Nat → Bool) (n : Nat) :
    ticks (heard m buffer1 buffer2 schedule falls) n = cycle falls n := by
  refine ticks_congr (fun k => ?_) n
  rw [heard]
  cases falls k <;> rfl

theorem cycle_falls (edge : falls n = true) : cycle falls (n + 1) = cycle falls n :=
  ticks_silent (if_pos edge)

theorem cycle_clock (clock : falls n = false) : cycle falls (n + 1) = cycle falls n + 1 :=
  ticks_heard (if_neg (Bool.eq_false_iff.mp clock))

/-- What the renderer is given, clock by clock, in the first `last` events. -/
def ownInputs (m : Megafunctions) (buffer1 buffer2 : FrameBuffer) (schedule : Nat → Option Store)
    (falls : Nat → Bool) (last : Nat) : Nat → Gpu.Inputs :=
  Gpu.driven (fun k => (own (heard m buffer1 buffer2 schedule falls) (none, false) last k).1)
    fun k => (own (heard m buffer1 buffer2 schedule falls) (none, false) last k).2

theorem ownInputs_clock (before : n < last) (clock : falls n = false) :
    ownInputs m buffer1 buffer2 schedule falls last (cycle falls n) = ⟨bus (schedule n),
      (run m (powerUp buffer1 buffer2) (timed schedule falls) n).screen.frameSwitched⟩ := by
  rw [ownInputs, Gpu.driven, ← cycle_eq m buffer1 buffer2 schedule,
    own_given _ _ last n before _ (heard_clock clock)]

theorem gpu_own (before : n ≤ last) :
    (run m (powerUp buffer1 buffer2) (timed schedule falls) n).gpu =
      Gpu.run m (Gpu.powerUp buffer1 buffer2) (ownInputs m buffer1 buffer2 schedule falls last)
        (cycle falls n) := by
  rw [← cycle_eq m buffer1 buffer2 schedule]
  refine ((own_given _ _ last).trace (fun e : Option Store × Bool => Gpu.Inputs.mk (bus e.1) e.2)
    (fun k => (run m (powerUp buffer1 buffer2) (timed schedule falls) k).gpu)
    (fun k silent => ?_) (fun k event hears => ?_) before).symm
  · cases edge : falls k
    · cases (heard_clock edge).symm.trans silent
    · rw [run_succ, timed, if_pos edge]
      rfl
  · cases edge : falls k
    · obtain rfl := Option.some.inj ((heard_clock edge).symm.trans hears)
      rw [run_succ, timed, edge]
      rfl
    · cases (heard_falls edge).symm.trans hears

theorem frames_own (before : n ≤ last) :
    frames m (powerUp buffer1 buffer2) (timed schedule falls) n =
      Gpu.frames m (Gpu.powerUp buffer1 buffer2) (ownInputs m buffer1 buffer2 schedule falls last)
        (cycle falls n) := by
  induction n with
  | zero => rfl
  | succ n ih =>
      have earlier := ih (Nat.le_of_succ_le before)
      cases edge : falls n
      · simp only [frames, timed, edge, Bool.false_eq_true, ↓reduceIte,
          cycle_clock edge, Gpu.frames]
        rw [ownInputs_clock before edge, ← gpu_own (Nat.le_of_succ_le before), ← earlier]
        rfl
      · simp only [frames, timed, edge, ↓reduceIte, cycle_falls edge, earlier]

theorem heard_store (m : Megafunctions) (buffer1 buffer2 : FrameBuffer)
    (schedule : Nat → Option Store) (falls : Nat → Bool) :
    (fun k => (heard m buffer1 buffer2 schedule falls k).bind Prod.fst) = sent schedule falls := by
  funext k
  rw [heard, sent]
  split <;> rfl

theorem emitted_own_sent (m : Megafunctions) (buffer1 buffer2 : FrameBuffer) (n : Nat) :
    emitted (fun k => (own (heard m buffer1 buffer2 schedule falls) (none, false) n k).1)
      (cycle falls n) = emitted (sent schedule falls) n := by
  rw [← cycle_eq m buffer1 buffer2 schedule, ← heard_store m buffer1 buffer2]
  exact (own_given _ _ n).emitted Prod.fst le_rfl

theorem carries_own (carries : Gpu.Carries (sent schedule falls) stores) : Gpu.Carries
    (fun k => (own (heard m buffer1 buffer2 schedule falls) (none, false) last k).1) stores := by
  intro k
  have whole := carries last
  rw [← heard_store m buffer1 buffer2] at whole
  exact (emitted_own_part Prod.fst rfl k).trans whole

theorem posed_own {Value : Type} [BEq Value] [OfNat Value 1] (execution : Execution Value stores)
    (buffer1 buffer2 : FrameBuffer) (carries : Gpu.Carries (sent schedule falls) stores)
    (last : Nat) : Gpu.Posed .initFiles (Gpu.powerUp buffer1 buffer2)
      (ownInputs .initFiles buffer1 buffer2 schedule falls last) (registers {} stores).model :=
  Gpu.loaded_posed execution (carries_own carries) buffer1 buffer2 _

/-- The picture on screen: the one just finished once it is handed over, the one
before it until then. -/
def shown (b : Board) (count edges : Nat) : Nat :=
  if b.gpu.top.state.phase = .finished ∧ edges % 2 = 1 then count else b.gpu.complete count

theorem Aligned.displayed {b : Board} {edges : Nat} (aligned : Aligned b edges) :
    b.displayed = if b.gpu.top.state.phase = .finished ∧ edges % 2 = 1 then b.gpu.target
      else b.gpu.other := by
  rw [Board.displayed, aligned, due, Gpu.target, Gpu.other]
  split <;> cases b.gpu.top.state.second <;> rfl

theorem Aligned.shows {Value : Type} [BEq Value] [OfNat Value 1]
    (execution : Execution Value stores) (carries : Gpu.Carries (sent schedule falls) stores)
    {edges : Nat}
    (aligned : Aligned (run .initFiles (powerUp buffer1 buffer2) (timed schedule falls) n) edges)
    (positive : 1 ≤ (run .initFiles (powerUp buffer1 buffer2) (timed schedule falls) n).shown
      (frames .initFiles (powerUp buffer1 buffer2) (timed schedule falls) n) edges) :
    (run .initFiles (powerUp buffer1 buffer2) (timed schedule falls) n).displayed.Shows
      (Gpu.wireframe .initFiles (Gpu.angle
        ((run .initFiles (powerUp buffer1 buffer2) (timed schedule falls) n).shown
          (frames .initFiles (powerUp buffer1 buffer2) (timed schedule falls) n) edges))
        (registers {} stores).model) := by
  obtain ⟨exhibited, done⟩ := (posed_own execution buffer1 buffer2 carries n).exhibited
    (cycle falls n)
  rw [← gpu_own le_rfl, ← frames_own le_rfl] at exhibited done
  rw [aligned.displayed]
  simp only [shown] at positive ⊢
  split <;> rename_i handed
  · exact done handed.1
  · rw [if_neg handed] at positive
    exact exhibited.aside positive

/-- If every frame that top takes as switched was switched an odd number of times,
the screen shows whole pictures of the loaded model in every moment: none is torn
and none half cleared. -/
theorem displays_whole_pictures {Value : Type} [BEq Value] [OfNat Value 1]
    (execution : Execution Value stores) (buffer1 buffer2 : FrameBuffer)
    (schedule : Nat → Option Store) (falls : Nat → Bool)
    (carries : Gpu.Carries (sent schedule falls) stores) (n : Nat)
    (met : ∀ k < n, Switches (run .initFiles (powerUp buffer1 buffer2) (timed schedule falls) k)
        (timed schedule falls k) →
      edges .initFiles (powerUp buffer1 buffer2) (timed schedule falls) k % 2 = 1) :
    let b := run .initFiles (powerUp buffer1 buffer2) (timed schedule falls) n
    let count := b.shown (frames .initFiles (powerUp buffer1 buffer2) (timed schedule falls) n)
      (edges .initFiles (powerUp buffer1 buffer2) (timed schedule falls) n)
    1 ≤ count → b.displayed.Shows
      (Gpu.wireframe .initFiles (Gpu.angle count) (registers {} stores).model) := by
  intro b count positive
  exact (aligned_run met).shows execution carries positive

/-! The first picture of a triangle is handed over by one edge of `VGA_VS`. -/

def onlyAt (edge k : Nat) : Bool := k == edge

/-- Edges of `VGA_VS` after the last store keep no store back. -/
theorem sent_late (late : ∀ k < stores.length, falls k = false) :
    sent (Gpu.eachClock stores) falls = Gpu.eachClock stores := by
  funext k
  rw [sent]
  split
  · rename_i edge
    refine (List.getElem?_eq_none_iff.mpr ?_).symm
    by_contra early
    cases edge.symm.trans (late k (Nat.not_le.mp early))
  · rfl

theorem onlyAt_late {edge : Nat} (late : triangleStores.length ≤ edge) :
    ∀ k < triangleStores.length, onlyAt edge k = false :=
  fun _ before => beq_false_of_ne (Nat.ne_of_lt (Nat.lt_of_lt_of_le before late))

theorem before_edge {edge k : Nat} (before : k ≤ edge) :
    (run .initFiles (powerUp (fun _ => 0) (fun _ => 0))
        (timed (Gpu.eachClock triangleStores) (onlyAt edge)) k).gpu =
      Gpu.run .initFiles (Gpu.powerUp (fun _ => 0) (fun _ => 0))
        (Gpu.driven (Gpu.eachClock triangleStores) fun _ => false) k ∧
    (run .initFiles (powerUp (fun _ => 0) (fun _ => 0))
        (timed (Gpu.eachClock triangleStores) (onlyAt edge)) k).screen = {} := by
  have synced : (run .initFiles (powerUp (fun _ => 0) (fun _ => 0))
      (timed (Gpu.eachClock triangleStores) (onlyAt edge)) 0).gpu =
      Gpu.run .initFiles (Gpu.powerUp (fun _ => 0) (fun _ => 0))
        (Gpu.driven (Gpu.eachClock triangleStores) fun _ => false) 0 := rfl
  have clocks : ∀ j < edge, timed (Gpu.eachClock triangleStores) (onlyAt edge) (0 + j) =
      .clock50 (Gpu.driven (Gpu.eachClock triangleStores) (fun _ => false) (0 + j)).bus := by
    intro j inside
    have away : onlyAt edge (0 + j) = false := by simpa [onlyAt] using Nat.ne_of_lt inside
    rw [timed, away]
    rfl
  have follows := run_follows synced clocks (fun _ _ => rfl) before
  rwa [Nat.zero_add] at follows

theorem onlyAt_edges (edge : Nat) :
    edges .initFiles (powerUp (fun _ => 0) (fun _ => 0))
      (timed (Gpu.eachClock triangleStores) (onlyAt edge)) (edge + 1) = 1 := by
  have clocks : ∀ k < edge, ∃ bus, timed (Gpu.eachClock triangleStores) (onlyAt edge) k =
      .clock50 bus := fun k before =>
    ⟨_, if_neg (by simpa [onlyAt] using Nat.ne_of_lt before)⟩
  have event : timed (Gpu.eachClock triangleStores) (onlyAt edge) edge = .vsFalling :=
    if_pos (by simp [onlyAt])
  simp only [edges, event, edges_zero clocks]

theorem onlyAt_met (edge : Nat) : ∀ k < edge + 1,
    Switches (run .initFiles (powerUp (fun _ => 0) (fun _ => 0))
        (timed (Gpu.eachClock triangleStores) (onlyAt edge)) k)
        (timed (Gpu.eachClock triangleStores) (onlyAt edge) k) →
      edges .initFiles (powerUp (fun _ => 0) (fun _ => 0))
        (timed (Gpu.eachClock triangleStores) (onlyAt edge)) k % 2 = 1 := by
  rintro k before ⟨-, -, flag⟩
  rw [(before_edge (Nat.le_of_lt_succ before)).2] at flag
  cases flag

theorem displays_whole_pictures_triangle :
    ∃ edge,
      let b := run .initFiles (powerUp (fun _ => 0) (fun _ => 0))
        (timed (Gpu.eachClock triangleStores) (onlyAt edge)) (edge + 1)
      let count := b.shown (frames .initFiles (powerUp (fun _ => 0) (fun _ => 0))
          (timed (Gpu.eachClock triangleStores) (onlyAt edge)) (edge + 1))
        (edges .initFiles (powerUp (fun _ => 0) (fun _ => 0))
          (timed (Gpu.eachClock triangleStores) (onlyAt edge)) (edge + 1))
      1 ≤ count ∧ b.displayed.Shows
        (Gpu.wireframe .initFiles (Gpu.angle count) (registers {} triangleStores).model) := by
  have posed := Gpu.loaded_posed triangle_execution (Gpu.eachClock_carries triangleStores)
    (fun _ => 0) (fun _ => 0) fun _ => false
  obtain ⟨first, starts, -⟩ := Gpu.first_begins (Gpu.loaded_begins triangle_execution (fun _ => 0)
    (fun _ => 0) (fun _ => false) (Gpu.eachClock_through triangleStores))
  obtain ⟨edge, -, -, frame, finished, -⟩ := posed.completes starts
  have whole := Gpu.begun_whole triangle_execution (Gpu.eachClock_carries triangleStores)
    (Gpu.begun_of_phase (by rw [finished]; decide))
  have late : triangleStores.length ≤ edge := by
    rw [Gpu.emitted_eachClock] at whole
    have lengths := congrArg List.length whole
    rw [List.length_take] at lengths
    omega
  have carries :
      Gpu.Carries (sent (Gpu.eachClock triangleStores) (onlyAt edge)) triangleStores := by
    rw [sent_late (onlyAt_late late)]
    exact Gpu.eachClock_carries triangleStores
  have phase : (run .initFiles (powerUp (fun _ => 0) (fun _ => 0))
      (timed (Gpu.eachClock triangleStores) (onlyAt edge)) (edge + 1)).gpu.top.state.phase =
      .finished := by
    rw [run_succ, timed, if_pos (by simp [onlyAt])]
    show (run _ _ _ edge).gpu.top.state.phase = _
    rw [(before_edge le_rfl).1, finished]
  have exhibited := ((posed_own triangle_execution (fun _ => 0) (fun _ => 0) carries
    (edge + 1)).exhibited (cycle (onlyAt edge) (edge + 1))).1
  rw [← gpu_own le_rfl, ← frames_own le_rfl] at exhibited
  have positive := exhibited.begun (by rw [phase]; decide) (by rw [phase]; decide)
  refine ⟨edge, ?_⟩
  intro b count
  have handed : count = frames .initFiles (powerUp (fun _ => 0) (fun _ => 0))
      (timed (Gpu.eachClock triangleStores) (onlyAt edge)) (edge + 1) :=
    if_pos ⟨phase, by rw [onlyAt_edges]⟩
  have one : 1 ≤ count := handed ▸ positive
  exact ⟨one, displays_whole_pictures triangle_execution (fun _ => 0) (fun _ => 0) _ _ carries
    (edge + 1) (onlyAt_met edge) one⟩

end Board

end WireframeGpu
