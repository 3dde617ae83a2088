import WireframeGpu.Polygon.Frame

namespace WireframeGpu.PolygonRaster

open WireframeGpu.Data TriangleProjection Linerasterize

/-! Every frame of the raster core.  Its environment only has to keep
`startRaster` for the end of a frame. -/

variable {m : Megafunctions} {r : Registers} {i : Inputs} {pushed : Pushed}

structure Sound (r : Registers) (pushed : Pushed) : Prop where
  phased : Phased r
  framed : Framed r pushed

/-- The scan waits for a line that reaches coordinate 511, and will for ever. -/
structure Stuck (r : Registers) : Prop where
  settled : ∀ t, Settled (r.triangles t)
  rasterDone : r.rasterDone = false
  unending : ∃ line, Unending (r.ends line) (r.lines line) ∧
    match r.state with
    | .start | .s1 => r.counter.toNat ≤ line.val
    | .s3 => r.counter.toNat < line.val
    | _ => False

theorem sound_powerUp : Sound {} (fun _ => []) :=
  ⟨phased_powerUp, fun _ => ⟨rfl, rfl⟩, nofun⟩

theorem Sound.settled (sound : Sound r pushed)
    (late : r.state = .startrast ∨ r.state = .start ∨ r.state = .s3 ∨ r.state = .s1 ∨
      r.state = .s4 ∨ r.state = .s5 ∨ r.state = .s6) : ∀ t, Settled (r.triangles t) := by
  have phased := sound.phased
  rcases late with state | state | state | state | state | state | state <;>
    simpa only [Phased, state] using phased

/-- The lines stay below coordinate 511 when they are started. -/
def StartsBelow (r : Registers) : Prop :=
  r.state = .startrast → ∀ line, (segment r line).majorMax ≠ 511

theorem Sound.step (sound : Sound r pushed) (gate : i.startRaster = true → r.state = .initial)
    (below : StartsBelow r) : Sound (r.clock m i) (record r i pushed) := by
  refine ⟨sound.phased.step, ?_⟩
  have framed := sound.framed
  have idle : r.state ≠ .initial → i.startRaster = false := fun busy =>
    Bool.eq_false_iff.mpr (mt gate busy)
  cases state : r.state
  case initial => exact framed_initial state framed
  case test4 | test3 | test2 | test1 | startproj =>
    exact framed_early (idle (by simp [state])) framed (by simp [state])
  case s2 | s7 => simp only [Framed, state] at framed
  all_goals
    have settled := sound.settled (by simp [state])
    have same := triangles_hold (m := m) (i := i) settled (by simp [state])
    have idle := idle (by simp [state])
  case startrast => exact framed_startrast idle state framed same (below state)
  case start => exact framed_start idle state framed same
  case s3 => exact framed_s3 idle state framed same
  case s1 => exact framed_s1 idle state framed same
  case s4 => exact framed_s4 idle state framed same
  case s5 => exact framed_s5 idle state framed same
  case s6 => exact framed_s6 idle state framed settled same

theorem stuck_of_startrast (sound : Sound r pushed) (idle : i.startRaster = false)
    (state : r.state = .startrast) (top : ¬ StartsBelow r) : Stuck (r.clock m i) := by
  have framed := sound.framed
  simp only [Framed, state] at framed
  obtain ⟨fresh, empty⟩ := framed
  have settled := sound.settled (by simp [state])
  have same := triangles_hold (m := m) (i := i) settled (by simp [state])
  simp only [StartsBelow, state, forall_const, not_forall, not_not] at top
  obtain ⟨line, top⟩ := top
  obtain ⟨steady, next, counter⟩ := clock_startrast (m := m) idle state
  have high : (r.comb i).start line = true := by rw [start_eq, state]; rfl
  have clocked : (r.clock m i).lines line = (r.lines line).clock ⟨r.ends line, true⟩ := by
    rw [← high]
    rfl
  refine ⟨by rwa [same], steady.rasterDone.trans fresh.rasterDone, line, ?_, ?_⟩
  · rw [ends_congr same, clocked]
    exact unending_of_start (empty line).1.state top
  · rw [next, counter, fresh.counter]
    exact Nat.zero_le _

/-- Nothing on the ports gets a stuck core going again, short of a reset. -/
theorem Stuck.step (stuck : Stuck r) (idle : i.startRaster = false) : Stuck (r.clock m i) := by
  obtain ⟨settled, rasterDone, line, unending, place⟩ := stuck
  have small := line.isLt
  cases state : r.state <;> simp only [state] at place
  all_goals
    have same := triangles_hold (m := m) (i := i) settled (by simp [state])
    have clocked := (line_clock (m := m) (i := i) (r := r) (by simp [state]) line).1
    have unending' : Unending ((r.clock m i).ends line) ((r.clock m i).lines line) := by
      rw [ends_congr same, clocked]
      exact unending.step
    have settled' : ∀ t, Settled ((r.clock m i).triangles t) := by rwa [same]
  case start =>
    have inside : r.counter.toNat < 36 := by omega
    obtain ⟨steady, counter, next⟩ := clock_start (m := m) idle state inside
    refine ⟨settled', steady.rasterDone.trans rasterDone, line, unending', ?_⟩
    rw [counter, next]
    rcases Nat.lt_or_eq_of_le place with before | here
    · split <;> rename_i at_ <;> split at at_ <;> simp_all
    · have current : (⟨r.counter.toNat, inside⟩ : Fin 36) = line := Fin.ext here
      rw [current, unending.working.1, unending.working.2]
      exact place
  case s3 =>
    obtain ⟨steady, next, counter⟩ := clock_s3 (m := m) idle state (Nat.lt_trans place small)
    refine ⟨settled', steady.rasterDone.trans rasterDone, line, unending', ?_⟩
    rw [next, counter]
    exact place
  case s1 =>
    obtain ⟨steady, next, counter⟩ := clock_s1_next (m := m) idle state (by omega)
    refine ⟨settled', steady.rasterDone.trans rasterDone, line, unending', ?_⟩
    rw [next, counter]
    exact place

/-! The FIFOs. -/

theorem push_none_of_initial {line : Fin 36} (quiet : r.state ≠ .startrast)
    (rests : (r.lines line).state = .initial) : pushes r i line = none :=
  (line_clock (m := .initFiles) quiet line).2.trans (Linerasterize.Registers.clock_initial rests).2

theorem Sound.room (sound : Sound r pushed) {line : Fin 36} (pushing : (pushes r i line).isSome) :
    (r.fifos line).words.length < Lineoutput.depth := by
  have framed := sound.framed
  cases state : r.state <;> simp only [Framed, state] at framed
  case startrast =>
    rw [(framed.2 line).1.words]
    decide
  case start | s3 | s1 => exact (framed.2.drawing line).room (i := i) (by simp [state]) pushing
  all_goals
    have quiet : r.state ≠ .startrast := by simp [state]
    have rests : (r.lines line).state = .initial := by
      first
        | exact (framed.1 line).state
        | exact (framed.2 line).1.state
        | exact (framed.2.drawn line line.isLt).state
        | exact (framed.choose_spec.1.drawn line).state
    rw [push_none_of_initial quiet rests] at pushing
    cases pushing

theorem Sound.stored (sound : Sound r pushed) {line : Fin 36}
    (reading : (r.comb i).readFifo line = true) : (r.fifos line).words ≠ [] := by
  have framed := sound.framed
  rw [readFifo_eq] at reading
  simp only [Bool.and_eq_true, beq_iff_eq] at reading
  obtain ⟨⟨state, _⟩, here⟩ := reading
  simp only [Framed, state] at framed
  obtain ⟨mux, current, more⟩ := framed
  obtain rfl : line = mux := Fin.ext (here.trans current.muxselect)
  have words := (current.drawn line).words
  simp only [popped, lt_self_iff_false, ↓reduceIte] at words
  rw [words, ne_eq, List.drop_eq_nil_iff, drawn_length]
  omega

theorem Sound.empty (sound : Sound r pushed) (between : r.state = .initial) (line : Fin 36) :
    Empty r line := by
  have framed := sound.framed
  simp only [Framed, between] at framed
  exact framed.1 line

/-! The words that have reached the output of the core. -/

/-- The words read so far from the FIFOs of a frame. -/
def Shown (r : Registers) (word : BitVec 18) : Prop :=
  match r.state with
  | .s5 | .s6 => ∃ line, word ∈ (drawn (segment r line) ((segment r line).major + 1)).take
      (popped r r.muxselect.toNat r.counter.toNat line)
  | .initial => r.bufferEmpty = true ∧
      ∃ line, word ∈ drawn (segment r line) ((segment r line).major + 1)
  | _ => False

theorem coord_of_reading {mux : Fin 36} (reading : Reading r pushed mux) :
    r.coord = (r.fifos mux).q := by
  have mux' := reading.muxselect
  have small := mux.isLt
  have narrow : ((r.muxselect.setWidth 6).setWidth 9).toNat = mux.val := by
    simp only [BitVec.toNat_setWidth, mux']
    omega
  have inside : ((r.muxselect.setWidth 6).setWidth 9).toNat < 36 := by omega
  have current : (⟨_, inside⟩ : Fin 36) = mux := Fin.ext narrow
  rw [Registers.coord, select_inside _ _ inside, current]

theorem shown_congr {r' : Registers} (same : ∀ line, segment r' line = segment r line)
    (word : BitVec 18) (mux counter : Nat) :
    (∃ line, word ∈ (drawn (segment r' line) ((segment r' line).major + 1)).take
        (popped r' mux counter line)) ↔
      ∃ line, word ∈ (drawn (segment r line) ((segment r line).major + 1)).take
        (popped r mux counter line) := by
  simp only [same, popped]

/-- A pop takes the next word off one FIFO and none off the others. -/
theorem take_popped_succ {mux : Fin 36} {column : Nat} (inside : column ≤ (segment r mux).major)
    (line : Fin 36) :
    (drawn (segment r line) ((segment r line).major + 1)).take (popped r mux (column + 1) line) =
      (drawn (segment r line) ((segment r line).major + 1)).take (popped r mux column line) ++
        if line = mux then [pixelWord ((segment r line).point column)] else [] := by
  by_cases here : line = mux
  · subst here
    have bound : column < (drawn (segment r line) ((segment r line).major + 1)).length := by
      rw [drawn_length]
      exact Nat.lt_succ_of_le inside
    simp only [popped, lt_self_iff_false, ↓reduceIte]
    rw [List.take_succ_eq_append_getElem bound]
    simp [drawn]
  · have apart : line.val ≠ mux.val := fun equal => here (Fin.ext equal)
    simp [popped, apart, here]

/-- A pop shows one more word, and that word stands on `coord` in the next clock. -/
theorem shown_pop (sound : Sound r pushed) (below : StartsBelow r) (idle : i.startRaster = false)
    (state : r.state = .s5) (asked : i.readCoord = true) :
    (r.clock m i).state = .s6 ∧
      ∀ word, Shown (r.clock m i) word ↔ Shown r word ∨ word = (r.clock m i).coord := by
  have settled := sound.settled (by simp [state])
  have same := triangles_hold (m := m) (i := i) settled (by simp [state])
  have held := segment_congr same
  have framed := sound.framed
  have framed' := (sound.step (m := m) (i := i) (by simp [idle]) below).framed
  simp only [Framed, state] at framed
  obtain ⟨mux, reading, more⟩ := framed
  have stands := (reading.stands state).asked (m := m) idle asked (reading.short more)
  have next := stands.state
  simp only [Framed, next] at framed'
  obtain ⟨mux', reading', last, counter', inside, output⟩ := framed'
  obtain rfl : mux' = mux := Fin.ext (by rw [← reading'.muxselect, stands.muxselect])
  have counted := stands.counter
  obtain rfl : last = r.counter.toNat := by omega
  refine ⟨next, fun word => ?_⟩
  rw [coord_of_reading reading', output, held]
  simp only [Shown, next, state]
  rw [shown_congr held, counted, reading'.muxselect, reading.muxselect]
  have grows := take_popped_succ (show r.counter.toNat ≤ (segment r mux').major by omega)
  constructor
  · rintro ⟨line, member⟩
    rw [grows, List.mem_append] at member
    rcases member with earlier | new
    · exact .inl ⟨line, earlier⟩
    · by_cases here : line = mux'
      · subst here
        exact .inr (by simpa using new)
      · simp [here] at new
  · rintro (⟨line, member⟩ | rfl)
    · exact ⟨line, by rw [grows, List.mem_append]; exact .inl member⟩
    · exact ⟨mux', by rw [grows, List.mem_append]; simp⟩

theorem shown_s6 (sound : Sound r pushed) (idle : i.startRaster = false) (state : r.state = .s6) :
    ((r.clock m i).state = .s5 ∧ (r.clock m i).bufferEmpty = false ∨
      (r.clock m i).state = .initial ∧ (r.clock m i).bufferEmpty = true) ∧
      ∀ word, Shown (r.clock m i) word ↔ Shown r word := by
  have settled := sound.settled (by simp [state])
  have same := triangles_hold (m := m) (i := i) settled (by simp [state])
  have held := segment_congr same
  have framed := sound.framed
  simp only [Framed, state] at framed
  obtain ⟨mux, reading, _⟩ := framed
  rcases (reading.stands state).decided (m := m) idle mux.isLt (reading.drawn mux).size with
    ⟨_, stands⟩ | ⟨empty, _, stands⟩ | ⟨empty, final, next, full⟩
  · refine ⟨.inl ⟨stands.state, stands.bufferEmpty⟩, fun word => ?_⟩
    simp only [Shown, stands.state, state]
    rw [shown_congr held, stands.counter, stands.muxselect, reading.muxselect]
  · refine ⟨.inl ⟨stands.state, stands.bufferEmpty⟩, fun word => ?_⟩
    simp only [Shown, stands.state, state]
    rw [shown_congr held, stands.counter, stands.muxselect, reading.muxselect, empty]
    simp only [popped_carry]
  · refine ⟨.inr ⟨next, full⟩, fun word => ?_⟩
    have all : ∀ line, (drawn (segment r line) ((segment r line).major + 1)).take
        (popped r mux r.counter.toNat line) =
        drawn (segment r line) ((segment r line).major + 1) := by
      intro line
      rw [empty, popped_all final, List.take_of_length_le (drawn_length _ _).le]
    simp only [Shown, next, state, held, full, true_and, reading.muxselect, all]

def State.filling : State → Bool
  | .test4 | .test3 | .test2 | .test1 | .startproj | .startrast | .start | .s3 | .s1 | .s4 => true
  | _ => false

/-- Nothing is shown before the first pop: `rasterDone` rises with every FIFO still full. -/
theorem shown_filling (sound : Sound r pushed) (idle : i.startRaster = false)
    (filling : r.state.filling = true) (below : StartsBelow r) :
    ((r.clock m i).state.filling = true ∧ (r.clock m i).rasterDone = false ∨
      (r.clock m i).state = .s5 ∧ (r.clock m i).rasterDone = true) ∧
      ∀ word, ¬ Shown (r.clock m i) word := by
  have framed' := (sound.step (m := m) (i := i) (by simp [idle]) below).framed
  by_cases state : r.state = .s4
  · have framed := sound.framed
    simp only [Framed, state] at framed
    have stands : Stands (r.clock m i) .s5 0 0 :=
      clock_s4 idle state framed.1 framed.2.muxselect framed.2.bufferEmpty
    refine ⟨.inr ⟨stands.state, stands.rasterDone⟩, fun word shown => ?_⟩
    simp only [Shown, stands.state, stands.counter, stands.muxselect] at shown
    obtain ⟨line, member⟩ := shown
    simp [popped] at member
  · have next : (r.clock m i).state.filling = true := by
      show (r.comb i).nextState.filling = true
      cases at_ : r.state <;> simp only [at_, State.filling, Bool.false_eq_true] at filling <;>
        first
          | exact (state at_).elim
          | (simp only [Registers.comb, at_]; (repeat' split) <;> rfl)
    refine ⟨.inl ⟨next, ?_⟩, fun word shown => ?_⟩
    · cases at_ : (r.clock m i).state <;>
        simp only [at_, State.filling, Bool.false_eq_true] at next <;>
        simp only [Framed, at_] at framed'
      case start | s3 | s1 | s4 => exact framed'.2.rasterDone
      all_goals exact framed'.1.rasterDone
    · cases at_ : (r.clock m i).state <;>
        simp only [at_, State.filling, Bool.false_eq_true] at next <;>
        simp only [Shown, at_] at shown

theorem shown_unasked (sound : Sound r pushed) (idle : i.startRaster = false)
    (state : r.state = .s5) (unasked : i.readCoord = false) :
    (r.clock m i).state = .s5 ∧ (r.clock m i).rasterDone = true ∧
      ∀ word, Shown (r.clock m i) word ↔ Shown r word := by
  have settled := sound.settled (by simp [state])
  have same := triangles_hold (m := m) (i := i) settled (by simp [state])
  have framed := sound.framed
  simp only [Framed, state] at framed
  obtain ⟨mux, reading, _⟩ := framed
  have stands := (reading.stands state).unasked (m := m) idle unasked
  refine ⟨stands.state, stands.rasterDone, fun word => ?_⟩
  simp only [Shown, stands.state, state]
  rw [shown_congr (segment_congr same), stands.counter, stands.muxselect, reading.muxselect]

theorem shown_initial (sound : Sound r pushed) (idle : i.startRaster = false)
    (state : r.state = .initial) :
    (r.clock m i).state = .initial ∧ (r.clock m i).bufferEmpty = r.bufferEmpty ∧
      ∀ word, Shown (r.clock m i) word ↔ Shown r word := by
  have framed := sound.framed
  simp only [Framed, state] at framed
  have flag := (clock_core (r := r) (m := m) idle).2.2.2
  simp only [Registers.comb, Registers.defaults, state] at flag
  have next : (r.clock m i).state = .initial := by
    simp [clock_state, Registers.comb, state, idle]
  refine ⟨next, flag, fun word => ?_⟩
  simp only [Shown, next, state, flag]
  by_cases full : r.bufferEmpty = true
  · have same := triangles_hold (m := m) (i := i) (framed.2 full).1 (by simp [state])
    simp only [segment_congr same]
  · simp [full]

theorem mem_drawn {s : Segment} {count : Nat} {word : BitVec 18} (short : count ≤ s.major + 1)
    (member : word ∈ drawn s count) : ∃ p ∈ s.points, word = pixelWord p := by
  obtain ⟨column, inside, rfl⟩ := List.mem_map.mp member
  exact ⟨_, s.mem_points.mpr ⟨column, by rw [List.mem_range] at inside; omega, rfl⟩, rfl⟩

/-- Only points of the lines are pushed, as long as a rest is the end of a frame. -/
theorem Sound.pushed_mem (sound : Sound r pushed)
    (ended : r.state = .initial → r.bufferEmpty = true) {line : Fin 36} {word : BitVec 18}
    (member : word ∈ pushed line) : ∃ p ∈ (segment r line).points, word = pixelWord p := by
  have framed := sound.framed
  have from_drawn : ∀ {popped}, Drawn r pushed popped line →
      ∃ p ∈ (segment r line).points, word = pixelWord p := fun drawn => by
    rw [drawn.pushed] at member
    exact mem_drawn le_rfl member
  have from_drawing : Drawing r pushed line →
      ∃ p ∈ (segment r line).points, word = pixelWord p := fun ⟨count, course, words, _⟩ => by
    rw [words] at member
    have short : count ≤ (segment r line).major + 1 := by
      cases at_ : (r.lines line).state <;> simp only [Course, at_] at course <;> omega
    exact mem_drawn short member
  cases state : r.state <;> simp only [Framed, state] at framed
  case initial => exact from_drawn ((framed.2 (ended state)).2 line)
  case start | s3 | s1 => exact from_drawing (framed.2.drawing line)
  case s4 => exact from_drawn (framed.2.drawn line line.isLt)
  case s5 | s6 => exact from_drawn (framed.choose_spec.1.drawn line)
  all_goals
    rw [(framed.2 line).2] at member
    cases member

theorem shown_mem {word : BitVec 18} (shown : Shown r word) :
    ∃ line, ∃ p ∈ (segment r line).points, word = pixelWord p := by
  cases state : r.state <;> simp only [Shown, state] at shown
  case initial =>
    obtain ⟨_, line, member⟩ := shown
    exact ⟨line, mem_drawn le_rfl member⟩
  all_goals
    obtain ⟨line, member⟩ := shown
    exact ⟨line, mem_drawn le_rfl (List.mem_of_mem_take member)⟩

/-- A complete frame has shown what its lines have pushed. -/
theorem Sound.shown_pushed (sound : Sound r pushed) (between : r.state = .initial)
    (full : r.bufferEmpty = true) (word : BitVec 18) :
    Shown r word ↔ ∃ line, word ∈ pushed line := by
  have framed := sound.framed
  simp only [Framed, between] at framed
  have drawn := (framed.2 full).2
  simp only [Shown, between, full, true_and, (drawn _).pushed]

end WireframeGpu.PolygonRaster
