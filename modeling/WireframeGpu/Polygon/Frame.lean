import WireframeGpu.Polygon.Control

namespace WireframeGpu.PolygonRaster

open WireframeGpu.Data TriangleProjection Linerasterize

/-! One frame of the raster core, from `startRaster` to the last pop. -/

variable {m : Megafunctions} {r : Registers} {i : Inputs} {pushed : Pushed} {seen : Nat}

/-- All lines are on course, and the first `seen` of them are finished. -/
structure Scanning (r : Registers) (pushed : Pushed) (seen : Nat) : Prop where
  muxselect : r.muxselect = 0
  rasterDone : r.rasterDone = false
  bufferEmpty : r.bufferEmpty = false
  below : ∀ line, (segment r line).majorMax ≠ 511
  drawing : ∀ line, Drawing r pushed line
  drawn : ∀ line, line.val < seen → Drawn r pushed 0 line

/-- How many words of a line have been read when line `mux` is at `counter`. -/
def popped (r : Registers) (mux counter : Nat) (line : Fin 36) : Nat :=
  if line.val < mux then (segment r line).major + 1 else if line.val = mux then counter else 0

structure Reading (r : Registers) (pushed : Pushed) (mux : Fin 36) : Prop where
  muxselect : r.muxselect.toNat = mux
  rasterDone : r.rasterDone = true
  bufferEmpty : r.bufferEmpty = false
  drawn : ∀ line, Drawn r pushed (popped r mux r.counter.toNat line) line

/-- Where the core stands in a frame. -/
def Framed (r : Registers) (pushed : Pushed) : Prop :=
  match r.state with
  | .initial => (∀ line, Empty r line) ∧ (r.bufferEmpty = true → (∀ t, Settled (r.triangles t)) ∧
      ∀ line, Drawn r pushed ((segment r line).major + 1) line)
  | .test4 | .test3 | .test2 | .test1 | .startproj | .startrast =>
      Fresh r ∧ ∀ line, Empty r line ∧ pushed line = []
  | .start => r.counter.toNat < 36 ∧ Scanning r pushed r.counter.toNat
  | .s3 => r.counter.toNat < 36 ∧ Scanning r pushed (r.counter.toNat + 1)
  | .s1 => r.counter.toNat ≤ 36 ∧ Scanning r pushed r.counter.toNat
  | .s4 => r.counter = 0 ∧ Scanning r pushed 36
  | .s5 => ∃ mux, Reading r pushed mux ∧ r.counter.toNat ≤ (segment r mux).major
  | .s6 => ∃ mux, Reading r pushed mux ∧
      ∃ last, r.counter.toNat = last + 1 ∧ last ≤ (segment r mux).major ∧
        (r.fifos mux).q = pixelWord ((segment r mux).point last)
  | .s2 | .s7 => False

theorem Reading.stands {mux : Fin 36} {state : State} (reading : Reading r pushed mux)
    (at_ : r.state = state) : Stands r state mux r.counter.toNat :=
  ⟨at_, reading.muxselect, rfl, reading.rasterDone, reading.bufferEmpty⟩

theorem Stands.reading {mux : Fin 36} {state : State} {counter : Nat}
    (stands : Stands r state mux counter)
    (drawn : ∀ line, Drawn r pushed (popped r mux counter line) line) : Reading r pushed mux :=
  ⟨stands.muxselect, stands.rasterDone, stands.bufferEmpty, stands.counter ▸ drawn⟩

theorem Scanning.step (scanning : Scanning r pushed seen)
    (quiet : r.state ≠ .startrast) (unread : r.state ≠ .s5) (idle : i.startRaster = false)
    (same : (r.clock m i).triangles = r.triangles) (steady : Steady r (r.clock m i)) :
    Scanning (r.clock m i) (record r i pushed) seen := by
  refine ⟨steady.muxselect.trans scanning.muxselect, steady.rasterDone.trans scanning.rasterDone,
    steady.bufferEmpty.trans scanning.bufferEmpty, fun line => ?_, fun line => ?_,
    fun line earlier => ?_⟩
  · rw [segment_congr same]
    exact scanning.below line
  · exact (scanning.drawing line).step quiet unread idle same (scanning.below line)
  · exact ((scanning.drawn line earlier).hold quiet idle same (by simp [beq_false_of_ne unread])).1

/-! One clock in each state. -/

theorem framed_initial (state : r.state = .initial) (framed : Framed r pushed) :
    Framed (r.clock m i) (record r i pushed) := by
  simp only [Framed, state] at framed
  obtain ⟨empty, complete⟩ := framed
  have held := fun line => (empty line).hold (m := m) (i := i) (by simp [state]) (by simp [state])
  cases starts : i.startRaster
  · have next : (r.clock m i).state = .initial := by
      simp [clock_state, Registers.comb, state, starts]
    simp only [Framed, next]
    refine ⟨fun line => (held line).1, fun full => ?_⟩
    have flag := (clock_core (r := r) (m := m) starts).2.2.2
    rw [flag] at full
    simp only [Registers.comb, Registers.defaults, state] at full
    obtain ⟨settled, drawn⟩ := complete full
    have same := triangles_hold (m := m) (i := i) settled (by simp [state])
    refine ⟨by rwa [same], fun line => ?_⟩
    have kept := ((drawn line).hold (m := m) (by simp [state]) starts same (by simp [state])).1
    rwa [segment_congr same]
  · have next : (r.clock m i).state = .test4 := by
      simp [clock_state, Registers.comb, state, starts]
    simp only [Framed, next]
    exact ⟨clock_fresh starts, fun line => ⟨(held line).1, by simp [record, starts]⟩⟩

theorem framed_early (idle : i.startRaster = false) (framed : Framed r pushed)
    (early : r.state = .test4 ∨ r.state = .test3 ∨ r.state = .test2 ∨ r.state = .test1 ∨
      r.state = .startproj) :
    Framed (r.clock m i) (record r i pushed) := by
  obtain ⟨fresh, empty⟩ : Fresh r ∧ ∀ line, Empty r line ∧ pushed line = [] := by
    rcases early with state | state | state | state | state <;>
      simpa only [Framed, state] using framed
  have held := fun line => (empty line).1.hold (m := m) (i := i)
    (by rcases early with state | state | state | state | state <;> simp [state])
    (by rcases early with state | state | state | state | state <;> simp [state])
  have empty' : ∀ line, Empty (r.clock m i) line ∧ record r i pushed line = [] := fun line =>
    ⟨(held line).1, by simp [record, idle, (empty line).2, (held line).2]⟩
  obtain ⟨steady, counter, next⟩ := clock_early (m := m) idle early
  have fresh' : Fresh (r.clock m i) := fresh.kept steady counter
  rcases next with next | next | next | next | next <;>
    simpa only [Framed, next] using ⟨fresh', empty'⟩

/-- All lines take off together; one that reaches coordinate 511 would never land. -/
theorem framed_startrast (idle : i.startRaster = false) (state : r.state = .startrast)
    (framed : Framed r pushed) (same : (r.clock m i).triangles = r.triangles)
    (below : ∀ line, (segment r line).majorMax ≠ 511) :
    Framed (r.clock m i) (record r i pushed) := by
  simp only [Framed, state] at framed
  obtain ⟨fresh, empty⟩ := framed
  obtain ⟨steady, next, counter⟩ := clock_startrast (m := m) idle state
  have fresh' := fresh.kept steady counter
  have counter' : (r.clock m i).counter.toNat = 0 := by rw [fresh'.counter]; rfl
  simp only [Framed, next, counter']
  refine ⟨by decide, fresh'.muxselect, fresh'.rasterDone, fresh'.bufferEmpty, fun line => ?_,
    fun line => ?_, fun line earlier => absurd earlier (Nat.not_lt_zero _)⟩
  · rw [segment_congr same]
    exact below line
  · have high : (r.comb i).start line = true := by rw [start_eq, state]; rfl
    have held := segment_congr same line
    obtain ⟨course, none⟩ := Course.start (segment r line) (r.ends line) (empty line).1.state
    have silent : pushes r i line = .none := by rw [pushes, high, none]
    have clocked : (r.clock m i).lines line = (r.lines line).clock ⟨r.ends line, true⟩ := by
      rw [← high]
      rfl
    refine ⟨0, by rw [held, clocked]; exact course, ?_, ?_⟩
    · simp [record, idle, silent, (empty line).2, drawn]
    · rw [fifo_clock_unread (by simp [state]), silent, Lineoutput.Registers.clock_idle,
        (empty line).1.words]
      rfl

/-- `START` waits for line `counter`, which is still on course, until `is_done`. -/
theorem framed_start (idle : i.startRaster = false) (state : r.state = .start)
    (framed : Framed r pushed) (same : (r.clock m i).triangles = r.triangles) :
    Framed (r.clock m i) (record r i pushed) := by
  simp only [Framed, state] at framed
  obtain ⟨inside, scanning⟩ := framed
  obtain ⟨steady, counter, clocked⟩ := clock_start (m := m) idle state inside
  have next := scanning.step (by simp [state]) (by simp [state]) idle same steady
  cases done : (r.lines ⟨r.counter.toNat, inside⟩).isDone
  · have working : (r.lines ⟨r.counter.toNat, inside⟩).isCalculating = true := by
      obtain ⟨count, course, _⟩ := scanning.drawing ⟨r.counter.toNat, inside⟩
      cases at_ : (r.lines ⟨r.counter.toNat, inside⟩).state <;> simp_all [Course, Working]
    rw [done, working] at clocked
    simp only [Framed, clocked, counter]
    exact ⟨inside, next⟩
  · rw [done] at clocked
    simp only [Framed, clocked, counter]
    refine ⟨inside, { next with drawn := fun line earlier => ?_ }⟩
    rcases Nat.lt_succ_iff_lt_or_eq.mp earlier with before | current
    · exact next.drawn line before
    · obtain rfl : line = ⟨r.counter.toNat, inside⟩ := Fin.ext current
      exact (scanning.drawing _).finish done (by simp [state]) (by simp [state]) idle same

theorem framed_s3 (idle : i.startRaster = false) (state : r.state = .s3)
    (framed : Framed r pushed) (same : (r.clock m i).triangles = r.triangles) :
    Framed (r.clock m i) (record r i pushed) := by
  simp only [Framed, state] at framed
  obtain ⟨inside, scanning⟩ := framed
  obtain ⟨steady, next, counter⟩ := clock_s3 (m := m) idle state inside
  simp only [Framed, next, counter]
  exact ⟨inside, scanning.step (by simp [state]) (by simp [state]) idle same steady⟩

theorem framed_s1 (idle : i.startRaster = false) (state : r.state = .s1)
    (framed : Framed r pushed) (same : (r.clock m i).triangles = r.triangles) :
    Framed (r.clock m i) (record r i pushed) := by
  simp only [Framed, state] at framed
  obtain ⟨short, scanning⟩ := framed
  by_cases all : r.counter.toNat = 36
  · obtain ⟨steady, next, counter⟩ := clock_s1_last (m := m) idle state all
    simp only [Framed, next]
    exact ⟨counter, all ▸ scanning.step (by simp [state]) (by simp [state]) idle same steady⟩
  · obtain ⟨steady, next, counter⟩ := clock_s1_next (m := m) idle state all
    simp only [Framed, next, counter]
    exact ⟨by omega, scanning.step (by simp [state]) (by simp [state]) idle same steady⟩

theorem popped_congr {r' : Registers} (same : ∀ line, segment r' line = segment r line)
    (mux counter : Nat) (line : Fin 36) :
    popped r' mux counter line = popped r mux counter line := by
  simp only [popped, same]

theorem framed_s4 (idle : i.startRaster = false) (state : r.state = .s4)
    (framed : Framed r pushed) (same : (r.clock m i).triangles = r.triangles) :
    Framed (r.clock m i) (record r i pushed) := by
  simp only [Framed, state] at framed
  obtain ⟨zero, scanning⟩ := framed
  have stands : Stands (r.clock m i) .s5 (0 : Fin 36) 0 :=
    clock_s4 idle state zero scanning.muxselect scanning.bufferEmpty
  simp only [Framed, stands.state]
  refine ⟨0, stands.reading fun line => ?_, stands.counter ▸ Nat.zero_le _⟩
  have nothing : popped (r.clock m i) (0 : Fin 36) 0 line = 0 := by simp [popped]
  rw [nothing]
  exact ((scanning.drawn line line.isLt).hold (by simp [state]) idle same (by simp [state])).1

theorem Drawn.pop {line : Fin 36} {count : Nat} (current : Drawn r pushed count line)
    (more : count ≤ (segment r line).major) (state : r.state = .s5) (asked : i.readCoord = true)
    (mux : r.muxselect.toNat = line) (idle : i.startRaster = false)
    (same : (r.clock m i).triangles = r.triangles) :
    Drawn (r.clock m i) (record r i pushed) (count + 1) line ∧
      ((r.clock m i).fifos line).q = pixelWord ((segment r line).point count) := by
  have held := segment_congr same line
  obtain ⟨clocked, wire⟩ := line_clock (r := r) (m := m) (i := i) (by simp [state]) line
  obtain ⟨rests, none⟩ := Linerasterize.Registers.clock_initial (e := r.ends line) current.state
  have silent : pushes r i line = .none := wire.trans none
  have recorded : record r i pushed line = pushed line := by simp [record, idle, silent]
  have inside : count < (drawn (segment r line) ((segment r line).major + 1)).length := by
    rw [drawn_length]
    omega
  have stored := current.words
  rw [List.drop_eq_getElem_cons inside] at stored
  have fifo : (r.clock m i).fifos line =
      { words := (drawn (segment r line) ((segment r line).major + 1)).drop (count + 1)
        q := pixelWord ((segment r line).point count) } := by
    rw [fifo_clock, silent, asked, mux, state, beq_self_eq_true, beq_self_eq_true, Bool.and_self,
      Bool.and_self, Lineoutput.Registers.clock_pop stored]
    simp [drawn]
  refine ⟨⟨?_, ?_, ?_, ?_, ?_⟩, by rw [fifo]⟩
  · rw [clocked, rests, current.state]
  · rw [clocked, rests, current.isDone]
  · rw [clocked, rests, held, current.size]
  · rw [recorded, held, current.pushed]
  · rw [fifo, held]

theorem Reading.current {mux : Fin 36} (reading : Reading r pushed mux) :
    Drawn r pushed r.counter.toNat mux := by
  simpa [popped] using reading.drawn mux

theorem Reading.short {mux : Fin 36} (reading : Reading r pushed mux)
    (more : r.counter.toNat ≤ (segment r mux).major) : r.counter.toNat < 511 := by
  have size := (reading.drawn mux).size
  have small := (r.lines mux).size.isLt
  omega

theorem framed_s5 (idle : i.startRaster = false) (state : r.state = .s5)
    (framed : Framed r pushed) (same : (r.clock m i).triangles = r.triangles) :
    Framed (r.clock m i) (record r i pushed) := by
  simp only [Framed, state] at framed
  obtain ⟨mux, reading, more⟩ := framed
  have held := segment_congr same
  cases asked : i.readCoord
  · have stands := (reading.stands state).unasked (m := m) idle asked
    simp only [Framed, stands.state, held, stands.counter]
    refine ⟨mux, stands.reading fun line => ?_, more⟩
    rw [popped_congr held]
    exact ((reading.drawn line).hold (by simp [state]) idle same (by simp [asked])).1
  · have stands := (reading.stands state).asked (m := m) idle asked (reading.short more)
    obtain ⟨after, output⟩ :=
      reading.current.pop (m := m) more state asked reading.muxselect idle same
    simp only [Framed, stands.state]
    refine ⟨mux, stands.reading fun line => ?_, r.counter.toNat, stands.counter,
      by rw [held]; exact more, by rw [output, held]⟩
    rw [popped_congr held]
    by_cases here : line = mux
    · subst here
      simpa [popped] using after
    · have apart : line.val ≠ mux.val := fun equal => here (Fin.ext equal)
      have elsewhere : popped r mux (r.counter.toNat + 1) line =
          popped r mux r.counter.toNat line := by
        simp [popped, apart]
      rw [elsewhere]
      exact ((reading.drawn line).hold (by simp [state]) idle same
        (by simp [reading.muxselect, apart])).1

/-- Reading past a line's end is reading the next line from its start. -/
theorem popped_carry (r : Registers) (mux line : Fin 36) :
    popped r (mux.val + 1) 0 line = popped r mux ((segment r mux).major + 1) line := by
  simp only [popped]
  rcases Nat.lt_trichotomy line.val mux.val with before | here | after
  · rw [if_pos before, if_pos (by omega)]
  · obtain rfl : line = mux := Fin.ext here
    simp
  · rw [ite_self, if_neg (by omega), if_neg (by omega), if_neg (by omega)]

theorem popped_all {mux : Fin 36} (last : mux.val = 35) (line : Fin 36) :
    popped r mux ((segment r mux).major + 1) line = (segment r line).major + 1 := by
  have small := line.isLt
  rw [← popped_carry, popped, if_pos (by omega)]

theorem framed_s6 (idle : i.startRaster = false) (state : r.state = .s6)
    (framed : Framed r pushed) (settled : ∀ t, Settled (r.triangles t))
    (same : (r.clock m i).triangles = r.triangles) :
    Framed (r.clock m i) (record r i pushed) := by
  simp only [Framed, state] at framed
  obtain ⟨mux, reading, last, count, inside, _⟩ := framed
  have held := segment_congr same
  have kept :
      ∀ line, Drawn (r.clock m i) (record r i pushed) (popped r mux r.counter.toNat line) line :=
    fun line => ((reading.drawn line).hold (by simp [state]) idle same (by simp [state])).1
  rcases (reading.stands state).decided (m := m) idle mux.isLt (reading.drawn mux).size with
    ⟨more, stands⟩ | ⟨empty, next, stands⟩ | ⟨empty, final, next, _⟩
  · simp only [Framed, stands.state, held, stands.counter]
    refine ⟨mux, stands.reading fun line => ?_, by omega⟩
    rw [popped_congr held]
    exact kept line
  · simp only [Framed, stands.state, stands.counter]
    refine ⟨⟨mux.val + 1, next⟩, stands.reading fun line => ?_, Nat.zero_le _⟩
    rw [popped_congr held, popped_carry, ← empty]
    exact kept line
  · simp only [empty, popped_all final] at kept
    simp only [Framed, next, held]
    refine ⟨fun line => ⟨(kept line).state, ?_⟩, fun _ => ⟨by rwa [same], kept⟩⟩
    rw [(kept line).words, held, List.drop_eq_nil_iff, drawn_length]

end WireframeGpu.PolygonRaster
