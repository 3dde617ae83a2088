import WireframeGpu.Top.Gpu

namespace WireframeGpu

/-! What a frame RAM shows: the addresses of a set of points in white. -/

def pixelX (word : BitVec 18) : Nat := (word.extractLsb' 9 9).toNat

def pixelY (word : BitVec 18) : Nat := (word.extractLsb' 0 9).toNat

/-- `mem[16:0]`. -/
def address (word : BitVec 18) : BitVec 17 := (Top.mem word).setWidth 17

theorem address_toNat (word : BitVec 18) :
    (address word).toNat = (pixelY word * 320 + pixelX word) % 2 ^ 17 := by
  have x := (word.extractLsb' 9 9).isLt
  have y := (word.extractLsb' 0 9).isLt
  have factor : (320 : BitVec 32).toNat = 320 := rfl
  simp only [address, Top.mem, pixelX, pixelY, BitVec.toNat_setWidth, BitVec.toNat_add,
    BitVec.toNat_mul, factor]
  omega

theorem address_visible {word : BitVec 18} (x : pixelX word < 320) (y : pixelY word < 240) :
    (address word).toNat = pixelY word * 320 + pixelX word ∧ (address word).toNat < 76800 := by
  rw [address_toNat, Nat.mod_eq_of_lt (by omega)]
  exact ⟨rfl, by omega⟩

namespace FrameBuffer

def Cleared (b : FrameBuffer) (limit : Nat) : Prop :=
  ∀ place : BitVec 17, place.toNat < limit → b place = 0

/-- Exactly the addresses of the `points` are white, the rest of the frame black. -/
def Painted (b : FrameBuffer) (points : BitVec 18 → Prop) : Prop :=
  ∀ place : BitVec 17, place.toNat < 76800 →
    ((∃ word, points word ∧ address word = place) → b place = 7) ∧
      ((¬ ∃ word, points word ∧ address word = place) → b place = 0)

variable {b : FrameBuffer} {points : BitVec 18 → Prop}

@[simp] theorem clock_unwritten (place : BitVec 17) (data : BitVec 3) :
    b.clock false place data = b := by
  funext other
  simp [clock]

theorem Cleared.extend {counter : BitVec 17} (cleared : b.Cleared counter.toNat) :
    (b.clock true counter 0).Cleared (counter.toNat + 1) := by
  intro place inside
  simp only [clock, Bool.true_and]
  by_cases here : place = counter
  · simp [here]
  · rw [if_neg (by simpa using here)]
    have apart : place.toNat ≠ counter.toNat := fun equal => here (BitVec.eq_of_toNat_eq equal)
    exact cleared place (by omega)

theorem Cleared.painted (cleared : b.Cleared 76800) : b.Painted fun _ => False :=
  fun place inside => ⟨fun ⟨_, member, _⟩ => member.elim, fun _ => cleared place inside⟩

theorem Painted.paint (painted : b.Painted points) (word : BitVec 18) :
    (b.clock true (address word) 7).Painted fun other => points other ∨ other = word := by
  intro place inside
  simp only [clock, Bool.true_and, beq_iff_eq]
  obtain ⟨white, black⟩ := painted place inside
  by_cases here : place = address word
  · rw [if_pos here]
    exact ⟨fun _ => rfl, fun none => (none ⟨word, .inr rfl, here.symm⟩).elim⟩
  · rw [if_neg here]
    constructor
    · rintro ⟨other, earlier | rfl, at_⟩
      · exact white ⟨other, earlier, at_⟩
      · exact (here at_.symm).elim
    · exact fun none => black fun ⟨other, earlier, at_⟩ => none ⟨other, .inl earlier, at_⟩

theorem Painted.congr {others : BitVec 18 → Prop} (painted : b.Painted points)
    (same : ∀ word, points word ↔ others word) : b.Painted others := by
  simpa only [Painted, same] using painted

end FrameBuffer

end WireframeGpu
