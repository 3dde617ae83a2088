import Mathlib.Data.Sym.Sym2
import WireframeGpu.Top.Loading

namespace WireframeGpu

open WireframeGpu.Data WireframeGpu.Software

/-! What a picture tells of its model: the sides, and neither their order nor their direction,
nor the triangles that they belong to. -/

/-- The sides of twelve triangles, without direction. -/
def skeleton (vertices : Model) : Set (Sym2 Projection.Vertex) :=
  {side | ∃ t v w, w.val = (v.val + 1) % 3 ∧ side = s(vertices t v, vertices t w)}

theorem FrameBuffer.Shows.unique {b b' : FrameBuffer} {points : Set (Nat × Nat)}
    (shows : b.Shows points) (shows' : b'.Shows points) {cell : BitVec 17}
    (inside : cell.toNat < 76800) : b cell = b' cell := by
  by_cases stored : ∃ p ∈ points, (p.2 * 320 + p.1) % 2 ^ 17 = cell.toNat
  · rw [(shows cell inside).1 stored, (shows' cell inside).1 stored]
  · rw [(shows cell inside).2 stored, (shows' cell inside).2 stored]

namespace Gpu

open PolygonRaster

variable {m : Megafunctions} {row : BitVec 9} {vertices vertices' : Model}

theorem edge_swap (a b : Projection.Vertex) : (edge b a).points = (edge a b).points :=
  (edge a b).points_swap

theorem figure_mono (part : skeleton vertices ⊆ skeleton vertices') :
    figure vertices ⊆ figure vertices' := by
  rintro p ⟨t, v, drawn⟩
  obtain ⟨t', v', w', next, same⟩ := part ⟨t, v, ⟨(v + 1) % 3, Nat.mod_lt _ (by decide)⟩, rfl, rfl⟩
  obtain rfl : w' = ⟨(v' + 1) % 3, Nat.mod_lt _ (by decide)⟩ := Fin.ext next
  refine ⟨t', v', ?_⟩
  rcases Sym2.eq_iff.mp same with ⟨first, second⟩ | ⟨first, second⟩
  · rwa [first, second] at drawn
  · rwa [first, second, edge_swap] at drawn

theorem skeleton_map (f : Projection.Vertex → Projection.Vertex) :
    skeleton (fun t v => f (vertices t v)) = Sym2.map f '' skeleton vertices := by
  ext side
  constructor
  · rintro ⟨t, v, w, next, rfl⟩
    exact ⟨_, ⟨t, v, w, next, rfl⟩, rfl⟩
  · rintro ⟨_, ⟨t, v, w, next, rfl⟩, rfl⟩
    exact ⟨t, v, w, next, rfl⟩

/-- Models with the same sides have the same wireframe at every angle. -/
theorem wireframe_of_skeleton (same : skeleton vertices = skeleton vertices') :
    wireframe m row vertices = wireframe m row vertices' := by
  have turned_same : skeleton (fun t v => turned m row (vertices t v)) =
      skeleton fun t v => turned m row (vertices' t v) := by
    rw [skeleton_map, skeleton_map, same]
  exact Set.Subset.antisymm (figure_mono turned_same.le) (figure_mono turned_same.ge)

/-- Two object files with the same sides have the same pictures, each of which comes again
after 314 frames, however they are loaded and displayed. -/
theorem same_sides_same_pictures {Value Value' : Type} [BEq Value] [OfNat Value 1] [BEq Value']
    [OfNat Value' 1] {stores stores' : List Store} {schedule schedule' : Nat → Option Store}
    (execution : Execution Value stores) (execution' : Execution Value' stores')
    (carries : Carries schedule stores) (carries' : Carries schedule' stores')
    (same : skeleton (registers {} stores).model = skeleton (registers {} stores').model)
    (buffer1 buffer2 buffer1' buffer2' : FrameBuffer) (switched switched' : Nat → Bool) (n n' : Nat)
    (count : frames .initFiles (powerUp buffer1 buffer2) (driven schedule switched) n % 314 =
      frames .initFiles (powerUp buffer1' buffer2') (driven schedule' switched') n' % 314)
    (finished : (run .initFiles (powerUp buffer1 buffer2) (driven schedule switched)
      n).top.state.phase = .finished)
    (finished' : (run .initFiles (powerUp buffer1' buffer2') (driven schedule' switched')
      n').top.state.phase = .finished) (cell : BitVec 17) (inside : cell.toNat < 76800) :
    (run .initFiles (powerUp buffer1 buffer2) (driven schedule switched) n).target cell =
      (run .initFiles (powerUp buffer1' buffer2') (driven schedule' switched') n').target cell := by
  have shows :=
    ((loaded_posed execution carries buffer1 buffer2 switched).exhibited n).2 finished
  have shows' :=
    ((loaded_posed execution' carries' buffer1' buffer2' switched').exhibited n').2 finished'
  rw [angle, count, wireframe_of_skeleton same] at shows
  exact shows.unique shows' inside

/-- The triangle again, its corners named the other way round. -/
def reversedStores : List Store :=
  ⟨126, 0⟩ :: writes 0 [((1 : Int), (-1 : Int), (1 : Int)), (-1, 1, 1), (1, 1, 1)] ++
    [⟨127, 1⟩, ⟨126, 1⟩]

theorem reversed_execution : Execution Int reversedStores :=
  ⟨[.v 1 1 1, .v (-1) 1 1, .v 1 (-1) 1, .f 3 2 1], by decide⟩

theorem skeleton_mono
    (each : ∀ t, ∀ v w : Fin 3, w.val = (v.val + 1) % 3 → ∃ v' w' : Fin 3,
      w'.val = (v'.val + 1) % 3 ∧
      s(vertices t v, vertices t w) = s(vertices' t v', vertices' t w')) :
    skeleton vertices ⊆ skeleton vertices' := by
  rintro _ ⟨t, v, w, next, rfl⟩
  exact ⟨t, each t v w next⟩

theorem reversed_skeleton : skeleton (registers {} triangleStores).model =
    skeleton (registers {} reversedStores).model :=
  Set.Subset.antisymm (skeleton_mono (by decide +kernel)) (skeleton_mono (by decide +kernel))

theorem first_picture {Value : Type} [BEq Value] [OfNat Value 1] {stores : List Store}
    {schedule : Nat → Option Store} (execution : Execution Value stores)
    (carries : Carries schedule stores) (through : ∃ n, emitted schedule n = stores)
    (buffer1 buffer2 : FrameBuffer) (switched : Nat → Bool) :
    ∃ n, (run .initFiles (powerUp buffer1 buffer2) (driven schedule switched) n).top.state.phase =
        .finished ∧
      frames .initFiles (powerUp buffer1 buffer2) (driven schedule switched) n = 1 := by
  obtain ⟨first, starts, none⟩ :=
    first_begins (loaded_begins execution buffer1 buffer2 switched through)
  obtain ⟨n, -, -, frame, finished, -⟩ :=
    (loaded_posed execution carries buffer1 buffer2 switched).completes starts
  exact ⟨n, finished, by rw [frames_of_frame frame, none]⟩

theorem same_sides_same_pictures_reversed :
    ∃ n n', frames .initFiles (powerUp (fun _ => 0) (fun _ => 0))
        (driven (eachClock triangleStores) early) n = 1 ∧
      frames .initFiles (powerUp (fun _ => 7) (fun _ => 7))
        (driven (eachClock reversedStores) (fun _ => true)) n' = 1 ∧
      ∀ cell : BitVec 17, cell.toNat < 76800 →
        (run .initFiles (powerUp (fun _ => 0) (fun _ => 0))
          (driven (eachClock triangleStores) early)
            n).target cell =
          (run .initFiles (powerUp (fun _ => 7) (fun _ => 7))
            (driven (eachClock reversedStores) (fun _ => true)) n').target cell := by
  obtain ⟨n, finished, count⟩ := first_picture triangle_execution (eachClock_carries triangleStores)
    (eachClock_through triangleStores) (fun _ => 0) (fun _ => 0) early
  obtain ⟨n', finished', count'⟩ := first_picture reversed_execution
    (eachClock_carries reversedStores) (eachClock_through reversedStores) (fun _ => 7) (fun _ => 7)
    fun _ => true
  exact ⟨n, n', count, count', same_sides_same_pictures triangle_execution reversed_execution
    (eachClock_carries triangleStores) (eachClock_carries reversedStores) reversed_skeleton
    (fun _ => 0) (fun _ => 0) (fun _ => 7) (fun _ => 7) early (fun _ => true) n n'
    (by rw [count, count']) finished finished'⟩

end Gpu

end WireframeGpu
