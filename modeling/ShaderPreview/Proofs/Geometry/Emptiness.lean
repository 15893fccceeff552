import ShaderPreview.Proofs.Geometry.Expansion

/-!
# Empty Meshes

A shape that is cut into segments on every side has cells, and the triangles of a cell come in
pairs. A sphere leaves out one triangle of each pair in its first row, since it would have no area
at the pole, and the other one of each pair in its last row. The two choices are made apart from
each other. So in a sphere of a **single row**, which is the first one and the last one at once,
nothing is left of any pair: there is a mesh, but it is empty. No other shape loses all of its
triangles.

## Main definitions

* `Shape.segments`: the numbers of segments of a shape.
* `Shape.pairs`: the number of pairs of triangles.
* `Shape.IsSingleRow`: the sphere of a single row.

## Main results

* `Mesh.vertexCount_of_cut`: six corners to a pair.
* `Mesh.empty_iff_singleRow`: only the sphere of a single row is empty.
-/

namespace ShaderPreview

/-! ### Pairs of triangles -/

namespace Shape

/-- The **numbers of segments** of a shape, one for each side that is cut. -/
def segments : Shape → List Int
  | .sphere s => [s.widthSegments, s.heightSegments]
  | .cylinder c => [c.segments]
  | .torus t => [t.majorSegments, t.minorSegments]
  | .cube | .plane _ | .unrecognized _ => []

/-- A shape is **cut** when there is at least one segment on every side. -/
def IsCut (shape : Shape) : Prop := ∀ n ∈ shape.segments, 1 ≤ n

instance (shape : Shape) : Decidable shape.IsCut :=
  inferInstanceAs (Decidable (∀ n ∈ shape.segments, 1 ≤ n))

/-- The number of **pairs of triangles**: one to a cell, less one row of cells on a sphere, and one
to a flat square. -/
def pairs : Shape → Int
  | .cube => 6
  | .sphere s => s.widthSegments * (s.heightSegments - 1)
  | .plane _ => 1
  | .cylinder c => c.segments
  | .torus t => t.majorSegments * t.minorSegments
  | .unrecognized _ => 6

/-- The sphere of a **single row**, from pole to pole in one segment. -/
def IsSingleRow : Shape → Prop
  | .sphere s => s.heightSegments = 1
  | _ => False

/-- Of the shapes that are cut only the sphere of a single row has no pair at all. -/
theorem pairs_eq_zero_iff {shape : Shape} (h : shape.IsCut) :
    shape.pairs = 0 ↔ shape.IsSingleRow := by
  cases shape with
  | cube => simp [pairs, IsSingleRow]
  | plane p => simp [pairs, IsSingleRow]
  | unrecognized label => simp [pairs, IsSingleRow]
  | sphere s =>
    have hwidth : 1 ≤ s.widthSegments := h _ (by simp [segments])
    simp only [pairs, IsSingleRow, Int.mul_eq_zero]
    omega
  | cylinder c =>
    have hsegments : 1 ≤ c.segments := h _ (by simp [segments])
    simp only [pairs, IsSingleRow, iff_false]
    omega
  | torus t =>
    have hmajor : 1 ≤ t.majorSegments := h _ (by simp [segments])
    have hminor : 1 ≤ t.minorSegments := h _ (by simp [segments])
    simp only [pairs, IsSingleRow, Int.mul_eq_zero, iff_false]
    omega

end Shape

/-! ### Corners of the mesh -/

namespace Mesh

variable {shape : Shape}

/-- What a shape generates has as many corners as the net lists. -/
theorem Generates.vertexCount_eq {net : Except Fault Net} {rows cols count : Int}
    {place : GridPoint → Place} (h : Generates shape net rows cols place count)
    (hrows : 1 ≤ rows) (hcols : 1 ≤ cols) :
    ∃ mesh, ofShape shape = .ok mesh ∧ (mesh.vertexCount : Int) = count := by
  obtain ⟨n, -, hmesh, hlists⟩ := h.lists (by omega)
  refine ⟨_, hmesh, ?_⟩
  have hpositions := hlists.length_positions
  rwa [positions, List.length_map] at hpositions

/-- A shape that is cut has a mesh, with **six corners to a pair** of triangles. -/
theorem vertexCount_of_cut (h : shape.IsCut) :
    ∃ mesh, ofShape shape = .ok mesh ∧ (mesh.vertexCount : Int) = 6 * shape.pairs := by
  cases shape with
  | cube => exact ⟨_, rfl, rfl⟩
  | plane p => exact ⟨_, rfl, rfl⟩
  | unrecognized label => exact ⟨_, rfl, rfl⟩
  | sphere s =>
    have hwidth : 1 ≤ s.widthSegments := h _ (by simp [Shape.segments])
    have hheight : 1 ≤ s.heightSegments := h _ (by simp [Shape.segments])
    obtain ⟨mesh, hmesh, hcount⟩ := (generates_sphere s).vertexCount_eq hheight hwidth
    rw [if_pos ⟨by omega, hheight⟩, Int.mul_assoc] at hcount
    exact ⟨mesh, hmesh, hcount⟩
  | cylinder c =>
    have hsegments : 1 ≤ c.segments := h _ (by simp [Shape.segments])
    obtain ⟨mesh, hmesh, hcount⟩ := (generates_cylinder c).vertexCount_eq le_rfl hsegments
    rw [if_pos (by omega)] at hcount
    exact ⟨mesh, hmesh, hcount⟩
  | torus t =>
    have hmajor : 1 ≤ t.majorSegments := h _ (by simp [Shape.segments])
    have hminor : 1 ≤ t.minorSegments := h _ (by simp [Shape.segments])
    obtain ⟨mesh, hmesh, hcount⟩ := (generates_torus t).vertexCount_eq hmajor hminor
    rw [if_pos ⟨by omega, by omega⟩, Int.mul_assoc] at hcount
    exact ⟨mesh, hmesh, hcount⟩

/-- A shape that is cut has a mesh of whole triangles, whatever its size. The mesh is **empty** for
the sphere of a single row, and for no other shape. -/
theorem empty_iff_singleRow (h : shape.IsCut) :
    ∃ mesh, ofShape shape = .ok mesh ∧ 3 ∣ mesh.vertexCount ∧
      (mesh.vertexCount = 0 ↔ shape.IsSingleRow) := by
  obtain ⟨mesh, hmesh, hcount⟩ := vertexCount_of_cut h
  refine ⟨mesh, hmesh, by omega, ?_⟩
  rw [← Shape.pairs_eq_zero_iff h]
  omega

/-- A sphere of **two rows** is the smallest that has triangles. -/
theorem empty_iff_singleRow_twoRows :
    Shape.IsCut (.sphere { widthSegments := 1, heightSegments := 2 }) ∧
      ∃ mesh, ofShape (.sphere { widthSegments := 1, heightSegments := 2 }) = .ok mesh ∧
        3 ∣ mesh.vertexCount ∧
          (mesh.vertexCount = 0 ↔
            Shape.IsSingleRow (.sphere { widthSegments := 1, heightSegments := 2 })) :=
  ⟨by decide, empty_iff_singleRow (by decide)⟩

/-- A sphere of a **single cell** is cut on both sides, and nothing of it is left. -/
theorem singleCell_empty :
    Shape.IsCut (.sphere { widthSegments := 1, heightSegments := 1 }) ∧
      ∃ mesh, ofShape (.sphere { widthSegments := 1, heightSegments := 1 }) = .ok mesh ∧
        mesh.vertexCount = 0 :=
  ⟨by decide, ⟨[]⟩, rfl, rfl⟩

end Mesh

end ShaderPreview
