import Mathlib.Algebra.BigOperators.Group.List.Basic
import Mathlib.Tactic.Ring
import ShaderPreview.Geometry.Mesh

/-!
# The Corners of a Curved Surface

A curved surface is cut into segments along its two sides, and the mesh takes its corners from the
points of the grid by number. How many corners there are follows from the numbers of segments
alone. Two triangles come from each cell, of which a sphere leaves out one in the first row and one
in the last.

The numbers of segments are integers. A side of no segments still has one row of points, and a side
of minus one segments has none; in both cases there are no cells. Below that the side would have a
negative number of points, and there is no mesh.

## Main definitions

* `Mesh.Lists`: a net lists the corners of a mesh, so many, each by a number inside the grid, and
  position and normal come from the same point.
* `Mesh.Generates`: a shape has no mesh exactly when a side has a negative number of points, and
  else a mesh that is listed.

## Main results

* `Grid.length_sphere`, `Grid.length_cylinder`, `Grid.length_torus`: the numbers of triangles.
* `Mesh.generates_curved`: the three curved shapes.
-/

namespace ShaderPreview

/-! ### Counting triangles -/

namespace Grid

variable {rows cols : Nat}

/-- As many from each cell makes so many times the cells. -/
theorem length_flatMap_cells {triangles : Cell → List Triangle} {n : Nat}
    (h : ∀ c, (triangles c).length = n) :
    ((cells rows cols).flatMap triangles).length = n * (rows * cols) := by
  simp [List.length_flatMap, h, Nat.mul_comm n]

/-- A torus has **two triangles to a cell**. -/
theorem length_torus (major minor : Nat) : (torus major minor).length = 2 * (major * minor) :=
  length_flatMap_cells fun _ => rfl

/-- A cylinder has **two triangles to a segment**. -/
theorem length_cylinder (segments : Nat) : (cylinder segments).length = 2 * segments := by
  have hcells : (cylinder segments).length = 2 * (1 * segments) := length_flatMap_cells fun _ => rfl
  rwa [Nat.one_mul] at hcells

/-- What is counted by rows counts each row as often as it has cells. -/
theorem sum_cells (f : Nat → Nat) :
    ((cells rows cols).map fun c => f c.row).sum = cols * ((List.range rows).map f).sum := by
  rw [cells]
  induction rows with
  | zero => simp [rowByRow]
  | succ rows ih =>
    rw [rowByRow_succ, List.map_append, List.sum_append, ih, List.range_succ]
    simp [Nat.mul_add, Function.comp_def]

/-- All rows but the first. -/
theorem sum_rows_but_first (rows : Nat) :
    ((List.range rows).map fun i => if i = 0 then 0 else 1).sum = rows - 1 := by
  cases rows with
  | zero => rfl
  | succ rows => simp [List.range_succ_eq_map, Function.comp_def]

/-- All rows but the last. -/
theorem sum_rows_but_last (rows : Nat) :
    ((List.range rows).map fun i => if i + 1 = rows then 0 else 1).sum = rows - 1 := by
  cases rows with
  | zero => rfl
  | succ rows =>
    have hearlier : ∀ i ∈ List.range rows, (if i = rows then 0 else 1) = 1 := fun i hi =>
      if_neg (Nat.ne_of_lt (List.mem_range.mp hi))
    simp [List.range_succ, List.map_congr_left hearlier]

/-- A sphere has two triangles to a cell, less **one to each cell of the first row and one to each
cell of the last**. With a single row that leaves none. -/
theorem length_sphere (rows cols : Nat) : (sphere rows cols).length = 2 * (cols * (rows - 1)) := by
  have hcell : ∀ (first last : Prop) [Decidable first] [Decidable last] (s t : Triangle),
      ((if first then [] else [s]) ++ (if last then [] else [t])).length
        = (if first then 0 else 1) + (if last then 0 else 1) := by
    intro first last _ _ s t
    split <;> split <;> rfl
  simp only [sphere, List.length_flatMap, hcell]
  rw [List.sum_map_add, sum_cells fun i => if i = 0 then 0 else 1,
    sum_cells fun i => if i + 1 = rows then 0 else 1, sum_rows_but_first, sum_rows_but_last,
    Nat.two_mul]

end Grid

/-! ### Corners and their points -/

/-- Each entry of a list is the entry at some place, and no place lies beyond the end. -/
theorem Grid.StaysInside.exists_number {height width : Nat} {triangles : List Triangle}
    (h : StaysInside height width triangles) {k : Nat}
    (hk : k < (numbers width triangles).length) :
    ∃ g : GridPoint, g.Inside height width ∧
      (numbers width triangles)[k]? = some (g.index width) := by
  rw [numbers, List.length_map] at hk
  exact ⟨_, h _ (List.getElem_mem hk), by simp [numbers, hk]⟩

namespace Mesh

variable {rows cols count : Int} {place : GridPoint → Place} {shape : Shape}

/-- A net over so many rows and columns of cells **lists the corners** of a mesh: by numbers inside
the grid, so many, and at each place of the list position and normal are those of one point. -/
structure Lists (rows cols : Int) (place : GridPoint → Place) (net : Net) (mesh : Mesh)
    (count : Int) : Prop where
  inRange : ∀ n ∈ net.numbers, (n : Int) < (rows + 1) * (cols + 1)
  length_positions : (mesh.positions.length : Int) = count
  length_normals : (mesh.normals.length : Int) = count
  aligned : ∀ k : Nat, (k : Int) < count → ∃ g : GridPoint,
    g.Inside (rows + 1).toNat (cols + 1).toNat ∧
      net.numbers[k]? = some (g.index (cols + 1).toNat) ∧
        mesh.positions[k]? = some ((place g).position.map Float.toFloat32) ∧
          mesh.normals[k]? = some ((place g).direction.map Float.toFloat32)

/-- A shape that is cut into so many rows and columns **has no mesh** exactly when a side would have
a negative number of points, and otherwise one with so many corners that its net lists. -/
structure Generates (shape : Shape) (net : Except Fault Net) (rows cols : Int)
    (place : GridPoint → Place) (count : Int) : Prop where
  raises_iff : (∃ n, ofShape shape = .error (.negativeSamples n)) ↔ rows < -1 ∨ cols < -1
  lists : ¬(rows < -1 ∨ cols < -1) → ∃ n, net = .ok n ∧ ofShape shape = .ok (ofNet n) ∧
    Lists rows cols place n (ofNet n) count

/-- The net of a grid lists the corners of its mesh. -/
theorem lists_ofGrid (hrows : -1 ≤ rows) (hcols : -1 ≤ cols) {triangles : List Triangle}
    (inside : Grid.StaysInside (rows + 1).toNat (cols + 1).toNat triangles)
    (hcount : (3 * triangles.length : Int) = count) :
    Lists rows cols place (.ofGrid _ _ place triangles inside)
      (ofNet (.ofGrid _ _ place triangles inside)) count := by
  have hlength : ((Grid.numbers (cols + 1).toNat triangles).length : Int) = count := by
    rw [Grid.numbers, List.length_map, Grid.length_corners, ← hcount]
    rfl
  have hcorners : ((Net.ofGrid _ _ place triangles inside).corners.length : Int) = count := by
    rw [Net.length_corners]
    exact hlength
  refine ⟨fun n hn => ?_, ?_, ?_, fun k hk => ?_⟩
  · have hlt := inside.numbers_lt n hn
    have hcast : (((rows + 1).toNat * (cols + 1).toNat : Nat) : Int) = (rows + 1) * (cols + 1) := by
      rw [Int.natCast_mul, Int.toNat_of_nonneg (by omega), Int.toNat_of_nonneg (by omega)]
    omega
  · rw [positions, List.length_map]
    exact hcorners
  · rw [normals, List.length_map]
    exact hcorners
  · obtain ⟨g, hg, hnumber⟩ := inside.exists_number (k := k) (by omega)
    have hcorner : (Net.ofGrid _ _ place triangles inside).corners[k]? = some (place g).corner :=
      Net.getElem?_corners hnumber (Net.getElem?_places_ofGrid hg)
    refine ⟨g, hg, hnumber, ?_, ?_⟩
    · rw [positions, List.getElem?_map, ofNet, hcorner]
      rfl
    · rw [normals, List.getElem?_map, ofNet, hcorner]
      rfl

/-! ### The curved shapes -/

/-- Fewer than minus one segments would need a negative number of points. -/
theorem pointsAlong_of_lt {segments : Int} (h : segments < -1) :
    pointsAlong segments = .error (.negativeSamples (segments + 1)) :=
  if_pos (by omega)

/-- From minus one segment on there is one point more than there are segments. -/
theorem pointsAlong_of_le {segments : Int} (h : -1 ≤ segments) :
    pointsAlong segments = .ok (segments + 1).toNat :=
  if_neg (by omega)

/-- The same in natural numbers, where there are segments or none. -/
theorem pointsAlong_of_nonneg {segments : Int} (h : 0 ≤ segments) :
    pointsAlong segments = .ok (segments.toNat + 1) := by
  rw [pointsAlong_of_le (by omega), Int.toNat_add h Int.one_nonneg]
  rfl

/-- A net of two sides, whose points are counted **one side after the other**. -/
def netOfSides (rows cols : Int) (net : Nat → Nat → Net) : Except Fault Net := do
  let height ← pointsAlong rows
  let width ← pointsAlong cols
  return net height width

/-- A shape whose net is made of two sides generates what the net lists. -/
theorem generates_of_sides (rows cols : Int) (net : Nat → Nat → Net)
    (hlists : -1 ≤ rows → -1 ≤ cols → Lists rows cols place
      (net (rows + 1).toNat (cols + 1).toNat) (ofNet (net (rows + 1).toNat (cols + 1).toNat)) count)
    (hshape : ofShape shape = ofNet <$> netOfSides rows cols net) :
    Generates shape (netOfSides rows cols net) rows cols place count := by
  have hfails : rows < -1 ∨ cols < -1 →
      ∃ n, netOfSides rows cols net = .error (.negativeSamples n) := by
    intro h
    by_cases hrows : rows < -1
    · exact ⟨_, by rw [netOfSides, pointsAlong_of_lt hrows]; rfl⟩
    · have hcols : cols < -1 := h.resolve_left hrows
      exact ⟨_, by rw [netOfSides, pointsAlong_of_le (by omega), pointsAlong_of_lt hcols]; rfl⟩
  have hgives : ¬(rows < -1 ∨ cols < -1) →
      netOfSides rows cols net = .ok (net (rows + 1).toNat (cols + 1).toNat) := by
    intro h
    rw [netOfSides, pointsAlong_of_le (by omega), pointsAlong_of_le (by omega)]
    rfl
  refine ⟨⟨?_, ?_⟩, fun h => ?_⟩
  · rintro ⟨n, hn⟩
    by_contra h
    rw [hshape, hgives h] at hn
    cases hn
  · intro h
    obtain ⟨n, hn⟩ := hfails h
    exact ⟨n, by rw [hshape, hn]; rfl⟩
  · exact ⟨_, hgives h, by rw [hshape, hgives h]; rfl, hlists (by omega) (by omega)⟩

/-- The corners of two triangles to a cell, where a side of no segments or of fewer has no cells. -/
theorem six_mul_cells (m n : Int) :
    (3 * (2 * (m.toNat * n.toNat) : Nat) : Int) = if 0 ≤ m ∧ 0 ≤ n then 6 * m * n else 0 := by
  split
  · next h =>
    rw [Int.natCast_mul, Int.natCast_mul, Int.toNat_of_nonneg h.1, Int.toNat_of_nonneg h.2]
    push_cast
    ring
  · have hnone : m.toNat = 0 ∨ n.toNat = 0 := by omega
    rcases hnone with hnone | hnone <;> simp [hnone]

/-- A side has one point more than it has segments. -/
theorem toNat_succ_pred (segments : Int) : (segments + 1).toNat - 1 = segments.toNat := by omega

/-- A sphere has two triangles to a cell, less one where a row touches a pole. -/
theorem generates_sphere (s : Sphere) :
    Generates (.sphere s) (sphereNet s) s.heightSegments s.widthSegments
      (spherePlace s (s.heightSegments + 1).toNat (s.widthSegments + 1).toNat)
      (if 0 ≤ s.widthSegments ∧ 1 ≤ s.heightSegments then
        6 * s.widthSegments * (s.heightSegments - 1) else 0) := by
  refine generates_of_sides _ _ (fun height width => .ofGrid height width
    (spherePlace s height width) _ (Grid.inside_sphere height width))
    (fun _ _ => lists_ofGrid ‹_› ‹_› _ ?_) rfl
  have hrows : s.heightSegments.toNat - 1 = (s.heightSegments - 1).toNat := by omega
  rw [Grid.length_sphere, toNat_succ_pred, toNat_succ_pred, hrows, six_mul_cells]
  simp only [Int.sub_nonneg]

/-- A cylinder has two triangles to a segment. -/
theorem generates_cylinder (c : Cylinder) :
    Generates (.cylinder c) (cylinderNet c) 1 c.segments
      (cylinderPlace c (c.segments + 1).toNat)
      (if 0 ≤ c.segments then 6 * c.segments else 0) := by
  refine generates_of_sides 1 _ (fun _ width => .ofGrid 2 width
    (cylinderPlace c width) _ (Grid.inside_cylinder width))
    (fun _ _ => lists_ofGrid ‹_› ‹_› _ ?_) rfl
  rw [Grid.length_cylinder, toNat_succ_pred]
  split <;> omega

/-- A torus has two triangles to a cell. -/
theorem generates_torus (t : Torus) :
    Generates (.torus t) (torusNet t) t.majorSegments t.minorSegments
      (torusPlace t (t.majorSegments + 1).toNat (t.minorSegments + 1).toNat)
      (if 0 ≤ t.majorSegments ∧ 0 ≤ t.minorSegments then
        6 * t.majorSegments * t.minorSegments else 0) := by
  refine generates_of_sides _ _ (fun height width => .ofGrid height width
    (torusPlace t height width) _ (Grid.inside_torus height width))
    (fun _ _ => lists_ofGrid ‹_› ‹_› _ ?_) rfl
  rw [Grid.length_torus, toNat_succ_pred, toNat_succ_pred, six_mul_cells]

/-- Every **curved shape**, whatever its numbers of segments, generates the corners of its grid: two
triangles to a cell, but at the poles of a sphere only one. -/
theorem generates_curved :
    (∀ s : Sphere, Generates (.sphere s) (sphereNet s) s.heightSegments s.widthSegments
      (spherePlace s (s.heightSegments + 1).toNat (s.widthSegments + 1).toNat)
      (if 0 ≤ s.widthSegments ∧ 1 ≤ s.heightSegments then
        6 * s.widthSegments * (s.heightSegments - 1) else 0)) ∧
    (∀ c : Cylinder, Generates (.cylinder c) (cylinderNet c) 1 c.segments
      (cylinderPlace c (c.segments + 1).toNat)
      (if 0 ≤ c.segments then 6 * c.segments else 0)) ∧
    ∀ t : Torus, Generates (.torus t) (torusNet t) t.majorSegments t.minorSegments
      (torusPlace t (t.majorSegments + 1).toNat (t.minorSegments + 1).toNat)
      (if 0 ≤ t.majorSegments ∧ 0 ≤ t.minorSegments then
        6 * t.majorSegments * t.minorSegments else 0) :=
  ⟨generates_sphere, generates_cylinder, generates_torus⟩

end Mesh

end ShaderPreview
