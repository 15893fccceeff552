import ShaderPreview.Fault
import ShaderPreview.Geometry.Net
import ShaderPreview.Geometry.Shape

/-!
# Meshes

A **mesh** is a list of corners, three to a triangle. It goes to the device as two buffers, the
positions and the normals, whose entries belong together one by one. The mesh of a curved shape
takes its triangles from a grid and the corners from the place of each grid point on the surface.

Memory is taken to be unlimited: a surface cut into however many segments has its mesh.

## Main definitions

* `Mesh`: the corners.
* `Mesh.sphereNet`, `Mesh.cylinderNet`, `Mesh.torusNet`: the nets of the curved shapes.
* `Mesh.ofShape`: the mesh of a shape.
* `Mesh.positionBytes`, `Mesh.normalBytes`: the two buffers.

## Main results

* `Mesh.length_positionBytes`, `Mesh.length_normalBytes`: twelve bytes to a corner in either buffer.
-/

namespace ShaderPreview

/-- A **mesh**: the corners of its triangles, one triangle after another. -/
structure Mesh where
  corners : List Corner
  deriving DecidableEq, Repr

namespace Mesh

/-- The number of corners. -/
def vertexCount (m : Mesh) : Nat := m.corners.length

/-- The positions of the corners. -/
def positions (m : Mesh) : List (Point Float32) := m.corners.map (·.position)

/-- The normals of the corners. -/
def normals (m : Mesh) : List (Point Float32) := m.corners.map (·.normal)

/-- The **buffer of positions**. -/
def positionBytes (m : Mesh) : List UInt8 := m.positions.flatMap Point.bytes

/-- The **buffer of normals**. -/
def normalBytes (m : Mesh) : List UInt8 := m.normals.flatMap Point.bytes

/-- Points take twelve bytes each. -/
theorem length_flatMap_bytes (ps : List (Point Float32)) :
    (ps.flatMap Point.bytes).length = 12 * ps.length := by
  induction ps with
  | nil => rfl
  | cons p ps ih => simp only [List.flatMap_cons, List.length_append, Point.length_bytes, ih,
      List.length_cons]; omega

/-- The buffer of positions has twelve bytes to a corner. -/
theorem length_positionBytes (m : Mesh) : m.positionBytes.length = 12 * m.vertexCount := by
  rw [positionBytes, length_flatMap_bytes, positions, List.length_map, vertexCount]

/-- The buffer of normals has twelve bytes to a corner. -/
theorem length_normalBytes (m : Mesh) : m.normalBytes.length = 12 * m.vertexCount := by
  rw [normalBytes, length_flatMap_bytes, normals, List.length_map, vertexCount]

/-! ### Flat shapes -/

/-- A **face of the cube**: its outward normal and the corners of its two triangles. -/
structure Face where
  normal : Point Float
  corners : List (Point Float)

/-- The faces of the cube: front, back, top, bottom, right and left. -/
def cubeFaces : List Face := [
  ⟨⟨0, 0, 1⟩, [⟨-1, -1, 1⟩, ⟨1, -1, 1⟩, ⟨1, 1, 1⟩, ⟨-1, -1, 1⟩, ⟨1, 1, 1⟩, ⟨-1, 1, 1⟩]⟩,
  ⟨⟨0, 0, -1⟩, [⟨-1, -1, -1⟩, ⟨-1, 1, -1⟩, ⟨1, 1, -1⟩, ⟨-1, -1, -1⟩, ⟨1, 1, -1⟩, ⟨1, -1, -1⟩]⟩,
  ⟨⟨0, 1, 0⟩, [⟨-1, 1, -1⟩, ⟨-1, 1, 1⟩, ⟨1, 1, 1⟩, ⟨-1, 1, -1⟩, ⟨1, 1, 1⟩, ⟨1, 1, -1⟩]⟩,
  ⟨⟨0, -1, 0⟩, [⟨-1, -1, -1⟩, ⟨1, -1, -1⟩, ⟨1, -1, 1⟩, ⟨-1, -1, -1⟩, ⟨1, -1, 1⟩, ⟨-1, -1, 1⟩]⟩,
  ⟨⟨1, 0, 0⟩, [⟨1, -1, -1⟩, ⟨1, 1, -1⟩, ⟨1, 1, 1⟩, ⟨1, -1, -1⟩, ⟨1, 1, 1⟩, ⟨1, -1, 1⟩]⟩,
  ⟨⟨-1, 0, 0⟩, [⟨-1, -1, -1⟩, ⟨-1, -1, 1⟩, ⟨-1, 1, 1⟩, ⟨-1, -1, -1⟩, ⟨-1, 1, 1⟩, ⟨-1, 1, -1⟩]⟩]

/-- The mesh of the **cube**. -/
def cube : Mesh :=
  ⟨cubeFaces.flatMap fun face => face.corners.map fun p => Corner.round p face.normal⟩

/-- The mesh of a **plane**: two triangles that face up. -/
def plane (p : Plane) : Mesh :=
  let s := p.halfSize
  let corners : List (Point Float) :=
    [⟨-s, 0, -s⟩, ⟨s, 0, s⟩, ⟨s, 0, -s⟩, ⟨-s, 0, -s⟩, ⟨-s, 0, s⟩, ⟨s, 0, s⟩]
  ⟨corners.map fun p => Corner.round p ⟨0, 1, 0⟩⟩

/-! ### Curved shapes -/

/-- Half a turn. -/
def pi : Float := 3.141592653589793

/-- The `i`-th of so many points that are spread evenly over a span from zero. The last one is the
end of the span itself. -/
def sample (span : Float) (points i : Nat) : Float :=
  if points ≤ 1 then Float.ofNat i * span + 0.0
  else if i + 1 = points then span
  else Float.ofNat i * (span / Float.ofNat (points - 1)) + 0.0

/-- The number of points along a side that is cut into so many segments: one more, unless that is
negative. -/
def pointsAlong (segments : Int) : Except Fault Nat :=
  if segments + 1 < 0 then .error (.negativeSamples (segments + 1)) else .ok (segments + 1).toNat

/-- The mesh that a net stands for. -/
def ofNet (net : Net) : Mesh := ⟨net.corners⟩

/-- The direction from a sphere's centre to a point of its grid. -/
def sphereDirection (height width : Nat) (g : GridPoint) : Point Float :=
  let phi := sample pi height g.row
  let theta := sample (2.0 * pi) width g.col
  ⟨-theta.cos * phi.sin, phi.cos, theta.sin * phi.sin⟩

/-- The place of a grid point on a **sphere**. -/
def spherePlace (s : Sphere) (height width : Nat) (g : GridPoint) : Place :=
  let direction := sphereDirection height width g
  ⟨direction.scale s.radius, direction⟩

/-- The **net of a sphere**: the rows run from pole to pole. -/
def sphereNet (s : Sphere) : Except Fault Net := do
  let height ← pointsAlong s.heightSegments
  let width ← pointsAlong s.widthSegments
  return .ofGrid height width (spherePlace s height width) (Grid.sphere (height - 1) (width - 1))
    (Grid.inside_sphere height width)

/-- The direction from a cylinder's axis to a point of its grid. -/
def cylinderDirection (width : Nat) (g : GridPoint) : Point Float :=
  let theta := sample (2.0 * pi) width g.col
  ⟨theta.cos, 0, theta.sin⟩

/-- The place of a grid point on a **cylinder**: the first row at the bottom, the second at the
top. -/
def cylinderPlace (c : Cylinder) (width : Nat) (g : GridPoint) : Place :=
  let direction := cylinderDirection width g
  let half := c.height / 2.0
  let onAxis := direction.scale c.radius
  ⟨{ onAxis with y := if g.row = 0 then -half else half }, direction⟩

/-- The **net of a cylinder**: two rows of points. -/
def cylinderNet (c : Cylinder) : Except Fault Net := do
  let width ← pointsAlong c.segments
  return .ofGrid 2 width (cylinderPlace c width) (Grid.cylinder (width - 1))
    (Grid.inside_cylinder width)

/-- The direction from a torus's centre line to a point of its grid. -/
def torusDirection (height width : Nat) (g : GridPoint) : Point Float :=
  let u := sample (2.0 * pi) height g.row
  let v := sample (2.0 * pi) width g.col
  ⟨v.cos * u.cos, v.sin, v.cos * u.sin⟩

/-- The place of a grid point on a **torus**. -/
def torusPlace (t : Torus) (height width : Nat) (g : GridPoint) : Place :=
  let direction := torusDirection height width g
  let u := sample (2.0 * pi) height g.row
  let centre : Point Float := ⟨u.cos, 0, u.sin⟩
  ⟨(centre.scale t.majorRadius).add (direction.scale t.minorRadius), direction⟩

/-- The **net of a torus**: each row of points is a ring around the tube. -/
def torusNet (t : Torus) : Except Fault Net := do
  let height ← pointsAlong t.majorSegments
  let width ← pointsAlong t.minorSegments
  return .ofGrid height width (torusPlace t height width) (Grid.torus (height - 1) (width - 1))
    (Grid.inside_torus height width)

/-- The **mesh of a shape**. A shape that is not recognized is drawn as the cube. -/
def ofShape : Shape → Except Fault Mesh
  | .cube => .ok cube
  | .sphere s => ofNet <$> sphereNet s
  | .plane p => .ok (plane p)
  | .cylinder c => ofNet <$> cylinderNet c
  | .torus t => ofNet <$> torusNet t
  | .unrecognized _ => .ok cube

end Mesh

end ShaderPreview
