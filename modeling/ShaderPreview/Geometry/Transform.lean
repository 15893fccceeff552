import ShaderPreview.Fault
import ShaderPreview.Geometry.Mesh

/-!
# Transforms

The matrices that take a mesh to the screen: a turn about the upright axis, a shift, and a
perspective projection. Matrices act on columns, with the shift in the last column. The entries are
computed in double precision and rounded to single precision once each.

The formulas of the projection are stated for any type of numbers, so that they can be studied where
arithmetic is exact.

## Main definitions

* `Matrix4`: a matrix, row by row.
* `Transform.rotationY`, `Transform.translation`, `Transform.frustum`: the three kinds of matrices.
* `Transform.focal`, `Transform.projection`: the formulas of the projection of a field of view.
* `FrameMatrices`: the matrices of one frame.
-/

namespace ShaderPreview

/-- A **row** of a matrix. -/
structure Row (α : Type) where
  x : α
  y : α
  z : α
  w : α
  deriving DecidableEq, Repr

/-- The same function on each entry of a row. -/
def Row.map {α β : Type} (f : α → β) (r : Row α) : Row β := ⟨f r.x, f r.y, f r.z, f r.w⟩

/-- The entries of a row. -/
def Row.toList {α : Type} (r : Row α) : List α := [r.x, r.y, r.z, r.w]

/-- A **matrix** of four rows. -/
structure Matrix4 (α : Type) where
  r0 : Row α
  r1 : Row α
  r2 : Row α
  r3 : Row α
  deriving DecidableEq, Repr

namespace Matrix4

variable {α β : Type}

/-- The same function on each entry. -/
def map (f : α → β) (m : Matrix4 α) : Matrix4 β := ⟨m.r0.map f, m.r1.map f, m.r2.map f, m.r3.map f⟩

/-- Rows become columns. -/
def transpose (m : Matrix4 α) : Matrix4 α :=
  ⟨⟨m.r0.x, m.r1.x, m.r2.x, m.r3.x⟩, ⟨m.r0.y, m.r1.y, m.r2.y, m.r3.y⟩,
    ⟨m.r0.z, m.r1.z, m.r2.z, m.r3.z⟩, ⟨m.r0.w, m.r1.w, m.r2.w, m.r3.w⟩⟩

/-- The entries, row by row. -/
def toList (m : Matrix4 α) : List α :=
  m.r0.toList ++ m.r1.toList ++ m.r2.toList ++ m.r3.toList

/-- Every entry rounded to single precision. -/
def narrow (m : Matrix4 Float) : Matrix4 Float32 := m.map Float.toFloat32

end Matrix4

namespace Transform

variable {α : Type}

/-! ### Shapes of matrices -/

/-- The turn about the upright axis by the angle with the given cosine and sine. -/
def rotation [OfNat α 0] [OfNat α 1] [Neg α] (cosine sine : α) : Matrix4 α :=
  ⟨⟨cosine, 0, -sine, 0⟩, ⟨0, 1, 0, 0⟩, ⟨sine, 0, cosine, 0⟩, ⟨0, 0, 0, 1⟩⟩

/-- The **shift** by three distances. -/
def translation [OfNat α 0] [OfNat α 1] (x y z : α) : Matrix4 α :=
  ⟨⟨1, 0, 0, x⟩, ⟨0, 1, 0, y⟩, ⟨0, 0, 1, z⟩, ⟨0, 0, 0, 1⟩⟩

/-- The scale of a field of view whose half is given: one over the tangent, or a thousand where the
field has no width. -/
def focalScale [OfNat α 0] [OfNat α 1] [OfNat α 1000] [BEq α] [Div α] (tangent : α → α)
    (half : α) : α :=
  if half == 0 then 1000 else 1 / tangent half

/-- The aspect that is divided by: one in the place of zero. -/
def usableAspect [OfNat α 0] [OfNat α 1] [BEq α] (aspect : α) : α :=
  if aspect == 0 then 1 else aspect

/-- The depth that is divided by: a small negative one in the place of zero. -/
def usableDepth [OfNat α 0] [OfScientific α] [BEq α] [Neg α] [Sub α] (near far : α) : α :=
  if near - far == 0 then -0.001 else near - far

/-- The **perspective projection** with a focal scale, an aspect and the distances of the near and
the far plane. -/
def frustum [OfNat α 0] [OfNat α 1] [OfNat α 2] [OfScientific α] [BEq α] [Neg α] [Add α] [Sub α]
    [Mul α] [Div α] (focal aspect near far : α) : Matrix4 α :=
  let depth := usableDepth near far
  ⟨⟨focal / usableAspect aspect, 0, 0, 0⟩, ⟨0, focal, 0, 0⟩,
    ⟨0, 0, (far + near) / depth, 2 * far * near / depth⟩, ⟨0, 0, -1, 0⟩⟩

/-- Half of an angle in degrees, in radians, where the radians of a half turn are given. -/
def halfRadians [OfNat α 2] [OfNat α 180] [Mul α] [Div α] (halfTurn degrees : α) : α :=
  degrees * (halfTurn / 180) / 2

/-- The **focal scale** of a vertical field of view in degrees. -/
def focal [OfNat α 0] [OfNat α 1] [OfNat α 2] [OfNat α 180] [OfNat α 1000] [BEq α] [Mul α] [Div α]
    (halfTurn : α) (tangent : α → α) (degrees : α) : α :=
  focalScale tangent (halfRadians halfTurn degrees)

/-- The **projection** of a vertical field of view in degrees, an aspect and the distances of the
near and the far plane, in numbers of which a half turn and the tangents are given. -/
def projection [OfNat α 0] [OfNat α 1] [OfNat α 2] [OfNat α 180] [OfNat α 1000] [OfScientific α]
    [BEq α] [Neg α] [Add α] [Sub α] [Mul α] [Div α]
    (halfTurn : α) (tangent : α → α) (degrees aspect near far : α) : Matrix4 α :=
  frustum (focal halfTurn tangent degrees) aspect near far

/-! ### Matrices in double precision -/

/-- A function of an angle, which has no value at an infinite one. -/
def ofAngle (f : Float → Float) (angle : Float) : Except Fault Float :=
  if angle.isInf then .error .outsideDomain else .ok (f angle)

/-- The **turn** about the upright axis by an angle. -/
def rotationY (angle : Float) : Except Fault (Matrix4 Float) := do
  let cosine ← ofAngle Float.cos angle
  let sine ← ofAngle Float.sin angle
  return rotation cosine sine

/-- The **perspective projection** of a vertical field of view in degrees, half of which has a
tangent. -/
def perspective (degrees aspect near far : Float) : Except Fault (Matrix4 Float) := do
  let _ ← ofAngle id (halfRadians Mesh.pi degrees)
  return projection Mesh.pi Float.tan degrees aspect near far

end Transform

/-! ### The matrices of a frame -/

/-- The camera: its field of view, the planes between which it sees, and its distance. -/
structure Camera where
  degrees : Float := 45.0
  near : Float := 0.1
  far : Float := 100.0
  distance : Float := 5.0
  deriving DecidableEq, Repr

/-- The **matrices of one frame**, in single precision. -/
structure FrameMatrices where
  model : Matrix4 Float32
  view : Matrix4 Float32
  projection : Matrix4 Float32
  deriving DecidableEq, Repr

/-- The matrices after some time, for a view of some aspect. The model turns one radian per
second. -/
def FrameMatrices.after (camera : Camera) (elapsed aspect : Float) : Except Fault FrameMatrices := do
  let model ← Transform.rotationY elapsed
  let view : Matrix4 Float := Transform.translation 0 0 (-camera.distance)
  let projection ← Transform.perspective camera.degrees aspect camera.near camera.far
  return { model := model.narrow, view := view.narrow, projection := projection.narrow }

end ShaderPreview
