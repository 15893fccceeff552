/-!
# Points and Corners

A **point** is a place or a direction in space. A **corner** of a triangle has a position and a
normal direction, both in single precision, which is how they go to the device.

## Main definitions

* `Point`: three coordinates.
* `Corner`: a position with its normal.
* `Point.bytes`: the twelve bytes of a single-precision point.

## Main results

* `Point.length_bytes`: there are always twelve.
-/

namespace ShaderPreview

/-- Three **coordinates**. -/
structure Point (α : Type) where
  x : α
  y : α
  z : α
  deriving DecidableEq, Repr

namespace Point

variable {α β : Type}

/-- The same function on each coordinate. -/
def map (f : α → β) (p : Point α) : Point β := ⟨f p.x, f p.y, f p.z⟩

/-- Every coordinate times a factor. -/
def scale [Mul α] (p : Point α) (factor : α) : Point α := ⟨p.x * factor, p.y * factor, p.z * factor⟩

/-- Coordinate by coordinate. -/
def add [Add α] (p q : Point α) : Point α := ⟨p.x + q.x, p.y + q.y, p.z + q.z⟩

/-- The coordinates in order. -/
def toList (p : Point α) : List α := [p.x, p.y, p.z]

end Point

/-- The four bytes of a single-precision number, least significant first. -/
def singleBytes (x : Float32) : List UInt8 :=
  let bits := x.toBits
  [bits.toUInt8, (bits >>> 8).toUInt8, (bits >>> 16).toUInt8, (bits >>> 24).toUInt8]

/-- The **bytes of a point**, coordinate after coordinate. -/
def Point.bytes (p : Point Float32) : List UInt8 :=
  singleBytes p.x ++ singleBytes p.y ++ singleBytes p.z

/-- A point has twelve bytes. -/
@[simp] theorem Point.length_bytes (p : Point Float32) : p.bytes.length = 12 := rfl

/-- A **corner** of a triangle. -/
structure Corner where
  position : Point Float32
  normal : Point Float32
  deriving DecidableEq, Repr

/-- The corner at a position with a direction, both rounded to single precision. -/
def Corner.round (position normal : Point Float) : Corner :=
  ⟨position.map Float.toFloat32, normal.map Float.toFloat32⟩

end ShaderPreview
