import ShaderPreview.Geometry.Grid
import ShaderPreview.Geometry.Point

/-!
# Nets

A **net** is how a curved surface is laid out before its mesh is written down: a table with the
place of every point of the grid, and the corners of the triangles by their numbers in that table.
Position and direction of a point stand in one entry, so a corner takes both from the same point.

## Main definitions

* `Place`: where a point lies, and which way the surface faces there.
* `Net`: a table of places and the numbers of the corners, none of which lies outside the table and
  which make whole triangles.
* `Net.ofGrid`: the net of a grid.
* `Net.corners`: the corners in single precision.

## Main results

* `Net.getElem?_corners`: a corner is the place of its number.
* `Net.getElem?_places_ofGrid`: in the net of a grid, the places stand where the points do.
-/

namespace ShaderPreview

/-- The **place of a point** on a surface, with the direction that the surface faces there. -/
structure Place where
  position : Point Float
  direction : Point Float
  deriving Repr

/-- A place in single precision. -/
def Place.corner (p : Place) : Corner := Corner.round p.position p.direction

/-- A **net**: a table of places, and the corners of whole triangles by number. -/
structure Net where
  places : Array Place
  numbers : List Nat
  inRange : ∀ n ∈ numbers, n < places.size
  whole : 3 ∣ numbers.length

namespace Net

/-- The **net of a grid** with so many rows and columns of points, when each point has its place on
a surface. -/
def ofGrid (height width : Nat) (place : GridPoint → Place) (triangles : List Triangle)
    (inside : Grid.StaysInside height width triangles) : Net where
  places := ((Grid.points height width).map place).toArray
  numbers := Grid.numbers width triangles
  inRange n hn := by
    rw [List.size_toArray, List.length_map, Grid.length_points]
    exact inside.numbers_lt n hn
  whole := by
    rw [Grid.numbers, List.length_map, Grid.length_corners]
    exact Nat.dvd_mul_right 3 _

/-- The **corners of a net**, one triangle after another. -/
def corners (net : Net) : List Corner :=
  net.numbers.pmap (fun n hn => net.places[n].corner) net.inRange

/-- There is a corner to each number. -/
@[simp] theorem length_corners (net : Net) : net.corners.length = net.numbers.length :=
  List.length_pmap

/-- A corner is **the place of its number**, in single precision. -/
theorem getElem?_corners {net : Net} {k n : Nat} {place : Place}
    (hnumber : net.numbers[k]? = some n)
    (hplace : net.places[n]? = some place) : net.corners[k]? = some place.corner := by
  obtain ⟨hk, rfl⟩ := List.getElem?_eq_some_iff.mp hnumber
  obtain ⟨hn, rfl⟩ := Array.getElem?_eq_some_iff.mp hplace
  simp [corners, hk]

/-- In the net of a grid, **the places stand where the points do**. -/
theorem getElem?_places_ofGrid {height width : Nat} {place : GridPoint → Place}
    {triangles : List Triangle} {inside : Grid.StaysInside height width triangles} {g : GridPoint}
    (hg : g.Inside height width) :
    (ofGrid height width place triangles inside).places[g.index width]? = some (place g) := by
  simp [ofGrid, Grid.getElem?_points hg]

end Net

end ShaderPreview
