/-!
# Grids of Triangles

A curved surface is laid out as a **grid** of points in rows and columns. Four neighbouring points
are the corners of a cell, and each cell is cut into two triangles along its rising diagonal. Which
triangles there are, and which way round each is, does not depend on where the points lie.

The points are numbered row by row. A grid with so many rows and columns of cells has one row and
one column of points more.

## Main definitions

* `GridPoint`, `Cell`, `Triangle`: the parts of a grid.
* `Grid.points`, `Grid.cells`: all points and all cells, row by row.
* `Grid.sphere`, `Grid.cylinder`, `Grid.torus`: the triangles of the three curved surfaces.
* `Grid.numbers`: the corners of some triangles by number.

## Main results

* `Grid.mem_cells`: a cell of the grid lies inside it.
* `Grid.getElem?_points`: a point stands where its number says.
* `Grid.inside_sphere`, `Grid.inside_cylinder`, `Grid.inside_torus`: no triangle reaches beyond the
  grid.
-/

namespace ShaderPreview

/-- A **point of a grid**, by row and column. -/
structure GridPoint where
  row : Nat
  col : Nat
  deriving DecidableEq, Repr

namespace GridPoint

/-- The **number of a point** when the points are counted row by row, with so many to a row. -/
def index (width : Nat) (p : GridPoint) : Nat := p.row * width + p.col

/-- A point lies **inside** a grid with so many rows and columns of points. -/
structure Inside (height width : Nat) (p : GridPoint) : Prop where
  row_lt : p.row < height
  col_lt : p.col < width

end GridPoint

/-- A **cell of a grid**, by the row and column of its first corner. -/
structure Cell where
  row : Nat
  col : Nat
  deriving DecidableEq, Repr

namespace Cell

/-- The corner in the cell's own row and column. -/
def a (c : Cell) : GridPoint := ⟨c.row, c.col⟩

/-- The corner in the next row. -/
def b (c : Cell) : GridPoint := ⟨c.row + 1, c.col⟩

/-- The corner in the next column. -/
def c (c : Cell) : GridPoint := ⟨c.row, c.col + 1⟩

/-- The corner in the next row and column. -/
def d (c : Cell) : GridPoint := ⟨c.row + 1, c.col + 1⟩

end Cell

/-- A **triangle** between three points of a grid, in the order that says which side it faces. -/
structure Triangle where
  first : GridPoint
  second : GridPoint
  third : GridPoint
  deriving DecidableEq, Repr

/-- The corners of a triangle, in order. -/
def Triangle.points (t : Triangle) : List GridPoint := [t.first, t.second, t.third]

namespace Grid

/-! ### Row by row -/

section RowByRow

variable {α : Type} {rows cols : Nat} {entry : Nat → Nat → α}

/-- What stands in each row and column, **row by row**. -/
def rowByRow (rows cols : Nat) (entry : Nat → Nat → α) : List α :=
  (List.range rows).flatMap fun i => (List.range cols).map (entry i)

/-- The rows up to one more are those before it, and its own. -/
theorem rowByRow_succ :
    rowByRow (rows + 1) cols entry =
      rowByRow rows cols entry ++ (List.range cols).map (entry rows) := by
  simp [rowByRow, List.range_succ]

/-- What is listed row by row is the entry of some place of the grid. -/
theorem mem_rowByRow {x : α} :
    x ∈ rowByRow rows cols entry ↔ ∃ i < rows, ∃ j < cols, entry i j = x := by
  simp [rowByRow]

/-- There are as many entries as rows times columns. -/
@[simp] theorem length_rowByRow : (rowByRow rows cols entry).length = rows * cols := by
  induction rows with
  | zero => simp [rowByRow]
  | succ rows ih => simp [rowByRow_succ, ih, Nat.add_mul]

/-- The entry of a row and column stands behind all earlier rows. -/
theorem getElem?_rowByRow {i j : Nat} (hi : i < rows) (hj : j < cols) :
    (rowByRow rows cols entry)[i * cols + j]? = some (entry i j) := by
  induction rows with
  | zero => exact absurd hi (Nat.not_lt_zero i)
  | succ rows ih =>
    rw [rowByRow_succ]
    rcases Nat.lt_succ_iff_lt_or_eq.mp hi with hi | rfl
    · have hlt : i * cols + j < rows * cols :=
        calc i * cols + j < i * cols + cols := Nat.add_lt_add_left hj _
          _ = (i + 1) * cols := (Nat.succ_mul i cols).symm
          _ ≤ rows * cols := Nat.mul_le_mul_right cols hi
      rw [List.getElem?_append_left (by rwa [length_rowByRow]), ih hi]
    · rw [List.getElem?_append_right (by rw [length_rowByRow]; exact Nat.le_add_right _ _)]
      simp [hj]

end RowByRow

variable {height width rows cols : Nat}

/-- All **points** of a grid with so many rows and columns of points, row by row. -/
def points (height width : Nat) : List GridPoint := rowByRow height width GridPoint.mk

/-- All **cells** of a grid with so many rows and columns of cells, row by row. -/
def cells (rows cols : Nat) : List Cell := rowByRow rows cols Cell.mk

/-- A cell belongs to a grid when its first corner is in neither the last row nor the last
column of points. -/
theorem mem_cells {c : Cell} : c ∈ cells rows cols ↔ c.row < rows ∧ c.col < cols := by
  obtain ⟨i, j⟩ := c
  simp [cells, mem_rowByRow]

/-- A grid has as many cells as rows times columns. -/
@[simp] theorem length_cells : (cells rows cols).length = rows * cols := length_rowByRow

/-- A grid has as many points as rows times columns of points. -/
@[simp] theorem length_points : (points height width).length = height * width := length_rowByRow

/-- A point **stands where its number says**. -/
theorem getElem?_points {p : GridPoint} (hp : p.Inside height width) :
    (points height width)[p.index width]? = some p :=
  getElem?_rowByRow hp.row_lt hp.col_lt

/-- The number of a point of the grid is below the number of points. -/
theorem index_lt {p : GridPoint} (hp : p.Inside height width) :
    p.index width < height * width := by
  have hsome := getElem?_points hp
  rw [← length_points]
  exact (List.getElem?_eq_some_iff.mp hsome).1

/-! ### Triangles -/

/-- The triangles of a **sphere**. At either pole one triangle of each cell would have no area, and
is left out. -/
def sphere (rows cols : Nat) : List Triangle :=
  (cells rows cols).flatMap fun c =>
    (if c.row = 0 then [] else [⟨c.a, c.b, c.c⟩])
      ++ (if c.row + 1 = rows then [] else [⟨c.b, c.d, c.c⟩])

/-- The triangles of an open **cylinder**: one row of cells. -/
def cylinder (segments : Nat) : List Triangle :=
  (cells 1 segments).flatMap fun c => [⟨c.a, c.b, c.c⟩, ⟨c.b, c.d, c.c⟩]

/-- The triangles of a **torus**. -/
def torus (major minor : Nat) : List Triangle :=
  (cells major minor).flatMap fun c => [⟨c.a, c.c, c.b⟩, ⟨c.b, c.c, c.d⟩]

/-- The corners of some triangles, one after another. -/
def corners (triangles : List Triangle) : List GridPoint := triangles.flatMap Triangle.points

/-- Each triangle has three corners. -/
theorem length_corners (ts : List Triangle) : (corners ts).length = 3 * ts.length := by
  induction ts with
  | nil => rfl
  | cons t ts ih => simp [corners, Triangle.points] at ih ⊢; omega

/-- The corners of some triangles **by number**, one after another. -/
def numbers (width : Nat) (triangles : List Triangle) : List Nat :=
  (corners triangles).map (GridPoint.index width)

/-! ### Inside the grid -/

/-- A list of triangles **stays inside** a grid of points. -/
def StaysInside (height width : Nat) (triangles : List Triangle) : Prop :=
  ∀ p ∈ corners triangles, p.Inside height width

/-- The numbers of corners inside a grid are below the number of points. -/
theorem StaysInside.numbers_lt {triangles : List Triangle}
    (h : StaysInside height width triangles) :
    ∀ n ∈ numbers width triangles, n < height * width := by
  intro n hn
  obtain ⟨p, hp, rfl⟩ := List.mem_map.mp hn
  exact index_lt (h p hp)

/-- Triangles between the corners of their cell stay inside the grid. -/
theorem staysInside_flatMap {triangles : Cell → List Triangle}
    (h : ∀ c, corners (triangles c) ⊆ [c.a, c.b, c.c, c.d]) :
    StaysInside height width ((cells (height - 1) (width - 1)).flatMap triangles) := by
  intro p hp
  obtain ⟨t, ht, hpt⟩ := List.mem_flatMap.mp hp
  obtain ⟨c, hc, htc⟩ := List.mem_flatMap.mp ht
  obtain ⟨hrow, hcol⟩ := mem_cells.mp hc
  have hcorner := h c (List.mem_flatMap.mpr ⟨t, htc, hpt⟩)
  simp only [List.mem_cons, List.not_mem_nil, or_false] at hcorner
  rcases hcorner with rfl | rfl | rfl | rfl <;> constructor <;>
    simp only [Cell.a, Cell.b, Cell.c, Cell.d] <;> omega

/-- The triangles of a sphere **stay inside** its grid. -/
theorem inside_sphere (height width : Nat) :
    StaysInside height width (sphere (height - 1) (width - 1)) := by
  refine staysInside_flatMap fun c => ?_
  split <;> split <;> simp [corners, Triangle.points]

/-- The triangles of a cylinder **stay inside** two rows of points. -/
theorem inside_cylinder (width : Nat) : StaysInside 2 width (cylinder (width - 1)) :=
  staysInside_flatMap fun c => by simp [corners, Triangle.points]

/-- The triangles of a torus **stay inside** its grid. -/
theorem inside_torus (height width : Nat) :
    StaysInside height width (torus (height - 1) (width - 1)) :=
  staysInside_flatMap fun c => by simp [corners, Triangle.points]

end Grid

end ShaderPreview
