import ShaderPreview.Proofs.Geometry.Expansion
import ShaderPreview.Proofs.Geometry.HalfEdges

/-!
# The Curved Surfaces are the Same Way Round Everywhere

The first and the last column of a grid lie on the same line of the surface, and so do the first
and the last row of a torus. On a sphere all points of the first row lie on one pole, and all of the
last row on the other. With such points **glued** together the triangles of a torus and of a sphere
close up, and those of a cylinder are left open at its two rims only.

## Main definitions

* `Grid.triangles`: the triangles that a list of numbers stands for.
* `Grid.edges`: the directed edges of some triangles between glued points.
* `Grid.torusPoint`, `Grid.cylinderPoint`, `Grid.spherePoint`: what is glued.
* `Grid.halves`: the half-edges of a grid, when each row keeps some sides of its cells.

## Main results

* `Grid.closed_torus`, `Grid.closed_sphere`: these surfaces are closed.
* `Grid.openAtRims_cylinder`: where the cylinder is open.
* `Mesh.consistently_oriented`: the index lists of the three shapes.
-/

namespace ShaderPreview

/-! ### Triangles and their edges -/

/-- The point of a number. -/
def GridPoint.ofIndex (width n : Nat) : GridPoint := ⟨n / width, n % width⟩

/-- A point is read back from its number. -/
theorem GridPoint.ofIndex_index {height width : Nat} {p : GridPoint} (hp : p.Inside height width) :
    ofIndex width (p.index width) = p := by
  have hpos : 0 < width := Nat.zero_lt_of_lt hp.col_lt
  rw [ofIndex, index, Nat.mul_comm, Nat.mul_add_div hpos, Nat.div_eq_of_lt hp.col_lt,
    Nat.mul_add_mod, Nat.mod_eq_of_lt hp.col_lt]
  rfl

/-- The **directed edges of a triangle**, from each corner to the next. -/
def Triangle.edges (t : Triangle) : List (GridPoint × GridPoint) :=
  [(t.first, t.second), (t.second, t.third), (t.third, t.first)]

namespace Grid

/-- The **triangles that a list of numbers stands for**, three numbers to a triangle. -/
def triangles (width : Nat) : List Nat → List Triangle
  | first :: second :: third :: rest =>
    ⟨.ofIndex width first, .ofIndex width second, .ofIndex width third⟩ :: triangles width rest
  | _ => []

/-- The triangles of a grid are read back from their numbers. -/
theorem triangles_numbers {height width : Nat} {ts : List Triangle}
    (h : StaysInside height width ts) : triangles width (numbers width ts) = ts := by
  induction ts with
  | nil => rfl
  | cons t ts ih =>
    have hcorner : ∀ p ∈ t.points, GridPoint.ofIndex width (p.index width) = p := fun p hp =>
      GridPoint.ofIndex_index (h p (List.mem_flatMap.mpr ⟨t, List.mem_cons_self, hp⟩))
    have hrest : triangles width (numbers width ts) = ts := ih fun p hp =>
      h p (List.mem_append_right t.points hp)
    show ⟨_, _, _⟩ :: triangles width (numbers width ts) = t :: ts
    rw [hrest, hcorner t.first (by simp [Triangle.points]),
      hcorner t.second (by simp [Triangle.points]), hcorner t.third (by simp [Triangle.points])]

/-- The **directed edges of some triangles** between glued points. -/
def edges {V : Type} (glue : GridPoint → V) (ts : List Triangle) : List (V × V) :=
  ts.flatMap fun t => t.edges.map (Prod.map glue glue)

end Grid

/-- The **triangles of a net** over a grid with so many points to a row. -/
def Net.triangles (width : Nat) (net : Net) : List Triangle := Grid.triangles width net.numbers

/-- The net of a grid has the triangles that it was made of. -/
theorem Net.triangles_ofGrid {height width : Nat} {place : GridPoint → Place} {ts : List Triangle}
    {inside : Grid.StaysInside height width ts} :
    (ofGrid height width place ts inside).triangles width = ts :=
  Grid.triangles_numbers inside

/-! ### The half-edges of a grid -/

/-- A side of a cell, from corner to corner. -/
def Side.between (c : Cell) : Side → GridPoint × GridPoint
  | ab => (c.a, c.b)
  | bc => (c.b, c.c)
  | ca => (c.c, c.a)
  | bd => (c.b, c.d)
  | dc => (c.d, c.c)
  | cb => (c.c, c.b)

section Halves

variable {R C : Type} [AddCommGroupWithOne R] [AddCommGroupWithOne C]

/-- A point of a grid on a lattice. -/
def GridPoint.onto (R C : Type) [AddCommGroupWithOne R] [AddCommGroupWithOne C] (g : GridPoint) :
    R × C :=
  (g.row, g.col)

/-- The half-edge of a side of a cell. -/
def HalfEdge.ofCell (c : Cell) (s : Side) : HalfEdge R C := ⟨(c.row, c.col), s⟩

/-- The half-edge of a side makes the edge between its corners. -/
theorem HalfEdge.edge_ofCell (c : Cell) (s : Side) :
    (ofCell c s : HalfEdge R C).edge =
      Prod.map (GridPoint.onto R C) (GridPoint.onto R C) (s.between c) := by
  cases s <;> simp [ofCell, Side.between, GridPoint.onto, Cell.a, Cell.b, Cell.c, Cell.d]

namespace Grid

/-- The **half-edges of a grid** of cells, of which each row keeps some sides. -/
def halves (sides : Nat → List Side) (rows cols : Nat) : List (HalfEdge R C) :=
  (cells rows cols).flatMap fun c => (sides c.row).map (.ofCell c)

variable {rows cols : Nat} {sides : Nat → List Side}

/-- The cells of a grid are all different. -/
theorem nodup_cells (rows cols : Nat) : (cells rows cols).Nodup := by
  have hpairs : cells rows cols =
      ((List.range rows).product (List.range cols)).map fun p => (⟨p.1, p.2⟩ : Cell) := by
    simp [cells, rowByRow, List.product, List.map_flatMap, Function.comp_def]
  rw [hpairs]
  refine (List.nodup_range.product List.nodup_range).map fun p q h => ?_
  obtain ⟨hrow, hcol⟩ := Cell.mk.inj h
  exact Prod.ext hrow hcol

/-- A grid's half-edges are those of the sides that the row of their cell keeps. -/
theorem mem_halves {h : HalfEdge R C} : h ∈ (halves sides rows cols : List (HalfEdge R C)) ↔
    ∃ i < rows, ∃ j < cols, h.side ∈ sides i ∧ h.cell = ((i : R), (j : C)) := by
  obtain ⟨cell, side⟩ := h
  simp only [halves, List.mem_flatMap, List.mem_map, HalfEdge.ofCell, HalfEdge.mk.injEq]
  constructor
  · rintro ⟨c, hc, s, hs, rfl, rfl⟩
    obtain ⟨hrow, hcol⟩ := mem_cells.mp hc
    exact ⟨c.row, hrow, c.col, hcol, hs, rfl⟩
  · rintro ⟨i, hi, j, hj, hs, hcell⟩
    exact ⟨⟨i, j⟩, mem_cells.mpr ⟨hi, hj⟩, side, hs, hcell.symm, rfl⟩

/-- No half-edge occurs twice when different cells are at different places. -/
theorem nodup_halves (hR : ∀ i < rows, ∀ i' < rows, (i : R) = i' → i = i')
    (hC : ∀ j < cols, ∀ j' < cols, (j : C) = j' → j = j') (hsides : ∀ i, (sides i).Nodup) :
    (halves sides rows cols : List (HalfEdge R C)).Nodup := by
  refine List.nodup_flatMap.mpr ⟨fun c _ => ?_, ?_⟩
  · exact (hsides c.row).map fun s s' h => (HalfEdge.mk.inj h).2
  · refine (nodup_cells rows cols).pairwise_of_forall_ne fun c hc c' hc' hne h hh hh' => hne ?_
    obtain ⟨s, -, rfl⟩ := List.mem_map.mp hh
    obtain ⟨s', -, heq⟩ := List.mem_map.mp hh'
    obtain ⟨hrow, hcol⟩ := Prod.ext_iff.mp (HalfEdge.mk.inj heq).1
    obtain ⟨hc₁, hc₂⟩ := mem_cells.mp hc
    obtain ⟨hc₁', hc₂'⟩ := mem_cells.mp hc'
    obtain ⟨i, j⟩ := c
    obtain ⟨i', j'⟩ := c'
    rw [hR i hc₁ i' hc₁' hrow.symm, hC j hc₂ j' hc₂' hcol.symm]

/-- The edges of triangles that are cut from cells are made by half-edges. -/
theorem edges_flatMap {V : Type} {glue : GridPoint → V} {triangles : Cell → List Triangle}
    {make : HalfEdge R C → V × V}
    (h : ∀ c, edges glue (triangles c) = (sides c.row).map fun s => make (.ofCell c s)) :
    edges glue ((cells rows cols).flatMap triangles) = (halves sides rows cols).map make := by
  rw [halves, List.map_flatMap, edges, List.flatMap_assoc]
  refine congrArg (List.flatMap · (cells rows cols)) (funext fun c => ?_)
  rw [List.map_map]
  exact h c

end Grid

end Halves

/-! ### Integers modulo a number -/

/-- Numbers below the modulus stay apart. -/
theorem natCast_zmod_injOn (n : ℕ) : ∀ i < n, ∀ i' < n, (i : ZMod n) = i' → i = i' := by
  intro i hi i' hi' h
  have hmod := (ZMod.natCast_eq_natCast_iff' i i' n).mp h
  rwa [Nat.mod_eq_of_lt hi, Nat.mod_eq_of_lt hi'] at hmod

/-- Each residue is that of a number below the modulus. -/
theorem exists_natCast_zmod {n : ℕ} (hn : 0 < n) (x : ZMod n) : ∃ i < n, x = (i : ZMod n) :=
  have : NeZero n := ⟨hn.ne'⟩
  ⟨x.val, x.val_lt, (ZMod.natCast_zmod_val x).symm⟩

/-- Natural numbers stay apart among the whole ones. -/
theorem natCast_int_injOn (n : ℕ) : ∀ i < n, ∀ i' < n, (i : ℤ) = i' → i = i' :=
  fun _ _ _ _ h => Int.natCast_inj.mp h

namespace Grid

variable {rows cols : Nat}

/-! ### The torus -/

/-- On a torus the **last row is the first and the last column is the first**. -/
def torusPoint (rows cols : Nat) (g : GridPoint) : ZMod rows × ZMod cols := (g.row, g.col)

/-- The sides of the triangles of a torus, which run the other way. -/
def torusSides : List Side := [.ca, .bc, .ab, .cb, .dc, .bd]

/-- A torus has all sides of its cells. -/
theorem mem_torusSides (s : Side) : s ∈ torusSides := by
  cases s <;> decide

/-- The edges of a torus are its half-edges, each the other way. -/
theorem edges_torus : edges (torusPoint rows cols) (torus rows cols) =
    (halves (fun _ => torusSides) rows cols).map fun h => h.edge.swap := by
  refine edges_flatMap fun c => ?_
  simp only [HalfEdge.edge_ofCell]
  rfl

/-- A **torus is closed**. -/
theorem closed_torus (hrows : 3 ≤ rows) (hcols : 3 ≤ cols) :
    Closed (edges (torusPoint rows cols) (torus rows cols)) := by
  rw [edges_torus]
  refine closed_of_twins ((nodup_halves (natCast_zmod_injOn rows) (natCast_zmod_injOn cols)
    fun _ => by decide).map ?_) fun h _ => ⟨h.twin, ?_, by rw [HalfEdge.edge_twin]⟩
  · exact Prod.swap_injective.comp
      (HalfEdge.edge_injective (coordinate_zmod hrows) (coordinate_zmod hcols))
  · obtain ⟨i, hi, hrow⟩ := exists_natCast_zmod (by omega) h.twin.cell.1
    obtain ⟨j, hj, hcol⟩ := exists_natCast_zmod (by omega) h.twin.cell.2
    exact mem_halves.mpr ⟨i, hi, j, hj, mem_torusSides _, Prod.ext hrow hcol⟩

/-! ### The cylinder -/

/-- On a cylinder the **last column is the first**. -/
def cylinderPoint (cols : Nat) (g : GridPoint) : ℤ × ZMod cols := (g.row, g.col)

/-- The sides of the triangles of a cylinder. -/
def cylinderSides : List Side := [.ab, .bc, .ca, .bd, .dc, .cb]

/-- A cylinder has all sides of its cells. -/
theorem mem_cylinderSides (s : Side) : s ∈ cylinderSides := by
  cases s <;> decide

/-- The edges of a cylinder are its half-edges. -/
theorem edges_cylinder : edges (cylinderPoint cols) (cylinder cols) =
    (halves (fun _ => cylinderSides) 1 cols).map HalfEdge.edge := by
  refine edges_flatMap fun c => ?_
  simp only [HalfEdge.edge_ofCell]
  rfl

/-- The half-edges of a cylinder are those of cells in the one row. -/
theorem mem_halves_cylinder (hcols : 0 < cols) {h : HalfEdge ℤ (ZMod cols)} :
    h ∈ halves (fun _ => cylinderSides) 1 cols ↔ h.cell.1 = 0 := by
  rw [mem_halves]
  constructor
  · rintro ⟨i, hi, j, -, -, hcell⟩
    obtain rfl : i = 0 := by omega
    rw [hcell]
    rfl
  · intro hrow
    obtain ⟨j, hj, hcol⟩ := exists_natCast_zmod hcols h.cell.2
    exact ⟨0, Nat.one_pos, j, hj, mem_cylinderSides _, Prod.ext hrow hcol⟩

/-- An edge **along a rim** of a cylinder: backwards at the bottom, forwards at the top. -/
def AlongRim (e : (ℤ × ZMod cols) × (ℤ × ZMod cols)) : Prop :=
  ∃ j : ZMod cols, e = ((0, j + 1), (0, j)) ∨ e = ((1, j), (1, j + 1))

/-- Some edges leave a cylinder **open at its rims** only: none occurs twice, and those without
their reverse are exactly the edges along the two rims. -/
structure OpenAtRims (es : List ((ℤ × ZMod cols) × (ℤ × ZMod cols))) : Prop where
  count_le_one : ∀ e, es.count e ≤ 1
  lacks_reverse_iff : ∀ e, e ∈ es ∧ e.swap ∉ es ↔ AlongRim e

/-- A **cylinder is open at its rims** only. -/
theorem openAtRims_cylinder (hcols : 3 ≤ cols) :
    OpenAtRims (edges (cylinderPoint cols) (cylinder cols)) := by
  have hinj := HalfEdge.edge_injective coordinate_int (coordinate_zmod hcols)
  have hmem : ∀ h : HalfEdge ℤ (ZMod cols),
      h.edge ∈ edges (cylinderPoint cols) (cylinder cols) ↔ h.cell.1 = 0 := fun h => by
    rw [edges_cylinder, List.mem_map_of_injective hinj, mem_halves_cylinder (by omega)]
  refine ⟨List.nodup_iff_count_le_one.mp ?_, fun e => ⟨?_, ?_⟩⟩
  · rw [edges_cylinder]
    exact (nodup_halves (natCast_int_injOn 1) (natCast_zmod_injOn cols) fun _ => by decide).map hinj
  · rintro ⟨he, hswap⟩
    rw [edges_cylinder] at he
    obtain ⟨⟨⟨i, j⟩, s⟩, hh, rfl⟩ := List.mem_map.mp he
    obtain rfl : i = 0 := (mem_halves_cylinder (by omega)).mp hh
    rw [← HalfEdge.edge_twin, hmem] at hswap
    cases s
    case ca => exact ⟨j, .inl (by simp)⟩
    case bd => exact ⟨j, .inr (by simp)⟩
    all_goals exact absurd (by simp [HalfEdge.twin]) hswap
  · have hrim : ∀ h : HalfEdge ℤ (ZMod cols), h.cell.1 = 0 → h.twin.cell.1 ≠ 0 →
        h.edge ∈ edges (cylinderPoint cols) (cylinder cols) ∧
          h.edge.swap ∉ edges (cylinderPoint cols) (cylinder cols) := by
      intro h hrow htwin
      rw [← HalfEdge.edge_twin, hmem, hmem]
      exact ⟨hrow, htwin⟩
    rintro ⟨j, rfl | rfl⟩
    · simpa using hrim ⟨(0, j), .ca⟩ rfl (by simp [HalfEdge.twin])
    · simpa using hrim ⟨(0, j), .bd⟩ rfl (by simp [HalfEdge.twin])

/-! ### The sphere -/

/-- The first and the last row of a sphere's grid lie **at a pole**. -/
def AtPole (rows : Nat) (i : ℤ) : Prop := i = 0 ∨ i = rows

instance (rows : Nat) (i : ℤ) : Decidable (AtPole rows i) := inferInstanceAs (Decidable (_ ∨ _))

/-- All points at one pole are **the same**. -/
def collapse (rows : Nat) (p : ℤ × ZMod cols) : ℤ × ZMod cols :=
  (p.1, if AtPole rows p.1 then 0 else p.2)

/-- On a sphere the **last column is the first**, and each of the two rows at the poles is a single
point. -/
def spherePoint (rows cols : Nat) (g : GridPoint) : ℤ × ZMod cols := collapse rows (g.row, g.col)

/-- Away from the poles nothing is collapsed. -/
theorem eq_of_collapse_eq {p q : ℤ × ZMod cols} (hp : ¬AtPole rows p.1)
    (h : collapse rows p = collapse rows q) : p = q := by
  obtain ⟨i, x⟩ := p
  obtain ⟨j, y⟩ := q
  obtain ⟨hrow, hcol⟩ := Prod.ext_iff.mp h
  obtain rfl : i = j := hrow
  have hcol : (if AtPole rows i then 0 else x) = if AtPole rows i then 0 else y := hcol
  rw [if_neg hp, if_neg hp] at hcol
  rw [hcol]

/-- The sides of the triangles of a sphere: the first row of cells has no triangles `a b c`, and the
last one no triangles `b d c`. -/
def sphereSides (rows i : Nat) : List Side :=
  (if i = 0 then [] else [.ab, .bc, .ca]) ++ (if i + 1 = rows then [] else [.bd, .dc, .cb])

/-- No side of a cell occurs twice, whether its row touches a pole or not. -/
theorem nodup_sphereSides (rows i : Nat) : (sphereSides rows i).Nodup := by
  rw [sphereSides]
  split <;> split <;> decide

/-- A half-edge between the points of a sphere. -/
def sphereEdge (rows : Nat) (h : HalfEdge ℤ (ZMod cols)) : (ℤ × ZMod cols) × (ℤ × ZMod cols) :=
  Prod.map (collapse rows) (collapse rows) h.edge

/-- The edges of a sphere are its half-edges, with the poles collapsed. -/
theorem edges_sphere : edges (spherePoint rows cols) (sphere rows cols) =
    (halves (sphereSides rows) rows cols).map (sphereEdge rows) := by
  refine edges_flatMap fun c => ?_
  simp only [sphereEdge, HalfEdge.edge_ofCell, sphereSides]
  split <;> split <;> rfl

/-- The half-edges that a sphere **keeps**: those of the triangles `a b c` in all rows but the
first, and those of the triangles `b d c` in all but the last. -/
def Kept (rows : Nat) (h : HalfEdge ℤ (ZMod cols)) : Prop :=
  match h.side with
  | .ab | .bc | .ca => 0 < h.cell.1 ∧ h.cell.1 < rows
  | .bd | .dc | .cb => 0 ≤ h.cell.1 ∧ h.cell.1 + 1 < rows

/-- The half-edges of a sphere are the ones that it keeps. -/
theorem mem_halves_sphere (hcols : 0 < cols) {h : HalfEdge ℤ (ZMod cols)} :
    h ∈ halves (sphereSides rows) rows cols ↔ Kept rows h := by
  obtain ⟨⟨i, x⟩, s⟩ := h
  obtain ⟨j, hj, rfl⟩ := exists_natCast_zmod hcols x
  have hkeeps : ∀ k : Nat, k < rows →
      (s ∈ sphereSides rows k ↔ Kept rows (⟨(k, j), s⟩ : HalfEdge ℤ (ZMod cols))) := by
    intro k hk
    cases s <;> simp [sphereSides, Kept] <;> omega
  rw [mem_halves]
  constructor
  · rintro ⟨k, hk, j', hj', hside, hcell⟩
    obtain ⟨rfl, hcol⟩ := Prod.ext_iff.mp hcell
    exact (hkeeps k hk).mp hside
  · intro hkept
    have hi : 0 ≤ i ∧ i < rows := by
      cases s <;> simp only [Kept] at hkept <;> omega
    obtain ⟨k, rfl⟩ := Int.eq_ofNat_of_zero_le hi.1
    have hk : k < rows := by omega
    exact ⟨k, hk, j, hj, (hkeeps k hk).mpr hkept, rfl⟩

/-- A half-edge that starts at a pole is known by the pole, and leads away from it. -/
theorem Kept.of_source {h : HalfEdge ℤ (ZMod cols)} (hkept : Kept rows h)
    (hpole : AtPole rows h.source.1) :
    h.side = (if h.source.1 = 0 then .cb else .bc) ∧ ¬AtPole rows h.target.1 := by
  obtain ⟨⟨i, j⟩, s⟩ := h
  cases s <;> simp [Kept, AtPole] at * <;> omega

/-- A half-edge that leads to a pole is known by the pole, and comes from elsewhere. -/
theorem Kept.of_target {h : HalfEdge ℤ (ZMod cols)} (hkept : Kept rows h)
    (hpole : AtPole rows h.target.1) :
    h.side = (if h.target.1 = 0 then .dc else .ab) ∧ ¬AtPole rows h.source.1 := by
  obtain ⟨⟨i, j⟩, s⟩ := h
  cases s <;> simp [Kept, AtPole] at * <;> omega

/-- Different half-edges that are kept make different edges. -/
theorem Kept.eq_of_sphereEdge_eq {h h' : HalfEdge ℤ (ZMod cols)} (hcols : 3 ≤ cols)
    (hkept : Kept rows h) (hkept' : Kept rows h') (heq : sphereEdge rows h = sphereEdge rows h') :
    h = h' := by
  obtain ⟨hsource, htarget⟩ := Prod.ext_iff.mp heq
  have hsource : collapse rows h.source = collapse rows h'.source := hsource
  have htarget : collapse rows h.target = collapse rows h'.target := htarget
  have hsourceRow : h.source.1 = h'.source.1 := (Prod.ext_iff.mp hsource).1
  have htargetRow : h.target.1 = h'.target.1 := (Prod.ext_iff.mp htarget).1
  by_cases hpole : AtPole rows h.source.1
  · obtain ⟨hside, hfar⟩ := hkept.of_source hpole
    obtain ⟨hside', -⟩ := hkept'.of_source (hsourceRow ▸ hpole)
    rw [← hsourceRow] at hside'
    exact HalfEdge.ext_target (hside.trans hside'.symm) (eq_of_collapse_eq hfar htarget)
  · by_cases hpole' : AtPole rows h.target.1
    · obtain ⟨hside, -⟩ := hkept.of_target hpole'
      obtain ⟨hside', -⟩ := hkept'.of_target (htargetRow ▸ hpole')
      rw [← htargetRow] at hside'
      exact HalfEdge.ext_source (hside.trans hside'.symm) (eq_of_collapse_eq hpole hsource)
    · exact HalfEdge.edge_injective coordinate_int (coordinate_zmod hcols)
        (Prod.ext (eq_of_collapse_eq hpole hsource) (eq_of_collapse_eq hpole' htarget))

/-- A twin on the lattice is a twin on the sphere. -/
theorem sphereEdge_twin (h : HalfEdge ℤ (ZMod cols)) :
    sphereEdge rows h.twin = (sphereEdge rows h).swap := by
  rw [sphereEdge, HalfEdge.edge_twin]
  rfl

/-- Every half-edge that a sphere keeps has its twin. At the poles, where the twin on the lattice is
left out, it is a side of the next cell around the pole. -/
theorem Kept.exists_twin {h : HalfEdge ℤ (ZMod cols)} (hkept : Kept rows h) :
    ∃ h', Kept rows h' ∧ sphereEdge rows h' = (sphereEdge rows h).swap := by
  by_cases htwin : Kept rows h.twin
  · exact ⟨h.twin, htwin, sphereEdge_twin h⟩
  obtain ⟨⟨i, j⟩, s⟩ := h
  simp only [Kept, HalfEdge.twin] at hkept htwin
  -- the two sides `ca` and `bd` run along a row, and have their twin on the lattice
  cases s with
  | ca => exact absurd ⟨by simp; omega, by simp; omega⟩ htwin
  | bd => exact absurd ⟨by simp; omega, by simp; omega⟩ htwin
  | ab =>
    have hpole : AtPole rows (i + 1) := .inr (by simp at htwin; omega)
    exact ⟨⟨(i, j - 1), .bc⟩, hkept, by simp [sphereEdge, collapse, hpole]⟩
  | bc =>
    have hpole : AtPole rows (i + 1) := .inr (by simp at htwin; omega)
    exact ⟨⟨(i, j + 1), .ab⟩, hkept, by simp [sphereEdge, collapse, hpole]⟩
  | dc =>
    have hpole : AtPole rows i := .inl (by simp at htwin; omega)
    exact ⟨⟨(i, j + 1), .cb⟩, hkept, by simp [sphereEdge, collapse, hpole]⟩
  | cb =>
    have hpole : AtPole rows i := .inl (by simp at htwin; omega)
    exact ⟨⟨(i, j - 1), .dc⟩, hkept, by simp [sphereEdge, collapse, hpole]⟩

/-- A half-edge that a sphere keeps joins two different points. -/
theorem Kept.sphereEdge_ne {h : HalfEdge ℤ (ZMod cols)} (hcols : 3 ≤ cols) (hkept : Kept rows h) :
    (sphereEdge rows h).1 ≠ (sphereEdge rows h).2 := by
  intro heq
  have hrow : h.source.1 = h.target.1 := (Prod.ext_iff.mp heq).1
  by_cases hpole : AtPole rows h.source.1
  · exact (hkept.of_source hpole).2 (hrow ▸ hpole)
  · exact h.source_ne_target coordinate_int (coordinate_zmod hcols) (eq_of_collapse_eq hpole heq)

/-- A **sphere is closed**, and none of its triangles has two equal corners. -/
theorem closed_sphere (hcols : 3 ≤ cols) :
    (∀ t ∈ sphere rows cols, (t.points.map (spherePoint rows cols)).Nodup) ∧
      Closed (edges (spherePoint rows cols) (sphere rows cols)) := by
  have hmem : ∀ {h : HalfEdge ℤ (ZMod cols)},
      h ∈ halves (sphereSides rows) rows cols ↔ Kept rows h := mem_halves_sphere (by omega)
  constructor
  · intro t ht
    have hne : ∀ e ∈ t.edges, spherePoint rows cols e.1 ≠ spherePoint rows cols e.2 := by
      intro e he
      have hedge : Prod.map (spherePoint rows cols) (spherePoint rows cols) e ∈
          edges (spherePoint rows cols) (sphere rows cols) :=
        List.mem_flatMap.mpr ⟨t, ht, List.mem_map_of_mem he⟩
      rw [edges_sphere] at hedge
      obtain ⟨h, hh, heq⟩ := List.mem_map.mp hedge
      have hne := (hmem.mp hh).sphereEdge_ne hcols
      rw [heq] at hne
      exact hne
    simp [Triangle.edges] at hne
    simp [Triangle.points, hne.1, hne.2.1, Ne.symm hne.2.2]
  · rw [edges_sphere]
    refine closed_of_twins (List.Nodup.map_on ?_ (nodup_halves (natCast_int_injOn rows)
      (natCast_zmod_injOn cols) (nodup_sphereSides rows))) ?_
    · exact fun h hh h' hh' heq => (hmem.mp hh).eq_of_sphereEdge_eq hcols (hmem.mp hh') heq
    · intro h hh
      obtain ⟨h', hh', htwin⟩ := (hmem.mp hh).exists_twin
      exact ⟨h', hmem.mpr hh', htwin⟩

end Grid

/-! ### The index lists -/

namespace Mesh

/-- The curved surfaces are **consistently oriented**, however finely they are cut: the triangles of
their index lists make a closed surface of a torus and of a sphere, and of a cylinder one that is
open at its rims only. There are two triangles to a cell, one where a cell touches a pole. -/
theorem consistently_oriented :
    (∀ t : Torus, 3 ≤ t.majorSegments → 3 ≤ t.minorSegments → ∃ net, torusNet t = .ok net ∧
      (net.triangles (t.minorSegments.toNat + 1)).length =
        2 * (t.majorSegments.toNat * t.minorSegments.toNat) ∧
      Closed (Grid.edges (Grid.torusPoint t.majorSegments.toNat t.minorSegments.toNat)
        (net.triangles (t.minorSegments.toNat + 1)))) ∧
    (∀ s : Sphere, 3 ≤ s.widthSegments → 2 ≤ s.heightSegments → ∃ net, sphereNet s = .ok net ∧
      (net.triangles (s.widthSegments.toNat + 1)).length =
        2 * (s.widthSegments.toNat * (s.heightSegments.toNat - 1)) ∧
      (∀ t ∈ net.triangles (s.widthSegments.toNat + 1),
        (t.points.map (Grid.spherePoint s.heightSegments.toNat s.widthSegments.toNat)).Nodup) ∧
      Closed (Grid.edges (Grid.spherePoint s.heightSegments.toNat s.widthSegments.toNat)
        (net.triangles (s.widthSegments.toNat + 1)))) ∧
    ∀ c : Cylinder, 3 ≤ c.segments → ∃ net, cylinderNet c = .ok net ∧
      (net.triangles (c.segments.toNat + 1)).length = 2 * c.segments.toNat ∧
      Grid.OpenAtRims (Grid.edges (Grid.cylinderPoint c.segments.toNat)
        (net.triangles (c.segments.toNat + 1))) := by
  refine ⟨fun t hmajor hminor => ?_, fun s hwidth hheight => ?_, fun c hsegments => ?_⟩
  · rw [torusNet, pointsAlong_of_nonneg (by omega), pointsAlong_of_nonneg (by omega)]
    refine ⟨_, rfl, ?_⟩
    rw [Net.triangles_ofGrid]
    exact ⟨Grid.length_torus _ _, Grid.closed_torus (by omega) (by omega)⟩
  · rw [sphereNet, pointsAlong_of_nonneg (by omega), pointsAlong_of_nonneg (by omega)]
    refine ⟨_, rfl, ?_⟩
    rw [Net.triangles_ofGrid]
    exact ⟨Grid.length_sphere _ _, Grid.closed_sphere (by omega)⟩
  · rw [cylinderNet, pointsAlong_of_nonneg (by omega)]
    refine ⟨_, rfl, ?_⟩
    rw [Net.triangles_ofGrid]
    exact ⟨Grid.length_cylinder _, Grid.openAtRims_cylinder (by omega)⟩

/-- The **smallest surfaces** that the orientation is stated for have eighteen triangles, six and
six. -/
theorem consistently_oriented_smallest :
    ∃ torus sphere cylinder, torusNet { majorSegments := 3, minorSegments := 3 } = .ok torus ∧
      (torus.triangles 4).length = 18 ∧
      Closed (Grid.edges (Grid.torusPoint 3 3) (torus.triangles 4)) ∧
      sphereNet { widthSegments := 3, heightSegments := 2 } = .ok sphere ∧
      (sphere.triangles 4).length = 6 ∧
      Closed (Grid.edges (Grid.spherePoint 2 3) (sphere.triangles 4)) ∧
      cylinderNet { segments := 3 } = .ok cylinder ∧ (cylinder.triangles 4).length = 6 ∧
      Grid.OpenAtRims (Grid.edges (Grid.cylinderPoint 3) (cylinder.triangles 4)) := by
  obtain ⟨torus, htorus, hcount, hclosed⟩ :=
    consistently_oriented.1 { majorSegments := 3, minorSegments := 3 } (by decide) (by decide)
  obtain ⟨sphere, hsphere, hcount', -, hclosed'⟩ :=
    consistently_oriented.2.1 { widthSegments := 3, heightSegments := 2 } (by decide) (by decide)
  obtain ⟨cylinder, hcylinder, hcount'', hopen⟩ :=
    consistently_oriented.2.2 { segments := 3 } (by decide)
  exact ⟨torus, sphere, cylinder, htorus, hcount, hclosed, hsphere, hcount', hclosed', hcylinder,
    hcount'', hopen⟩

end Mesh

end ShaderPreview
