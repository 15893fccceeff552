import Mathlib.Data.List.Nodup
import Mathlib.Data.ZMod.Basic
import Mathlib.Tactic.Abel
import ShaderPreview.Geometry.Grid

/-!
# Half-Edges

An edge between two triangles is made of two **half-edges**, one from each triangle, which run in
opposite directions. A surface is closed and the same way round everywhere when each half-edge has
such a twin, and no two half-edges are the same.

A cell has six half-edges, three to each of its triangles `a b c` and `b d c`. They run in six
different directions. So an edge tells its direction, which tells the half-edge's place in the cell,
which tells the cell. This holds on any lattice on which going on by one, or by two, does not lead
back: the integers, and the integers modulo at least three.

## Main definitions

* `Side`, `HalfEdge`: a half-edge, by its place in a cell of a lattice.
* `HalfEdge.edge`: the directed edge that it makes.
* `HalfEdge.twin`: the half-edge on the other side.
* `Closed`: each directed edge of a list occurs once, and so does its reverse.

## Main results

* `HalfEdge.edge_injective`: different half-edges make different edges.
* `HalfEdge.edge_twin`: twins run in opposite directions.
* `closed_of_twins`: a list that has the twin of each of its half-edges is closed.
-/

namespace ShaderPreview

/-- A **side of a triangle** of a cell with corners `a`, `b`, `c` and `d`, from one corner to the
next: the first three are those of the triangle `a b c`, the others those of `b d c`. -/
inductive Side where
  | ab
  | bc
  | ca
  | bd
  | dc
  | cb
  deriving DecidableEq

/-- A **lattice coordinate** in which going on by one or by two does not lead back. -/
structure Coordinate (R : Type) [AddCommGroupWithOne R] : Prop where
  one_ne : (1 : R) ≠ 0
  two_ne : (1 : R) + 1 ≠ 0

/-- The integers do not lead back. -/
theorem coordinate_int : Coordinate ℤ := ⟨by decide, by decide⟩

/-- The integers modulo at least three do not lead back. -/
theorem coordinate_zmod {n : ℕ} (hn : 3 ≤ n) : Coordinate (ZMod n) := by
  have hne : ∀ k : ℕ, 0 < k → k < 3 → (k : ZMod n) ≠ 0 := fun k hpos hlt hzero =>
    absurd (Nat.le_of_dvd hpos ((ZMod.natCast_eq_zero_iff k n).mp hzero)) (by omega)
  exact ⟨by simpa using hne 1 (by decide) (by decide),
    by simpa [one_add_one_eq_two] using hne 2 (by decide) (by decide)⟩

section Lattice

variable {R C : Type} [AddCommGroupWithOne R] [AddCommGroupWithOne C]

namespace Side

/-- Where a side starts, as seen from the cell's first corner. -/
@[simp] def offset : Side → R × C
  | ab => (0, 0)
  | bc => (1, 0)
  | ca => (0, 1)
  | bd => (1, 0)
  | dc => (1, 1)
  | cb => (0, 1)

/-- Which way a side runs. -/
@[simp] def step : Side → R × C
  | ab => (1, 0)
  | bc => (-1, 1)
  | ca => (0, -1)
  | bd => (0, 1)
  | dc => (-1, 0)
  | cb => (1, -1)

/-- The sides run in different directions. -/
theorem step_injective (hR : Coordinate R) (hC : Coordinate C) :
    Function.Injective (step : Side → R × C) := by
  have hR₁ := hR.one_ne
  have hC₁ := hC.one_ne
  have hR₂ : (1 : R) ≠ -1 := fun h => hR.two_ne (eq_neg_iff_add_eq_zero.mp h)
  have hC₂ : (1 : C) ≠ -1 := fun h => hC.two_ne (eq_neg_iff_add_eq_zero.mp h)
  intro s s' h
  cases s <;> cases s' <;>
    first
    | rfl
    | simp [Prod.ext_iff, hR₁, hC₁, hR₁.symm, hC₁.symm, hR₂, hC₂, hR₂.symm, hC₂.symm] at h

/-- A side runs somewhere. -/
theorem step_ne_zero (hR : Coordinate R) (hC : Coordinate C) (s : Side) : (s.step : R × C) ≠ 0 := by
  cases s <;> simp [hR.one_ne, hC.one_ne]

end Side

/-- A **half-edge**: a side of the cell whose first corner is at a point of a lattice. -/
structure HalfEdge (R C : Type) where
  cell : R × C
  side : Side

namespace HalfEdge

/-- The point that a half-edge starts from. -/
def source (h : HalfEdge R C) : R × C := h.cell + h.side.offset

/-- The point that a half-edge leads to. -/
def target (h : HalfEdge R C) : R × C := h.source + h.side.step

/-- The **directed edge** that a half-edge makes. -/
def edge (h : HalfEdge R C) : (R × C) × (R × C) := (h.source, h.target)

@[simp] theorem source_mk (p : R × C) (s : Side) : source ⟨p, s⟩ = p + s.offset := rfl

@[simp] theorem target_mk (p : R × C) (s : Side) : target ⟨p, s⟩ = p + s.offset + s.step := rfl

@[simp] theorem edge_mk (p : R × C) (s : Side) :
    edge ⟨p, s⟩ = (p + s.offset, p + s.offset + s.step) := rfl

/-- A half-edge is known by its side and where it starts. -/
theorem ext_source {h h' : HalfEdge R C} (hside : h.side = h'.side)
    (hsource : h.source = h'.source) : h = h' := by
  obtain ⟨cell, side⟩ := h
  obtain ⟨cell', side'⟩ := h'
  obtain rfl : side = side' := hside
  obtain rfl : cell = cell' := add_right_cancel hsource
  rfl

/-- A half-edge is known by its side and where it leads. -/
theorem ext_target {h h' : HalfEdge R C} (hside : h.side = h'.side)
    (htarget : h.target = h'.target) : h = h' := by
  refine ext_source hside (add_right_cancel (b := h.side.step) ?_)
  rw [target, target, ← hside] at htarget
  exact htarget

/-- **Different half-edges make different edges**. -/
theorem edge_injective (hR : Coordinate R) (hC : Coordinate C) :
    Function.Injective (edge : HalfEdge R C → _) := by
  intro h h' hedge
  obtain ⟨hsource, htarget⟩ := Prod.ext_iff.mp hedge
  have hsource : h.source = h'.source := hsource
  have hstep : (h.side.step : R × C) = h'.side.step := by
    have htarget : h.source + h.side.step = h'.source + h'.side.step := htarget
    rw [hsource] at htarget
    exact add_left_cancel htarget
  exact ext_source (Side.step_injective hR hC hstep) hsource

/-- A half-edge joins two different points. -/
theorem source_ne_target (hR : Coordinate R) (hC : Coordinate C) (h : HalfEdge R C) :
    h.source ≠ h.target := fun heq =>
  Side.step_ne_zero hR hC h.side (left_eq_add.mp heq)

/-- The **half-edge on the other side** of the same edge. -/
def twin : HalfEdge R C → HalfEdge R C
  | ⟨p, .ab⟩ => ⟨p - (0, 1), .dc⟩
  | ⟨p, .bc⟩ => ⟨p, .cb⟩
  | ⟨p, .ca⟩ => ⟨p - (1, 0), .bd⟩
  | ⟨p, .bd⟩ => ⟨p + (1, 0), .ca⟩
  | ⟨p, .dc⟩ => ⟨p + (0, 1), .ab⟩
  | ⟨p, .cb⟩ => ⟨p, .bc⟩

/-- Twins **run in opposite directions**. -/
theorem edge_twin (h : HalfEdge R C) : h.twin.edge = h.edge.swap := by
  obtain ⟨⟨i, j⟩, s⟩ := h
  cases s <;> simp [twin]

end HalfEdge

end Lattice

/-! ### Closed surfaces -/

section Closed

variable {V ι : Type} [DecidableEq V]

/-- Some directed edges **close up**: each occurs exactly once, and so does its reverse. -/
def Closed (edges : List (V × V)) : Prop :=
  ∀ e ∈ edges, edges.count e = 1 ∧ edges.count e.swap = 1

/-- Edges that are different for different half-edges, each of which **has its twin** among them,
close up. -/
theorem closed_of_twins {halves : List ι} {edge : ι → V × V} (hnodup : (halves.map edge).Nodup)
    (htwin : ∀ h ∈ halves, ∃ h' ∈ halves, edge h' = (edge h).swap) : Closed (halves.map edge) := by
  intro e he
  obtain ⟨h, hh, rfl⟩ := List.mem_map.mp he
  obtain ⟨h', hh', htwin⟩ := htwin h hh
  exact ⟨List.count_eq_one_of_mem hnodup he,
    List.count_eq_one_of_mem hnodup (htwin ▸ List.mem_map_of_mem hh')⟩

end Closed

end ShaderPreview
