import Mathlib.Algebra.Order.Field.Basic
import Mathlib.Order.Interval.Set.Basic
import Mathlib.Order.Monotone.Basic
import Mathlib.Tactic.FieldSimp
import Mathlib.Tactic.NormNum
import Mathlib.Tactic.Ring
import ShaderPreview.Proofs.Geometry.Divisors

/-!
# The Frustum of a Projection

The eye is at the origin and looks along the negative third axis, so that the distance of a point
is minus its third coordinate. A projection maps the points that the eye sees, which fill a
**frustum**, onto the cube of the **normalized coordinates** from minus one to one. Across the axis
this is a proportion: the side of a point against its distance. Along the axis it is not, since
depth is divided by the distance too: it is a constant less a quotient by the distance. That
quotient falls as the distance grows, for planes in front of the eye and in this order, so that
depth grows; the constant is such that the planes get the depths minus one and one.

The numbers are those of any ordered field. In exact arithmetic the bounds hold as equivalences,
with the sides of the frustum and the planes themselves included.

## Main definitions

* `Matrix4.clip`, `Matrix4.normalized`: what becomes of a point.
* `Point.InCube`, `Point.InFrustum`: the two bodies.
* `Matrix4.ProjectsFrustum`: what it is to map one onto the other.

## Main results

* `Transform.strictMonoOn_depthAt`: depth grows with the distance.
* `Transform.projectsFrustum_frustum`: the matrix of a frustum maps that frustum onto the cube.
* `Transform.projects_frustum`: so does the projection of a field of view, and no view or camera
  makes it divide by zero.
-/

namespace ShaderPreview

/-! ### Normalized coordinates -/

section

variable {α : Type} [Add α] [Mul α]

/-- A row times a column. -/
def Row.dot (r column : Row α) : α :=
  r.x * column.x + r.y * column.y + r.z * column.z + r.w * column.w

/-- The **clip coordinates** of a point: the matrix acts on its coordinates and a one below them. -/
def Matrix4.clip [OfNat α 1] (m : Matrix4 α) (p : Point α) : Row α :=
  let column : Row α := ⟨p.x, p.y, p.z, 1⟩
  ⟨m.r0.dot column, m.r1.dot column, m.r2.dot column, m.r3.dot column⟩

/-- The **normalized coordinates** of a point: its clip coordinates over the last of them. -/
def Matrix4.normalized [OfNat α 1] [Div α] (m : Matrix4 α) (p : Point α) : Point α :=
  let c := m.clip p
  ⟨c.x / c.w, c.y / c.w, c.z / c.w⟩

end

variable {K : Type} [Field K]

section

variable [LinearOrder K]

/-- The **cube** of what is shown: each coordinate is at least minus one and at most one. -/
def Point.InCube (p : Point K) : Prop :=
  p.x ∈ Set.Icc (-1) 1 ∧ p.y ∈ Set.Icc (-1) 1 ∧ p.z ∈ Set.Icc (-1) 1

/-- The **frustum** in front of the eye: from the near plane to the far plane, and for the distance
not too far from the axis, to either side or up and down. -/
structure Point.InFrustum (focal aspect near far : K) (p : Point K) : Prop where
  near_le : near ≤ -p.z
  le_far : -p.z ≤ far
  abs_x_le : |p.x| * focal ≤ aspect * -p.z
  abs_y_le : |p.y| * focal ≤ -p.z

/-- A matrix **projects a frustum** onto the cube: the last clip coordinate is the distance, the
points in front of the eye that come into the cube are those of the frustum, and depth grows with
the distance, from minus one on the near plane to one on the far plane. -/
structure Matrix4.ProjectsFrustum (m : Matrix4 K) (focal aspect near far : K) : Prop where
  clip_w : ∀ p, (m.clip p).w = -p.z
  inCube_iff : ∀ p, p.z < 0 → ((m.normalized p).InCube ↔ p.InFrustum focal aspect near far)
  depth_lt : ∀ p q, p.z < 0 → q.z < 0 → -p.z < -q.z → (m.normalized p).z < (m.normalized q).z
  depth_near : ∀ p, p.z = -near → (m.normalized p).z = -1
  depth_far : ∀ p, p.z = -far → (m.normalized p).z = 1

end

namespace Transform

open Checked

section

variable {focal aspect near far distance : K}

/-! ### Depth -/

/-- The **depth at a distance**. -/
def depthAt (near far distance : K) : K :=
  (far + near) / (far - near) - 2 * far * near / ((far - near) * distance)

/-- The near plane has the depth minus one. -/
theorem depthAt_near (hnear : near ≠ 0) (hplanes : near ≠ far) : depthAt near far near = -1 := by
  have hdepth : far - near ≠ 0 := sub_ne_zero.mpr hplanes.symm
  rw [depthAt]
  field_simp
  ring

/-- The far plane has the depth one. -/
theorem depthAt_far (hfar : far ≠ 0) (hplanes : near ≠ far) : depthAt near far far = 1 := by
  have hdepth : far - near ≠ 0 := sub_ne_zero.mpr hplanes.symm
  rw [depthAt]
  field_simp
  ring

/-- Depth **grows with the distance**. -/
theorem strictMonoOn_depthAt [LinearOrder K] [IsStrictOrderedRing K] (hnear : 0 < near)
    (hplanes : near < far) : StrictMonoOn (depthAt near far) (Set.Ioi 0) := by
  intro d hd e _ hlt
  have hdepth : 0 < far - near := sub_pos.mpr hplanes
  have hproduct : 0 < 2 * far * near := mul_pos (mul_pos two_pos (hnear.trans hplanes)) hnear
  have hdivisors : (far - near) * d < (far - near) * e := mul_lt_mul_of_pos_left hlt hdepth
  exact sub_lt_sub_left (div_lt_div_of_pos_left hproduct (mul_pos hdepth hd) hdivisors) _

/-- Depth is within its bounds between the planes. -/
theorem depthAt_mem_Icc_iff [LinearOrder K] [IsStrictOrderedRing K] (hnear : 0 < near)
    (hplanes : near < far) (hdistance : 0 < distance) :
    depthAt near far distance ∈ Set.Icc (-1) 1 ↔ near ≤ distance ∧ distance ≤ far := by
  have hfar : 0 < far := hnear.trans hplanes
  have hmono := strictMonoOn_depthAt hnear hplanes
  rw [Set.mem_Icc, ← depthAt_near hnear.ne' hplanes.ne, hmono.le_iff_le hnear hdistance,
    ← depthAt_far hfar.ne' hplanes.ne, hmono.le_iff_le hdistance hfar]

/-! ### Sides -/

variable [LinearOrder K]

/-- A coordinate across the axis is within its bounds where the side is in proportion to the
distance. -/
theorem mul_div_mem_Icc_iff [IsStrictOrderedRing K] {slope : K} (side : K) (hslope : 0 < slope)
    (hdistance : 0 < distance) :
    slope * side / distance ∈ Set.Icc (-1) 1 ↔ |side| * slope ≤ distance := by
  rw [Set.mem_Icc, ← abs_le, abs_div, abs_mul, abs_of_pos hslope, abs_of_pos hdistance,
    div_le_one hdistance, mul_comm slope]

/-! ### The matrix of a frustum -/

/-- The clip coordinates of a point, where no guard of the frustum has to act. -/
theorem clip_frustum (haspect : aspect ≠ 0) (hplanes : near ≠ far) (p : Point K) :
    (frustum focal aspect near far).clip p
      = ⟨focal / aspect * p.x, focal * p.y,
          (far + near) / (near - far) * p.z + 2 * far * near / (near - far), -p.z⟩ := by
  simp only [Matrix4.clip, Row.dot, frustum, usableAspect_of_ne_zero haspect,
    usableDepth_of_ne hplanes, zero_mul, mul_one, add_zero, zero_add, neg_one_mul]

/-- The normalized coordinates of a point that is not beside the eye. -/
theorem normalized_frustum (haspect : aspect ≠ 0) (hplanes : near ≠ far) {p : Point K}
    (hp : p.z ≠ 0) :
    (frustum focal aspect near far).normalized p
      = ⟨focal / aspect * p.x / -p.z, focal * p.y / -p.z, depthAt near far (-p.z)⟩ := by
  have hdepth : far - near ≠ 0 := sub_ne_zero.mpr hplanes.symm
  simp only [Matrix4.normalized, clip_frustum haspect hplanes, depthAt, Point.mk.injEq, true_and]
  rw [← neg_sub far near]
  field_simp
  ring

/-- The matrix of a frustum **projects that frustum**. -/
theorem projectsFrustum_frustum [IsStrictOrderedRing K] (hfocal : 0 < focal) (haspect : 0 < aspect)
    (hnear : 0 < near) (hplanes : near < far) :
    (frustum focal aspect near far).ProjectsFrustum focal aspect near far where
  clip_w p := by rw [clip_frustum haspect.ne' hplanes.ne]
  inCube_iff p hp := by
    have hdistance : 0 < -p.z := neg_pos.mpr hp
    -- the aspect is on the other side in the frustum, where it stands by the distance
    have hside : |p.x| * (focal / aspect) ≤ -p.z ↔ |p.x| * focal ≤ aspect * -p.z := by
      rw [← mul_div_assoc, div_le_iff₀ haspect, mul_comm aspect]
    rw [normalized_frustum haspect.ne' hplanes.ne hp.ne, Point.InCube,
      mul_div_mem_Icc_iff p.x (div_pos hfocal haspect) hdistance, hside,
      mul_div_mem_Icc_iff p.y hfocal hdistance, depthAt_mem_Icc_iff hnear hplanes hdistance]
    constructor
    · rintro ⟨hx, hy, hbehind, hbefore⟩
      exact ⟨hbehind, hbefore, hx, hy⟩
    · rintro ⟨hbehind, hbefore, hx, hy⟩
      exact ⟨hx, hy, hbehind, hbefore⟩
  depth_lt p q hp hq hlt := by
    rw [normalized_frustum haspect.ne' hplanes.ne hp.ne,
      normalized_frustum haspect.ne' hplanes.ne hq.ne]
    exact strictMonoOn_depthAt hnear hplanes (neg_pos.mpr hp) (neg_pos.mpr hq) hlt
  depth_near p hp := by
    have hz : p.z ≠ 0 := hp ▸ neg_ne_zero.mpr hnear.ne'
    rw [normalized_frustum haspect.ne' hplanes.ne hz, hp, neg_neg]
    exact depthAt_near hnear.ne' hplanes.ne
  depth_far p hp := by
    have hfar : far ≠ 0 := (hnear.trans hplanes).ne'
    have hz : p.z ≠ 0 := hp ▸ neg_ne_zero.mpr hfar
    rw [normalized_frustum haspect.ne' hplanes.ne hz, hp, neg_neg]
    exact depthAt_far hfar hplanes.ne

end

/-! ### The projection of a field of view -/

variable [LinearOrder K]

/-- The focal scale is one over the tangent of half the field of view, in radians, or a thousand
where the field has no width. -/
theorem focal_eq (halfTurn : K) (tangent : K → K) (degrees : K) :
    focal halfTurn tangent degrees
      = if degrees * (halfTurn / 180) / 2 = 0 then 1000
        else 1 / tangent (degrees * (halfTurn / 180) / 2) := by
  simp only [focal, focalScale, halfRadians, beq_iff_eq]

/-- The projection is **well defined**: the aspect of a view is the quotient of its measures, or one
for a view without a height, and whatever the view and the camera, neither the aspect nor any entry
divides by zero, for a tangent that is zero at zero at most. And it **projects the frustum** of its
focal scale, which for a field of view that has a width is one over the tangent of its half. -/
theorem projects_frustum [IsStrictOrderedRing K] (halfTurn : K) {tangent : K → K}
    (htangent : ∀ x, x ≠ 0 → tangent x ≠ 0) :
    (∀ (width height : Int) (degrees near far : K),
      let aspect : K := if height = 0 then 1 else width / height
      (ViewSize.pixels width height).aspect Ratio.exact = .ok aspect ∧
      (ViewSize.pixels width height).aspect Ratio.exact = .ok (value aspect) ∧
      projection (value halfTurn) (Checked.map tangent) (value degrees) (value aspect) (value near)
          (value far)
        = (projection halfTurn tangent degrees aspect near far).map value) ∧
    ∀ degrees : K,
      let half := degrees * (halfTurn / 180) / 2
      let scale := if half = 0 then 1000 else 1 / tangent half
      focal halfTurn tangent degrees = scale ∧
      ∀ aspect near far : K, 0 < aspect → 0 < scale → 0 < near → near < far →
        (projection halfTurn tangent degrees aspect near far).ProjectsFrustum scale aspect near
          far := by
  constructor
  · intro width height degrees near far aspect
    exact ⟨ViewSize.aspect_exact width height, ViewSize.aspect_checked width height,
      projection_checked htangent halfTurn degrees aspect near far⟩
  · intro degrees half scale
    have hscale : focal halfTurn tangent degrees = scale := focal_eq halfTurn tangent degrees
    refine ⟨hscale, fun aspect near far haspect hpos hnear hplanes => ?_⟩
    rw [projection, hscale]
    exact projectsFrustum_frustum hpos haspect hnear hplanes

/-- With four as the half turn, 45 degrees are one, and the identity has there the value of the
tangent. So a field of view of a **right angle** has the focal scale one. A field of view without a
width, in a view without one, with both planes at one place, needs all the guards. -/
theorem projects_frustum_rightAngle :
    (∀ x : ℚ, x ≠ 0 → id x ≠ 0) ∧
    (ViewSize.pixels 0 (-300)).aspect Ratio.exact = .ok (value (0 : ℚ)) ∧
    (projection (value 4) (Checked.map id) (value 0) (value 0) (value 1) (value 1)
      = (projection 4 id 0 0 1 1 : Matrix4 ℚ).map value) ∧
    (focal 4 id 90 : ℚ) = 1 ∧
    (0 : ℚ) < 4 / 3 ∧ (0 : ℚ) < 1 ∧ (0 : ℚ) < 1 / 10 ∧ (1 / 10 : ℚ) < 100 ∧
      (projection 4 id 90 (4 / 3) (1 / 10) 100 : Matrix4 ℚ).ProjectsFrustum 1 (4 / 3) (1 / 10)
        100 := by
  have htangent : ∀ x : ℚ, x ≠ 0 → id x ≠ 0 := fun _ => id
  have hwidth : (if (-300 : Int) = 0 then 1 else ((0 : Int) : ℚ) / (-300 : Int)) = 0 := by norm_num
  have hscale : (if (90 : ℚ) * (4 / 180) / 2 = 0 then 1000 else 1 / id (90 * (4 / 180) / 2)) =
      (1 : ℚ) := by norm_num
  have haspect : (0 : ℚ) < 4 / 3 := by norm_num
  have hnear : (0 : ℚ) < 1 / 10 := by norm_num
  have hplanes : (1 / 10 : ℚ) < 100 := by norm_num
  obtain ⟨hdefined, hprojects⟩ := projects_frustum 4 htangent
  obtain ⟨-, hview, hchecked⟩ := hdefined 0 (-300) 0 1 1
  obtain ⟨hfocal, hfrustum⟩ := hprojects 90
  rw [hwidth] at hview hchecked
  rw [hscale] at hfocal hfrustum
  exact ⟨htangent, hview, hchecked, hfocal, haspect, one_pos, hnear, hplanes,
    hfrustum _ _ _ haspect one_pos hnear hplanes⟩

end Transform

end ShaderPreview
