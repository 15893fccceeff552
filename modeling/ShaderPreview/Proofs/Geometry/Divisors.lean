import Mathlib.Algebra.Order.Field.Basic
import Mathlib.Tactic.NormNum
import ShaderPreview.Geometry.Transform
import ShaderPreview.Geometry.ViewSize

/-!
# Divisors

In a field the quotient by zero is zero. So the value of a formula does not show whether a division
by zero was on the way to it. Here the formulas of the view and of the projection are carried out
with **checked numbers**, among which such a quotient is undefined, and so is all that is computed
from an undefined number. Where the outcome is defined, nothing was divided by zero.

Four divisors can be zero for some view or some camera: the height of the view, the tangent of half
the field of view, the aspect, and the distance between the planes. Each of them has a guard of its
own, and the guards do not know of each other: a view that is high but has no width has the aspect
zero, which only the projection stops. A test of an undefined number fails, and then it is the
number itself that is used, so that a guard hides nothing.

The tangent is any function whose value is not zero unless its argument is.

## Main definitions

* `Checked`: checked numbers.
* `Ratio.exact`: the quotient of whole numbers, in exact numbers of any kind.

## Main results

* `Checked.div_eq_value_iff`: when a quotient is defined.
* `ViewSize.aspect_checked`: every view has a defined aspect.
* `Transform.projection_checked`: every projection is defined, with the entries of the field.
-/

namespace ShaderPreview

/-! ### Checked numbers -/

/-- A **checked number**: a value, or the mark that there was a division by zero. -/
inductive Checked (K : Type) where
  | value (x : K)
  | undefined
  deriving DecidableEq, Repr

namespace Checked

variable {K : Type}

/-- A function of a value. -/
def map (f : K → K) : Checked K → Checked K
  | value x => value (f x)
  | undefined => undefined

/-- A function of two values. -/
def map₂ (f : K → K → K) : Checked K → Checked K → Checked K
  | value x, value y => value (f x y)
  | _, _ => undefined

/-- A **quotient** of values, unless the divisor is zero. -/
def div [Zero K] [Div K] [DecidableEq K] : Checked K → Checked K → Checked K
  | value x, value y => if y = 0 then undefined else value (x / y)
  | _, _ => undefined

instance {n : Nat} [OfNat K n] : OfNat (Checked K) n := ⟨value (OfNat.ofNat n)⟩

instance [OfScientific K] : OfScientific (Checked K) where
  ofScientific mantissa negative exponent :=
    value (OfScientific.ofScientific mantissa negative exponent)

instance [IntCast K] : IntCast (Checked K) := ⟨fun n => value n⟩

instance [Neg K] : Neg (Checked K) := ⟨map fun x => -x⟩

instance [Add K] : Add (Checked K) := ⟨map₂ fun x y => x + y⟩

instance [Sub K] : Sub (Checked K) := ⟨map₂ fun x y => x - y⟩

instance [Mul K] : Mul (Checked K) := ⟨map₂ fun x y => x * y⟩

instance [Zero K] [Div K] [DecidableEq K] : Div (Checked K) := ⟨div⟩

/-- A quotient is **defined** for defined numbers, of which the second is not zero. -/
theorem div_eq_value_iff [Zero K] [Div K] [DecidableEq K] {a b : Checked K} {z : K} :
    a / b = value z ↔ ∃ x y, a = value x ∧ b = value y ∧ y ≠ 0 ∧ x / y = z := by
  change div a b = value z ↔ _
  cases a with
  | undefined => simp [div]
  | value x =>
    cases b with
    | undefined => simp [div]
    | value y => by_cases hy : y = 0 <;> simp [div, hy]

/-- A value has a quotient by any value but zero. -/
theorem value_div_value [Zero K] [Div K] [DecidableEq K] (x : K) {y : K} (h : y ≠ 0) :
    value x / value y = value (x / y) :=
  div_eq_value_iff.mpr ⟨x, y, rfl, rfl, h, rfl⟩

/-- A test for equality of values is the one of the field. -/
theorem value_beq_value [DecidableEq K] (x y : K) : (value x == value y) = (x == y) := by
  rw [Bool.eq_iff_iff, beq_iff_eq, beq_iff_eq, value.injEq]

end Checked

open Checked

variable {K : Type} [Field K] [LinearOrder K]

/-! ### The guards of the projection -/

namespace Transform

/-- The focal scale divides by a tangent only where the field of view has a width. -/
theorem focalScale_checked {tangent : K → K} (htangent : ∀ x, x ≠ 0 → tangent x ≠ 0) (half : K) :
    focalScale (Checked.map tangent) (value half) = value (focalScale tangent half) := by
  have htest : (value half == (0 : Checked K)) = (half == 0) := value_beq_value half 0
  rw [focalScale, focalScale, htest]
  by_cases h : half = 0
  case pos =>
    rw [if_pos (beq_iff_eq.mpr h), if_pos (beq_iff_eq.mpr h)]
    rfl
  case neg =>
    rw [if_neg (mt beq_iff_eq.mp h), if_neg (mt beq_iff_eq.mp h)]
    exact value_div_value 1 (htangent half h)

/-- The guard of the aspect does not divide. -/
theorem usableAspect_checked (aspect : K) :
    usableAspect (value aspect) = value (usableAspect aspect) := by
  have htest : (value aspect == (0 : Checked K)) = (aspect == 0) := value_beq_value aspect 0
  rw [usableAspect, usableAspect, htest, apply_ite value]
  rfl

/-- An aspect that is not zero is used as it is. -/
theorem usableAspect_of_ne_zero {aspect : K} (h : aspect ≠ 0) : usableAspect aspect = aspect :=
  if_neg (mt beq_iff_eq.mp h)

/-- The aspect that is used is never zero. -/
theorem usableAspect_ne_zero (aspect : K) : usableAspect aspect ≠ 0 := by
  by_cases h : aspect = 0
  case pos =>
    rw [usableAspect, if_pos (beq_iff_eq.mpr h)]
    exact one_ne_zero
  case neg => rwa [usableAspect_of_ne_zero h]

/-- The guard of the depth does not divide. -/
theorem usableDepth_checked (near far : K) :
    usableDepth (value near) (value far) = value (usableDepth near far) := by
  have htest : (value near - value far == (0 : Checked K)) = (near - far == 0) :=
    value_beq_value (near - far) 0
  rw [usableDepth, usableDepth, htest, apply_ite value]
  rfl

/-- Where the planes are apart their distance is used as it is. -/
theorem usableDepth_of_ne {near far : K} (h : near ≠ far) : usableDepth near far = near - far :=
  if_neg (mt beq_iff_eq.mp (sub_ne_zero.mpr h))

end Transform

variable [IsStrictOrderedRing K]

/-- The depth that is used is never zero. -/
theorem Transform.usableDepth_ne_zero (near far : K) : usableDepth near far ≠ 0 := by
  by_cases h : near = far
  case pos =>
    rw [usableDepth, if_pos (beq_iff_eq.mpr (sub_eq_zero.mpr h))]
    norm_num
  case neg =>
    rw [usableDepth_of_ne h]
    exact sub_ne_zero.mpr h

/-! ### No division by zero -/

/-- The **exact quotient** of whole numbers. -/
def Ratio.exact {α : Type} [IntCast α] [Div α] (num den : Int) : Option α := some (num / den)

/-- The exact aspect of a view is the quotient of its measures, or one for a view without a
height. -/
theorem ViewSize.aspect_exact {α : Type} [OfNat α 1] [IntCast α] [Div α] (width height : Int) :
    (pixels width height).aspect Ratio.exact
      = .ok (if height = 0 then 1 else (width : α) / height) := by
  rw [aspect_pixels, apply_ite Except.ok]
  rfl

/-- Every view has an **aspect**, without a division by zero. -/
theorem ViewSize.aspect_checked (width height : Int) :
    (pixels width height).aspect Ratio.exact
      = .ok (value (if height = 0 then 1 else (width : K) / height)) := by
  rw [aspect_pixels]
  by_cases h : height = 0
  case pos =>
    rw [if_pos h, if_pos h]
    rfl
  case neg =>
    have hheight : (height : K) ≠ 0 := Int.cast_ne_zero.mpr h
    rw [if_neg h, if_neg h]
    exact congrArg Except.ok (value_div_value (width : K) hheight)

namespace Transform

/-- Half of an angle in radians divides by 180 and by two, and by nothing else. -/
theorem halfRadians_checked (halfTurn degrees : K) :
    halfRadians (value halfTurn) (value degrees) = value (halfRadians halfTurn degrees) := by
  have hturn : (value halfTurn : Checked K) / 180 = value (halfTurn / 180) :=
    value_div_value halfTurn (by norm_num)
  rw [halfRadians, hturn]
  exact value_div_value _ two_ne_zero

/-- A frustum divides by the aspect and by the depth that are usable, and by nothing else. -/
theorem frustum_checked (focal aspect near far : K) :
    frustum (value focal) (value aspect) (value near) (value far)
      = (frustum focal aspect near far).map value := by
  have hwidth : value focal / value (usableAspect aspect) = value (focal / usableAspect aspect) :=
    value_div_value focal (usableAspect_ne_zero aspect)
  have hdepth (x : K) : value x / value (usableDepth near far) = value (x / usableDepth near far) :=
    value_div_value x (usableDepth_ne_zero near far)
  simp only [frustum, Matrix4.map, Row.map]
  rw [usableAspect_checked, usableDepth_checked, ← hwidth, ← hdepth, ← hdepth]
  rfl

/-- **No projection divides by zero**, whatever the field of view, the aspect and the planes: its
checked entries are defined, and they are those of the field. -/
theorem projection_checked {tangent : K → K} (htangent : ∀ x, x ≠ 0 → tangent x ≠ 0)
    (halfTurn degrees aspect near far : K) :
    projection (value halfTurn) (Checked.map tangent) (value degrees) (value aspect) (value near)
        (value far)
      = (projection halfTurn tangent degrees aspect near far).map value := by
  rw [projection, focal, halfRadians_checked, focalScale_checked htangent, frustum_checked]
  rfl

end Transform

end ShaderPreview
