import ShaderPreview.Text.Decimal

/-!
# Quotients of Whole Numbers

The double nearest to the quotient of two whole numbers of any size, computed exactly. There is none
for a quotient that would round beyond the largest double, and that is decided on the whole numbers
themselves: halfway between the largest double and the next power of two, the power is the even one.

## Main definitions

* `Ratio.toFloat?`: the nearest double to a quotient, if there is one.

## Main results

* `Ratio.toFloat?_eq_none_iff`: which quotients have none.
-/

namespace ShaderPreview.Ratio

/-- The exponent that brings a quotient between 2^52 and 2^53. -/
def exponent (num den : Nat) : Int :=
  let e : Int := (num.log2 : Int) - den.log2 - 52
  if den * Nat.pow 2 (e + 52).toNat ≤ num * Nat.pow 2 (-(e + 52)).toNat then e else e - 1

/-- The exponent of the last place of the smallest doubles. -/
def minExponent : Int := -1074

/-- The double nearest to a quotient of natural numbers; of two that are equally near, the one with
an even last digit. -/
def ofNats (num den : Nat) : Float :=
  if num = 0 then 0.0
  else
    let e := max (exponent num den) minExponent
    let mantissa := Decimal.roundDiv (num * Nat.pow 2 (-e).toNat) (den * Nat.pow 2 e.toNat)
    (Float.ofNat mantissa).scaleB e

/-- The least number that is **too large for a double**: it lies halfway between the largest double
and the next power of two. -/
def limit : Nat := Nat.pow 2 1024 - Nat.pow 2 970

/-- The **double nearest to a quotient**, whose sign is that of the exact one, unless the quotient
is too large for a double. -/
def toFloat? (num den : Int) : Option Float :=
  let size := ofNats num.natAbs den.natAbs
  if limit * den.natAbs ≤ num.natAbs then none
  else if (num < 0) != (den < 0) then some (-size)
  else some size

/-- **Only large quotients** have no double. -/
theorem toFloat?_eq_none_iff (num den : Int) :
    toFloat? num den = none ↔ limit * den.natAbs ≤ num.natAbs := by
  unfold toFloat?
  by_cases h : limit * den.natAbs ≤ num.natAbs
  case pos => simp only [h, if_true]
  case neg =>
    simp only [h, if_false, iff_false]
    split <;> exact Option.some_ne_none _

end ShaderPreview.Ratio
