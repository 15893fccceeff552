/-!
# Numbers With Two Decimal Places

The decimal text of a double with a fixed number of places, computed exactly: the value is a
fraction of whole numbers, the last place is the nearest, and of two that are equally near the even
one. Infinities and values that are not numbers have words.

## Main definitions

* `Decimal.roundDiv`: the nearest whole number to a fraction, a tie going to the even neighbour.
* `Decimal.magnitude`: the exact value of a finite double without its sign, as a fraction.
* `Decimal.fixed`: the text of a double with so many places.

## Main results

* `Decimal.roundDiv_near`: the rounded value is within half a unit.
-/

namespace ShaderPreview.Decimal

/-- The whole number **nearest to a fraction**; of two that are equally near, the even one. -/
def roundDiv (num den : Nat) : Nat :=
  let q := num / den
  let r := num % den
  if den < 2 * r || (den == 2 * r && q % 2 == 1) then q + 1 else q

/-- Rounding stays within half a unit. -/
theorem roundDiv_near (num den : Nat) (h : 0 < den) :
    2 * num ≤ 2 * (roundDiv num den * den) + den ∧
      2 * (roundDiv num den * den) ≤ 2 * num + den := by
  have hdiv : den * (num / den) + num % den = num := Nat.div_add_mod num den
  have hlt : num % den < den := Nat.mod_lt num h
  have hcomm : num / den * den = den * (num / den) := Nat.mul_comm _ _
  unfold roundDiv
  simp only
  split
  case isTrue hc =>
    simp only [Bool.or_eq_true, decide_eq_true_eq, Bool.and_eq_true, beq_iff_eq] at hc
    rw [Nat.add_mul, Nat.one_mul, hcomm]
    omega
  case isFalse hc =>
    simp only [Bool.or_eq_true, decide_eq_true_eq, Bool.and_eq_true, beq_iff_eq] at hc
    rw [hcomm]
    omega

/-- The exact value of a finite double without its sign, as numerator and denominator. -/
def magnitude (x : Float) : Nat × Nat :=
  let bits := x.toBits.toNat
  let exponent := bits / Nat.pow 2 52 % 2048
  let fraction := bits % Nat.pow 2 52
  if exponent = 0 then (fraction, Nat.pow 2 1074)
  else if exponent < 1075 then (fraction + Nat.pow 2 52, Nat.pow 2 (1075 - exponent))
  else ((fraction + Nat.pow 2 52) * Nat.pow 2 (exponent - 1075), 1)

/-- Whether the sign of a double is set. -/
def isSigned (x : Float) : Bool := x.toBits.toNat / Nat.pow 2 63 == 1

/-- The digits of a number of units of the last place, with a point before the last `places`. -/
def pointed (places units : Nat) : List Char :=
  let digits := Nat.toDigits 10 units
  let padded := List.replicate (places + 1 - digits.length) '0' ++ digits
  padded.take (padded.length - places) ++ '.' :: padded.drop (padded.length - places)

/-- The text of a double with **so many decimal places**. -/
def fixed (places : Nat) (x : Float) : String :=
  let sign := if isSigned x then "-" else ""
  if x.isNaN then "nan"
  else if x.isInf then sign ++ "inf"
  else
    let (num, den) := magnitude x
    sign ++ String.ofList (pointed places (roundDiv (num * Nat.pow 10 places) den))

end ShaderPreview.Decimal
