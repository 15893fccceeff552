/-!
# Checksums of Buffers

A buffer of single-precision numbers is too long to be shown in a trace, so two sums stand for it:
the plain sum, and the sum in which every number counts as often as its place says. Both are taken
over the numbers in whole millionths and modulo a prime, so that they do not depend on rounding.

## Main definitions

* `Checksum.millionths`: a number in whole millionths.
* `Checksum.ofSingles`, `Checksum.ofBytes`: the two sums of some numbers, and of a buffer.
-/

namespace ShaderPreview

/-- The **two sums** of some numbers. -/
structure Checksum where
  total : Int := 0
  weighted : Int := 0
  deriving DecidableEq, Repr

namespace Checksum

/-- The modulus of the sums. -/
def modulus : Int := 1000000007

/-- Whether a number is too large to be counted in millionths. -/
def isLarge (x : Float32) : Bool := x.toFloat.abs ≥ 1e9 || x.toFloat.isInf

/-- A number in **whole millionths**, the nearest of which counts. -/
def millionths (x : Float32) : Int := ((x.toFloat * 1e6 + 0.5).floor.toInt64).toInt

/-- What a number adds to the sums. -/
def share (x : Float32) : Int := if x.isNaN || isLarge x then 0 else millionths x

/-- The sums of some numbers, the first of which stands at the given place. -/
def addFrom (place : Int) (sum : Checksum) : List Float32 → Checksum
  | [] => sum
  | x :: rest =>
    addFrom (place + 1)
      { total := (sum.total + share x) % modulus
        weighted := (sum.weighted + place * share x) % modulus } rest

/-- The **sums of some numbers**. -/
def ofSingles (xs : List Float32) : Checksum := addFrom 1 {} xs

/-- The numbers in a buffer, four bytes each, least significant first. -/
def singles : List UInt8 → List Float32
  | a :: b :: c :: d :: rest =>
    let bits := a.toUInt32 ||| (b.toUInt32 <<< 8) ||| (c.toUInt32 <<< 16) ||| (d.toUInt32 <<< 24)
    Float32.ofBits bits :: singles rest
  | _ => []

/-- The **sums of a buffer**. -/
def ofBytes (data : List UInt8) : Checksum := ofSingles (singles data)

end Checksum

end ShaderPreview
