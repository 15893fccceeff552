import ShaderPreview.Text.Blank

/-!
# Whole Numbers in Text

The text of a whole number: blanks, a sign or none, decimal digits of any script with at most one
underscore between two of them, blanks. A numeral longer than 4300 digits is refused.

## Main definitions

* `Numeral.digit?`: the value of a decimal digit.
* `Numeral.parse?`: the whole number that a text stands for.
* `Numeral.ofInt`: the decimal text of a whole number.
-/

namespace ShaderPreview.Numeral

/-- The code points of the **digits zero** of the scripts that have decimal digits; the other nine
follow each of them. -/
def zeros : List Nat := [
  48, 1632, 1776, 1984, 2406, 2534, 2662, 2790, 2918, 3046, 3174, 3302, 3430, 3558, 3664, 3792, 3872,
  4160, 4240, 6112, 6160, 6470, 6608, 6784, 6800, 6992, 7088, 7232, 7248, 42528, 43216, 43264, 43472,
  43504, 43600, 44016, 65296, 66720, 68912, 69734, 69872, 69942, 70096, 70384, 70736, 70864, 71248,
  71360, 71472, 71904, 72016, 72784, 73040, 73120, 92768, 92864, 93008, 120782, 120792, 120802, 120812,
  120822, 123200, 123632, 125264, 130032]

/-- The **value of a decimal digit** of any script. -/
def digit? (c : Char) : Option Nat :=
  (zeros.find? fun z => z ≤ c.toNat && c.toNat < z + 10).map (c.toNat - ·)

/-- The blanks that may stand around a numeral: of the ASCII characters only the space and the five
controls from tab to carriage return. -/
def isMargin (c : Char) : Bool :=
  if c.toNat < 128 then c = ' ' || (9 ≤ c.toNat && c.toNat ≤ 13) else Text.isBlank c

/-- The digits of a numeral, most significant first. Each underscore stands between two digits. -/
def digits? : List Char → Option (List Nat)
  | [] => none
  | [c] => (digit? c).map ([·])
  | c :: '_' :: rest =>
    match digit? c with
    | some d => (digits? rest).map (d :: ·)
    | none => none
  | c :: rest =>
    match digit? c with
    | some d => (digits? rest).map (d :: ·)
    | none => none

/-- The longest numeral that is read. -/
def maxDigits : Nat := 4300

/-- The number that unsigned digits stand for. -/
def unsigned? (s : List Char) : Option Nat :=
  match digits? s with
  | some ds => if ds.length ≤ maxDigits then some (ds.foldl (fun n d => 10 * n + d) 0) else none
  | none => none

/-- The **whole number** that a text stands for. -/
def parse? (s : List Char) : Option Int :=
  match ((s.dropWhile isMargin).reverse.dropWhile isMargin).reverse with
  | '-' :: rest => (unsigned? rest).map fun n => -(n : Int)
  | '+' :: rest => (unsigned? rest).map Int.ofNat
  | rest => (unsigned? rest).map Int.ofNat

/-- The decimal text of a whole number. -/
def ofInt : Int → String
  | .ofNat n => String.ofList (Nat.toDigits 10 n)
  | .negSucc n => String.ofList ('-' :: Nat.toDigits 10 (n + 1))

end ShaderPreview.Numeral
