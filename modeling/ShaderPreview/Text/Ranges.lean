/-!
# Classes of Characters by Range

A class of characters given by a table of ranges of code points.

## Main definitions

* `Text.inRanges`: membership of a code point in a table.
-/

namespace ShaderPreview.Text

/-- Whether a code point lies in one of the given ranges, both ends included. -/
def inRanges (ranges : List (Nat × Nat)) (n : Nat) : Bool :=
  ranges.any fun r => r.1 ≤ n && n ≤ r.2

end ShaderPreview.Text
