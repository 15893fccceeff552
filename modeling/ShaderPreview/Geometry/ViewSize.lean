import ShaderPreview.Fault
import ShaderPreview.Geometry.Ratio

/-!
# Sizes of Views

How wide and how high a view is, in pixels. A view can be asked for without a word about its width
or its height, and until the display reports a size that measure is **unknown**. An unknown height
is like no height at all as far as the proportions go; everything else needs the measure.

## Main definitions

* `ViewSize`: the two measures.
* `ViewSize.aspect`: the width over the height.
* `ViewSize.resolution`: the measures as doubles.

## Main results

* `ViewSize.aspect_pixels`: the aspect of a view whose measures are known.
-/

namespace ShaderPreview

/-- The **size of a view** in pixels, as far as it is known. -/
structure ViewSize where
  width : Option Int
  height : Option Int
  deriving DecidableEq, Repr

namespace ViewSize

variable {α : Type}

/-- A size that is **known**. -/
def pixels (width height : Int) : ViewSize := ⟨some width, some height⟩

/-- The width and the height. -/
def toList (size : ViewSize) : List (Option Int) := [size.width, size.height]

/-! ### Proportions -/

/-- A quotient of whole numbers, which may be too large. -/
def quotient (ratio : Int → Int → Option α) (num den : Int) : Except Fault α :=
  match ratio num den with
  | some x => .ok x
  | none => .error .quotientTooLarge

/-- The **width over the height**; one where there is no height, or none is known. -/
def aspect [OfNat α 1] (ratio : Int → Int → Option α) (size : ViewSize) : Except Fault α :=
  let height := size.height.getD 0
  if height = 0 then .ok 1
  else
    match size.width with
    | some width => quotient ratio width height
    | none => .error .unknownWidth

/-- The aspect of a view whose measures are **known**: one where there is no height, and the
quotient elsewhere. -/
theorem aspect_pixels [OfNat α 1] (ratio : Int → Int → Option α) (width height : Int) :
    (pixels width height).aspect ratio
      = if height = 0 then .ok 1 else quotient ratio width height := rfl

/-! ### Measures -/

/-- A measure as a double. -/
def toFloat : Option Int → Except Fault Float
  | none => .error .unknownMeasure
  | some n =>
    match Ratio.toFloat? n 1 with
    | some x => .ok x
    | none => .error .numberTooLarge

/-- The **measures as doubles**, the width first. -/
def resolution (size : ViewSize) : Except Fault (List Float) := size.toList.mapM toFloat

end ViewSize

end ShaderPreview
