import ShaderPreview.Geometry.Transform
import ShaderPreview.Geometry.ViewSize

/-!
# Settings

How frames are drawn and sources adapted, and how the window looks.

## Main definitions

* `RenderSettings`, `WindowSettings`: the settings with their defaults.
-/

namespace ShaderPreview

/-- A **colour** with its opacity. -/
structure Color where
  red : Float
  green : Float
  blue : Float
  alpha : Float
  deriving DecidableEq, Repr

/-- The components of a colour. -/
def Color.toList (c : Color) : List Float := [c.red, c.green, c.blue, c.alpha]

/-- How **frames are drawn** and sources adapted: the background, the camera, the precision that a
fragment shader gets if it states none, and the language version that goes in front of a source
without a version line of its own. -/
structure RenderSettings where
  clearColor : Color := ⟨0.1, 0.1, 0.2, 1.0⟩
  camera : Camera := {}
  defaultPrecision : String := "mediump"
  glslVersion : Option Int := some 130
  deriving DecidableEq, Repr

/-- How the **window** looks. -/
structure WindowSettings where
  size : ViewSize := .pixels 400 400
  title : String := "shadergen"
  targetFps : Int := 60
  vsync : Bool := true
  deriving DecidableEq, Repr

end ShaderPreview
