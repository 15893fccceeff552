import ShaderPreview.Text.Blank
import ShaderPreview.Text.LowerCase

/-!
# Shapes

A **shape** is the recipe of a mesh: which surface, how large, and into how many segments it is cut.
Shapes have names; a name that is unknown or missing means the cube.

## Main definitions

* `Shape`: the recipes.
* `Shape.named`: the names, each with the shape of default size.
* `Shape.ofName`: the shape that a name stands for.
-/

namespace ShaderPreview

/-- A sphere, cut into `widthSegments` around its axis and `heightSegments` from pole to pole. -/
structure Sphere where
  radius : Float := 1.0
  widthSegments : Int := 20
  heightSegments : Int := 20
  deriving DecidableEq, Repr

/-- A horizontal square that faces up. -/
structure Plane where
  halfSize : Float := 2.0
  deriving DecidableEq, Repr

/-- An upright open tube, the side wall only. -/
structure Cylinder where
  radius : Float := 1.0
  height : Float := 2.0
  segments : Int := 16
  deriving DecidableEq, Repr

/-- A ring, cut into `majorSegments` along its centre line and `minorSegments` around it. -/
structure Torus where
  majorRadius : Float := 0.6
  minorRadius : Float := 0.3
  majorSegments : Int := 16
  minorSegments : Int := 16
  deriving DecidableEq, Repr

/-- The **recipe of a mesh**. The cube spans from -1 to 1 on every axis. A recipe that is none of
the five keeps its label, if it has one, and is drawn as the cube. -/
inductive Shape where
  | cube
  | sphere (s : Sphere)
  | plane (p : Plane)
  | cylinder (c : Cylinder)
  | torus (t : Torus)
  | unrecognized (label : Option String)
  deriving DecidableEq, Repr

namespace Shape

/-- The **named shapes**, each of default size, in the order in which they are listed. -/
def named : List (String × Shape) := [
  ("cube", .cube), ("sphere", .sphere {}), ("plane", .plane {}), ("cylinder", .cylinder {}),
  ("torus", .torus {})]

/-- The word for the kind of a shape. -/
def kind : Shape → String
  | .cube => "Cube"
  | .sphere _ => "Sphere"
  | .plane _ => "Plane"
  | .cylinder _ => "Cylinder"
  | .torus _ => "Torus"
  | .unrecognized (some _) => "str"
  | .unrecognized none => "NoneType"

/-- The **shape that a name stands for**, blanks around it and the case of its letters left aside.
No name, the empty name and every other name mean the cube. -/
def ofName (name : Option String) : Shape :=
  match name with
  | none => .cube
  | some name =>
    let key := String.ofList (Text.lowerCase (Text.trim name.toList))
    (named.lookup key).getD .cube

end Shape

end ShaderPreview
