import ShaderPreview.Text.LowerCase
import ShaderPreview.Text.Search

/-!
# Shader Bundles

A **bundle** is one text that holds both shaders. A marker line opens the vertex part and another
one the fragment part, which runs to the end; what stands before the vertex marker is commentary. A
tag anywhere in the text names the shape to draw.

## Main definitions

* `Bundle.split`: the two parts and the shape's name, or what is wrong with the text.
* `Bundle.shapeName`: the name in the leftmost complete tag, in lower case.
-/

namespace ShaderPreview

/-- What is **wrong with a bundle**; the whole text is kept. -/
inductive BundleFault where
  | missingMarkers (missing : List String) (raw : String)
  | markerOrder (raw : String)
  | malformed (message : String) (raw : String)
  deriving DecidableEq, Repr

/-- The text in which a fault was found. -/
def BundleFault.raw : BundleFault → String
  | .missingMarkers _ raw => raw
  | .markerOrder raw => raw
  | .malformed _ raw => raw

/-- The **parts of a bundle**. -/
structure Sections where
  shapeName : String
  vertex : String
  fragment : String
  deriving DecidableEq, Repr

namespace Bundle

/-- Opens the vertex part. -/
def vertexMarker : String := "// Vertex Shader"

/-- Opens the fragment part. -/
def fragmentMarker : String := "// Fragment Shader"

/-- Opens the tag that names the shape. -/
def tagMarker : String := "// GEOMETRY:"

/-- The shape's name where no tag is complete. -/
def defaultShapeName : String := "cube"

/-- The word of a tag that starts here: the word characters that follow the tag's opening and any
blanks, of which there has to be at least one. -/
def tagWordHere? (s : List Char) : Option (List Char) :=
  match Text.eat tagMarker.toList s with
  | none => none
  | some rest =>
    match (Text.trimStart rest).takeWhile Text.isWord with
    | [] => none
    | word => some word

/-- The word of the **leftmost complete tag**. An opening that no word follows is passed over. -/
def tagWord? : List Char → Option (List Char)
  | [] => none
  | c :: rest =>
    match tagWordHere? (c :: rest) with
    | some word => some word
    | none => tagWord? rest

/-- The **name of the shape** to draw. -/
def shapeName (text : String) : String :=
  match tagWord? text.toList with
  | some word => String.ofList (Text.lowerCase word)
  | none => defaultShapeName

/-- A bundle **taken apart** at the first vertex marker and the first fragment marker. Both have to
be there, in this order. -/
def split (bundle : String) : Except BundleFault Sections :=
  let text := bundle.toList
  let vertexCut := Text.cut? vertexMarker.toList text
  let fragmentCut := Text.cut? fragmentMarker.toList text
  match vertexCut, fragmentCut with
  | none, none => .error (.missingMarkers [vertexMarker, fragmentMarker] bundle)
  | none, some _ => .error (.missingMarkers [vertexMarker] bundle)
  | some _, none => .error (.missingMarkers [fragmentMarker] bundle)
  | some (preamble, _), some (head, fragment) =>
    if head.length < preamble.length then .error (.markerOrder bundle)
    else
      let vertex := head.drop (preamble.length + vertexMarker.toList.length)
      .ok {
        shapeName := shapeName bundle
        vertex := String.ofList (Text.trim vertex)
        fragment := String.ofList (Text.trim fragment) }

end Bundle

end ShaderPreview
