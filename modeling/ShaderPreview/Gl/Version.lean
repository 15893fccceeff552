import ShaderPreview.Text.Numeral
import ShaderPreview.Text.Search

/-!
# Version Lines

A shading-language source may say in its first line which version of the language it is written in.
A source that does not say so gets a configured version in front. Two stages can only be linked when
their versions agree, so the stage that is tried out beside another one takes the version line of
that one.

## Main definitions

* `Version.complete`: a source with a version line.
* `Version.trialVertex`: the vertex stage that a fragment stage is tried out with.
-/

namespace ShaderPreview.Version

/-- The word that opens a version line. -/
def directive : List Char := "#version".toList

/-- Whether a text **starts with a version line**, blanks aside. -/
def isStated (source : List Char) : Bool := directive.isPrefixOf (Text.trimStart source)

/-- The version line of a configured version. -/
def line (version : Int) : List Char := directive ++ ' ' :: (Numeral.ofInt version).toList

/-- A source **with a version line**: its own one, or else that of the configured version. Where no
version is configured the source stays as it is. -/
def complete (version : Option Int) (source : List Char) : List Char :=
  match version with
  | none => source
  | some n => if isStated source then source else line n ++ '\n' :: source

/-- A vertex stage that does as good as nothing. -/
def plainVertex : List Char := "void main() \x7b gl_Position = vec4(0.0); \x7d".toList

/-- The first line of a text after the blanks at its start. -/
def firstLine (source : List Char) : List Char := (Text.splitLine (Text.trimStart source)).1

/-- The **vertex stage that a fragment stage is tried out with**: of the same version. -/
def trialVertex (version : Option Int) (fragment : List Char) : List Char :=
  if directive.isPrefixOf (firstLine fragment) then firstLine fragment ++ '\n' :: plainVertex
  else complete version plainVertex

end ShaderPreview.Version
