/-!
# Shader Stages and Their Sources

A pipeline has two programmable **stages**. A session keeps the **sources** of its latest start, so
that they can be shown beside a failure.

## Main definitions

* `Stage`: the vertex and the fragment stage.
* `Sources`: the texts of one start.
-/

namespace ShaderPreview

/-- A programmable **stage** of the pipeline. -/
inductive Stage where
  | vertex
  | fragment
  deriving DecidableEq, Repr

/-- The name of a stage, as it stands in messages. -/
def Stage.name : Stage → String
  | .vertex => "vertex"
  | .fragment => "fragment"

/-- The stage with a given name. -/
def Stage.ofName? (name : String) : Option Stage :=
  if name = "vertex" then some .vertex else if name = "fragment" then some .fragment else none

/-- A stage is found under its own name. -/
theorem Stage.ofName?_name (s : Stage) : Stage.ofName? s.name = some s := by
  cases s <;> decide

/-- The **sources** of a start: the whole text, its two parts, and the mended fragment part. Until
the text has been split only the first is known. -/
structure Sources where
  raw : String
  vertex : String := ""
  fragment : String := ""
  mendedFragment : String := ""
  deriving DecidableEq, Repr

end ShaderPreview
