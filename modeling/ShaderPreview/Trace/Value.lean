import ShaderPreview.Trace.Checksum

/-!
# Traces

A **trace** shows what a run asked of the world, one line to a call. A line begins with a word for
the call; the values that follow are those that were passed and, where a call gives an object, the
object.

## Main definitions

* `TraceValue`: what stands in a line.
* `TraceLine`: a line.
-/

namespace ShaderPreview

/-- A **value in a line** of a trace. -/
inductive TraceValue where
  | word (s : String)
  | whole (n : Int)
  | truth (b : Bool)
  | double (x : Float)
  | single (x : Float32)
  | matrix (entries : List Float32)
  | row (values : List TraceValue)
  | nothing
  deriving Repr

/-- A **line** of a trace. -/
abbrev TraceLine := List TraceValue

namespace TraceValue

/-- A value for each of some things. -/
def rowOf {α : Type} (f : α → TraceValue) (xs : List α) : TraceValue := .row (xs.map f)

/-- A measure; where it is unknown the row of nothing stands. -/
def measure (n : Option Int) : TraceValue := (n.map .whole).getD (.row [])

/-- The size of a buffer and its two sums. -/
def ofBuffer (data : List UInt8) : List TraceValue :=
  let sums := Checksum.ofBytes data
  [.whole data.length, .whole sums.total, .whole sums.weighted]

end TraceValue

end ShaderPreview
