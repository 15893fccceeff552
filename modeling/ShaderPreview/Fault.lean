import ShaderPreview.Shader.Bundle
import ShaderPreview.Shader.Stage
import ShaderPreview.Text.Numeral
import ShaderPreview.Text.Quoted
import ShaderPreview.Text.Utf8

/-!
# Faults

Everything that can go wrong, by cause. A **pipeline fault** is a failure of a start that is meant
to be shown to whoever wrote the shader; the other faults come from the device, the platform, the
arithmetic or a misuse, and pass through. The wording of each is given once, here.

## Main definitions

* `PipelineFault`, `Fault`: the causes.
* `PipelineFault.message`, `Fault.message`: their wording.
* `PipelineFault.report`: a failure with the texts that it is about.
-/

namespace ShaderPreview

/-- A **failed start**. A compiler's or linker's diagnostic goes with the sources, once they are
known. -/
inductive PipelineFault where
  | bundle (fault : BundleFault)
  | compile (stage : Stage) (diagnostic : String) (sources : Option Sources)
  | link (diagnostic : String) (sources : Option Sources)
  | deviceUnavailable (message : String)
  | general (message : String)
  deriving DecidableEq, Repr

/-- A **file that cannot be read**. -/
inductive FileFault where
  | notFound (path : String)
  | notADirectory (path : String)
  | isADirectory (path : String)
  | nameTooLong (path : String)
  /-- Any other reason of the system's, by its number and its words. -/
  | unreadable (number : Nat) (words path : String)
  deriving DecidableEq, Repr

/-- A **cause of failure**. -/
inductive Fault where
  | pipeline (fault : PipelineFault)
  /-- A function of an angle at an infinite angle. -/
  | outsideDomain
  /-- The quotient of two whole numbers is too large. -/
  | quotientTooLarge
  /-- A whole number is too large. -/
  | numberTooLarge
  /-- A division of a span into a negative number of points. -/
  | negativeSamples (count : Int)
  /-- The name is none of the stages' names. -/
  | notAStage (name : String)
  /-- Nothing is kept under the number. -/
  | unknownEntry (number : Int)
  /-- No program has the handle. -/
  | unknownProgram (handle : Int)
  /-- The device or the platform broke down. -/
  | broken (message : String)
  /-- The context turned a program down. -/
  | rejected (message : String)
  /-- A program is drawn that was never linked. -/
  | notLinked
  /-- The bytes are not text. -/
  | undecodable (fault : Utf8.Fault)
  /-- The file cannot be read. -/
  | file (fault : FileFault)
  /-- The path holds a character that no path can hold. -/
  | impossiblePath
  /-- There is no level to log at. -/
  | missingLevel
  /-- The proportions of a view are asked for whose width is unknown. -/
  | unknownWidth
  /-- A measure of a view is asked for that is unknown. -/
  | unknownMeasure
  /-- The display stopped refreshing before the window was closed. -/
  | outOfRefreshes
  deriving DecidableEq, Repr

/-! ### Wording -/

/-- The wording of a bundle's fault. -/
def BundleFault.message : BundleFault → String
  | .missingMarkers missing _ =>
    "Could not find shader marker(s): " ++ ", ".intercalate (missing.map Text.quote)
  | .markerOrder _ => "Vertex shader marker must come before the fragment shader marker"
  | .malformed message _ => message

namespace PipelineFault

/-- The wording of a failed start. -/
def message : PipelineFault → String
  | .bundle fault => fault.message
  | .compile stage diagnostic _ => stage.name ++ " shader compilation failed: " ++ diagnostic
  | .link diagnostic _ => "Program linking failed: " ++ diagnostic
  | .deviceUnavailable message => message
  | .general message => message

/-- The step at which a start failed. -/
def stepName : PipelineFault → String
  | .bundle _ => "parse"
  | .compile .. => "compile"
  | .link .. => "link"
  | .deviceUnavailable _ => "device"
  | .general _ => "pipeline"

/-- The fault with the given sources, if it is one that carries sources. -/
def withSources (sources : Option Sources) : PipelineFault → PipelineFault
  | .compile stage diagnostic _ => .compile stage diagnostic sources
  | .link diagnostic _ => .link diagnostic sources
  | fault => fault

/-- The lines that show some sources: the whole text, and the mended fragment part if there is
one. -/
def sourceLines (sources : Sources) : List String :=
  let mended :=
    if sources.mendedFragment.isEmpty then []
    else ["", "--- normalized fragment shader ---", sources.mendedFragment]
  ["", "--- raw bundle ---", sources.raw] ++ mended

/-- A **failed start with its texts**: a malformed bundle is shown as it stands, any other failure
with the sources at hand. -/
def report (fault : PipelineFault) (sources : Option Sources) : String :=
  let headline := "Error (" ++ fault.stepName ++ "): " ++ fault.message
  let lines :=
    match fault with
    | .bundle bundleFault => ["", "--- raw bundle ---", bundleFault.raw]
    | _ =>
      match sources with
      | some sources => sourceLines sources
      | none => []
  "\n".intercalate (headline :: lines)

end PipelineFault

/-- The system's number for a file's fault. -/
def FileFault.number : FileFault → Nat
  | .notFound _ => 2
  | .notADirectory _ => 20
  | .isADirectory _ => 21
  | .nameTooLong _ => 36
  | .unreadable number _ _ => number

/-- The wording of a file's fault. -/
def FileFault.message (fault : FileFault) : String :=
  let (words, path) :=
    match fault with
    | .notFound path => ("No such file or directory", path)
    | .notADirectory path => ("Not a directory", path)
    | .isADirectory path => ("Is a directory", path)
    | .nameTooLong path => ("File name too long", path)
    | .unreadable _ words path => (words, path)
  "[Errno " ++ toString fault.number ++ "] " ++ words ++ ": " ++ Text.quote path

/-- The wording of a decoding fault: one spoilt byte is shown, several are counted. -/
def Utf8.Fault.message (fault : Utf8.Fault) : String :=
  let place :=
    if fault.width = 1 then
      "byte 0x" ++ String.ofList (Text.hexDigits 2 fault.byte.toNat) ++ " in position "
        ++ toString fault.position
    else
      "bytes in position " ++ toString fault.position ++ "-"
        ++ toString (fault.position + fault.width - 1)
  "'utf-8' codec can't decode " ++ place ++ ": " ++ fault.reason.message

/-- The **wording of a fault**. -/
def Fault.message : Fault → String
  | .pipeline fault => fault.message
  | .outsideDomain => "math domain error"
  | .quotientTooLarge => "integer division result too large for a float"
  | .numberTooLarge => "int too large to convert to float"
  | .negativeSamples count =>
    "Number of samples, " ++ Numeral.ofInt count ++ ", must be non-negative."
  | .notAStage name => Text.quote name ++ " is not a valid ShaderStage"
  | .unknownEntry number => Numeral.ofInt number
  | .unknownProgram handle => Text.quote ("Unknown program handle " ++ Numeral.ofInt handle)
  | .broken message => message
  | .rejected message => message
  | .notLinked => ""
  | .undecodable fault => fault.message
  | .file fault => fault.message
  | .impossiblePath => "embedded null byte"
  | .missingLevel => "attribute name must be string, not 'list'"
  | .unknownWidth => "unsupported operand type(s) for /: 'list' and 'int'"
  | .unknownMeasure => "float() argument must be a string or a real number, not 'list'"
  | .outOfRefreshes => "the display stopped refreshing"

end ShaderPreview
