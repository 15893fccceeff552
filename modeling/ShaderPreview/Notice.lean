import ShaderPreview.Fault
import ShaderPreview.Geometry.Shape
import ShaderPreview.Shader.Repair
import ShaderPreview.Text.Decimal

/-!
# Notices

What the program tells its user while it runs. A notice is an event of the domain; most are log
records with a level and the part of the program that speaks, and one kind, the report of a failed
start, is printed as it is.

## Main definitions

* `Notice`: the events.
* `Notice.record?`: level, speaker and wording of a log record.
* `Notice.transcript`: what a console shows of some notices.
-/

namespace ShaderPreview

/-- The **levels** of log records, from the least urgent. -/
inductive Level where
  | debug
  | info
  | warning
  | error
  deriving DecidableEq, Repr

namespace Level

/-- The name of a level. -/
def name : Level → String
  | .debug => "DEBUG"
  | .info => "INFO"
  | .warning => "WARNING"
  | .error => "ERROR"

/-- How urgent a level is. -/
def rank : Level → Nat
  | .debug => 0
  | .info => 1
  | .warning => 2
  | .error => 3

/-- All levels, from the least urgent. -/
def all : List Level := [.debug, .info, .warning, .error]

/-- The level with a given name. -/
def ofName? (name : String) : Option Level := all.find? (·.name == name)

end Level

/-- An **event** that the user is told of. -/
inductive Notice where
  /-- A window has a context of this version. -/
  | contextOpened (version : Int)
  /-- A fragment shader was mended. -/
  | mended (action : PrecisionAction) (statements : List String)
  | generatedFragment (source : String)
  | mendedFragment (source : String)
  /-- A program is ready to be drawn. -/
  | programActive (shape : Shape) (vertices : Nat)
  | releasing (handles : Nat)
  | startFailed (fault : PipelineFault)
  | framesStopped (frames : Nat) (elapsed : Float)
  /-- A stage compiled, and only its trial program did not link. -/
  | trialLinkIgnored (stage : Stage) (message : String)
  | cannotRead (path : String) (fault : Fault)
  | cannotReload (path : String) (fault : Fault)
  | reloading (path : String)
  | givingUp (fault : Fault)
  /-- The report of a failed start, printed as it is. -/
  | report (text : String)
  deriving DecidableEq, Repr

/-- A **log record**. -/
structure LogRecord where
  level : Level
  speaker : String
  message : String
  deriving DecidableEq, Repr

/-- A record on one line. -/
def LogRecord.line (r : LogRecord) : String := r.level.name ++ " " ++ r.speaker ++ ": " ++ r.message

namespace Notice

/-- The version of a context: its first digit and the others. -/
def versionText (version : Int) : String :=
  match (Numeral.ofInt version).toList with
  | [] => "."
  | c :: rest => String.ofList (c :: '.' :: rest)

/-- The **log record** of an event; a printed report has none. -/
def record? : Notice → Option LogRecord
  | .contextOpened version =>
    some ⟨.info, "shadergen.host.window", "OpenGL Context Created: " ++ versionText version⟩
  | .mended action statements =>
    let names := if statements.isEmpty then "none" else ", ".intercalate statements
    some ⟨.info, "shadergen.runtime.session",
      "Applied automatic shader fixes (precision " ++ action.name ++ ", declarations: " ++ names
        ++ ")"⟩
  | .generatedFragment source =>
    some ⟨.debug, "shadergen.runtime.session", "Generated fragment shader:\n" ++ source⟩
  | .mendedFragment source =>
    some ⟨.debug, "shadergen.runtime.session", "Fixed fragment shader:\n" ++ source⟩
  | .programActive shape vertices =>
    some ⟨.info, "shadergen.graphics.resources",
      "Program active: " ++ shape.kind ++ ", " ++ toString vertices ++ " vertices"⟩
  | .releasing handles =>
    some ⟨.debug, "shadergen.graphics.resources",
      "Releasing " ++ toString handles ++ " graphics handles"⟩
  | .startFailed fault =>
    some ⟨.warning, "shadergen.runtime.session",
      "Shader pipeline failed at " ++ fault.stepName ++ " stage: " ++ fault.message⟩
  | .framesStopped frames elapsed =>
    some ⟨.debug, "shadergen.runtime.frame",
      "Frame callback cancelled after " ++ toString frames ++ " frames ("
        ++ Decimal.fixed 2 elapsed ++ "s)"⟩
  | .trialLinkIgnored stage message =>
    some ⟨.debug, "shadergen.graphics.moderngl_device",
      "Ignoring probe link error for " ++ stage.name ++ " stage: " ++ message⟩
  | .cannotRead path fault =>
    some ⟨.error, "shadergen", "Could not read bundle " ++ path ++ ": " ++ fault.message⟩
  | .cannotReload path fault =>
    some ⟨.error, "shadergen", "Could not reload " ++ path ++ ": " ++ fault.message⟩
  | .reloading path => some ⟨.info, "shadergen", "Reloading " ++ path⟩
  | .givingUp fault => some ⟨.error, "shadergen", fault.message⟩
  | .report _ => none

/-- The lines of the records among some notices, in order. -/
def logLines (notices : List Notice) : List String :=
  notices.filterMap fun n => n.record?.map (·.line)

/-- What a console shows of one notice: a report always, a record from the given level on and behind
a time stamp. -/
def shown (threshold : Level) (stamp : String) (n : Notice) : String :=
  match n, n.record? with
  | .report text, _ => text ++ "\n"
  | _, some r => if threshold.rank ≤ r.level.rank then stamp ++ " " ++ r.line ++ "\n" else ""
  | _, none => ""

/-- What a **console shows** of some notices, in order. -/
def transcript (threshold : Level) (stamp : String) (notices : List Notice) : String :=
  String.join (notices.map (shown threshold stamp))

end Notice

end ShaderPreview
