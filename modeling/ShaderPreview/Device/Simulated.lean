import ShaderPreview.Device.Trace
import ShaderPreview.Dialogue.Run
import ShaderPreview.Registry
import ShaderPreview.Text.Search

/-!
# A Simulated Device

A graphics device without graphics, for rehearsing what a session does. It hands out handles from
one counter, judges sources by marks in their text, and finds a name wherever an attached source
holds it. It can be told to be absent, to refuse a stage or a link, to hide names, and to break down
at a later call of some kind.

## Main definitions

* `SimulatedDevice`: the state.
* `SimulatedDevice.provider`: how it answers.
-/

namespace ShaderPreview

/-- A simulated shader: its stage, its latest source, and whether that compiled. -/
structure SimulatedShader where
  stage : Stage
  source : String := ""
  compiled : Bool := false
  deriving DecidableEq, Repr

/-- A simulated program: the shaders attached to it, and whether it linked. -/
structure SimulatedProgram where
  shaders : List Handle := []
  linked : Bool := false
  deriving DecidableEq, Repr

/-- A **device without graphics**. What was deleted is still remembered. -/
structure SimulatedDevice where
  available : Bool := true
  refusedStages : List Stage := []
  refusesLinks : Bool := false
  hidden : List String := []
  /-- The kinds of calls that will break down, with the number of calls up to then. -/
  breakdowns : List (String × Int) := []
  view : ViewSize := .pixels 400 300
  time : Float := 100.0
  lastHandle : Handle := 0
  shaders : Registry SimulatedShader := {}
  programs : Registry SimulatedProgram := {}
  deriving Repr

namespace SimulatedDevice

/-- Whether a text holds a literal. -/
def holds (literal text : String) : Bool := Text.contains literal.toList text.toList

/-- The next handle. -/
def fresh (d : SimulatedDevice) : Handle × SimulatedDevice :=
  (d.lastHandle + 1, { d with lastHandle := d.lastHandle + 1 })

/-- The shaders attached to a program. -/
def attached (d : SimulatedDevice) (program : Handle) : List SimulatedShader :=
  match d.programs.find? program with
  | some p => p.shaders.filterMap d.shaders.find?
  | none => []

/-- Whether a program exposes a name in one of the given stages. -/
def exposes (d : SimulatedDevice) (program : Handle) (stages : List Stage) (name : String) : Bool :=
  !d.hidden.contains name &&
    (d.attached program).any fun s => stages.contains s.stage && holds name s.source

/-- The locations of the attributes. -/
def attributeLocations : List (String × Int) := [("position", 0), ("normal", 1)]

/-- The locations of the uniforms. -/
def uniformLocations : List (String × Int) := [
  ("time", 10), ("resolution", 11), ("modelMatrix", 12), ("viewMatrix", 13),
  ("projectionMatrix", 14)]

/-- The location of a name that a program exposes in the given stages. -/
def location (d : SimulatedDevice) (program : Handle) (stages : List Stage)
    (locations : List (String × Int)) (name : String) : Int :=
  if d.exposes program stages name then (locations.lookup name).getD Device.absent
  else Device.absent

/-- Compiles a source. -/
def compile (d : SimulatedDevice) (shader : Handle) (source : String) : SimulatedDevice :=
  match d.shaders.find? shader with
  | none => d
  | some s =>
    let compiled := !d.refusedStages.contains s.stage && !holds "#error" source
    { d with shaders := d.shaders.put shader { s with source, compiled } }

/-- Attaches a shader. -/
def attach (d : SimulatedDevice) (program shader : Handle) : SimulatedDevice :=
  match d.programs.find? program with
  | none => d
  | some p => { d with programs := d.programs.put program { p with shaders := p.shaders ++ [shader] } }

/-- Links a program. -/
def link (d : SimulatedDevice) (program : Handle) : SimulatedDevice :=
  match d.programs.find? program with
  | none => d
  | some p =>
    let linked := !d.refusesLinks && !(d.attached program).any fun s => holds "#link" s.source
    { d with programs := d.programs.put program { p with linked } }

/-- The stage name of a shader. -/
def stageName (d : SimulatedDevice) (shader : Handle) : String :=
  match d.shaders.find? shader with
  | some s => s.stage.name
  | none => ""

/-- The **answer** to a call that does not break down. -/
def reply (d : SimulatedDevice) : (call : Device.Call) → Device.Reply call × SimulatedDevice
  | .isAvailable => (d.available, d)
  | .createShader stage =>
    let (handle, d) := d.fresh
    (handle, { d with shaders := d.shaders.put handle { stage } })
  | .compileShader shader source => ((), d.compile shader source)
  | .shaderCompiled shader => (((d.shaders.find? shader).map (·.compiled)).getD false, d)
  | .shaderInfoLog shader => (d.stageName shader ++ " log " ++ Numeral.ofInt shader, d)
  | .deleteShader _ => ((), d)
  | .createProgram =>
    let (handle, d) := d.fresh
    (handle, { d with programs := d.programs.put handle {} })
  | .attachShader program shader => ((), d.attach program shader)
  | .linkProgram program => ((), d.link program)
  | .programLinked program => (((d.programs.find? program).map (·.linked)).getD false, d)
  | .programInfoLog program => ("program log " ++ Numeral.ofInt program, d)
  | .deleteProgram _ => ((), d)
  | .useProgram _ => ((), d)
  | .createBuffer => d.fresh
  | .uploadBuffer .. => ((), d)
  | .deleteBuffer _ => ((), d)
  | .attributeLocation program name => (d.location program [.vertex] attributeLocations name, d)
  | .bindAttribute .. => ((), d)
  | .uniformLocation program name =>
    (d.location program [.vertex, .fragment] uniformLocations name, d)
  | .setUniform .. => ((), d)
  | .viewportSize => (d.view, d)
  | .setViewport .. => ((), d)
  | .clear _ => ((), d)
  | .enableDepthTest => ((), d)
  | .drawTriangles .. => ((), d)
  | .requestFrame => ((), d)
  | .cancelFrame _ => ((), d)
  | .now => (d.time, d)

/-- Counts a call of the given name, and says whether it **breaks down**. -/
def count (d : SimulatedDevice) (name : String) : Bool × SimulatedDevice :=
  let breakdowns := d.breakdowns.map fun e => if e.1 = name then (e.1, e.2 - 1) else e
  (breakdowns.lookup name == some 0, { d with breakdowns })

/-- **How the device answers**. Calls that only read never break down. -/
def provider : Provider Device SimulatedDevice where
  answer d call :=
    if call.isRead then
      let (reply, d) := d.reply call
      (.ok reply, d)
    else
      let (broken, d) := d.count call.name
      if broken then (.error (.broken ("device failed in " ++ call.name)), d)
      else
        let (reply, d) := d.reply call
        (.ok reply, d)

end SimulatedDevice

end ShaderPreview
