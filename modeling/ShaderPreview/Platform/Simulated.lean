import ShaderPreview.Device.Simulated
import ShaderPreview.Files.Tree
import ShaderPreview.Platform.Interface

/-!
# A Simulated Platform

A platform without a display, for rehearsing whole runs. Its graphics context judges sources by
marks in their text and gives a linked program those names of a table that its text holds. What
happens to the window is written down beforehand, round by round; after the last round the window is
closed. One kind of call can be made to break down.

## Main definitions

* `Round`: what happens between two looks at the events.
* `SimulatedPlatform`: the state.
* `SimulatedPlatform.provider`: how it answers.
-/

namespace ShaderPreview

/-- **What happens between two looks** at the events: files that change or go, the clock, the
context, and the events themselves. -/
structure Round where
  files : List (Path × Option (List UInt8)) := []
  contextLost : Bool := false
  time : Option Float := none
  events : List WindowEvent := []
  deriving Repr

/-- A **platform without a display**. -/
structure SimulatedPlatform where
  /-- The names that a program's text may hold. -/
  members : List Member := [
    ⟨"position", .input, 0⟩, ⟨"normal", .input, 1⟩, ⟨"time", .uniform, 0⟩,
    ⟨"resolution", .uniform, 1⟩, ⟨"modelMatrix", .uniform, 2⟩, ⟨"viewMatrix", .uniform, 3⟩,
    ⟨"projectionMatrix", .uniform, 4⟩, ⟨"Lights", .block, 0⟩]
  screen : ViewSize := .pixels 400 300
  version : Int := 330
  ready : Bool := false
  /-- The name of the display calls that break down. -/
  breakdown : Option String := none
  /-- Why there is no context without a display. -/
  standaloneFault : Option String := none
  rounds : List Round := []
  tree : FileTree := {}
  input : List UInt8 := []
  time : Float := 100.0
  programs : Nat := 0
  buffers : Nat := 0
  vertexArrays : Nat := 0
  deriving Repr

namespace SimulatedPlatform

open SimulatedDevice (holds)

/-- The name of a call that concerns the display. -/
def displayName : Platform.Call → Option String
  | .prepare => some "init"
  | .quit => some "quit"
  | .setAttribute .. => some "gl_set_attribute"
  | .openDisplay .. => some "set_mode"
  | .setCaption _ => some "set_caption"
  | .createContext => some "create_context"
  | .pollEvents => some "events"
  | .flip => some "flip"
  | .tick _ => some "tick"
  | _ => none

/-- What the context says to a stage that does not compile. -/
def compilerMessage (stage : Stage) : String :=
  "GLSL Compiler failed\n\n" ++ stage.name ++ "_shader\n0:1: bad token"

/-- What the context says to stages that do not fit together. -/
def linkerMessage : String := "GLSL Linker failed\n\nvarying mismatch"

/-- **Compiles and links** a program. -/
def linkProgram (p : SimulatedPlatform) (vertex fragment : String) :
    Except Fault LinkedProgram × SimulatedPlatform :=
  let text := vertex ++ fragment
  if holds "#crash" text then (.error (.broken "driver crash"), p)
  else if holds "#error" vertex then (.error (.rejected (compilerMessage .vertex)), p)
  else if holds "#error" fragment then (.error (.rejected (compilerMessage .fragment)), p)
  else if holds "#link" text then (.error (.rejected linkerMessage), p)
  else
    let number := p.programs + 1
    (.ok { number, members := p.members.filter fun m => holds m.name text },
      { p with programs := number })

/-- Lets the changes to a file happen. -/
def changeFile (tree : FileTree) (change : Path × Option (List UInt8)) : FileTree :=
  match change with
  | (path, some content) => tree.put path.parts content
  | (path, none) => tree.remove path.parts

/-- Lets a **round** happen. -/
def pollEvents (p : SimulatedPlatform) : EventBatch × SimulatedPlatform :=
  match p.rounds with
  | [] => ({ events := [.quit] }, p)
  | round :: rounds =>
    ({ contextLost := round.contextLost, events := round.events },
      { p with
        rounds
        tree := round.files.foldl changeFile p.tree
        time := round.time.getD p.time })

/-- The size and version of the context. -/
def contextInfo (p : SimulatedPlatform) : ContextInfo := ⟨p.screen, p.version⟩

/-- The **answer** to a call that does not break down. -/
def reply (p : SimulatedPlatform) :
    (call : Platform.Call) → Except Fault (Platform.Reply call) × SimulatedPlatform
  | .linkProgram vertex fragment => p.linkProgram vertex (fragment.getD "")
  | .createBuffer _ => (.ok (p.buffers + 1), { p with buffers := p.buffers + 1 })
  | .createVertexArray .. =>
    (.ok (p.vertexArrays + 1), { p with vertexArrays := p.vertexArrays + 1 })
  | .release _ => (.ok (), p)
  | .render .. => (.ok (), p)
  | .setContextViewport .. => (.ok (), p)
  | .clear _ => (.ok (), p)
  | .enableDepthTest => (.ok (), p)
  | .writeMatrix .. => (.ok (), p)
  | .writeScalar .. => (.ok (), p)
  | .writeVector .. => (.ok (), p)
  | .createStandaloneContext =>
    match p.standaloneFault with
    | some message => (.error (.broken message), p)
    | none => (.ok p.contextInfo, p)
  | .createFramebuffer .. => (.ok (), p)
  | .useFramebuffer => (.ok (), p)
  | .isReady => (.ok p.ready, p)
  | .prepare => (.ok (), { p with ready := true })
  | .quit => (.ok (), { p with ready := false })
  | .setAttribute .. => (.ok (), p)
  | .openDisplay .. => (.ok (), p)
  | .setCaption _ => (.ok (), p)
  | .createContext => (.ok p.contextInfo, p)
  | .pollEvents =>
    let (batch, p) := p.pollEvents
    (.ok batch, p)
  | .flip => (.ok (), p)
  | .tick _ => (.ok (), p)
  | .readFile path => (p.tree.read path, p)
  | .readInput => (.ok p.input, p)
  | .now => (.ok p.time, p)
  | .mark .. => (.ok (), p)

/-- **How the platform answers**. -/
def provider : Provider Platform SimulatedPlatform where
  answer p call :=
    match displayName call, p.breakdown with
    | some name, some broken =>
      if name = broken then (.error (.broken ("no " ++ name)), p) else p.reply call
    | _, _ => p.reply call

end SimulatedPlatform

end ShaderPreview
