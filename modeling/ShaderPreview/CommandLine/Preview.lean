import ShaderPreview.CommandLine.Arguments
import ShaderPreview.Text.Newline
import ShaderPreview.Window

/-!
# Previewing a Bundle

What the command line does with its arguments: it reads the bundle, opens a window, shows the bundle
until the window is closed, and reads it again whenever the reload key is pressed. A failed start is
reported, and the window stays open. However the window comes to its end, the bundle is stopped and
the window is destroyed.

## Main definitions

* `Preview.readBundle`: the text of a bundle.
* `Preview.load`, `Preview.reload`: show a text, and show the file's present text.
* `Preview.run`: the whole run, with its exit.
-/

namespace ShaderPreview

/-- How a run **comes to its end**. -/
inductive Exit where
  | ok
  | badInput
  | noDevice
  deriving DecidableEq, Repr

/-- The exit code. -/
def Exit.code : Exit → Nat
  | .ok => 0
  | .badInput => 1
  | .noDevice => 2

/-- A window that shows **a session**. -/
abbrev PreviewWindow := Window Session

/-- A procedure of such a window. -/
abbrev PreviewProcedure (α : Type) := WindowProcedure Session α

namespace Preview

open Procedure

/-- Stands for standard input in the place of a path. -/
def inputName : String := "-"

/-- The key that reads the bundle again. -/
def reloadKey : Key := .letter 'r'

/-- How frames are drawn and sources adapted. -/
def renderSettings : RenderSettings := {}

/-! ### Reading -/

/-- The bytes of a file or of standard input. -/
def readBytes {σ : Type} (name : String) : PlatformProcedure σ (List UInt8) :=
  if name = inputName then Platform.ask .readInput
  else Platform.ask (.readFile (Path.ofString name))

/-- The **text of a bundle**: strict UTF-8, and every line ends with a line feed. -/
def readBundle {σ : Type} (name : String) : PlatformProcedure σ String := do
  let bytes ← readBytes name
  let text ← ofExcept ((Utf8.decode bytes).mapError .undecodable)
  return String.ofList (Text.normalizeNewlines text.toList)

/-! ### Showing -/

/-- **Shows a text**. A failed start is reported, unless there is no device. -/
def load (text : String) : PreviewProcedure Unit :=
  (Window.onContent (Session.start renderSettings text)).handle fun fault => do
    match fault with
    | .pipeline (.deviceUnavailable _) => fail fault
    | .pipeline failure => tell (.report (failure.report (← state).content.sources))
    | _ => fail fault

/-- **Reads the file again** and shows its text. If it cannot be read the current bundle stays. -/
def reload (name : String) : PreviewProcedure Unit := do
  match ← (readBundle name).attempt with
  | .error (.file fault) => tell (.cannotReload name (.file fault))
  | .error fault => fail fault
  | .ok text =>
    tell (.reloading name)
    load text

/-- What the window does. Standard input can be read only once, so there is nothing to reload. -/
def conduct (name : String) : Conduct Session where
  onKey key := if key = reloadKey && name != inputName then some (reload name) else none
  refresh := Window.onContent (Session.refresh renderSettings)
  targetFps := ({} : WindowSettings).targetFps

/-- Shows a text in the window **until it is closed**. -/
def showUntilClosed (refreshes : Nat) (name text : String) : PreviewProcedure Exit := do
  load text
  Window.run (conduct name) refreshes
  return .ok

/-- Gives up where there is no device. -/
def givingUp {σ : Type} (fault : Fault) : PlatformProcedure σ Exit := do
  match fault with
  | .pipeline (.deviceUnavailable _) =>
    tell (.givingUp fault)
    return .noDevice
  | _ => fail fault

/-- Stops the bundle and destroys the window. -/
def close : PreviewProcedure Unit := do
  Window.onContent Session.stop
  Window.destroy

/-- The **life of the window**: whichever way it ends, it is closed. -/
def live (refreshes : Nat) (name text : String) : PreviewProcedure Exit :=
  ((showUntilClosed refreshes name text).handle givingUp).ensuring close

/-! ### The whole run -/

/-- The settings of the window that is asked for. -/
def windowSettings (arguments : Arguments) : WindowSettings := { size := arguments.size }

/-- Opens a window for a text and **shows it**. -/
def openWindow (refreshes : Nat) (arguments : Arguments) (text : String) :
    PlatformProcedure (Option PreviewWindow) Exit := do
  match ← (Window.openDevice (windowSettings arguments) renderSettings).attempt with
  | .error fault => givingUp fault
  | .ok device => (live refreshes arguments.bundle text).within { device, content := {} } some

/-- The **whole run** of a command line. Nothing is read without a level to log at, and no window is
opened for a bundle that cannot be read. -/
def run (refreshes : Nat) (arguments : Arguments) :
    PlatformProcedure (Option PreviewWindow) Exit := do
  if arguments.level.isNone then fail .missingLevel
  match ← (readBundle arguments.bundle).attempt with
  | .error (.file fault) =>
    tell (.cannotRead arguments.bundle (.file fault))
    return .badInput
  | .error fault => fail fault
  | .ok text => openWindow refreshes arguments text

end Preview

end ShaderPreview
