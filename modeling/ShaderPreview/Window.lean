import ShaderPreview.Gl.Device
import ShaderPreview.Session

/-!
# Windows

A **window** is a display with a graphics device and something to show. Its loop looks at the
events, refreshes what is shown, presents the new picture if there is one, and waits for the next
refresh. It ends after the round in which the window was closed; the other events of that round are
still handled.

A display that keeps refreshing would keep a window open for ever, so the loop is given the number
of refreshes that it may last.

## Main definitions

* `Window`: the state, over what is shown.
* `Window.openDevice`: opens the display.
* `Conduct`: what a window does at a key and at a refresh.
* `Window.run`, `Window.destroy`: the loop and the end.
-/

namespace ShaderPreview

/-- A **window**: whether it goes on, its device, and what it shows. -/
structure Window (γ : Type) where
  running : Bool := false
  device : GlDevice
  content : γ

/-- A procedure of a window. -/
abbrev WindowProcedure (γ α : Type) := PlatformProcedure (Window γ) α

namespace Window

open Procedure

variable {γ α : Type}

/-- A procedure of the device, within the window. -/
def onDevice (p : GlProcedure α) : WindowProcedure γ α :=
  p.zoom (·.device) fun w device => { w with device }

/-- A procedure of what is shown, **carried out on the window's device**. -/
def onContent (p : DeviceProcedure γ α) : WindowProcedure γ α :=
  (p.implement GlDevice.perform).zoom (fun w => (w.content, w.device)) fun w both =>
    { w with content := both.1, device := both.2 }

/-- Says whether the window goes on. -/
def setRunning (running : Bool) : WindowProcedure γ Unit := update fun w => { w with running }

/-! ### Opening -/

/-- The depth of a display, in bits. -/
def depthBits : Nat := 24

/-- Opens a display and a context on it. -/
def openDisplay {σ : Type} (settings : WindowSettings) : PlatformProcedure σ ContextInfo := do
  let ready : Bool ← Platform.ask .isReady
  if !ready then Platform.ask .prepare
  Platform.ask (.setAttribute .depthSize depthBits)
  Platform.ask (.setAttribute .doubleBuffer 1)
  Platform.ask (.openDisplay settings.size settings.vsync)
  Platform.ask (.setCaption settings.title)
  Platform.ask .createContext

/-- **Opens a display** and gives the device on it. If any step fails the platform is left, and
there is no device. -/
def openDevice {σ : Type} (settings : WindowSettings) (render : RenderSettings) :
    PlatformProcedure σ GlDevice := do
  match ← (openDisplay settings).attempt with
  | .error fault =>
    Platform.ask .quit
    fail (.pipeline (.deviceUnavailable ("Could not create an OpenGL window: " ++ fault.message)))
  | .ok info =>
    tell (.contextOpened info.version)
    return GlDevice.onContext info render.glslVersion (some settings.size)

end Window

/-- **What a window does** at a key, at a refresh, and how often it is refreshed. A refresh gives
the number of callbacks that ran. -/
structure Conduct (γ : Type) where
  onKey : Key → Option (WindowProcedure γ Unit)
  refresh : WindowProcedure γ Nat
  targetFps : Int

namespace Window

open Procedure

variable {γ : Type}

/-! ### The loop -/

/-- **One event**. The escape key closes the window, and may mean something besides. -/
def handleEvent (conduct : Conduct γ) : WindowEvent → WindowProcedure γ Unit
  | .quit => setRunning false
  | .resize width height => onDevice (GlDevice.setViewport (.pixels width height))
  | .keyUp _ => pure ()
  | .keyDown key => do
    if key = .escape then setRunning false
    match conduct.onKey key with
    | some handler => handler
    | none => pure ()

/-- Events one after another. -/
def handleEvents (conduct : Conduct γ) : List WindowEvent → WindowProcedure γ Unit
  | [] => pure ()
  | event :: rest => do
    handleEvent conduct event
    handleEvents conduct rest

/-- **One round** of the loop. The picture changes only if some callback ran. -/
def round (conduct : Conduct γ) : WindowProcedure γ Unit := do
  let batch : EventBatch ← Platform.ask .pollEvents
  if batch.contextLost then onDevice GlDevice.release
  handleEvents conduct batch.events
  let count ← conduct.refresh
  if count != 0 then Platform.ask .flip
  Platform.ask (.tick conduct.targetFps)

/-- Rounds for as long as the window goes on, but no more than given. -/
def rounds (conduct : Conduct γ) : Nat → WindowProcedure γ Unit
  | 0 => do if (← state).running then fail .outOfRefreshes
  | refreshes + 1 => do
    if (← state).running then
      round conduct
      rounds conduct refreshes

/-- **Shows the window** until it is closed. -/
def run (conduct : Conduct γ) (refreshes : Nat) : WindowProcedure γ Unit := do
  setRunning true
  rounds conduct refreshes

/-- Gives back what the device holds and leaves the platform. -/
def destroy : WindowProcedure γ Unit := do
  onDevice GlDevice.release
  Platform.ask .quit

end Window

end ShaderPreview
