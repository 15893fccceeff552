import ShaderPreview.Frame.Clock
import ShaderPreview.Frame.Table
import ShaderPreview.Pipeline

/-!
# Scheduling Frames

A **scheduler** draws one program once per refresh of the display. Starting a program asks the
device for frames and enters a callback into the display's table; stopping takes it out again. The
token of the entry is kept as long as the entry is there, and the display's table is shown beside
it.

Drawing a frame first moves the clock, so that a frame that is cut short still counts.

## Main definitions

* `Scheduler`: the program, its clock, the token and the display's table.
* `Scheduler.start`, `Scheduler.stop`: what begins and ends the frames of a program.
* `Scheduler.renderFrame`: one frame.
* `Scheduler.refresh`: one refresh of the display.
-/

namespace ShaderPreview

/-- What **draws a program** frame by frame: the program and its clock, the token under which the
display calls back, and the display's table. -/
structure Scheduler where
  program : Option Program := none
  clock : Option FrameClock := none
  token : Option Nat := none
  frames : FrameTable Unit := {}
  deriving DecidableEq, Repr

namespace Scheduler

open Procedure

/-- Whether the display calls back. -/
def running (s : Scheduler) : Bool := s.token.isSome

/-! ### Starting and stopping -/

/-- Takes the callback out of the display's table, if it is there. -/
def cancelFrames : DeviceProcedure Scheduler Unit := do
  let s ← state
  match s.token with
  | none => pure ()
  | some token =>
    Device.ask (.cancelFrame token)
    update fun s => { s with frames := s.frames.cancel token, token := none }
    match s.clock with
    | none => pure ()
    | some clock => tell (.framesStopped clock.frames clock.elapsed)

/-- **Ends the frames** of the current program, if there is one, and forgets it. -/
def stop : DeviceProcedure Scheduler Unit := do
  cancelFrames
  update fun s => { s with program := none, clock := none }

/-- Puts a callback into the display's table. -/
def requestFrames : DeviceProcedure Scheduler Unit := do
  Device.ask .requestFrame
  update fun s =>
    let (token, frames) := s.frames.register ()
    { s with frames, token := some token }

/-- **Begins the frames** of a program, after ending those of an earlier one. -/
def start (program : Program) : DeviceProcedure Scheduler Unit := do
  stop
  update fun s => { s with program := some program }
  let reading : Float ← Device.ask .now
  update fun s => { s with clock := some { start := reading } }
  requestFrames

/-! ### Drawing -/

/-- The **uniforms of a frame** in the order in which they are set: the time since the start, the
size of the view, and the three matrices. -/
def uniforms (elapsed : Float) (resolution : List Float) (matrices : FrameMatrices) :
    List (String × UniformValue) := [
  ("time", .scalar elapsed),
  ("resolution", .vector resolution),
  ("modelMatrix", .matrix matrices.model),
  ("viewMatrix", .matrix matrices.view),
  ("projectionMatrix", .matrix matrices.projection)]

/-- Sets uniforms of a program one after another, apart from those that it does without. -/
def setUniforms (program : Handle) : List (String × UniformValue) → DeviceProcedure Scheduler Unit
  | [] => pure ()
  | (name, value) :: rest => do
    let location : Int ← Device.ask (.uniformLocation program name)
    if location != Device.absent then Device.ask (.setUniform program location value)
    setUniforms program rest

/-- Draws a program as it looks at the given time of its clock. -/
def draw (settings : RenderSettings) (program : Program) (elapsed : Float) :
    DeviceProcedure Scheduler Unit := do
  let size : ViewSize ← Device.ask .viewportSize
  let aspect ← ofExcept (size.aspect Ratio.toFloat?)
  let matrices ← ofExcept (FrameMatrices.after settings.camera elapsed aspect)
  Device.ask (.setViewport size)
  Device.ask (.clear settings.clearColor)
  Device.ask .enableDepthTest
  Device.ask (.useProgram program.program)
  let resolution ← ofExcept size.resolution
  setUniforms program.program (uniforms elapsed resolution matrices)
  Device.ask (.drawTriangles program.program program.vertexCount)

/-- **One frame** of the current program; nothing where there is none. -/
def renderFrame (settings : RenderSettings) : DeviceProcedure Scheduler Unit := do
  let s ← state
  match s.program, s.clock with
  | some program, some clock =>
    let reading : Float ← Device.ask .now
    let clock := clock.advance reading
    update fun s => { s with clock := some clock }
    draw settings program clock.elapsed
  | _, _ => pure ()

/-- **One refresh** of the display: gives the number of callbacks that ran. -/
def refresh (settings : RenderSettings) : DeviceProcedure Scheduler Nat :=
  FrameTable.dispatch (do return (← state).frames) fun _ _ => renderFrame settings

end Scheduler

end ShaderPreview
