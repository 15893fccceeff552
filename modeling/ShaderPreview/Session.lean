import ShaderPreview.Frame.Scheduler
import ShaderPreview.Shader.Repair

/-!
# Sessions

A **session** shows one bundle at a time. Starting a bundle takes it apart, mends its fragment part,
gives back what the previous bundle held, builds the new program and begins its frames. A bundle
that cannot be taken apart leaves the current one as it is; a later failure comes when the previous
bundle is gone already.

The sources of the latest start stay at hand, so that a failure can be shown with them.

## Main definitions

* `Session`: the sources, the pipeline and the scheduler.
* `Session.start`, `Session.stop`: what changes the bundle that is shown.
* `Session.refresh`: one refresh of the display.
-/

namespace ShaderPreview

/-- One bundle at a time **on a device**: the sources of the latest start, the pipeline and the
scheduler. -/
structure Session where
  sources : Option Sources := none
  pipeline : Pipeline := {}
  scheduler : Scheduler := {}
  deriving DecidableEq, Repr

namespace Session

open Procedure

/-- The phase of the pipeline. -/
def status (s : Session) : Phase := s.pipeline.phase

/-- The program that is shown. -/
def program (s : Session) : Option Program := s.pipeline.program

/-- The shape of the program that is shown. -/
def shape (s : Session) : Option Shape := s.program.map (·.shape)

/-- Whether the display calls back. -/
def rendering (s : Session) : Bool := s.scheduler.running

/-- A procedure of the pipeline, within the session. -/
def onPipeline {α : Type} (p : DeviceProcedure Pipeline α) : DeviceProcedure Session α :=
  p.zoom (·.pipeline) fun s pipeline => { s with pipeline }

/-- A procedure of the scheduler, within the session. -/
def onScheduler {α : Type} (p : DeviceProcedure Scheduler α) : DeviceProcedure Session α :=
  p.zoom (·.scheduler) fun s scheduler => { s with scheduler }

/-! ### Stopping and starting -/

/-- **Stops** showing a bundle: ends its frames, then gives back what it held. -/
def stop : DeviceProcedure Session Unit := do
  onScheduler Scheduler.stop
  onPipeline Pipeline.teardown

/-- Refuses where the device is not there. -/
def requireDevice : DeviceProcedure Session Unit := do
  let available : Bool ← Device.ask .isAvailable
  if !available then fail (.pipeline (.deviceUnavailable "Graphics device is not available"))

/-- Keeps the sources of a start at hand. -/
def keepSources (sources : Sources) : DeviceProcedure Session Unit :=
  update fun s => { s with sources := some sources }

/-- Tells what mending did, if it did anything. -/
def tellRepair (fragment : String) (repair : Repair) : DeviceProcedure Session Unit := do
  if repair.changed then
    tell (.mended repair.precision repair.statements)
    tell (.generatedFragment fragment)
    tell (.mendedFragment repair.source)

/-- **Takes a bundle apart** and mends its fragment part. The sources become known step by step. -/
def readBundle (settings : RenderSettings) (bundle : String) :
    DeviceProcedure Session (Sections × Repair) := do
  keepSources { raw := bundle }
  let sections ← ofExcept ((Bundle.split bundle).mapError fun fault => .pipeline (.bundle fault))
  let repair := Repair.mend sections.fragment settings.defaultPrecision
  tellRepair sections.fragment repair
  keepSources {
    raw := bundle, vertex := sections.vertex, fragment := sections.fragment
    mendedFragment := repair.source }
  return (sections, repair)

/-- A failure to build, **with the sources** at hand if it is the compiler's or the linker's; such a
failure is told. -/
def explain {α : Type} (fault : Fault) : DeviceProcedure Session α := do
  match fault with
  | .pipeline fault =>
    let fault := fault.withSources (← state).sources
    match fault with
    | .compile .. | .link .. => tell (.startFailed fault)
    | _ => pure ()
    fail (.pipeline fault)
  | fault => fail fault

/-- **Starts showing a bundle** in the place of the current one. -/
def start (settings : RenderSettings) (bundle : String) : DeviceProcedure Session Unit := do
  requireDevice
  let (sections, repair) ← readBundle settings bundle
  stop
  let shape := Shape.ofName sections.shapeName
  let program ← (onPipeline (Pipeline.build sections.vertex repair.source shape)).handle explain
  onScheduler (Scheduler.start program)

/-! ### Frames -/

/-- One frame, outside a refresh. -/
def renderFrame (settings : RenderSettings) : DeviceProcedure Session Unit :=
  onScheduler (Scheduler.renderFrame settings)

/-- **One refresh** of the display: gives the number of callbacks that ran. -/
def refresh (settings : RenderSettings) : DeviceProcedure Session Nat :=
  onScheduler (Scheduler.refresh settings)

end Session

end ShaderPreview
