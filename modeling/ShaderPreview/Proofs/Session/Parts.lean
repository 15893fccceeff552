import ShaderPreview.Proofs.Dialogue.Confined
import ShaderPreview.Proofs.Frame.Upkeep
import ShaderPreview.Proofs.Pipeline.Verdicts
import ShaderPreview.Session

/-!
# The Parts of a Session

Three parts make the calls of a session, and they share none of them. The session itself asks
whether the device is there. The pipeline makes what is drawn: it creates, fills and deletes. The
scheduler draws it and keeps to the frames of the display. So what only one part can disturb, the
other two keep up without further ado.

## Main definitions

* `Device.Part`, `Device.Call.part`: the parts, and which of them makes a call.

## Main results

* `Pipeline.confined_teardown`, `Pipeline.confined_build`: a pipeline makes no other part's calls.
* `Scheduler.confined_start`, `Scheduler.confined_stop`, `Scheduler.confined_renderFrame`,
  `Scheduler.confined_refresh`: nor does a scheduler.
* `Session.honours_start_parts`: what a start comes to, from what its parts come to.
-/

namespace ShaderPreview

open Procedure

namespace Device

/-- The **parts of a session** that make calls. -/
inductive Part where
  | session
  | pipeline
  | scheduler
  deriving DecidableEq, Repr

/-- The part that **makes a call**. -/
def Call.part : Device.Call → Part
  | .isAvailable => .session
  | .useProgram _ => .scheduler
  | .uniformLocation .. => .scheduler
  | .setUniform .. => .scheduler
  | .viewportSize => .scheduler
  | .setViewport _ => .scheduler
  | .clear _ => .scheduler
  | .enableDepthTest => .scheduler
  | .drawTriangles .. => .scheduler
  | .requestFrame => .scheduler
  | .cancelFrame _ => .scheduler
  | .now => .scheduler
  | _ => .pipeline

/-- A procedure that makes only the calls **of a part**. -/
abbrev ConfinedTo {σ α : Type} (part : Part) (p : DeviceProcedure σ α) : Prop :=
  Confined (fun call : Device.Call => call.part = part) p

/-- A single call is confined to the part that makes it. -/
theorem confined_ask {σ : Type} {part : Part} {call : Device.Call} (h : call.part = part) :
    ConfinedTo part (Device.ask call : DeviceProcedure σ (Device.Reply call)) :=
  confined_perform h

end Device

open Device

/-! ### The pipeline -/

namespace Pipeline

/-- A deletion is the pipeline's call, whatever the kind of the handle. -/
theorem confined_delete {o : Owned} : ConfinedTo .pipeline (delete o) := by
  obtain ⟨kind, handle⟩ := o
  cases kind <;> exact confined_ask rfl

/-- Deletions one after another make the pipeline's calls only. -/
theorem confined_releaseEach {owned : List Owned} : ConfinedTo .pipeline (releaseEach owned) := by
  induction owned with
  | nil => exact confined_pure
  | cons o rest ih => exact confined_update.bind fun _ => confined_delete.bind fun _ => ih

/-- The release of all handles makes the pipeline's calls only. -/
theorem confined_releaseAll : ConfinedTo .pipeline releaseAll :=
  confined_state_bind fun _ => confined_releaseEach

/-- A **teardown** makes the pipeline's calls only. -/
theorem confined_teardown : ConfinedTo .pipeline teardown := by
  refine confined_state_bind fun s => ?_
  have hrelease : ConfinedTo .pipeline (do
      releaseAll
      update fun p => { p with program := none, phase := .empty }) :=
    confined_releaseAll.bind fun _ => confined_update
  by_cases howned : s.owned.isEmpty = true
  · simp only [howned]
    exact hrelease
  · simp only [howned]
    exact confined_tell.bind fun _ => hrelease

/-- Compiling makes the pipeline's calls only, and so do the other steps of a build below. -/
theorem confined_compile {stage : Stage} {source : String} :
    ConfinedTo .pipeline (compile stage source) := by
  refine (confined_ask rfl).bind fun shader => confined_update.bind fun _ => ?_
  refine (confined_ask rfl).bind fun _ => (confined_ask rfl).bind fun compiled => ?_
  cases compiled with
  | true => exact confined_pure
  | false => exact (confined_ask rfl).bind fun _ => confined_fail

theorem confined_link {vertexShader fragmentShader : Handle} :
    ConfinedTo .pipeline (link vertexShader fragmentShader) := by
  refine (confined_ask rfl).bind fun program => confined_update.bind fun _ => ?_
  refine (confined_ask rfl).bind fun _ => (confined_ask rfl).bind fun _ => ?_
  refine (confined_ask rfl).bind fun _ => (confined_ask rfl).bind fun linked => ?_
  cases linked with
  | true => exact confined_pure
  | false => exact (confined_ask rfl).bind fun _ => confined_fail

theorem confined_upload {data : List UInt8} : ConfinedTo .pipeline (upload data) :=
  (confined_ask rfl).bind fun _ => confined_update.bind fun _ =>
    (confined_ask rfl).bind fun _ => confined_pure

theorem confined_feed {program buffer : Handle} {name : String} :
    ConfinedTo .pipeline (feed program name buffer) := by
  refine (confined_ask rfl).bind fun location => ?_
  by_cases hlocation : (location != absent) = true
  · simp only [hlocation, if_true]
    exact (confined_ask rfl).bind fun _ => confined_pure
  · simp only [hlocation]
    exact confined_pure

theorem confined_bindMesh {vertexShader fragmentShader program : Handle} {shape : Shape} :
    ConfinedTo .pipeline (bindMesh vertexShader fragmentShader program shape) :=
  Confined.bind keeps_ofExcept fun _ => confined_upload.bind fun _ => confined_upload.bind fun _ =>
    confined_feed.bind fun _ => confined_feed.bind fun _ => confined_pure

/-- All the steps of a build together make the pipeline's calls only. -/
theorem confined_assemble {vertex fragment : String} {shape : Shape} :
    ConfinedTo .pipeline (assemble vertex fragment shape) :=
  confined_update.bind fun _ => confined_compile.bind fun _ => confined_compile.bind fun _ =>
    confined_link.bind fun _ => confined_update.bind fun _ => confined_bindMesh.bind fun _ =>
      confined_update.bind fun _ => confined_pure

/-- A **build** makes the pipeline's calls only. -/
theorem confined_build {vertex fragment : String} {shape : Shape} :
    ConfinedTo .pipeline (build vertex fragment shape) := by
  have hanew : ConfinedTo .pipeline (buildAnew vertex fragment shape) :=
    (confined_assemble.onFault (confined_releaseAll.bind fun _ => confined_update)).bind fun _ =>
      confined_update.bind fun _ => confined_tell.bind fun _ => confined_pure
  rw [build_eq]
  refine confined_state_bind fun p => ?_
  split
  · exact hanew
  · exact confined_teardown.bind fun _ => hanew

end Pipeline

/-! ### The scheduler -/

namespace Scheduler

/-- What prepares a frame is the scheduler's call. -/
theorem part_of_preparesFrame {call : Device.Call} (h : call.preparesFrame = true) :
    call.part = .scheduler := by
  cases call <;> first | rfl | cases h

/-- Preparing a frame makes the scheduler's calls only. -/
theorem upheld_confined :
    Upheld (callsOnly fun call : Device.Call => call.part = .scheduler) fun _ _ => True where
  allowed _ _ _ hcall _ := part_of_preparesFrame hcall
  step _ _ _ _ _ _ := trivial
  time _ _ _ _ := trivial

/-- So does drawing. -/
theorem draws_confined :
    DrawsUnder (callsOnly fun call : Device.Call => call.part = .scheduler) fun _ _ => True :=
  fun _ => (confined_ask rfl).mono (fun _ _ _ => trivial) (fun _ _ _ h => h) fun _ _ _ h => h

/-- **A frame** makes the scheduler's calls only. -/
theorem confined_renderFrame {settings : RenderSettings} :
    ConfinedTo .scheduler (renderFrame settings) :=
  upheld_confined.renderFrame draws_confined

/-- **A refresh** makes the scheduler's calls only. -/
theorem confined_refresh {settings : RenderSettings} :
    ConfinedTo .scheduler (refresh settings) :=
  upheld_confined.refresh draws_confined

/-- **Stopping** makes the scheduler's calls only. -/
theorem confined_stop : ConfinedTo .scheduler stop :=
  Confined.bind (keeps_cancelFrames (fun _ => confined_ask rfl) fun _ _ _ _ h => h) fun _ =>
    confined_update

/-- **Starting** makes the scheduler's calls only. -/
theorem confined_start {program : Program} : ConfinedTo .scheduler (start program) :=
  upheld_confined.start confined_stop
    (keeps_requestFrames (confined_ask rfl) fun _ _ _ _ h => h) fun _ _ _ h => h

end Scheduler

/-! ### A start -/

namespace Session

variable {α : Type} {settings : RenderSettings} {bundle : String}

/-- Telling what mending did changes nothing. -/
theorem honours_tellRepair {C : Contract Device Session}
    {pre : List (Exchange Device) → Session → Prop} {fragment : String} {repair : Repair}
    {err : List (Exchange Device) → Fault → Session → Prop} :
    Honours C pre (tellRepair fragment repair) (fun past _ s => pre past s) err := by
  rw [tellRepair]
  by_cases hchanged : repair.changed = true
  · rw [if_pos hchanged]
    exact Honours.bind (honours_tell fun _ _ h => h) fun _ =>
      Honours.bind (honours_tell fun _ _ h => h) fun _ => honours_tell fun _ _ h => h
  · rw [if_neg hchanged]
    exact honours_pure fun _ _ h => h

/-- Explaining a fault passes it on and changes nothing. -/
theorem honours_explain {C : Contract Device Session}
    {pre : List (Exchange Device) → Session → Prop} {fault : Fault}
    {ok : List (Exchange Device) → α → Session → Prop} :
    Honours C pre (explain fault) ok (fun past _ s => pre past s) := by
  unfold explain
  cases fault with
  | pipeline fault =>
    refine honours_state_bind fun s => ?_
    have hfail : Honours C (fun past s' => s' = s ∧ pre past s')
        (fail (.pipeline (fault.withSources s.sources))) ok (fun past _ s => pre past s) :=
      honours_fail fun _ _ h => h.2
    cases fault with
    | compile stage diagnostic sources =>
      exact Honours.bind (honours_tell fun _ _ h => h) fun _ => hfail
    | link diagnostic sources =>
      exact Honours.bind (honours_tell fun _ _ h => h) fun _ => hfail
    | bundle fault => exact hfail
    | deviceUnavailable message => exact hfail
    | general message => exact hfail
  | _ => exact honours_fail fun _ _ h => h

/-- Asking whether the device is there keeps up what the question does. -/
theorem keeps_requireDevice {C : Contract Device Session}
    {I : List (Exchange Device) → Session → Prop} (hask : Keeps C I (Device.ask .isAvailable)) :
    Keeps C I requireDevice := by
  rw [requireDevice]
  refine Honours.bind hask fun available => ?_
  cases available with
  | true => exact honours_pure fun _ _ h => h
  | false => exact honours_fail fun _ _ h => h

/-- Reading a bundle keeps up what does not depend on the sources. -/
theorem keeps_readBundle {C : Contract Device Session}
    {I : List (Exchange Device) → Session → Prop} {settings : RenderSettings} {bundle : String}
    (hsources : ∀ past s sources, I past s → I past { s with sources }) :
    Keeps C I (readBundle settings bundle) := by
  have hkeep : ∀ sources, Keeps C I (keepSources sources) := fun sources =>
    honours_update fun past s h => hsources past s (some sources) h
  refine Honours.bind (hkeep _) fun _ => ?_
  refine Honours.bind keeps_ofExcept fun sections => ?_
  generalize Repair.mend sections.fragment settings.defaultPrecision = repair
  refine Honours.bind honours_tellRepair fun _ => ?_
  exact Honours.bind (hkeep _) fun _ => honours_pure fun _ _ h => h

/-- **A start, part by part**: the session asks and reads, then stops what was shown, builds, and
starts the frames. -/
theorem honours_start_parts {C : Contract Device Session}
    {pre idle post err : List (Exchange Device) → Session → Prop}
    {built : Program → List (Exchange Device) → Session → Prop}
    (hask : Keeps C pre (Device.ask .isAvailable))
    (hsources : ∀ past s sources, pre past s → pre past { s with sources })
    (hpre : ∀ past s, pre past s → err past s)
    (hstop : Honours C pre stop (fun past _ s => idle past s) fun past _ s => err past s)
    (hbuild : ∀ {vertex fragment shape}, Honours C idle
      (onPipeline (Pipeline.build vertex fragment shape)) (fun past p s => built p past s)
      fun past _ s => err past s)
    (hstart : ∀ p, Honours C (built p) (onScheduler (Scheduler.start p))
      (fun past _ s => post past s) fun past _ s => err past s) :
    Honours C pre (start settings bundle) (fun past _ s => post past s)
      fun past _ s => err past s := by
  rw [start]
  refine Honours.bind ((keeps_requireDevice hask).weaken_err fun past _ s => hpre past s)
    fun _ => ?_
  refine Honours.bind ((keeps_readBundle hsources).weaken_err fun past _ s => hpre past s)
    fun parts => ?_
  refine Honours.bind hstop fun _ => ?_
  exact Honours.bind (Honours.handle hbuild fun fault => honours_explain) fun p => hstart p

end Session

end ShaderPreview
