import ShaderPreview.Proofs.Pipeline.Upkeep
import ShaderPreview.Proofs.Session.Parts
import ShaderPreview.Proofs.Session.Situation
import ShaderPreview.Proofs.Shader.Tags

/-!
# From the Tag to the Mesh

A tag stands somewhere in a bundle, and a mesh lies in two buffers on the device. In between the tag
is looked for, put in lower case and looked up, and the shape is handed on to a build. Which mesh
the device received can be read off the uploads that it accepted. Starts are judged here that come
to their end, whatever the session held before and whatever the device answers: it may give out
handles as it likes.

## Main definitions

* `Device.uploads`: what was uploaded, and into which buffers.
* `ComesTo`: where a procedure comes to if it succeeds.
* `Program.MadeFrom`: the uploads are those of the mesh of a shape, into the program's two buffers.

## Main results

* `Pipeline.build_comesTo`: a build uploads the mesh of its shape, and nothing else.
* `Session.replace_comesTo`: so does what a start replaces, and the program is shown.
* `Session.start_shows_tagged`: a start shows the shape that the tag of the bundle means.
-/

namespace ShaderPreview

open Procedure Device Contract

/-! ### Uploads -/

namespace Device

variable {past : List (Exchange Device)} {x : Exchange Device}

/-- What an exchange **uploads**, if the device accepts it. -/
def upload? : Exchange Device → Option (Handle × List UInt8)
  | ⟨.uploadBuffer buffer data, .ok ()⟩ => some (buffer, data)
  | _ => none

/-- What was **uploaded**, and into which buffers, in the order of the uploads. -/
def uploads (past : List (Exchange Device)) : List (Handle × List UInt8) := past.filterMap upload?

/-- Whatever is not an upload leaves the uploads as they are. -/
theorem uploads_append (h : upload? x = none) : uploads (past ++ [x]) = uploads past := by
  rw [uploads, Exchange.filterMap_append_singleton, h, Option.toList_none, List.append_nil]
  rfl

/-- An accepted upload comes last among the uploads. -/
theorem uploads_append_upload (past : List (Exchange Device)) (buffer : Handle)
    (data : List UInt8) :
    uploads (past ++ [⟨.uploadBuffer buffer data, .ok ()⟩]) = uploads past ++ [(buffer, data)] :=
  Exchange.filterMap_append_singleton

/-- What does not fill does not upload. -/
theorem upload?_of_fills?_none (h : x.call.fills? = none) : upload? x = none := by
  obtain ⟨call, reply⟩ := x
  cases call with
  | uploadBuffer buffer data => cases h
  | _ => rfl

/-- What is not the pipeline's call does not upload. -/
theorem upload?_of_part_ne (h : x.call.part ≠ .pipeline) : upload? x = none := by
  obtain ⟨call, reply⟩ := x
  cases call with
  | uploadBuffer buffer data => exact absurd rfl h
  | _ => rfl

end Device

/-- A program is **made from a mesh**, the mesh of a shape: it has its corners, and the uploads are
the positions and the normals of the mesh into the program's two buffers. -/
structure Program.MadeFrom (p : Program) (shape : Shape) (mesh : Mesh)
    (uploads : List (Handle × List UInt8)) : Prop where
  shape_eq : p.shape = shape
  ofShape : Mesh.ofShape shape = .ok mesh
  vertexCount_eq : p.vertexCount = mesh.vertexCount
  uploads_eq : uploads =
    [(p.positionBuffer, mesh.positionBytes), (p.normalBuffer, mesh.normalBytes)]

/-! ### Success on any device -/

variable {σ α : Type}

/-- A contract that **relies on nothing** and guarantees nothing. -/
abbrev anyhow : Contract Device σ := .lax fun _ _ => True

/-- Where a procedure **comes to** if it succeeds, on any device. Nothing is said of failures. -/
abbrev ComesTo (pre : List (Exchange Device) → σ → Prop) (p : DeviceProcedure σ α)
    (ok : List (Exchange Device) → α → σ → Prop) : Prop :=
  Honours anyhow pre p ok fun _ _ _ => True

/-- What a procedure keeps it comes to. -/
theorem comesTo_of_keeps {pre : List (Exchange Device) → σ → Prop} {p : DeviceProcedure σ α}
    (h : Keeps anyhow pre p) : ComesTo pre p fun past _ s => pre past s :=
  h.weaken_err fun _ _ _ _ => trivial

/-- Where nothing is asked for nothing is to be shown. -/
theorem comesTo_anything {pre : List (Exchange Device) → σ → Prop} {p : DeviceProcedure σ α} :
    ComesTo pre p fun _ _ _ => True :=
  honours_of_past (fun _ _ _ => trivial) fun _ _ _ => trivial

/-- So much **was uploaded**. -/
abbrev HasUploaded (uploaded : List (Handle × List UInt8)) (past : List (Exchange Device)) (_ : σ) :
    Prop :=
  uploads past = uploaded

/-! ### Building -/

namespace Pipeline

variable {uploaded : List (Handle × List UInt8)} {vertex fragment : String} {shape : Shape}

/-- Only an upload changes the uploads. -/
theorem keeps_uploads_ask {call : Device.Call}
    (h : ∀ reply : Except Fault (Device.Reply call), upload? ⟨call, reply⟩ = none) :
    Keeps anyhow (HasUploaded uploaded) (Device.ask call : DeviceProcedure Pipeline _) :=
  honours_perform (fun _ _ _ => trivial)
    (fun _ _ reply hs _ => (uploads_append (h (.ok reply))).trans hs)
    fun _ _ fault hs _ => (uploads_append (h (.error fault))).trans hs

/-- The pipeline's calls that do not fill leave the uploads as they are. -/
theorem upheld_uploads : Upheld anyhow (HasUploaded uploaded) where
  ask _ hcall := keeps_uploads_ask fun _ => upload?_of_fills?_none hcall
  own _ _ _ h := h
  enter _ _ _ _ h := h

/-- An upload adds to the uploads. -/
theorem upload_comesTo {data : List UInt8} :
    ComesTo (HasUploaded uploaded) (upload data) fun past buffer p =>
      HasUploaded (uploaded ++ [(buffer, data)]) past p := by
  have hfill : ∀ buffer, ComesTo (HasUploaded uploaded)
      (Device.ask (.uploadBuffer buffer data) : DeviceProcedure Pipeline _) fun past _ p =>
        HasUploaded (uploaded ++ [(buffer, data)]) past p := by
    intro buffer
    refine honours_perform (fun _ _ _ => trivial) ?_ fun _ _ _ _ _ => trivial
    rintro past _ ⟨⟩ rfl -
    exact uploads_append_upload past buffer data
  refine Honours.bind (comesTo_of_keeps (upheld_uploads.ask _ rfl)) fun buffer => ?_
  refine Honours.bind (comesTo_of_keeps upheld_uploads.acquire) fun _ => ?_
  exact Honours.bind (hfill buffer) fun _ => honours_pure fun _ _ h => h

/-- What **comes of a build**: a program that is made from the mesh of the shape. -/
def Makes (shape : Shape) (past : List (Exchange Device)) (p : Program) : Prop :=
  ∃ mesh, p.MadeFrom shape mesh (uploads past)

/-- Putting a mesh behind a program uploads the mesh, and nothing else. -/
theorem bindMesh_comesTo {vertexShader fragmentShader program : Handle} :
    ComesTo (HasUploaded []) (bindMesh vertexShader fragmentShader program shape) fun past p _ =>
      Makes shape past p := by
  have hmesh : ComesTo (HasUploaded []) (ofExcept (Mesh.ofShape shape) : DeviceProcedure Pipeline _)
      fun past mesh p => HasUploaded [] past p ∧ Mesh.ofShape shape = .ok mesh := by
    refine honours_ofExcept fun past s h => ?_
    cases hmesh : Mesh.ofShape shape with
    | error fault => exact trivial
    | ok mesh => exact ⟨h, rfl⟩
  refine Honours.bind hmesh fun mesh => honours_given fun hmesh => ?_
  refine Honours.bind upload_comesTo fun positionBuffer => ?_
  refine Honours.bind upload_comesTo fun normalBuffer => ?_
  refine Honours.bind (comesTo_of_keeps upheld_uploads.feed) fun _ => ?_
  refine Honours.bind (comesTo_of_keeps upheld_uploads.feed) fun _ => ?_
  exact honours_pure fun past _ h => ⟨mesh, rfl, hmesh, rfl, h⟩

/-- Until the mesh is put in nothing is uploaded. -/
theorem assemble_comesTo :
    ComesTo (HasUploaded []) (assemble vertex fragment shape) fun past p _ =>
      Makes shape past p := by
  have hlink : ∀ {vertexShader fragmentShader : Handle},
      Keeps anyhow (HasUploaded []) (link vertexShader fragmentShader) :=
    upheld_uploads.link fun _ => keeps_uploads_ask fun _ => rfl
  have henter : ∀ phase, ComesTo (HasUploaded []) (enter phase) fun past _ p =>
      HasUploaded [] past p := fun phase => honours_update fun _ _ h => h
  refine Honours.bind (henter .compiling) fun _ => ?_
  refine Honours.bind (comesTo_of_keeps upheld_uploads.compile) fun vertexShader => ?_
  refine Honours.bind (comesTo_of_keeps upheld_uploads.compile) fun fragmentShader => ?_
  refine Honours.bind (comesTo_of_keeps hlink) fun program => ?_
  refine Honours.bind (henter .linked) fun _ => ?_
  refine Honours.bind bindMesh_comesTo fun p => ?_
  exact Honours.bind (honours_update fun _ _ h => h) fun _ => honours_pure fun _ _ h => h

/-- **A build** that comes to its end uploads the mesh of its shape, and nothing else. -/
theorem build_comesTo :
    ComesTo (HasUploaded []) (build vertex fragment shape) fun past p s =>
      s.program = some p ∧ Makes shape past p := by
  have hset : ∀ p : Program, ComesTo (fun past (_ : Pipeline) => Makes shape past p)
      (update fun s => { s with program := some p, phase := .active }) fun past _ s =>
        s.program = some p ∧ Makes shape past p := fun p => honours_update fun _ _ h => ⟨rfl, h⟩
  have hanew : ComesTo (HasUploaded []) (buildAnew vertex fragment shape) fun past p s =>
      s.program = some p ∧ Makes shape past p :=
    Honours.bind (assemble_comesTo.onFault fun _ => comesTo_anything) fun p =>
      Honours.bind (hset p) fun _ => Honours.bind (honours_tell fun _ _ h => h) fun _ =>
        honours_pure fun _ _ h => h
  rw [build_eq]
  refine honours_state_bind fun p => ?_
  refine Honours.mono ?_ (fun _ _ h => h.2) (fun _ _ _ h => h) (fun _ _ _ h => h)
  split
  · exact hanew
  · exact Honours.bind (comesTo_of_keeps (upheld_uploads.teardown fun _ _ _ _ h => h))
      fun _ => hanew

end Pipeline

/-! ### Showing -/

/-- A scheduler that has been started has the program. -/
theorem Scheduler.start_comesTo {p : Program} :
    ComesTo (fun _ _ => True) (Scheduler.start p) fun _ _ s => s.program = some p := by
  have hupheld : Upheld anyhow fun _ s => s.program = some p :=
    ⟨fun _ _ _ _ _ => trivial, fun _ _ _ _ _ h => h, fun _ _ _ h => h⟩
  have hrequest : ComesTo (fun _ s => s.program = some p) requestFrames fun _ _ s =>
      s.program = some p :=
    comesTo_of_keeps (keeps_requestFrames
      (honours_perform (fun _ _ _ => trivial) (fun _ _ _ h _ => h) fun _ _ _ h _ => h)
      fun _ _ _ _ h => h)
  exact hupheld.start (comesTo_anything.weaken_ok fun _ _ _ _ => rfl) hrequest
    fun _ _ _ _ => trivial

namespace Session

variable {settings : RenderSettings} {bundle : String} {s s' : Session}
  {vertex fragment : String} {shape : Shape}

/-- What the scheduler does has nothing to do with the uploads and the pipeline. -/
theorem keeps_uploads_onScheduler {q : DeviceProcedure Scheduler α} (hq : ConfinedTo .scheduler q)
    (Q : List (Handle × List UInt8) → Pipeline → Prop) :
    Keeps anyhow (fun past s => Q (uploads past) s.pipeline) (onScheduler q) := by
  refine hq.keeps_zoom (fun _ _ _ h => h) (fun _ _ _ _ _ => trivial) fun past s x hx h => ?_
  rwa [uploads_append (upload?_of_part_ne (hx ▸ nofun))]

/-- Stopping uploads nothing. -/
theorem keeps_uploads_stop : Keeps anyhow (HasUploaded []) stop := by
  have hteardown : Keeps anyhow (HasUploaded []) (onPipeline Pipeline.teardown) :=
    Honours.zoom_of_forall
      (fun _ => Pipeline.upheld_uploads.teardown fun _ _ _ _ h => h) fun _ _ h => h
  have hframes : Keeps anyhow (HasUploaded []) (onScheduler Scheduler.stop) :=
    keeps_uploads_onScheduler Scheduler.confined_stop fun uploaded _ => uploaded = []
  exact Honours.bind hframes fun _ => hteardown

/-- **Replacing** what is shown comes to a program that is made from the mesh of the shape, for the
pipeline and the scheduler alike. -/
theorem replace_comesTo :
    ComesTo (HasUploaded []) (replace vertex fragment shape) fun past _ s =>
      ∃ p, s.program = some p ∧ s.scheduler.program = some p ∧ Pipeline.Makes shape past p := by
  have hbuild : ComesTo (HasUploaded []) (onPipeline (Pipeline.build vertex fragment shape))
      fun past p s => s.program = some p ∧ Pipeline.Makes shape past p :=
    Honours.zoom_of_forall (fun _ => Pipeline.build_comesTo) fun _ _ h => h
  have hstart : ∀ p, ComesTo (fun past s => s.program = some p ∧ Pipeline.Makes shape past p)
      (onScheduler (Scheduler.start p)) fun past _ s =>
        ∃ p, s.program = some p ∧ s.scheduler.program = some p ∧ Pipeline.Makes shape past p := by
    intro p
    have hconfined : ConfinedTo .scheduler (Scheduler.start p) := Scheduler.confined_start
    have hpipeline := keeps_uploads_onScheduler hconfined fun uploaded pipeline =>
      pipeline.program = some p ∧ ∃ mesh, p.MadeFrom shape mesh uploaded
    have hscheduler : ComesTo (fun _ _ => True) (onScheduler (Scheduler.start p)) fun _ _ s =>
        s.scheduler.program = some p :=
      Honours.zoom_of_forall (fun _ => Scheduler.start_comesTo) fun _ _ h => h
    exact (hpipeline.and hscheduler (fun _ _ _ => trivial) fun _ _ h => h).weaken
      (fun _ _ _ h => ⟨p, h.1.1, h.2, h.1.2⟩) fun _ _ _ _ => trivial
  refine Honours.bind (comesTo_of_keeps keeps_uploads_stop) fun _ => ?_
  exact Honours.bind (hbuild.handle fun _ => honours_explain) hstart

/-! ### The tag of a bundle -/

/-- **A start shows the shape that the tag means.** Every text has a tag or none, and its shape's
name is the tag's word in lower case, or that of the cube. A bundle that a start comes to the end
with, on any device and whatever the session held before, can be taken apart, and the session then
shows a program of the shape that the tag means: what the start uploaded is the mesh of this shape,
into the two buffers of the program. -/
theorem start_shows_tagged (text : String) :
    (∃ tag, Bundle.TagOf text.toList tag) ∧
      ∀ tag, Bundle.TagOf text.toList tag →
        Bundle.shapeName text =
            (match tag with
            | some word => String.ofList (Text.lowerCase word)
            | none => "cube") ∧
          ∀ {settings : RenderSettings} {s s' : Session} {moments : List (Moment Device Session)},
            Dialogue.Path (start settings text s) moments (.ok ()) s' →
              ∃ sections shape p mesh, Bundle.split text = .ok sections ∧
                Shape.MeantBy tag shape ∧ s'.program = some p ∧ s'.scheduler.program = some p ∧
                  p.MadeFrom shape mesh (uploads (moments.map Moment.exchange)) := by
  refine ⟨⟨_, Bundle.tagOf_tagWord? text.toList⟩, fun tag htag => ⟨?_, ?_⟩⟩
  · rw [Bundle.shapeName, (Bundle.tagOf_tagWord? text.toList).unique htag]
    rfl
  · intro settings s s' moments hpath
    cases path_start hpath with
    | absent reply hreply hs hresult =>
      obtain ⟨fault, hresult⟩ := hresult
      cases hresult
    | unreadable fault hsplit hs hresult => cases hresult
    | replaced sections hsplit sources later hreplace =>
      have hnone : uploads [⟨.isAvailable, .ok true⟩] = [] := rfl
      obtain ⟨-, p, hprogram, hscheduler, mesh, hmade⟩ :=
        (replace_comesTo _ _ hnone).path hreplace fun _ _ _ _ => trivial
      refine ⟨sections, Shape.ofName sections.shapeName, p, mesh, hsplit, ?_, hprogram, hscheduler,
        hmade⟩
      have hname : sections.shapeName = Bundle.shapeName text := Bundle.shapeName_of_split hsplit
      rw [hname]
      exact Shape.meantBy_ofName htag

/-- A bundle with **two openings of a tag**, of which the first has no word, and the second has its
word on the next line and in mixed case. -/
def planeBundle : String := "// GEOMETRY:// GEOMETRY:\n Plane// Vertex Shader// Fragment Shader"

theorem split_planeBundle : Bundle.split planeBundle = .ok ⟨"plane", "", ""⟩ := by decide +kernel

/-- The tag of this bundle means a plane, and a start uploads the mesh of a plane. -/
theorem start_shows_tagged_plane :
    Bundle.TagOf planeBundle.toList (some ['P', 'l', 'a', 'n', 'e']) ∧
      Shape.MeantBy (some ['P', 'l', 'a', 'n', 'e']) (.plane {}) ∧
        let run := (start {} planeBundle {}).run (obliging fun _ => false) 0
        ∃ p mesh, run.state.program = some p ∧
          p.MadeFrom (.plane {}) mesh (uploads (run.moments.map Moment.exchange)) := by
  have htag : Bundle.TagOf planeBundle.toList (some ['P', 'l', 'a', 'n', 'e']) := by
    have hword : Bundle.tagWord? planeBundle.toList = some ['P', 'l', 'a', 'n', 'e'] := by
      decide +kernel
    exact hword ▸ Bundle.tagOf_tagWord? planeBundle.toList
  have hplane : Shape.MeantBy (some ['P', 'l', 'a', 'n', 'e']) (.plane {}) := by
    have hmem : ("plane", Shape.plane {}) ∈ Shape.named := by simp [Shape.named]
    exact .named hmem (by decide)
  refine ⟨htag, hplane, ?_⟩
  intro run
  have hok : run.result = .ok () := by
    simp only [run, start_of_split_empty split_planeBundle]
    decide +kernel
  have hpath : Dialogue.Path (start {} planeBundle {}) run.moments (.ok ()) run.state :=
    hok ▸ Dialogue.path_run (obliging fun _ => false) (start {} planeBundle {}) 0
  obtain ⟨sections, shape, p, mesh, -, hmeans, hprogram, -, hmade⟩ :=
    ((start_shows_tagged planeBundle).2 _ htag).2 hpath
  obtain rfl := hmeans.unique hplane
  exact ⟨p, mesh, hprogram, hmade⟩

end Session

end ShaderPreview
