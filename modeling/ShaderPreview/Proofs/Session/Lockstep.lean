import ShaderPreview.Proofs.Frame.Lockstep
import ShaderPreview.Proofs.Session.Restart

/-!
# Sessions in Step

A session asks its device only through its pipeline and its scheduler, apart from whether it is
there. So sessions whose pipelines and schedulers differ by a shift do the same on devices in step.
Their sources may differ at first. They are the same from the first start that finds the device
there: it keeps its own in their place, and a verdict is shown with those.

## Main definitions

* `Shift.Sessions`: a session is the other one, shifted.

## Main results

* `Session.follows_stop`, `Session.follows_refresh`, `Session.follows_renderFrame`: these go along.
* `Session.runs_start`: starts are in step, and the sources are the same afterwards.
-/

namespace ShaderPreview

open Procedure

/-- A session **is the other one**: its pipeline and its scheduler are, shifted. Its sources are the
same if they are known to be. -/
structure Shift.Sessions (k : Shift) (floor : Handle) (known : Prop) (s s' : Session) : Prop where
  pipeline_rel : k.Pipelines s.pipeline s'.pipeline
  scheduler_rel : k.Schedulers floor s.scheduler s'.scheduler
  sources_eq : known → s'.sources = s.sources

/-- What is known of the sources may be forgotten. -/
theorem Shift.Sessions.forget {k : Shift} {floor : Handle} {known less : Prop} {s s' : Session}
    (h : k.Sessions floor known s s') (himp : less → known) : k.Sessions floor less s s' :=
  ⟨h.pipeline_rel, h.scheduler_rel, fun hless => h.sources_eq (himp hless)⟩

namespace Session

variable {k : Shift} {floor : Handle} {known : Prop} {α : Type} {Q : α → α → Prop}
  {settings : RenderSettings} {bundle : String} {s s' : Session} {d d' : SimulatedDevice}

/-! ### Stopping and drawing -/

/-- What goes along for the pipeline goes along for the session. -/
theorem follows_onPipeline {p p' : DeviceProcedure Pipeline α}
    (h : k.Follows floor k.Pipelines p p' Q) :
    k.Follows floor (k.Sessions floor known) (onPipeline p) (onPipeline p') Q :=
  h.zoom (fun _ _ hs => hs.pipeline_rel) fun _ _ _ _ hs hp =>
    ⟨hp, hs.scheduler_rel, hs.sources_eq⟩

/-- What goes along for the scheduler goes along for the session. -/
theorem follows_onScheduler {p p' : DeviceProcedure Scheduler α}
    (h : k.Follows floor (k.Schedulers floor) p p' Q) :
    k.Follows floor (k.Sessions floor known) (onScheduler p) (onScheduler p') Q :=
  h.zoom (fun _ _ hs => hs.scheduler_rel) fun _ _ _ _ hs hq =>
    ⟨hs.pipeline_rel, hq, hs.sources_eq⟩

/-- **Stopping** goes along. -/
theorem follows_stop :
    k.Follows floor (k.Sessions floor known) stop stop fun _ _ => True :=
  (follows_onScheduler Scheduler.follows_stop).bind fun _ _ _ =>
    follows_onPipeline Pipeline.follows_teardown

/-- **Frames** go along. -/
theorem follows_renderFrame :
    k.Follows floor (k.Sessions floor known) (renderFrame settings) (renderFrame settings)
      fun _ _ => True :=
  follows_onScheduler (Scheduler.follows_renderFrame settings)

/-- **Refreshes** go along, and give the same number. -/
theorem follows_refresh :
    k.Follows floor (k.Sessions floor known) (refresh settings) (refresh settings)
      fun n n' => n = n' :=
  follows_onScheduler (Scheduler.follows_refresh settings)

/-! ### Replacing -/

/-- Explained faults go along where the sources are the same. -/
theorem follows_explain (hknown : known) {fault fault' : Fault} (h : k.Faults fault fault') :
    k.Follows floor (k.Sessions floor known) (explain fault : DeviceProcedure Session α)
      (explain fault') Q := by
  cases h with
  | same h =>
    cases fault with
    | pipeline fault =>
      refine Shift.follows_state_bind fun s s' hs => ?_
      cases fault with
      | compile stage log sources => exact absurd trivial h
      | link log sources => exact absurd trivial h
      | _ => exact Shift.follows_fail (.same h)
    | _ => exact Shift.follows_fail (.same h)
  | compile stage sources hlog =>
    refine Shift.follows_state_bind fun s s' hs => ?_
    rw [hs.sources_eq hknown]
    exact Shift.follows_tell.bind fun _ _ _ => Shift.follows_fail (.compile stage _ hlog)
  | link sources hlog =>
    refine Shift.follows_state_bind fun s s' hs => ?_
    rw [hs.sources_eq hknown]
    exact Shift.follows_tell.bind fun _ _ _ => Shift.follows_fail (.link _ hlog)

/-- Replacing what is shown goes along where the sources are the same. -/
theorem follows_replace (hknown : known) {vertex fragment : String} {shape : Shape} {mesh : Mesh}
    (hmesh : Mesh.ofShape shape = .ok mesh) :
    k.Follows floor (k.Sessions floor known) (replace vertex fragment shape)
      (replace vertex fragment shape) fun _ _ => True := by
  refine follows_stop.bind fun _ _ _ => ?_
  refine Shift.Follows.bind (Shift.Follows.handle
    (follows_onPipeline (Pipeline.follows_build hmesh)) fun _ _ hfault =>
      follows_explain hknown hfault) fun p p' hp => ?_
  exact follows_onScheduler (Scheduler.follows_start hp)

/-! ### Starting -/

/-- **Starts** are in step. Where the device is there the sources are the same afterwards. -/
theorem runs_start (hs : k.Sessions floor known s s') (hd : k.Devices floor d d') :
    k.Runs floor (k.Sessions floor (known ∨ d.available = true)) (fun _ _ => True)
      ((start settings bundle s).run SimulatedDevice.provider d)
      ((start settings bundle s').run SimulatedDevice.provider d') := by
  have hfirst : k.Calls .isAvailable .isAvailable := .moved .isAvailable nofun
  have havailable' : d'.available = d.available := congrArg (·.available) hd.configuration_eq
  cases havailable : d.available with
  | false =>
    rw [run_start_absent hd.unbroken havailable,
      run_start_absent hd.unbroken' (havailable'.trans havailable)]
    exact ⟨hd, .cons hfirst .nil, .same id, hs.forget (Or.resolve_right · nofun)⟩
  | true =>
    rw [havailable] at havailable'
    cases hsplit : Bundle.split bundle with
    | error fault =>
      rw [run_start_unreadable hd.unbroken havailable hsplit,
        run_start_unreadable hd.unbroken' havailable' hsplit]
      exact ⟨hd, .cons hfirst .nil, .same id, hs.pipeline_rel, hs.scheduler_rel, fun _ => rfl⟩
    | ok sections =>
      obtain ⟨mesh, hmesh⟩ := Mesh.exists_ofShape_ofName sections.shapeName
      have hreplace : k.Follows floor (k.Sessions floor (known ∨ true = true))
          (replace sections.vertex
            (Repair.mend sections.fragment settings.defaultPrecision).source
            (Shape.ofName sections.shapeName))
          (replace sections.vertex
            (Repair.mend sections.fragment settings.defaultPrecision).source
            (Shape.ofName sections.shapeName)) fun _ _ => True :=
        follows_replace (.inr rfl) hmesh
      have hruns := hreplace
        { s with sources := some (readSources settings bundle sections) }
        { s' with sources := some (readSources settings bundle sections) } d d'
        ⟨hs.pipeline_rel, hs.scheduler_rel, fun _ => rfl⟩ hd
      obtain ⟨notices, hrun⟩ := run_start_replaced settings s hd.unbroken havailable hsplit
      obtain ⟨notices', hrun'⟩ := run_start_replaced settings s' hd.unbroken' havailable' hsplit
      rw [hrun, hrun']
      exact ⟨hruns.devices, .cons hfirst hruns.calls, hruns.ends⟩

end Session

end ShaderPreview
