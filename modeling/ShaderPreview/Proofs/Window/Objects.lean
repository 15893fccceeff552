import ShaderPreview.Platform.Simulated
import ShaderPreview.Proofs.Session.Thrift
import ShaderPreview.Window

/-!
# The Objects of a Session in a Window

A window carries out its session's calls on a device of its own, and it may set the view and release
the device in between, behind the session's back. Whatever is asked of the window, and however the
context judges its programs, no object is released twice. Once the session is not active, or the
device was released, everything that was obtained has been released.

The context has to oblige in two ways only: it releases what it is asked to, and it gives buffers.

## Main definitions

* `Window.Operation`: what is asked of a session in a window.
* `Window.Settled`: the session and the device tally with what passed.

## Main results

* `Window.keeps_settled`: an operation leaves the window settled, however it ends.
* `Window.objects_released`: over any operations no object is lost or released twice.
-/

namespace ShaderPreview.Window

open Procedure Contract Device Platform GlDevice

/-- What is **asked of a session in a window**, and of its device. -/
inductive Operation where
  | session (op : Session.Operation)
  | setViewport (view : ViewSize)
  | release

/-- Carries out an operation. -/
def Operation.carryOut (settings : RenderSettings) : Operation → WindowProcedure Session Unit
  | .session op => onContent (op.carryOut settings)
  | .setViewport view => onDevice (GlDevice.setViewport view)
  | .release => onDevice GlDevice.release

/-- A window is **settled**: for some calls of its session the device serves, and the session has
dealt with it. -/
def Settled (context : Bool) (below : List (Exchange Platform)) (w : Window Session) : Prop :=
  ∃ above, Serves context above below w.device ∧ Session.Dealt above w.content

variable {context : Bool} {α : Type} {w : Window Session}

/-- A window whose device **serves** what has passed above it, where the session has come to what
is said. -/
def Serving (context : Bool) (Q : List (Exchange Device) → Session → Prop)
    (below : List (Exchange Platform)) (w : Window Session) : Prop :=
  ∃ above, Serves context above below w.device ∧ Q above w.content

/-- A new session on a new device is settled, if the context is untouched. -/
theorem settled_of_untouched {info : ContextInfo} {glslVersion : Option Int}
    {view : Option ViewSize} {below : List (Exchange Platform)} (h : Untouched below) :
    Settled true below { device := onContext info glslVersion view, content := {} } :=
  ⟨[], serves_onContext h, Session.dealt_nil⟩

/-- What a session honours as it deals with a device it honours in the window. -/
theorem honours_onContent {p : DeviceProcedure Session α}
    {pre : List (Exchange Device) → Session → Prop}
    {ok : List (Exchange Device) → α → Session → Prop}
    {err : List (Exchange Device) → Fault → Session → Prop} (hp : Honours dealing pre p ok err) :
    Honours (lax Spares) (Serving context pre) (onContent p)
      (fun below a w => Serving context (fun above s => ok above a s) below w)
      fun below fault w => Serving context (fun above s => err above fault s) below w :=
  Honours.zoom_of_forall (fun _ => hp.implement makesGood_perform) fun _ _ h => h

/-- What is done on the device leaves the session as it is. -/
theorem honours_onDevice {Q : List (Exchange Device) → Session → Prop} {p : GlProcedure α}
    {ok : List (Exchange Device) → List (Exchange Platform) → α → GlDevice → Prop}
    {err : List (Exchange Device) → List (Exchange Platform) → Fault → GlDevice → Prop}
    (hp : ∀ above, Honours (lax Spares) (Serves context above) p (ok above) (err above)) :
    Honours (lax Spares) (Serving context Q) (onDevice p)
      (fun below a w => ∃ above, ok above below a w.device ∧ Q above w.content)
      fun below fault w => ∃ above, err above below fault w.device ∧ Q above w.content := by
  rintro below w ⟨above, hserves, hQ⟩
  have hdevice : Honours (lax Spares)
      (fun below w' => w' = w ∧ Serves context above below w.device) (onDevice p)
      (fun below a w => ∃ above, ok above below a w.device ∧ Q above w.content)
      fun below fault w => ∃ above, err above below fault w.device ∧ Q above w.content :=
    Honours.zoom ((hp above).weaken (fun _ _ _ h => ⟨above, h, hQ⟩)
      fun _ _ _ h => ⟨above, h, hQ⟩) fun _ h => h
  exact hdevice below w ⟨rfl, hserves⟩

/-- What a session deals with leaves the window settled. -/
theorem keeps_settled_onContent {p : DeviceProcedure Session α}
    (hp : Keeps dealing Session.Dealt p) :
    Keeps (lax Spares) (Settled context) (onContent p) :=
  honours_onContent hp

/-- What leaves the device serving leaves the window settled. -/
theorem honours_settled_onDevice {context' : Bool} {p : GlProcedure α}
    (hp : ∀ above, Honours (lax Spares) (Serves context above) p
      (fun below _ d => Serves context' above below d)
      fun below _ d => Serves context' above below d) :
    Honours (lax Spares) (Settled context) (onDevice p) (fun below _ w => Settled context' below w)
      fun below _ w => Settled context' below w :=
  honours_onDevice hp

/-- A release settles a window without its context. -/
theorem honours_settled_release {settings : RenderSettings} :
    Honours (lax Spares) (Settled context) (Operation.carryOut settings .release)
      (fun below _ w => Settled false below w) fun below _ w => Settled false below w :=
  honours_settled_onDevice fun _ => honours_release_serves

/-- **An operation** leaves a window settled, however it ends. Only a release takes the context
away. -/
theorem keeps_settled {settings : RenderSettings} (op : Operation)
    (hop : op = .release → context = false) :
    Keeps (lax Spares) (Settled context) (op.carryOut settings) := by
  cases op with
  | session op => exact keeps_settled_onContent (Session.keeps_dealt_carryOut op)
  | setViewport view => exact honours_settled_onDevice fun _ => keeps_setViewport
  | release =>
    obtain rfl := hop rfl
    exact honours_settled_release

/-- An operation leaves a window settled, with or without its context. -/
theorem keeps_settled_or_gone {settings : RenderSettings} (op : Operation) :
    Keeps (lax Spares) (fun below w => ∃ context, Settled context below w)
      (op.carryOut settings) := by
  rintro below w ⟨context, h⟩
  by_cases hop : op = .release
  · subst hop
    exact honours_settled_release.weaken (fun _ _ _ h => ⟨false, h⟩) (fun _ _ _ h => ⟨false, h⟩)
      below w h
  · exact (keeps_settled op fun h => absurd h hop).weaken (fun _ _ _ h => ⟨context, h⟩)
      (fun _ _ _ h => ⟨context, h⟩) below w h

/-- Operations one after another leave a window settled, and a release among them takes the context
away. -/
theorem settled_of_path {settings : RenderSettings} {ops : List Operation}
    {moments : List (Moment Platform (Window Session))}
    {results : Except Fault (List (Except Fault Unit))} {w' : Window Session}
    (hw : Settled context [] w)
    (hpath : Dialogue.Path (attemptAll (ops.map (Operation.carryOut settings)) w) moments results
      w')
    (hspared : Spared (moments.map Moment.exchange)) :
    ∃ context, Settled context (moments.map Moment.exchange) w' ∧
      (.release ∈ ops → context = false) := by
  have hany : ∀ p ∈ ops.map (Operation.carryOut settings),
      Keeps (lax Spares) (fun below w => ∃ context, Settled context below w) p :=
    List.forall_mem_map.mpr fun op _ => keeps_settled_or_gone op
  by_cases hrelease : .release ∈ ops
  · have hgone : ∀ p ∈ ops.map (Operation.carryOut settings),
        Keeps (lax Spares) (Settled false) p :=
      List.forall_mem_map.mpr fun op _ => keeps_settled op fun _ => rfl
    have hall : Honours (lax Spares) (fun below w => ∃ context, Settled context below w)
        (attemptAll (ops.map (Operation.carryOut settings)))
        (fun below _ w => Settled false below w) fun below _ w => Settled false below w := by
      refine honours_attemptAll_of_mem (List.mem_map_of_mem hrelease) hany hgone ?_
      rintro below w ⟨context, h⟩
      exact honours_settled_release below w h
    exact ⟨false, (hall.path_end ⟨context, hw⟩ hpath (Spared.relied hspared)).2, fun _ => rfl⟩
  · obtain ⟨-, context', hsettled⟩ :=
      (keeps_attemptAll hany).path_end ⟨context, hw⟩ hpath (Spared.relied hspared)
    exact ⟨context', hsettled, fun h => absurd h hrelease⟩

/-- **No object is lost**, and none is released twice or without having been obtained, over any
operations on a new session with a new device, as long as the context gives new objects and refuses
neither releases nor buffers. Once the session is not active, or the device was released, all that
was obtained has been released. -/
theorem objects_released {settings : RenderSettings} {info : ContextInfo}
    {glslVersion : Option Int} {view : Option ViewSize} {ops : List Operation}
    {moments : List (Moment Platform (Window Session))}
    {results : Except Fault (List (Except Fault Unit))} {w' : Window Session}
    (hpath : Dialogue.Path (attemptAll (ops.map (Operation.carryOut settings))
      { device := onContext info glslVersion view, content := {} }) moments results w')
    (hspared : Spared (moments.map Moment.exchange)) :
    (released (moments.map Moment.exchange)).Nodup ∧
      released (moments.map Moment.exchange) ⊆ obtained (moments.map Moment.exchange) ∧
      (w'.content.status ≠ .active ∨ .release ∈ ops →
        obtained (moments.map Moment.exchange) ⊆ released (moments.map Moment.exchange)) := by
  obtain ⟨context, ⟨above, ⟨hstock, hcovered, hcontext⟩, hdealt⟩, hgone⟩ :=
    settled_of_path (settled_of_untouched untouched_nil) hpath hspared
  refine ⟨hstock.tally.released_nodup, hstock.tally.released_subset, fun h => ?_⟩
  refine hstock.tally.subset_released fun place => ?_
  rcases h with hstatus | hrelease
  · exact hcovered.storage_eq_none (hdealt.1.live_eq_nil hstatus) place
  · exact hstock.context (hcontext.trans (hgone hrelease)) place

/-- The bare bundle is started, and the device is **released behind the session's back**, which then
stops. -/
theorem objects_released_bareBundle :
    let ops := [.session (.start Session.bareBundle), .release, .session .stop]
    let run := (attemptAll (ops.map (Operation.carryOut {}))
      { device := onContext ⟨.pixels 400 300, 330⟩ none none, content := {} }).run
        SimulatedPlatform.provider {}
    Spared (run.moments.map Moment.exchange) ∧
      obtained (run.moments.map Moment.exchange) =
        [.program 1, .program 2, .program 3, .buffer 1, .buffer 2] ∧
      obtained (run.moments.map Moment.exchange) ⊆ released (run.moments.map Moment.exchange) ∧
      (released (run.moments.map Moment.exchange)).Nodup := by
  intro ops run
  have hobtained : obtained (run.moments.map Moment.exchange) =
      [.program 1, .program 2, .program 3, .buffer 1, .buffer 2] := by decide +kernel
  have hspared : Spared (run.moments.map Moment.exchange) := by
    refine .of_isOk ?_ (by decide +kernel)
    rw [hobtained]
    decide
  obtain ⟨hnodup, -, hall⟩ := objects_released (Dialogue.path_run _ _ _) hspared
  exact ⟨hspared, hobtained, hall (.inr (.tail _ (.head _))), hnodup⟩

end ShaderPreview.Window
