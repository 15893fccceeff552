import ShaderPreview.Proofs.CommandLine.Upkeep
import ShaderPreview.Proofs.Gl.Confinement
import ShaderPreview.Proofs.Window.Objects

/-!
# Every Way Out of a Preview

A preview can be left in many ways: it cannot read its bundle, it gets no window, its window is
closed, or a fault comes out of a key, a frame or a wait. Once it has a window, it gives everything
back on each of them. Its session is stopped and its device released, so that no object is left and
none is released twice, and then it leaves the platform, exactly once. A preview that gets no window
has left the platform as well.

Nothing is asked of the context but that it gives no object twice and releases what it is asked to.

## Main definitions

* `Platform.quits`: how often the platform was left.
* `Preview.Closed`: everything was given back.
* `Preview.Ending`: the ways out.

## Main results

* `Preview.honours_close`: closing gives everything back, wherever the window stands.
* `Preview.honours_live`: so does the life of a window, however it ends.
* `Preview.leaves_nothing`: on every way out of a preview nothing is left.
-/

namespace ShaderPreview

open Procedure Contract Device Platform GlDevice

/-! ### Leaving the platform -/

namespace Platform

variable {past : List (Exchange Platform)} {x : Exchange Platform}

/-- How often the platform was **left**. -/
def quits (past : List (Exchange Platform)) : Nat := (past.map (·.call)).count .quit

/-- Only a call to quit counts. -/
theorem quits_append_of_ne (h : x.call ≠ .quit) : quits (past ++ [x]) = quits past := by
  rw [quits, List.map_append, List.count_append, List.map_singleton, List.count_singleton]
  simp [quits, h]

/-- A call to quit counts, also when it is refused. -/
theorem quits_append_quit {reply : Except Fault Unit} :
    quits (past ++ [⟨.quit, reply⟩]) = quits past + 1 := by
  rw [quits, List.map_append, List.count_append, List.map_singleton, List.count_singleton]
  simp [quits]

/-- Whether an exchange **creates the context** of a display. -/
def creates : Exchange Platform → Bool
  | ⟨.createContext, .ok _⟩ => true
  | _ => false

/-- The context was **created**. -/
def Created (past : List (Exchange Platform)) : Prop := ∃ x ∈ past, creates x = true

instance : Decidable (Created past) := inferInstanceAs (Decidable (∃ x ∈ past, creates x = true))

/-- A context that was created stays created, whatever comes next. -/
theorem Created.append (h : Created past) : Created (past ++ [x]) :=
  h.imp fun _ hcreates => ⟨List.mem_append_left _ hcreates.1, hcreates.2⟩

/-- An exchange that does not create the context leaves it uncreated. -/
theorem not_created_append (h : ¬Created past) (hx : creates x = false) :
    ¬Created (past ++ [x]) := by
  rintro ⟨y, hy, hcreates⟩
  rcases List.mem_append.mp hy with hy | hy
  · exact h ⟨y, hy, hcreates⟩
  · rw [List.mem_singleton.mp hy, hx] at hcreates
    cases hcreates

/-- Whether a call **prepares a display** and is not the one that creates the context. -/
def Call.prepares : Platform.Call → Bool
  | .isReady => true
  | .prepare => true
  | .setAttribute .. => true
  | .openDisplay .. => true
  | .setCaption _ => true
  | _ => false

/-- While a display is being **opened** the context is not there yet, and the platform has not been
left. -/
structure Opening (past : List (Exchange Platform)) : Prop where
  untouched : Untouched past
  quits_eq : quits past = 0
  not_created : ¬Created past

/-- A call that passes by or prepares a display changes nothing about that. -/
theorem Opening.append (h : Opening past) (hcall : (x.call.passesBy || x.call.prepares) = true) :
    Opening (past ++ [x]) := by
  obtain ⟨call, reply⟩ := x
  have hobtained : obtained? ⟨call, reply⟩ = none := by
    cases call <;> first | rfl | cases hcall
  have hreleased : call.released? = none := by
    cases call <;> first | rfl | cases hcall
  have hquit : call ≠ .quit := by
    rintro rfl
    cases hcall
  have hcreates : creates ⟨call, reply⟩ = false := by
    cases call <;> first | rfl | cases hcall
  exact ⟨h.untouched.append hobtained hreleased, (quits_append_of_ne hquit).trans h.quits_eq,
    not_created_append h.not_created hcreates⟩

/-- All that has passed **passes by** the graphics. -/
def PassedBy (past : List (Exchange Platform)) : Prop := ∀ x ∈ past, x.call.passesBy = true

/-- One more call that passes by changes nothing about the others. -/
theorem PassedBy.append (h : PassedBy past) (hcall : x.call.passesBy = true) :
    PassedBy (past ++ [x]) := by
  intro y hy
  rcases List.mem_append.mp hy with hy | hy
  · exact h y hy
  · exact List.mem_singleton.mp hy ▸ hcall

/-- Where all that has passed passes by there is nothing yet. -/
theorem PassedBy.opening (h : PassedBy past) : Opening past := by
  induction past using List.reverseRecOn with
  | nil => exact ⟨untouched_nil, rfl, fun ⟨_, hmem, _⟩ => absurd hmem List.not_mem_nil⟩
  | append_singleton past x ih =>
    refine (ih fun y hy => h y (List.mem_append_left _ hy)).append ?_
    rw [h x (List.mem_append_right _ (.head _)), Bool.true_or]

end Platform

namespace Preview

variable {past : List (Exchange Platform)} {refreshes : Nat} {name text : String}

/-! ### While the window is open -/

/-- The window is **settled**, and the platform has not been left. -/
def Open (past : List (Exchange Platform)) (w : PreviewWindow) : Prop :=
  (∃ context, Window.Settled context past w) ∧ quits past = 0

/-- A procedure that **does not leave the platform**. -/
abbrev Stays {σ α : Type} (p : PlatformProcedure σ α) : Prop :=
  Confined (fun call : Platform.Call => call ≠ .quit) p

/-- Leaving the platform is no matter of graphics. -/
theorem ne_quit_of_isGraphics {call : Platform.Call} (h : call.isGraphics = true) :
    call ≠ .quit := by
  rintro rfl
  cases h

/-- What a device asks of the graphics does not leave the platform. -/
theorem stays_onDevice {α : Type} {p : GlProcedure α} (hp : Graphic p) :
    Stays (Window.onDevice p : PreviewProcedure α) :=
  (hp.widen fun _ => ne_quit_of_isGraphics).zoom

/-- Whatever a session does, it asks only for graphics. -/
theorem graphic_onContent {α : Type} {p : DeviceProcedure Session α} :
    Graphic (Window.onContent p) :=
  Confined.zoom (Confined.implement GlDevice.confined_perform)

/-- So it does not leave the platform. -/
theorem stays_onContent {α : Type} {p : DeviceProcedure Session α} :
    Stays (Window.onContent p) :=
  graphic_onContent.widen fun _ => ne_quit_of_isGraphics

/-- While its window is open a preview does not leave the platform. -/
theorem upheld_stays :
    Upheld (callsOnly (σ := PreviewWindow) fun call : Platform.Call => call ≠ .quit)
      fun _ _ => True := by
  refine ⟨fun call hcall => confined_perform ?_, fun _ => confined_update,
    fun _ => stays_onDevice graphic_setViewport, stays_onDevice confined_release,
    fun _ => stays_onContent, stays_onContent⟩
  rintro rfl
  cases hcall

/-- What does not leave the platform does not count. -/
theorem keeps_quits {α : Type} {p : PreviewProcedure α} (hp : Stays p) :
    Keeps (lax Spares) (fun past _ => quits past = 0) p :=
  Confined.keeps hp (fun _ _ _ _ _ => trivial) fun _ _ hcall h =>
    (quits_append_of_ne hcall).trans h

/-- An exchange that passes by leaves a window settled. -/
theorem settled_append {context : Bool} {w : PreviewWindow} {x : Exchange Platform}
    (h : Window.Settled context past w) (hcall : x.call.passesBy = true) :
    Window.Settled context (past ++ [x]) w := by
  obtain ⟨above, ⟨⟨heq, htally, hcontext⟩, hcovered, hhas⟩, hdealt⟩ := h
  obtain ⟨call, reply⟩ := x
  have hobtained : Platform.obtained? ⟨call, reply⟩ = none := by
    cases call <;> first | rfl | cases hcall
  have hreleased : call.released? = none := by
    cases call <;> first | rfl | cases hcall
  exact ⟨above, ⟨⟨heq, htally.keep hobtained hreleased, hcontext⟩, hcovered, hhas⟩, hdealt⟩

/-- While its window is open a preview leaves it settled. -/
theorem upheld_settled :
    Upheld (lax Spares) fun past w => ∃ context, Window.Settled context past w where
  ask call hcall := by
    have hkeep : ∀ past (w : PreviewWindow) reply, (∃ context, Window.Settled context past w) →
        ∃ context, Window.Settled context (past ++ [⟨call, reply⟩]) w :=
      fun past w reply ⟨context, h⟩ => ⟨context, settled_append h hcall⟩
    exact honours_perform (fun _ _ _ => trivial) (fun past w _ h _ => hkeep past w _ h)
      fun past w _ h _ => hkeep past w _ h
  setRunning running := honours_update fun _ _ h => h
  setViewport view := @Window.keeps_settled_or_gone renderSettings (.setViewport view)
  release := @Window.keeps_settled_or_gone renderSettings .release
  start text :=
    @Window.keeps_settled_or_gone renderSettings (.session (.start text))
  refresh := by
    rintro past w ⟨context, h⟩
    exact (Window.keeps_settled_onContent Session.keeps_dealt_refresh).weaken
      (fun _ _ _ h => ⟨context, h⟩) (fun _ _ _ h => ⟨context, h⟩) past w h

/-- Until its window is closed a preview keeps it open, however that ends. -/
theorem keeps_open_showUntilClosed :
    Keeps (lax Spares) Open (showUntilClosed refreshes name text) := by
  have hquits : Keeps (lax Spares) (fun past _ => quits past = 0)
      (showUntilClosed refreshes name text) := keeps_quits upheld_stays.showUntilClosed
  have hsettled : Keeps (lax Spares) (fun past w => ∃ context, Window.Settled context past w)
      (showUntilClosed refreshes name text) := upheld_settled.showUntilClosed
  exact hsettled.conj hquits

/-! ### Closing -/

/-- Everything was **given back**: each object that was obtained was released once, and no other;
no callback is registered, the device has no context, and the platform was left once. -/
structure Closed (past : List (Exchange Platform)) (w : PreviewWindow) : Prop where
  released_once : ∀ o ∈ obtained past, (released past).count o = 1
  released_subset : released past ⊆ obtained past
  entries_eq : w.content.scheduler.frames.entries = []
  hasContext_eq : w.device.hasContext = false
  quits_eq : quits past = 1

/-- A window that serves without its context, and has no callback, is closed by leaving the
platform. -/
theorem closed_of_quit {w : PreviewWindow} {reply : Except Fault Unit}
    (h : Window.Serving false (fun _ s => s.scheduler.frames.entries = []) past w)
    (hquits : quits past = 0) : Closed (past ++ [⟨.quit, reply⟩]) w := by
  obtain ⟨above, ⟨⟨-, htally, hempty⟩, -, hcontext⟩, hentries⟩ := h
  have htally' := htally.keep (x := ⟨.quit, reply⟩) rfl rfl
  refine ⟨fun o ho => ?_, htally'.released_subset, hentries, hcontext, ?_⟩
  · exact List.count_eq_one_of_mem htally'.released_nodup
      (htally'.subset_released (hempty hcontext) ho)
  · rw [quits_append_quit, hquits]

/-- A stop leaves the window serving, and without a callback. -/
theorem honours_stop_serving {context : Bool} :
    Honours (lax Spares) (Window.Serving context Session.Dealt) (Window.onContent Session.stop)
      (fun past _ w => Window.Serving context (fun _ s => s.scheduler.frames.entries = []) past w)
      fun _ _ _ => False :=
  (Window.honours_onContent Session.honours_stop_dealing).weaken_err fun _ _ _ ⟨_, _, h⟩ => h

/-- A release leaves the window serving without its context, and its session as it is. -/
theorem honours_release_serving {context : Bool} {Q : List (Exchange Device) → Session → Prop} :
    Honours (lax Spares) (Window.Serving context Q) (Window.onDevice GlDevice.release)
      (fun past _ w => Window.Serving false Q past w) fun _ _ _ => False := by
  have hrelease : ∀ above, Honours (lax Spares) (Serves context above) GlDevice.release
      (fun below _ d => Serves false above below d) fun _ _ _ => False := fun _ =>
    honours_release_serves
  exact (Window.honours_onDevice hrelease).weaken_err fun _ _ _ ⟨_, h, _⟩ => h

/-- **Closing** gives everything back, wherever the window stands. -/
theorem honours_close :
    Honours (lax Spares) Open close (fun past _ w => Closed past w)
      fun past _ w => Closed past w := by
  have hquit : Honours (lax Spares)
      (fun past w => Window.Serving false (fun _ s => s.scheduler.frames.entries = []) past w ∧
        quits past = 0)
      (Platform.ask .quit) (fun past _ w => Closed past w) fun past _ w => Closed past w :=
    honours_perform (fun _ _ _ => trivial) (fun _ _ _ h _ => closed_of_quit h.1 h.2)
      fun _ _ _ h _ => closed_of_quit h.1 h.2
  have hclose : ∀ context, Honours (lax Spares)
      (fun past w => Window.Settled context past w ∧ quits past = 0) close
      (fun past _ w => Closed past w) fun past _ w => Closed past w := by
    intro context
    have hstays := keeps_quits (stays_onContent (p := Session.stop))
    refine Honours.bind ((honours_stop_serving.conj hstays).weaken_err fun _ _ _ h => h.1.elim)
      fun _ => ?_
    have hstays' := keeps_quits (stays_onDevice confined_release)
    exact Honours.bind ((honours_release_serving.conj hstays').weaken_err fun _ _ _ h => h.1.elim)
      fun _ => hquit
  rintro past w ⟨⟨context, h⟩, hquits⟩
  exact hclose context past w ⟨h, hquits⟩

/-- Giving up keeps up anything. -/
theorem keeps_givingUp {σ : Type} {C : Contract Platform σ}
    {I : List (Exchange Platform) → σ → Prop} {fault : Fault} :
    Keeps C I (givingUp fault : PlatformProcedure σ Exit) := by
  cases fault with
  | pipeline failure =>
    cases failure with
    | deviceUnavailable message =>
      exact Honours.bind (honours_tell fun _ _ h => h) fun _ => honours_pure fun _ _ h => h
    | _ => exact honours_fail fun _ _ h => h
  | _ => exact honours_fail fun _ _ h => h

/-- **The life of a window** ends with everything given back, however it ends. -/
theorem honours_live :
    Honours (lax Spares) Open (live refreshes name text) (fun past _ w => Closed past w)
      fun past _ w => Closed past w := by
  have hshow : Keeps (lax Spares) Open ((showUntilClosed refreshes name text).handle givingUp) :=
    Honours.handle keeps_open_showUntilClosed fun _ => keeps_givingUp
  have hattempt : Honours (lax Spares) Open
      ((showUntilClosed refreshes name text).handle givingUp).attempt
      (fun past _ w => Open past w) fun past _ w => Closed past w := Honours.attempt hshow
  exact Honours.bind hattempt fun _ => Honours.bind honours_close fun _ => keeps_ofExcept

/-! ### Opening -/

/-- The ways in which a preview that **gets no window** ends: it gives up for want of a device, or
leaving the platform was refused. -/
def NoWindow (past : List (Exchange Platform)) (result : Except Fault Exit) : Prop :=
  quits past = 1 ∧ ¬Created past ∧
    (result = .ok .noDevice ∨
      ∃ fault, result = .error fault ∧ (⟨.quit, .error fault⟩ : Exchange Platform) ∈ past)

/-- The **ways out**: nothing but reading has been done; there is no window; or there was one. -/
inductive Ending (past : List (Exchange Platform)) :
    Except Fault Exit → Option PreviewWindow → Prop
  | unopened {result : Except Fault Exit} {final : Option PreviewWindow}
      (h : PassedBy past) : Ending past result final
  | noWindow {result : Except Fault Exit} {final : Option PreviewWindow}
      (h : NoWindow past result) : Ending past result final
  | closed {result : Except Fault Exit} {w : PreviewWindow} (hcreated : Created past)
      (h : Closed past w) : Ending past result (some w)

/-- A **new context**: it was created, and nothing has been made of it. -/
structure New (past : List (Exchange Platform)) : Prop where
  untouched : Untouched past
  quits_eq : quits past = 0
  created : Created past

section Opening

variable {σ : Type} {settings : WindowSettings} {render : RenderSettings}

/-- A call that prepares a display leaves it as it is while it is being opened. -/
theorem keeps_opening_ask {call : Platform.Call} (hcall : call.prepares = true) :
    Keeps (lax Spares) (fun past (_ : σ) => Opening past) (Platform.ask call) := by
  have happend : ∀ past reply, Opening past → Opening (past ++ [⟨call, reply⟩]) := by
    intro past reply h
    refine h.append ?_
    rw [hcall, Bool.or_true]
  exact honours_perform (fun _ _ _ => trivial) (fun _ _ _ h _ => happend _ _ h)
    fun _ _ _ h _ => happend _ _ h

/-- Opening a display ends with a new context, or without one. -/
theorem honours_openDisplay :
    Honours (lax Spares) (fun past (_ : σ) => Opening past) (Window.openDisplay settings)
      (fun past _ _ => New past) fun past _ _ => Opening past := by
  have hne : (Platform.Call.createContext) ≠ .quit := nofun
  have hcreate : Honours (lax Spares) (fun past (_ : σ) => Opening past)
      (Platform.ask .createContext) (fun past _ _ => New past) fun past _ _ => Opening past := by
    refine honours_perform (fun _ _ _ => trivial) ?_ ?_
    · intro past s info h _
      exact ⟨h.untouched.append rfl rfl, (quits_append_of_ne hne).trans h.quits_eq,
        _, List.mem_append_right _ (.head _), rfl⟩
    · intro past s fault h _
      exact ⟨h.untouched.append rfl rfl, (quits_append_of_ne hne).trans h.quits_eq,
        not_created_append h.not_created rfl⟩
  have hrest : Honours (lax Spares) (fun past (_ : σ) => Opening past)
      (do
        Platform.ask (.setAttribute .depthSize Window.depthBits)
        Platform.ask (.setAttribute .doubleBuffer 1)
        Platform.ask (.openDisplay settings.size settings.vsync)
        Platform.ask (.setCaption settings.title)
        Platform.ask .createContext)
      (fun past _ _ => New past) fun past _ _ => Opening past :=
    Honours.bind (keeps_opening_ask rfl) fun _ => Honours.bind (keeps_opening_ask rfl) fun _ =>
      Honours.bind (keeps_opening_ask rfl) fun _ => Honours.bind (keeps_opening_ask rfl) fun _ =>
        hcreate
  rw [Window.openDisplay]
  refine Honours.bind (keeps_opening_ask rfl) fun ready => ?_
  cases ready with
  | true => exact hrest
  | false => exact Honours.bind (keeps_opening_ask rfl) fun _ => hrest

/-- What is known when a device was **not to be had**. -/
def Refused (past : List (Exchange Platform)) (fault : Fault) : Prop :=
  quits past = 1 ∧ ¬Created past ∧
    ((∃ message, fault = .pipeline (.deviceUnavailable message)) ∨
      (⟨.quit, .error fault⟩ : Exchange Platform) ∈ past)

/-- Opening a device ends with a new context and a device on it, or the platform was left. -/
theorem honours_openDevice :
    Honours (lax Spares) (fun past (_ : σ) => Opening past) (Window.openDevice settings render)
      (fun past device _ => New past ∧ ∃ info,
        device = onContext info render.glslVersion (some settings.size))
      fun past fault _ => Refused past fault := by
  have hattempt : Honours (lax Spares) (fun past (_ : σ) => Opening past)
      (Window.openDisplay settings).attempt
      (fun past r _ => match r with
        | .ok _ => New past
        | .error _ => Opening past)
      fun past fault _ => Refused past fault := Honours.attempt honours_openDisplay
  refine Honours.bind hattempt fun r => ?_
  cases r with
  | ok info =>
    exact Honours.bind (honours_tell fun _ _ h => h) fun _ =>
      honours_pure fun _ _ h => ⟨h, info, rfl⟩
  | error fault =>
    have hnone : ∀ past (reply : Except Fault Unit), Opening past →
        quits (past ++ [⟨.quit, reply⟩]) = 1 ∧ ¬Created (past ++ [⟨.quit, reply⟩]) :=
      fun past reply h => ⟨by rw [quits_append_quit, h.quits_eq],
        not_created_append h.not_created rfl⟩
    have hquit : Honours (lax Spares) (fun past (_ : σ) => Opening past) (Platform.ask .quit)
        (fun past _ _ => quits past = 1 ∧ ¬Created past)
        fun past fault _ => Refused past fault :=
      honours_perform (fun _ _ _ => trivial) (fun past _ _ h _ => hnone past _ h)
        fun past _ _ h _ => ⟨(hnone past _ h).1, (hnone past _ h).2,
          .inr (List.mem_append_right _ (.head _))⟩
    exact Honours.bind hquit fun _ => honours_fail fun _ _ h => ⟨h.1, h.2, .inl ⟨_, rfl⟩⟩

/-- Where a device was not to be had there is no window. -/
theorem honours_givingUp_refused {fault : Fault} :
    Honours (lax Spares) (fun past (_ : σ) => Refused past fault)
      (givingUp fault : PlatformProcedure σ Exit) (fun past exit _ => NoWindow past (.ok exit))
      fun past fault _ => NoWindow past (.error fault) := by
  have hfail : (∀ message, fault ≠ .pipeline (.deviceUnavailable message)) →
      Honours (lax Spares) (fun past (_ : σ) => Refused past fault) (fail fault)
        (fun past exit _ => NoWindow past (.ok exit))
        fun past fault _ => NoWindow past (.error fault) := fun hne =>
    honours_fail fun past _ ⟨hquits, hnone, hfault⟩ =>
      ⟨hquits, hnone, .inr ⟨fault, rfl, hfault.resolve_left fun ⟨m, h⟩ => hne m h⟩⟩
  cases fault with
  | pipeline failure =>
    cases failure with
    | deviceUnavailable message =>
      exact fun past s h => ⟨h.1, h.2.1, .inl rfl⟩
    | _ => exact hfail nofun
  | _ => exact hfail nofun

end Opening

/-! ### The whole run -/

variable {arguments : Arguments}

/-- What closes a window closes the one that is opened on a new context. -/
theorem honours_within_closed {p : PreviewProcedure Exit} {device : GlDevice}
    {glslVersion : Option Int} {view : Option ViewSize}
    (hp : Honours (lax Spares) Open p (fun past _ w => Closed past w)
      fun past _ w => Closed past w) :
    Honours (lax Spares)
      (fun past (_ : Option PreviewWindow) => New past ∧ ∃ info,
        device = onContext info glslVersion view)
      (p.within { device, content := {} } some)
      (fun past exit s => Ending past (.ok exit) s)
      fun past fault s => Ending past (.error fault) s := by
  have hcreated : Honours (lax Spares) (fun past (_ : PreviewWindow) => Created past) p
      (fun past _ _ => Created past) fun past _ _ => Created past :=
    honours_of_past (fun _ _ h => h.append) fun _ _ h => h
  refine Honours.within ((hp.conj hcreated).weaken (fun _ _ _ h => .closed h.2 h.1)
    fun _ _ _ h => .closed h.2 h.1) ?_
  rintro past _ ⟨hnew, info, rfl⟩
  exact ⟨⟨⟨true, Window.settled_of_untouched hnew.untouched⟩, hnew.quits_eq⟩, hnew.created⟩

/-- A call that passes by keeps to those that pass by. -/
theorem keeps_passedBy_ask {σ : Type} {call : Platform.Call} (hcall : call.passesBy = true) :
    Keeps (lax Spares) (fun past (_ : σ) => PassedBy past) (Platform.ask call) :=
  honours_perform (fun _ _ _ => trivial) (fun _ _ _ h _ => h.append hcall) fun _ _ _ h _ =>
    h.append hcall

/-- A window that is opened is closed, or there is none. -/
theorem honours_openWindow :
    Honours (lax Spares) (fun past (_ : Option PreviewWindow) => PassedBy past)
      (openWindow refreshes arguments text) (fun past exit s => Ending past (.ok exit) s)
      fun past fault s => Ending past (.error fault) s := by
  have hdevice : Honours (lax Spares) (fun past (_ : Option PreviewWindow) => PassedBy past)
      (Window.openDevice (windowSettings arguments) renderSettings).attempt
      (fun past r _ => match r with
        | .ok device => New past ∧ ∃ info, device =
            onContext info renderSettings.glslVersion (some (windowSettings arguments).size)
        | .error fault => Refused past fault)
      fun past fault s => Ending past (.error fault) s :=
    Honours.attempt (honours_openDevice.mono (fun _ _ h => h.opening) (fun _ _ _ h => h)
      fun _ _ _ h => h)
  refine Honours.bind hdevice fun r => ?_
  cases r with
  | error fault =>
    exact honours_givingUp_refused.weaken (fun _ _ _ h => .noWindow h) fun _ _ _ h => .noWindow h
  | ok device => exact honours_within_closed honours_live

/-- A preview ends in one of the ways out. -/
theorem honours_run :
    Honours (lax Spares) (fun past _ => past = []) (run refreshes arguments)
      (fun past exit s => Ending past (.ok exit) s)
      fun past fault s => Ending past (.error fault) s := by
  have hread : Keeps (lax Spares) (fun past (_ : Option PreviewWindow) => PassedBy past)
      (readBundle arguments.bundle) := keeps_readBundle fun _ => keeps_passedBy_ask
  have hnone : PassedBy [] := fun _ hx => absurd hx List.not_mem_nil
  have hattempt : Honours (lax Spares) (fun past (_ : Option PreviewWindow) => past = [])
      (readBundle arguments.bundle).attempt (fun past _ _ => PassedBy past)
      fun past fault s => Ending past (.error fault) s := by
    refine Honours.attempt (hread.mono ?_ (fun _ _ _ h => h) fun _ _ _ h => h)
    rintro past s rfl
    exact hnone
  have hmissing : Honours (lax Spares) (fun past (_ : Option PreviewWindow) => past = [])
      (fail .missingLevel : PlatformProcedure (Option PreviewWindow) PUnit) (fun _ _ _ => False)
      fun past fault s => Ending past (.error fault) s := by
    refine honours_fail ?_
    rintro past s rfl
    exact .unopened hnone
  rw [run]
  by_cases hlevel : arguments.level.isNone = true
  · rw [if_pos hlevel]
    exact Honours.bind hmissing fun _ _ _ h => h.elim
  · rw [if_neg hlevel]
    refine Honours.bind hattempt fun r => ?_
    cases r with
    | ok text => exact honours_openWindow
    | error fault =>
      cases fault with
      | file fault => exact fun _ _ h => .unopened h
      | _ => exact honours_fail fun _ _ h => .unopened h

/-- **On every way out** of a preview nothing is left, over all answers of a platform that gives no
object twice and releases what it is asked to. Once the context was created, the window has given
everything back and left the platform once, whatever the outcome is. If the display was asked for
and the context was not created, the platform was left once, and the outcome is that there is no
device, unless leaving was refused. -/
theorem leaves_nothing {moments : List (Moment Platform (Option PreviewWindow))}
    {result : Except Fault Exit} {final : Option PreviewWindow}
    (hpath : Dialogue.Path (run refreshes arguments none) moments result final)
    (horderly : Orderly (moments.map Moment.exchange)) :
    (Created (moments.map Moment.exchange) →
        ∃ w, final = some w ∧ Closed (moments.map Moment.exchange) w) ∧
      ((∃ m ∈ moments, m.call = .isReady) → ¬Created (moments.map Moment.exchange) →
        NoWindow (moments.map Moment.exchange) result) := by
  have hending : Ending (moments.map Moment.exchange) result final := by
    have hend := ((honours_run [] none rfl).path hpath (Orderly.relied horderly)).2
    rcases result with fault | exit
    · exact hend
    · exact hend
  cases hending with
  | unopened h =>
    refine ⟨fun hcreated => absurd hcreated h.opening.not_created, fun ⟨m, hm, hcall⟩ _ => ?_⟩
    have hpasses : m.call.passesBy = true := h _ (List.mem_map_of_mem hm)
    rw [hcall] at hpasses
    cases hpasses
  | noWindow h => exact ⟨fun hcreated => absurd hcreated h.2.1, fun _ _ => h⟩
  | closed hcreated h => exact ⟨fun _ => ⟨_, rfl, h⟩, fun _ hnone => absurd hcreated hnone⟩

/-- The bare bundle is shown on a platform on which one kind of call **breaks down**. -/
def brokenRun (what : String) : Run Platform (Option PreviewWindow) SimulatedPlatform Exit :=
  (run 1 { bundle := inputName } none).run SimulatedPlatform.provider
    { input := Session.bareBundle.toUTF8.toList, breakdown := some what }

/-- What has passed on that platform. -/
def brokenPast (what : String) : List (Exchange Platform) :=
  (brokenRun what).moments.map Moment.exchange

/-- The first picture **cannot be presented**, and all six objects are given back. Where the context
cannot be created there is **no window**. -/
theorem leaves_nothing_broken :
    ((brokenRun "flip").result = .error (.broken "no flip") ∧
      obtained (brokenPast "flip") =
        [.program 1, .program 2, .program 3, .buffer 1, .buffer 2, .vertexArray 1] ∧
      ∃ w, (brokenRun "flip").state = some w ∧ Closed (brokenPast "flip") w) ∧
    (brokenRun "create_context").result = .ok .noDevice ∧
      NoWindow (brokenPast "create_context") (.ok .noDevice) := by
  have hflip : (brokenRun "flip").result = .error (.broken "no flip") ∧
      obtained (brokenPast "flip") =
        [.program 1, .program 2, .program 3, .buffer 1, .buffer 2, .vertexArray 1] ∧
      Created (brokenPast "flip") ∧
      (brokenPast "flip").all (fun x => !x.call.released?.isSome || x.reply.isOk) = true := by
    decide +kernel
  have hcreate : (brokenRun "create_context").result = .ok .noDevice ∧
      obtained (brokenPast "create_context") = [] ∧ ¬Created (brokenPast "create_context") ∧
      (∃ m ∈ (brokenRun "create_context").moments, m.call = .isReady) ∧
      (brokenPast "create_context").all
        (fun x => !x.call.released?.isSome || x.reply.isOk) = true := by
    decide +kernel
  obtain ⟨hresult, hobtained, hcreated, hok⟩ := hflip
  obtain ⟨hresult', hobtained', hnone, hready, hok'⟩ := hcreate
  have horderly : Orderly (brokenPast "flip") := .of_all (hobtained ▸ by decide) hok
  have horderly' : Orderly (brokenPast "create_context") :=
    .of_all (hobtained' ▸ List.nodup_nil) hok'
  obtain ⟨hclosed, -⟩ := leaves_nothing (Dialogue.path_run _ _ _) horderly
  obtain ⟨-, hwindow⟩ := leaves_nothing (Dialogue.path_run _ _ _) horderly'
  exact ⟨⟨hresult, hobtained, hclosed hcreated⟩, hresult', hresult' ▸ hwindow hready hnone⟩

end Preview

end ShaderPreview
