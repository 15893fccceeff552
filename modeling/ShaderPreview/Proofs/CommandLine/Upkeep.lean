import ShaderPreview.CommandLine.Preview
import ShaderPreview.Proofs.Dialogue.Answered

/-!
# What a Preview Keeps Up

While its window is open a preview works in a few ways only: it looks at the events, reads the file,
presents a picture and waits; it says whether the window goes on; it sets the view and releases the
device; it starts its session and refreshes it. A condition that none of these disturbs is
**upheld**, and then the whole life of the window keeps it up until the window is closed, however
that comes about.

## Main definitions

* `Platform.Call.passesBy`: the calls that a preview makes itself while its window is open.
* `Preview.Upheld`: a condition that the ways of working do not disturb.

## Main results

* `Preview.Upheld.load`, `Preview.Upheld.reload`: showing a text keeps it up.
* `Preview.Upheld.round`: so does a round of the loop.
* `Preview.Upheld.showUntilClosed`: so does all that happens until the window is closed.
-/

namespace ShaderPreview

/-- Whether a call **passes by** the graphics: it is about the events, the picture or the files. -/
def Platform.Call.passesBy : Platform.Call → Bool
  | .pollEvents => true
  | .flip => true
  | .tick _ => true
  | .readFile _ => true
  | .readInput => true
  | _ => false

namespace Preview

open Procedure

/-- Reading a bundle keeps up what calls that pass by keep up. -/
theorem keeps_readBundle {σ : Type} {C : Contract Platform σ}
    {I : List (Exchange Platform) → σ → Prop} {name : String}
    (hask : ∀ call : Platform.Call, call.passesBy = true → Keeps C I (Platform.ask call)) :
    Keeps C I (readBundle name) := by
  have hbytes : Keeps C I (readBytes name) := by
    rw [readBytes]
    by_cases hname : name = inputName
    · rw [if_pos hname]
      exact hask _ rfl
    · rw [if_neg hname]
      exact hask _ rfl
  exact Honours.bind hbytes fun _ => Honours.bind keeps_ofExcept fun _ =>
    honours_pure fun _ _ hs => hs

/-- Showing a text keeps up what starting it keeps up. -/
theorem keeps_load {C : Contract Platform PreviewWindow}
    {I : List (Exchange Platform) → PreviewWindow → Prop} {text : String}
    (hstart : Keeps C I (Window.onContent (Session.start renderSettings text))) :
    Keeps C I (load text) := by
  refine Honours.handle hstart fun fault => ?_
  cases fault with
  | pipeline failure =>
    have hreport : Keeps C I (do
        tell (.report (failure.report (← state).content.sources)) : PreviewProcedure Unit) :=
      honours_state_bind fun w => honours_tell fun _ _ hw => hw.2
    cases failure with
    | deviceUnavailable message => exact honours_fail fun _ _ hw => hw
    | _ => exact hreport
  | _ => exact honours_fail fun _ _ hw => hw

/-- A condition on the past and the window is **upheld** under a contract: none of the ways in which
a preview works disturbs it. -/
structure Upheld (C : Contract Platform PreviewWindow)
    (I : List (Exchange Platform) → PreviewWindow → Prop) : Prop where
  ask : ∀ call : Platform.Call, call.passesBy = true → Keeps C I (Platform.ask call)
  setRunning : ∀ running, Keeps C I (Window.setRunning running)
  setViewport : ∀ view, Keeps C I (Window.onDevice (GlDevice.setViewport view))
  release : Keeps C I (Window.onDevice GlDevice.release)
  start : ∀ text, Keeps C I (Window.onContent (Session.start renderSettings text))
  refresh : Keeps C I (Window.onContent (Session.refresh renderSettings))

namespace Upheld

variable {C : Contract Platform PreviewWindow}
  {I : List (Exchange Platform) → PreviewWindow → Prop} {name text : String}

/-! ### Showing -/

/-- **Showing a text** keeps it up. -/
theorem load (h : Upheld C I) : Keeps C I (load text) := keeps_load (h.start text)

/-- **Reading the file again** keeps it up. -/
theorem reload (h : Upheld C I) : Keeps C I (reload name) := by
  have hread : Honours C I (readBundle name).attempt (fun past _ w => I past w)
      fun past _ w => I past w := Honours.attempt (keeps_readBundle h.ask)
  refine Honours.bind hread fun r => ?_
  cases r with
  | ok text => exact Honours.bind (honours_tell fun _ _ hw => hw) fun _ => h.load
  | error fault =>
    cases fault with
    | file fault => exact honours_tell fun _ _ hw => hw
    | _ => exact honours_fail fun _ _ hw => hw

/-! ### The loop -/

/-- Each event keeps it up: it stops the loop, sets the view, or reads the file again. -/
theorem handleEvent (h : Upheld C I) {event : WindowEvent} :
    Keeps C I (Window.handleEvent (conduct name) event) := by
  cases event with
  | quit => exact h.setRunning false
  | resize width height => exact h.setViewport _
  | keyUp key => exact honours_pure fun _ _ hw => hw
  | keyDown key =>
    have hhandler : ∀ handler, (conduct name).onKey key = some handler → Keeps C I handler := by
      intro handler hkey
      by_cases hreload : (key = reloadKey && name != inputName) = true
      · simp only [conduct, hreload, if_true, Option.some.injEq] at hkey
        exact hkey ▸ h.reload
      · simp only [conduct, hreload] at hkey
        cases hkey
    rw [Window.handleEvent]
    cases hkey : (conduct name).onKey key with
    | none =>
      by_cases hescape : key = .escape
      · rw [if_pos hescape]
        exact Honours.bind (h.setRunning false) fun _ => honours_pure fun _ _ hw => hw
      · rw [if_neg hescape]
        exact honours_pure fun _ _ hw => hw
    | some handler =>
      by_cases hescape : key = .escape
      · rw [if_pos hescape]
        exact Honours.bind (h.setRunning false) fun _ => hhandler handler hkey
      · rw [if_neg hescape]
        exact hhandler handler hkey

/-- All events of a batch keep it up, one after another. -/
theorem handleEvents (h : Upheld C I) {events : List WindowEvent} :
    Keeps C I (Window.handleEvents (conduct name) events) := by
  induction events with
  | nil => exact honours_pure fun _ _ hw => hw
  | cons event rest ih => exact Honours.bind h.handleEvent fun _ => ih

/-- **A round** of the loop keeps it up. -/
theorem round (h : Upheld C I) : Keeps C I (Window.round (conduct name)) := by
  have htick : Keeps C I (Platform.ask (.tick (conduct name).targetFps)) := h.ask _ rfl
  have hrest : ∀ batch : EventBatch, Keeps C I (do
      Window.handleEvents (conduct name) batch.events
      let count ← (conduct name).refresh
      if count != 0 then Platform.ask .flip
      Platform.ask (.tick (conduct name).targetFps)) := by
    intro batch
    refine Honours.bind h.handleEvents fun _ => Honours.bind h.refresh fun count => ?_
    by_cases hcount : (count != 0) = true
    · simp only [hcount, if_true]
      exact Honours.bind (h.ask .flip rfl) fun _ => htick
    · simp only [hcount]
      exact htick
  refine Honours.bind (h.ask .pollEvents rfl) fun batch => ?_
  by_cases hlost : batch.contextLost = true
  · simp only [hlost, if_true]
    exact Honours.bind h.release fun _ => hrest batch
  · simp only [hlost]
    exact hrest batch

/-- Any number of rounds keeps it up. -/
theorem rounds (h : Upheld C I) {refreshes : Nat} :
    Keeps C I (Window.rounds (conduct name) refreshes) := by
  induction refreshes with
  | zero =>
    refine honours_state_bind fun w => ?_
    by_cases hrunning : w.running = true
    · simp only [hrunning, if_true]
      exact honours_fail fun _ _ hw => hw.2
    · simp only [hrunning]
      exact honours_pure fun _ _ hw => hw.2
  | succ refreshes ih =>
    refine honours_state_bind fun w => ?_
    by_cases hrunning : w.running = true
    · simp only [hrunning, if_true]
      exact (Honours.bind h.round fun _ => ih).mono (fun _ _ hw => hw.2) (fun _ _ _ hw => hw)
        fun _ _ _ hw => hw
    · simp only [hrunning]
      exact honours_pure fun _ _ hw => hw.2

/-- All that happens **until the window is closed** keeps it up. -/
theorem showUntilClosed (h : Upheld C I) {refreshes : Nat} :
    Keeps C I (showUntilClosed refreshes name text) :=
  Honours.bind h.load fun _ => Honours.bind (Honours.bind (h.setRunning true) fun _ => h.rounds)
    fun _ => honours_pure fun _ _ hw => hw

end Upheld

end Preview

end ShaderPreview
