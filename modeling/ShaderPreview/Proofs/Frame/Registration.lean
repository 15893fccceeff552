import ShaderPreview.Proofs.Device.Ledger
import ShaderPreview.Proofs.Dialogue.Answered
import ShaderPreview.Proofs.Frame.Upkeep

/-!
# The Registration of a Scheduler

The display's table and a scheduler's own are two tables. They stay the same whatever the device
does, since the scheduler turns its own only after the display has turned its. And there is never
more in them than the one callback under the scheduler's token. Handles have no part in this.

## Main definitions

* `Scheduler.Registered`: the display has the callback that the scheduler has a token for, and no
  other.

## Main results

* `Scheduler.honours_stop_registered`: a stop that comes to its end leaves no callback.
* `Scheduler.keeps_registered_start`, `Scheduler.keeps_registered_renderFrame`,
  `Scheduler.keeps_registered_refresh`: the other operations keep the registration up.
-/

namespace ShaderPreview.Scheduler

open Procedure Device

variable {relies : List (Exchange Device) → Exchange Device → Prop} {past : List (Exchange Device)}
  {x : Exchange Device} {s : Scheduler} {settings : RenderSettings}

/-- The display has **the callback that the scheduler has a token for**, and no other. -/
structure Registered (past : List (Exchange Device)) (s : Scheduler) : Prop where
  callbacks_eq : callbacks past = s.frames
  entries_eq : s.frames.entries = s.token.toList.map (·, ())

/-- A new scheduler has nothing registered. -/
theorem registered_nil : Registered [] {} := ⟨rfl, rfl⟩

/-- An exchange that does not turn the display's table keeps the registration. -/
theorem Registered.keep (h : Registered past s) (hturn : ∀ frames, turn frames x = frames) :
    Registered (past ++ [x]) s :=
  ⟨by rw [callbacks_append_singleton, hturn, h.callbacks_eq], h.entries_eq⟩

/-- A scheduler that is registered **nowhere**. -/
def Unregistered (past : List (Exchange Device)) (s : Scheduler) : Prop :=
  Registered past s ∧ s.token = none

/-! ### Drawing -/

/-- Preparing a frame leaves the table of callbacks as it is. -/
theorem turn_of_preparesFrame {frames : FrameTable Unit} (h : x.call.preparesFrame = true) :
    turn frames x = frames := by
  obtain ⟨call, reply⟩ := x
  cases call <;> first | rfl | cases h

/-- Preparing a frame keeps the registration. -/
theorem upheld_registered : Upheld (.lax relies) Registered where
  allowed _ _ _ _ _ := trivial
  step _ _ _ hx _ h := h.keep fun _ => turn_of_preparesFrame hx
  time _ _ _ h := ⟨h.callbacks_eq, h.entries_eq⟩

/-- So does drawing. -/
theorem draws_registered : DrawsUnder (.lax relies) Registered := fun _ =>
  honours_perform (fun _ _ _ => trivial) (fun _ _ _ h _ => h.1.keep fun _ => rfl)
    fun _ _ _ h _ => h.1.keep fun _ => rfl

/-- **A frame** keeps the registration up. -/
theorem keeps_registered_renderFrame : Keeps (.lax relies) Registered (renderFrame settings) :=
  upheld_registered.renderFrame draws_registered

/-- **A refresh** keeps the registration up. -/
theorem keeps_registered_refresh : Keeps (.lax relies) Registered (refresh settings) :=
  upheld_registered.refresh draws_registered

/-! ### Starting and stopping -/

/-- Taking out the one callback leaves none. -/
theorem honours_cancelFrames_registered :
    Honours (.lax relies) Registered cancelFrames (fun past _ s => Unregistered past s)
      fun past _ s => Registered past s := by
  refine honours_state_bind fun s => ?_
  rintro past s ⟨rfl, h⟩
  rcases htoken : s.token with _ | token
  · exact ⟨h, htoken⟩
  have hcancel : Honours (.lax relies) (fun past s' => s' = s ∧ Registered past s)
      (Device.ask (.cancelFrame token))
      (fun past _ s' => s' = s ∧ callbacks past = s.frames.cancel token)
      fun past _ s' => Registered past s' := by
    refine honours_perform (fun _ _ _ => trivial) ?_ ?_
    · rintro past _ a ⟨rfl, h⟩ -
      refine ⟨rfl, ?_⟩
      rw [callbacks_append_singleton, h.callbacks_eq]
      rfl
    · rintro past _ fault ⟨rfl, h⟩ -
      exact h.keep fun _ => rfl
  have hforget : Honours (.lax relies)
      (fun past s' => s' = s ∧ callbacks past = s.frames.cancel token)
      (update fun s => { s with frames := s.frames.cancel token, token := none })
      (fun past _ s' => Unregistered past s') fun past _ s' => Registered past s' := by
    refine honours_update ?_
    rintro past _ ⟨rfl, hcallbacks⟩
    refine ⟨⟨hcallbacks, ?_⟩, rfl⟩
    rw [FrameTable.entries_cancel, h.entries_eq, htoken]
    simp
  refine Honours.bind hcancel (fun _ => Honours.bind hforget fun _ => ?_) past s ⟨rfl, h⟩
  rcases s.clock with _ | clock
  · exact honours_pure fun _ _ h => h
  · exact honours_tell fun _ _ h => h

/-- **A stop** that comes to its end leaves no callback. -/
theorem honours_stop_registered :
    Honours (.lax relies) Registered stop (fun past _ s => Unregistered past s)
      fun past _ s => Registered past s :=
  Honours.bind honours_cancelFrames_registered fun _ => honours_update fun _ _ h =>
    ⟨⟨h.1.callbacks_eq, h.1.entries_eq⟩, h.2⟩

/-- Asking for frames where there is no callback registers one. -/
theorem honours_requestFrames_registered :
    Honours (.lax relies) Unregistered requestFrames (fun past _ s => Registered past s)
      fun past _ s => Registered past s := by
  have hrequest : Honours (.lax relies) Unregistered (Device.ask .requestFrame)
      (fun past _ s => callbacks past = (s.frames.register ()).2 ∧ s.frames.entries = [])
      fun past _ s => Registered past s := by
    refine honours_perform (fun _ _ _ => trivial) (fun past s a h _ => ⟨?_, ?_⟩)
      fun past s fault h _ => h.1.keep fun _ => rfl
    · rw [callbacks_append_singleton, h.1.callbacks_eq]
      rfl
    · rw [h.1.entries_eq, h.2]
      rfl
  refine Honours.bind hrequest fun _ => honours_update ?_
  rintro past s ⟨hcallbacks, hnone⟩
  refine ⟨hcallbacks, ?_⟩
  rw [FrameTable.entries_register, hnone]
  rfl

/-- **A start** keeps the registration up. -/
theorem keeps_registered_start {program : Program} :
    Keeps (.lax relies) Registered (start program) := by
  have hupheld : Upheld (.lax relies) Unregistered := {
    allowed := fun _ _ _ _ _ => trivial
    step := fun past s x hx _ h => ⟨h.1.keep fun _ => turn_of_preparesFrame hx, h.2⟩
    time := fun _ _ _ h => ⟨⟨h.1.callbacks_eq, h.1.entries_eq⟩, h.2⟩ }
  exact hupheld.start (honours_stop_registered.weaken_ok fun _ _ _ h =>
    ⟨⟨h.1.callbacks_eq, h.1.entries_eq⟩, h.2⟩) honours_requestFrames_registered fun _ _ _ h => h.1

end ShaderPreview.Scheduler
