import ShaderPreview.Proofs.Dialogue.Stages
import ShaderPreview.Window

/-!
# The Loop of a Window, Opened

A round of a window's loop has four parts: the look at the events, the events one after another, the
refresh, and the presentation with the wait. What is left of the loop once some events of a round
have been handled is a procedure of its own, so that a run can be cut at any event.

## Main definitions

* `Window.present`: presents a new picture, and waits.
* `Window.resume`: the rest of the loop once some events are left.

## Main results

* `Window.rounds_succ`: the loop goes on with the events of a new batch.
* `Window.resume_cons`: one event after another.
-/

namespace ShaderPreview.Window

open Procedure

variable {γ : Type} {conduct : Conduct γ} {refreshes : Nat}

/-- **Presents** the picture if some callback ran, and waits. -/
def present (conduct : Conduct γ) (count : Nat) : WindowProcedure γ Unit := do
  if count != 0 then Platform.ask .flip
  Platform.ask (.tick conduct.targetFps)

/-- **The rest of the loop**: the events of a round that are left, its refresh and presentation, and
the rounds after it. -/
def resume (conduct : Conduct γ) (events : List WindowEvent) (refreshes : Nat) :
    WindowProcedure γ Unit := do
  handleEvents conduct events
  let count ← conduct.refresh
  present conduct count
  rounds conduct refreshes

/-- Gives back the device where the context has **gone**. -/
def releaseLost (batch : EventBatch) : WindowProcedure γ Unit := do
  if batch.contextLost then onDevice GlDevice.release

/-- Where no event is left, the round goes on with its refresh. -/
theorem resume_nil :
    resume conduct [] refreshes = (do
      let count ← conduct.refresh
      present conduct count
      rounds conduct refreshes) := rfl

/-- The first event that is left is handled before the others. -/
theorem resume_cons {event : WindowEvent} {rest : List WindowEvent} :
    resume conduct (event :: rest) refreshes =
      handleEvent conduct event >>= fun _ => resume conduct rest refreshes := by
  rw [resume, handleEvents, bind_assoc]
  rfl

/-- A round asks for events, gives back a lost device, handles the events, refreshes and
presents. -/
theorem round_eq :
    round conduct = (do
      let batch : EventBatch ← Platform.ask .pollEvents
      releaseLost batch
      handleEvents conduct batch.events
      let count ← conduct.refresh
      present conduct count) := by
  rw [round]
  congr 1
  funext batch
  rw [releaseLost]
  cases batch.contextLost <;> rfl

/-- As long as the window goes on, the loop **looks at the events** and goes on with them. -/
theorem rounds_succ :
    rounds conduct (refreshes + 1) = (do
      if (← state).running then
        let batch : EventBatch ← Platform.ask .pollEvents
        releaseLost batch
        resume conduct batch.events refreshes) := by
  rw [rounds, round_eq]
  congr 1
  funext w
  by_cases hrunning : w.running = true
  · simp only [hrunning, if_true, resume, bind_assoc]
  · simp only [hrunning, Bool.false_eq_true, if_false]

end ShaderPreview.Window
