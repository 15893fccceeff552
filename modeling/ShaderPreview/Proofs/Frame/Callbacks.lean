import ShaderPreview.Proofs.Frame.Conduct
import ShaderPreview.Proofs.Frame.Registration

/-!
# The Callback of a Scheduler

A scheduler asks the display for frames and has itself taken out again. Both calls may be refused,
and so may any other call in between. A callback that is left behind without a token could never be
taken out; a token without a callback would stand for frames that never come. Neither happens,
whichever operations follow one another and wherever each of them is cut short: the display has the
callback of the scheduler once, or not at all, just as the scheduler says.

A stop that comes to its end leaves nothing at all, so that a second one has nothing to do.

## Main definitions

* `Scheduler.Operation`: what can be done to a scheduler.
* `Scheduler.CalledBack`: the display has the callback once, or not at all.
* `Scheduler.ComesToRest`: a stop from here leaves nothing.

## Main results

* `Scheduler.keeps_registered_carryOut`: each operation keeps the registration up.
* `Scheduler.called_back_or_at_rest`: no callback is left behind or doubled over any run.
-/

namespace ShaderPreview.Scheduler

open Procedure Device

variable {relies : List (Exchange Device) → Exchange Device → Prop} {past : List (Exchange Device)}
  {s : Scheduler} {settings : RenderSettings}

/-! ### The operations -/

/-- What can be **done to a scheduler**, and what the display asks of it. -/
inductive Operation where
  | start (program : Program)
  | stop
  | renderFrame
  | refresh
  deriving DecidableEq, Repr

/-- Carries out an operation. -/
def Operation.carryOut (settings : RenderSettings) : Operation → DeviceProcedure Scheduler Unit
  | start program => Scheduler.start program
  | stop => Scheduler.stop
  | renderFrame => Scheduler.renderFrame settings
  | refresh => do
    let _ ← Scheduler.refresh settings
    return ()

/-- **Each operation** keeps the registration up, however it ends. -/
theorem keeps_registered_carryOut (op : Operation) :
    Keeps (.lax relies) Registered (op.carryOut settings) := by
  cases op with
  | start program => exact keeps_registered_start
  | stop => exact honours_stop_registered.weaken_ok fun _ _ _ h => h.1
  | renderFrame => exact keeps_registered_renderFrame
  | refresh => exact keeps_registered_refresh.bind fun _ => honours_pure fun _ _ h => h

/-! ### At rest -/

/-- A stop that comes to its end leaves the scheduler idle. -/
theorem honours_stop_idle :
    Honours (.lax relies) Registered stop (fun past _ s => Registered past s ∧ Idle s)
      fun past _ s => Registered past s :=
  Honours.bind honours_cancelFrames_registered fun _ => honours_update fun _ _ h =>
    ⟨⟨h.1.callbacks_eq, h.1.entries_eq⟩, rfl, rfl, h.2⟩

/-- Stopping a scheduler that is idle does nothing. -/
theorem stop_of_idle (h : Idle s) : stop s = .done (.ok ()) s := by
  obtain ⟨program, clock, token, frames⟩ := s
  obtain ⟨hprogram, hclock, htoken⟩ := h
  obtain rfl : program = none := hprogram
  obtain rfl : clock = none := hclock
  obtain rfl : token = none := htoken
  rfl

/-- Each stop of a scheduler that comes to its end leaves no callback, program, clock or token, and
**another stop** right after it makes no call and changes nothing. -/
def ComesToRest (past : List (Exchange Device)) (s : Scheduler) : Prop :=
  ∀ moments s', Dialogue.Path (stop s) moments (.ok ()) s' →
    (callbacks (past ++ moments.map Moment.exchange)).entries = [] ∧ Idle s' ∧
      ∀ again result s'', Dialogue.Path (stop s') again result s'' →
        again = [] ∧ result = .ok () ∧ s'' = s'

/-- A scheduler that keeps to the display comes to rest. -/
theorem Registered.comesToRest (h : Registered past s) : ComesToRest past s := by
  intro moments s' hstop
  have hhonours : Honours (.lax fun _ _ => True) Registered stop
      (fun past _ s => Registered past s ∧ Idle s) fun past _ s => Registered past s :=
    honours_stop_idle
  obtain ⟨-, hregistered, hidle⟩ := (hhonours past s h).path hstop fun _ _ _ _ => trivial
  refine ⟨?_, hidle, fun again result s'' hagain => ?_⟩
  · rw [hregistered.callbacks_eq, hregistered.entries_eq, hidle.2.2]
    rfl
  · rw [stop_of_idle hidle] at hagain
    cases hagain
    exact ⟨rfl, rfl, rfl⟩

/-! ### One operation after another -/

/-- The display has **the callback of a scheduler** once, under its token, if the scheduler is
running, and no callback if it is not. -/
def CalledBack (callbacks : FrameTable Unit) (s : Scheduler) : Prop :=
  if s.running then ∃ token, s.token = some token ∧ callbacks.entries = [(token, ())]
  else callbacks.entries = []

/-- A scheduler that keeps to the display is called back by it. -/
theorem Registered.calledBack (h : Registered past s) : CalledBack (callbacks past) s := by
  rw [CalledBack, h.callbacks_eq, h.entries_eq, running]
  rcases s.token with _ | token
  · rfl
  · exact ⟨token, rfl, rfl⟩

/-- **No callback is left behind and none is doubled.** Over any starts, stops, frames and refreshes
of one scheduler, and whatever the device answers or refuses, the display has the callback of the
scheduler once, under its token, as long as the scheduler is running, and else not at all. From
there each stop that comes to its end leaves the scheduler at rest. -/
theorem called_back_or_at_rest {ops : List Operation} {moments : List (Moment Device Scheduler)}
    {results : Except Fault (List (Except Fault Unit))}
    (hpath : Dialogue.Path (attemptAll (ops.map (Operation.carryOut settings)) {}) moments
      results s) :
    CalledBack (callbacks (moments.map Moment.exchange)) s ∧
      ComesToRest (moments.map Moment.exchange) s := by
  have hall : Keeps (.lax fun _ _ => True) Registered
      (attemptAll (ops.map (Operation.carryOut settings))) :=
    keeps_attemptAll (List.forall_mem_map.mpr fun op _ => keeps_registered_carryOut op)
  obtain ⟨-, hregistered⟩ := hall.path_end registered_nil hpath fun _ _ _ _ => trivial
  exact ⟨hregistered.calledBack, hregistered.comesToRest⟩

/-- A program is started on a device that does not tell the size of its view. The refresh is cut
short, the callback stays, and a stop takes it out. -/
theorem called_back_or_at_rest_blindView :
    let device := obliging fun call => call == .viewportSize
    let program : Program := ⟨1, 2, 3, 4, 5, .cube, 36, 0, 1⟩
    let shown := (attemptAll ([.start program, .refresh].map (Operation.carryOut {})) {}).run
      device 0
    let stopped := (stop shown.state).run device shown.provider
    (shown.result.toOption.map fun results => results.map Except.isOk) = some [true, false] ∧
      shown.state.running = true ∧ stopped.result.isOk = true ∧
      CalledBack (callbacks (shown.moments.map Moment.exchange)) shown.state ∧
      ComesToRest (shown.moments.map Moment.exchange) shown.state := by
  intro device program shown stopped
  have hshown := Dialogue.path_run device
    (attemptAll ([.start program, .refresh].map (Operation.carryOut {})) {}) 0
  exact ⟨by decide +kernel, by decide +kernel, by decide +kernel, called_back_or_at_rest hshown⟩

end ShaderPreview.Scheduler
