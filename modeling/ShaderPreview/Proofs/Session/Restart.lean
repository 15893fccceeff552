import ShaderPreview.Proofs.Device.Numbering
import ShaderPreview.Proofs.Dialogue.Views
import ShaderPreview.Proofs.Session.Situation

/-!
# A Stop Before a Start

A start on a simulated device goes one of three ways: the device is not there, the bundle cannot be
taken apart, or what is shown is replaced. Replacing begins with a stop. A stop does not look at the
sources, and it does nothing to a session that is cleared. So if a session is stopped and then
started, the start does what it would have done without the stop, apart from the calls that were
made by then.

## Main definitions

* `Session.readSources`: the sources that a start keeps.

## Main results

* `Session.run_start_absent`, `Session.run_start_unreadable`, `Session.run_start_replaced`: the run
  of a start.
* `Session.stop_blind`, `Session.stop_cleared`: what a stop does not look at, and when it does
  nothing.
* `Session.run_restart`: a start after a stop.
-/

namespace ShaderPreview.Session

open Procedure

variable {α : Type} {settings : RenderSettings} {bundle : String} {s : Session}
  {d : SimulatedDevice}

/-! ### The run of a start -/

/-- The **sources of a start** that took its bundle apart. -/
def readSources (settings : RenderSettings) (bundle : String) (sections : Sections) : Sources where
  raw := bundle
  vertex := sections.vertex
  fragment := sections.fragment
  mendedFragment := (Repair.mend sections.fragment settings.defaultPrecision).source

/-- What comes after asking for the device, where it is there. -/
theorem run_requireDevice_bind {next : Unit → DeviceProcedure Session α}
    (hd : d.breakdowns = []) (havailable : d.available = true) :
    let run := (next () s).run SimulatedDevice.provider d
    ((requireDevice >>= next) s).run SimulatedDevice.provider d =
      { run with moments := ⟨s, .isAvailable, .ok true⟩ :: run.moments } := by
  rw [requireDevice, bind_assoc]
  show Dialogue.run _ (Dialogue.ask (I := Device) s .isAvailable _) d = _
  rw [Dialogue.run, SimulatedDevice.answer_of_unbroken hd]
  simp only [SimulatedDevice.reply, havailable]
  rfl

/-- A start where the **device is not there**. -/
theorem run_start_absent (hd : d.breakdowns = []) (havailable : d.available = false) :
    (start settings bundle s).run SimulatedDevice.provider d = {
      result := .error (.pipeline (.deviceUnavailable "Graphics device is not available"))
      state := s
      provider := d
      moments := [⟨s, .isAvailable, .ok false⟩] } := by
  rw [start_eq, requireDevice, bind_assoc]
  show Dialogue.run _ (Dialogue.ask (I := Device) s .isAvailable _) d = _
  rw [Dialogue.run, SimulatedDevice.answer_of_unbroken hd]
  simp only [SimulatedDevice.reply, havailable]
  rfl

/-- A start whose bundle **cannot be taken apart**. -/
theorem run_start_unreadable (hd : d.breakdowns = []) (havailable : d.available = true)
    {fault : BundleFault} (hsplit : Bundle.split bundle = .error fault) :
    (start settings bundle s).run SimulatedDevice.provider d = {
      result := .error (.pipeline (.bundle fault))
      state := { s with sources := some { raw := bundle } }
      provider := d
      moments := [⟨s, .isAvailable, .ok true⟩] } := by
  rw [start_eq, run_requireDevice_bind hd havailable, readBundle, hsplit]
  rfl

/-- Telling what mending did makes no difference to the run, apart from what is told. -/
theorem run_tellRepair_bind (fragment : String) (repair : Repair)
    (next : Unit → DeviceProcedure Session α) (s : Session) (d : SimulatedDevice) :
    let run := (next () s).run SimulatedDevice.provider d
    ∃ notices, ((tellRepair fragment repair >>= next) s).run SimulatedDevice.provider d =
      { run with notices } := by
  rw [tellRepair]
  by_cases hchanged : repair.changed = true
  · rw [if_pos hchanged]
    exact ⟨_, rfl⟩
  · rw [if_neg hchanged]
    exact ⟨_, rfl⟩

/-- A start that **replaces** what is shown. -/
theorem run_start_replaced (settings : RenderSettings) (s : Session) (hd : d.breakdowns = [])
    (havailable : d.available = true) {sections : Sections}
    (hsplit : Bundle.split bundle = .ok sections) :
    let run := (replace sections.vertex
      (Repair.mend sections.fragment settings.defaultPrecision).source
      (Shape.ofName sections.shapeName)
      { s with sources := some (readSources settings bundle sections) }).run
        SimulatedDevice.provider d
    ∃ notices, (start settings bundle s).run SimulatedDevice.provider d =
      { run with moments := ⟨s, .isAvailable, .ok true⟩ :: run.moments, notices } := by
  intro run
  rw [start_eq, run_requireDevice_bind hd havailable, readBundle, hsplit]
  simp only [Except.mapError, Procedure.ofExcept, pure_bind, bind_assoc, keepSources_bind_apply]
  obtain ⟨notices, htold⟩ := run_tellRepair_bind sections.fragment
    (Repair.mend sections.fragment settings.defaultPrecision)
    (fun _ => do
      keepSources (readSources settings bundle sections)
      replace sections.vertex (Repair.mend sections.fragment settings.defaultPrecision).source
        (Shape.ofName sections.shapeName))
    { s with sources := some { raw := bundle } } d
  refine ⟨notices, ?_⟩
  rw [readSources] at htold
  rw [htold]
  rfl

/-! ### Stopping twice -/

/-- Stopping does not look at the **sources**. -/
theorem stop_blind (s : Session) (sources : Option Sources) :
    stop { s with sources } = (stop s).mapState fun s => { s with sources } := by
  have hframes : onScheduler Scheduler.stop { s with sources } =
      (onScheduler Scheduler.stop s).mapState fun s => { s with sources } := by
    rw [onScheduler, zoom, zoom, Dialogue.mapState_mapState]
    rfl
  rw [stop, bind_apply, hframes]
  refine Dialogue.mapState_follow _ _ fun r s => ?_
  cases r with
  | error fault => rfl
  | ok _ =>
    show onPipeline Pipeline.teardown _ = (onPipeline Pipeline.teardown s).mapState _
    rw [onPipeline, zoom, zoom, Dialogue.mapState_mapState]
    rfl

/-- Stopping a session that is cleared **does nothing**. -/
theorem stop_cleared (h : Cleared s) : stop s = .done (.ok ()) s := by
  obtain ⟨sources, pipeline, program, clock, token, frames⟩ := s
  obtain ⟨⟨hprogram, hclock, htoken⟩, hpipeline⟩ := h
  obtain rfl : program = none := hprogram
  obtain rfl : clock = none := hclock
  obtain rfl : token = none := htoken
  obtain rfl : pipeline = {} := hpipeline
  rfl

variable {stopped : Run Device Session SimulatedDevice Unit} {next : DeviceProcedure Session Unit}

/-- What comes after a stop that came to its end. -/
theorem run_stop_bind (hrun : (stop s).run SimulatedDevice.provider d = stopped)
    (hok : stopped.result = .ok ()) (sources : Option Sources) :
    ((do stop; next) { s with sources }).run SimulatedDevice.provider d =
      let rest := (next { stopped.state with sources }).run SimulatedDevice.provider
        stopped.provider
      { rest with
        moments :=
          (stopped.moments.map fun m => ⟨{ m.state with sources }, m.call, m.reply⟩) ++ rest.moments
        notices := stopped.notices ++ rest.notices } := by
  obtain ⟨_, s', d', moments, notices⟩ := stopped
  obtain rfl : _ = Except.ok () := hok
  rw [bind_apply, Dialogue.run_follow, stop_blind, Dialogue.run_mapState, hrun]

/-- What comes after a stop that does nothing. -/
theorem stop_bind_cleared (h : Cleared s) :
    (do stop; next : DeviceProcedure Session Unit) s = next s := by
  rw [bind_apply, stop_cleared h]
  rfl

/-- **A start after a stop** that cleared the session does what the start would have done without
it, apart from the calls of the stop. -/
theorem run_restart (settings : RenderSettings)
    (hrun : (stop s).run SimulatedDevice.provider d = stopped) (hok : stopped.result = .ok ())
    (hcleared : Cleared stopped.state) (hd : d.breakdowns = []) (havailable : d.available = true)
    (hd' : stopped.provider.breakdowns = []) (havailable' : stopped.provider.available = true)
    {sections : Sections} (hsplit : Bundle.split bundle = .ok sections) :
    let first := (start settings bundle s).run SimulatedDevice.provider d
    let again := (start settings bundle stopped.state).run SimulatedDevice.provider stopped.provider
    again.result = first.result ∧ again.state = first.state ∧ again.provider = first.provider ∧
      ∃ later, again.moments.map (·.call) = .isAvailable :: later ∧
        first.moments.map (·.call) = .isAvailable :: (stopped.moments.map (·.call) ++ later) := by
  obtain ⟨notices, hfirst⟩ := run_start_replaced settings s hd havailable hsplit
  obtain ⟨notices', hagain⟩ :=
    run_start_replaced settings stopped.state hd' havailable' hsplit
  have hcleared' : Cleared { stopped.state with
      sources := some (readSources settings bundle sections) } := hcleared
  rw [hfirst, hagain, replace, run_stop_bind hrun hok, stop_bind_cleared hcleared']
  refine ⟨rfl, rfl, rfl, _, rfl, ?_⟩
  simp only [List.map_cons, List.map_append, List.map_map]
  rfl

end ShaderPreview.Session
