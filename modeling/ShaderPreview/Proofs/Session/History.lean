import ShaderPreview.Proofs.Device.Numbering
import ShaderPreview.Proofs.Session.Lockstep

/-!
# Sessions Forget

What has been through a session before it is stopped makes no difference to what comes after. Two
sessions that were stopped on devices that are set alike go through any further steps alike: what
they show, what they ask of their devices and how their operations end is the same up to one shift
of the handles and one of the tokens. Only the sources of the latest start outlast a stop, and only
until the next start that finds the device there.

A start stops what is shown before anything else is built. So a stop just before it makes no
difference either.

## Main definitions

* `Session.World`: a session on a simulated device.
* `Session.Step`, `Session.World.perform`: what can be done to one.
* `Session.Report`: what a step shows.
* `Session.World.Reached`: a world that some history led to.
* `Shift.Worlds`: two worlds in step.

## Main results

* `Session.World.Reached.stop`: a stop clears the session.
* `Shift.Worlds.perform`, `Shift.Worlds.performAll`: a step and any steps lead from worlds in step
  to worlds in step, and their reports are the same, shifted.
* `Session.World.Reached.restart`: a start after a stop does what the start does.
* `Session.forgets_history`: worlds with different histories are in step after a stop.
-/

namespace ShaderPreview

open Procedure Device

/-! ### Worlds -/

namespace Session

/-- A session **on a simulated device**. -/
structure World where
  session : Session := {}
  device : SimulatedDevice := {}

/-- What can be done to a world: its device is **set**, or its session is **operated**. -/
inductive Step where
  | configure (c : SimulatedDevice.Configuration)
  | operate (op : Operation)

/-- What a step **shows**: how it ended, with the number of callbacks if it was a refresh, the calls
that it made, and the session after it. -/
structure Report where
  result : Except Fault (Option Nat)
  calls : List Device.Call
  session : Session

/-- Carries out an operation. A refresh **gives its number**. -/
def Operation.answer (settings : RenderSettings) :
    Operation → DeviceProcedure Session (Option Nat)
  | refresh => do
    let count ← Session.refresh settings
    return some count
  | op => do
    op.carryOut settings
    return none

namespace World

variable (settings : RenderSettings)

/-- The **run of an operation** in a world. -/
def run (w : World) (op : Operation) : Run Device Session SimulatedDevice (Option Nat) :=
  (op.answer settings w.session).run SimulatedDevice.provider w.device

/-- The world **after a step**. -/
def perform (w : World) : Step → World
  | .configure c => { w with device := w.device.configure c }
  | .operate op => { session := (w.run settings op).state, device := (w.run settings op).provider }

/-- The **report of a step**. -/
def report (w : World) : Step → Report
  | .configure _ => { result := .ok none, calls := [], session := w.session }
  | .operate op => {
    result := (w.run settings op).result
    calls := (w.run settings op).moments.map (·.call)
    session := (w.run settings op).state }

/-- The world after **some steps**. -/
def performAll (w : World) (steps : List Step) : World := steps.foldl (perform settings) w

/-- The reports of **some steps**, one after another. -/
def reports (w : World) : List Step → List Report
  | [] => []
  | step :: rest => w.report settings step :: (w.perform settings step).reports rest

/-- A start that **finds the device there**. -/
def Admits (w : World) : Step → Prop
  | .operate (.start _) => w.device.available = true
  | _ => False

/-- Among some steps there is a start that **finds the device there**. -/
def AdmitsSome (w : World) : List Step → Prop
  | [] => False
  | step :: rest => w.Admits step ∨ (w.perform settings step).AdmitsSome rest

end World

/-- The calls of a step that **leave a trace**. -/
def Report.traced (r : Report) : List Device.Call := r.calls.filter (!·.isRead)

/-! ### Histories -/

variable {settings : RenderSettings} {c : SimulatedDevice.Configuration} {w : World}

/-- An operation that gives its number goes the same way. -/
theorem Operation.path_answer {δ : Type} (settings : RenderSettings) (provider : Provider Device δ)
    (op : Operation) (s : Session) (d : δ) :
    let run := (op.answer settings s).run provider d
    Dialogue.Path (op.carryOut settings s) run.moments (run.result.map fun _ => ()) run.state := by
  have hcarry : op.carryOut settings = (do
      let _ ← op.answer settings
      return ()) := by
    cases op with
    | refresh => simp only [carryOut, answer, bind_assoc, pure_bind]
    | _ => simp only [answer, bind_assoc, pure_bind, bind_pure_unit]
  have hpath := Dialogue.path_run provider (op.carryOut settings s) d
  rw [hcarry, run_bind_pure, ← hcarry] at hpath
  exact hpath

namespace World

/-- The run of an operation that has no number to give. -/
theorem run_eq (op : Operation) (hop : op ≠ .refresh) :
    w.run settings op =
      let run := (op.carryOut settings w.session).run SimulatedDevice.provider w.device
      { run with result := run.result.map fun _ => none } := by
  cases op with
  | refresh => exact absurd rfl hop
  | _ => exact run_bind_pure _ _ (fun _ => none) _ _

variable {done : Run Device Session SimulatedDevice Unit}

/-- The world after an operation that has no number to give, read off its run. -/
theorem perform_of_run (op : Operation) (hop : op ≠ .refresh)
    (hrun : (op.carryOut settings w.session).run SimulatedDevice.provider w.device = done) :
    w.perform settings (.operate op) = { session := done.state, device := done.provider } := by
  rw [perform, run_eq op hop, hrun]

/-- The report on such an operation, read off its run. -/
theorem report_of_run (op : Operation) (hop : op ≠ .refresh)
    (hrun : (op.carryOut settings w.session).run SimulatedDevice.provider w.device = done) :
    w.report settings (.operate op) = {
      result := done.result.map fun _ => none
      calls := done.moments.map (·.call)
      session := done.state } := by
  rw [report, run_eq op hop, hrun]

/-- A world that **some history** led to: its session went through some course, in which nothing was
refused, and its device counts. -/
def Reached (settings : RenderSettings) (c : SimulatedDevice.Configuration) (w : World) : Prop :=
  ∃ turns, Course settings turns w.session ∧
    (∀ t ∈ turns, ∀ m ∈ t.moments, ∃ a, m.reply = .ok a) ∧
    Numbered c (exchanges turns) w.device

/-- A new world is reached by nothing. -/
theorem reached_nil (settings : RenderSettings) : Reached settings {} {} := ⟨[], .nil, nofun, .new⟩

namespace Reached

/-- A new configuration of the device leaves a world reached. -/
theorem configure (h : Reached settings c w) (c' : SimulatedDevice.Configuration) :
    Reached settings c' (w.perform settings (.configure c')) :=
  have ⟨turns, hcourse, hanswered, hnumbered⟩ := h
  ⟨turns, hcourse, hanswered, hnumbered.configure c'⟩

/-- An operation leaves a world reached. -/
theorem operate (h : Reached settings c w) (op : Operation) :
    Reached settings c (w.perform settings (.operate op)) := by
  obtain ⟨turns, hcourse, hanswered, hnumbered⟩ := h
  have hpath := op.path_answer settings SimulatedDevice.provider w.session w.device
  have hnext := hnumbered.run (op.answer settings w.session)
  have hall := hnumbered.answered (op.answer settings w.session)
  rw [perform, World.run]
  generalize (op.answer settings w.session).run SimulatedDevice.provider w.device = run at *
  refine ⟨turns ++ [⟨op, run.moments, run.result.map fun _ => ()⟩], hcourse.turn hpath, ?_, ?_⟩
  · exact List.forall_mem_append.mpr ⟨hanswered, List.forall_mem_singleton.mpr hall⟩
  · rw [exchanges_append_singleton]
    exact hnext

/-- **Any history** leads to a world that is reached. -/
theorem performAll (h : Reached settings c w) (steps : List Step) :
    ∃ c', Reached settings c' (w.performAll settings steps) := by
  induction steps generalizing c w with
  | nil => exact ⟨c, h⟩
  | cons step rest ih =>
    cases step with
    | configure c' => exact ih (h.configure c')
    | operate op => exact ih (h.operate op)

/-- What is shown in a world that is reached is coherent. -/
theorem coherent (h : Reached settings c w) : ∃ past, Coherent past w.session :=
  have ⟨turns, hcourse, hanswered, hnumbered⟩ := h
  ⟨exchanges turns, (hcourse.situated hanswered hnumbered.created_nodup).1.1⟩

/-- A **stop** comes to its end and clears the session. -/
theorem stop (h : Reached settings c w) :
    let run := (Session.stop w.session).run SimulatedDevice.provider w.device
    run.result = .ok () ∧ Cleared run.state := by
  obtain ⟨turns, hcourse, hanswered, hnumbered⟩ := h
  obtain ⟨⟨hco, -⟩, -⟩ := hcourse.situated hanswered hnumbered.created_nodup
  have hpath := Dialogue.path_run SimulatedDevice.provider (Session.stop w.session) w.device
  have hnext := hnumbered.run (Session.stop w.session)
  have hall := hnumbered.answered (Session.stop w.session)
  generalize (Session.stop w.session).run SimulatedDevice.provider w.device = run at *
  -- a device that counts gives new handles, also while the session stops
  have hrelied : (safety Willing).Relied (exchanges turns) run.moments := by
    intro before m after he
    refine ⟨fresh_of_nodup hnext.created_nodup he, hall m ?_⟩
    rw [he]
    exact List.mem_append_right before List.mem_cons_self
  have hend := ((honours_stop_willing _ _ hco).path hpath hrelied).2
  obtain ⟨fault | _, s, d, moments, notices⟩ := run
  · exact False.elim hend
  · exact ⟨rfl, hend.2⟩

/-- After a stop the session is cleared, and the world is still reached. -/
theorem cleared (h : Reached settings c w) :
    Cleared (w.perform settings (.operate .stop)).session := by
  rw [perform_of_run .stop nofun rfl]
  exact h.stop.2

/-- Where the session is cleared no callback is left. -/
theorem entries_eq (h : Reached settings c w) (hcleared : Cleared w.session) :
    w.session.scheduler.frames.entries = [] := by
  obtain ⟨past, hco⟩ := h.coherent
  rw [hco.kept.entries_eq, hcleared.1.2.2]
  rfl

end Reached

end World

end Session

/-! ### Worlds in step -/

/-- The result of a step **is the other one**: it is the same, or the fault is shifted. -/
inductive Shift.Results {α : Type} (k : Shift) : Except Fault α → Except Fault α → Prop
  | ok (a : α) : k.Results (.ok a) (.ok a)
  | error {fault fault' : Fault} (h : k.Faults fault fault') :
      k.Results (.error fault) (.error fault')

/-- A report **is the other one**: everything is the same, apart from handles and tokens, which are
shifted. -/
structure Session.Report.Shifted (k : Shift) (r r' : Session.Report) : Prop where
  result_rel : k.Results r.result r'.result
  calls_rel : List.Forall₂ k.Calls r.calls r'.calls
  status_eq : r'.session.status = r.session.status
  rendering_eq : r'.session.rendering = r.session.rendering
  shape_eq : r'.session.shape = r.session.shape
  program_eq : r'.session.program = r.session.program.map k.program
  clock_eq : r'.session.scheduler.clock = r.session.scheduler.clock

/-- Two worlds are **in step** above a floor. -/
structure Shift.Worlds (k : Shift) (floor : Handle) (known : Prop) (w w' : Session.World) :
    Prop where
  sessions : k.Sessions floor known w.session w'.session
  devices : k.Devices floor w.device w'.device

namespace Shift

open Session

variable {settings : RenderSettings} {c : SimulatedDevice.Configuration} {w w' : World} {k : Shift}
  {floor : Handle} {known : Prop}

/-- Procedures that end alike have results that are the same, shifted, and related states. -/
theorem Ends.results {σ α : Type} {R : σ → σ → Prop} {r r' : Except Fault α} {s s' : σ}
    (h : k.Ends R (fun a a' => a = a') r s r' s') : k.Results r r' ∧ R s s' := by
  match r, r', h with
  | .ok a, .ok _, ⟨rfl, hs⟩ => exact ⟨.ok a, hs⟩
  | .error _, .error _, ⟨hfault, hs⟩ => exact ⟨.error hfault, hs⟩

/-- The reports of sessions in step. -/
theorem Sessions.shifted {s s' : Session} {result result' : Except Fault (Option Nat)}
    {calls calls' : List Device.Call} (hs : k.Sessions floor known s s')
    (hresult : k.Results result result') (hcalls : List.Forall₂ k.Calls calls calls') :
    Report.Shifted k ⟨result, calls, s⟩ ⟨result', calls', s'⟩ := by
  have hprogram : s'.program = s.program.map k.program := congrArg (·.program) hs.pipeline_rel
  refine ⟨hresult, hcalls, congrArg (·.phase) hs.pipeline_rel, ?_, ?_, hprogram,
    hs.scheduler_rel.clock_eq⟩
  · have htoken := hs.scheduler_rel.token_rel
    rw [rendering, rendering, Scheduler.running, Scheduler.running]
    generalize s.scheduler.token = token at htoken
    generalize s'.scheduler.token = token' at htoken
    cases htoken with
    | none => rfl
    | some _ => rfl
  · show s'.program.map _ = s.program.map _
    rw [hprogram, Option.map_map]
    rfl

namespace Worlds

/-- The runs of an operation in worlds in step. -/
theorem runs (h : k.Worlds floor known w w') (settings : RenderSettings) (op : Operation) :
    k.Runs floor (k.Sessions floor (known ∨ w.Admits (.operate op))) (fun a a' => a = a')
      (w.run settings op) (w'.run settings op) := by
  -- a start can make the sources the same, the others leave them alone
  have hforget : k.Sessions floor (known ∨ False) w.session w'.session :=
    h.sessions.forget (Or.resolve_right · id)
  cases op with
  | start bundle =>
    refine (runs_start h.sessions h.devices).follow fun r s r' s' d d' hends hd => ?_
    match r, r', hends with
    | .ok _, .ok _, ⟨_, hs⟩ => exact ⟨hd, .nil, rfl, hs⟩
    | .error _, .error _, hends => exact ⟨hd, .nil, hends⟩
  | stop =>
    exact (follows_stop.bind fun _ _ _ => follows_pure rfl) _ _ _ _ hforget h.devices
  | refresh =>
    exact (follows_refresh.bind fun n n' hn => follows_pure (congrArg some hn)) _ _ _ _ hforget
      h.devices
  | renderFrame =>
    exact (follows_renderFrame.bind fun _ _ _ => follows_pure rfl) _ _ _ _ hforget h.devices

/-- **A step** is reported alike, and leads to worlds in step. -/
theorem perform (h : k.Worlds floor known w w') (settings : RenderSettings) (step : Step) :
    Report.Shifted k (w.report settings step) (w'.report settings step) ∧
      k.Worlds floor (known ∨ w.Admits step) (w.perform settings step)
        (w'.perform settings step) := by
  cases step with
  | configure c =>
    exact ⟨h.sessions.shifted (.ok none) .nil, h.sessions.forget (Or.resolve_right · id),
      h.devices.configure c⟩
  | operate op =>
    obtain ⟨hdevices, hcalls, hends⟩ := h.runs settings op
    obtain ⟨hresult, hsessions⟩ := hends.results
    exact ⟨hsessions.shifted hresult hcalls, hsessions, hdevices⟩

/-- **Any steps** are reported alike, and lead to worlds in step. -/
theorem performAll (h : k.Worlds floor known w w') (settings : RenderSettings)
    (steps : List Step) :
    List.Forall₂ (Report.Shifted k) (w.reports settings steps) (w'.reports settings steps) ∧
      k.Worlds floor (known ∨ w.AdmitsSome settings steps) (w.performAll settings steps)
        (w'.performAll settings steps) := by
  induction steps generalizing known w w' with
  | nil => exact ⟨.nil, h.sessions.forget (Or.resolve_right · id), h.devices⟩
  | cons step rest ih =>
    obtain ⟨hreport, hnext⟩ := h.perform settings step
    obtain ⟨hreports, hsessions, hdevices⟩ := ih hnext
    exact ⟨.cons hreport hreports, hsessions.forget or_assoc.mpr, hdevices⟩

end Worlds

/-- A handle beyond one counter, shifted, is beyond the other. -/
theorem lt_add_sub {last last' h : Int} (hlt : last < h) : last' < h + (last' - last) := by omega

/-- Cleared worlds whose devices are set alike are in step, whatever led to them. -/
theorem worlds_of_reached (h : w.Reached settings c) (h' : w'.Reached settings c)
    (hcleared : Cleared w.session) (hcleared' : Cleared w'.session) :
    ∃ k : Shift, k.Worlds w.device.lastHandle False w w' := by
  obtain ⟨⟨hprogram, hclock, htoken⟩, hpipeline⟩ := id hcleared
  obtain ⟨⟨hprogram', hclock', htoken'⟩, hpipeline'⟩ := id hcleared'
  have hentries := h.entries_eq hcleared
  have hentries' := h'.entries_eq hcleared'
  obtain ⟨turns, -, -, hnumbered⟩ := h
  obtain ⟨turns', -, -, hnumbered'⟩ := h'
  let k : Shift := {
    handles := w'.device.lastHandle - w.device.lastHandle
    tokens := w'.session.scheduler.frames.nextToken - w.session.scheduler.frames.nextToken }
  refine ⟨k, ⟨?_, ?_, False.elim⟩, ?_⟩
  · exact hpipeline'.trans (congrArg k.pipeline hpipeline).symm
  · refine ⟨?_, ?_, hclock'.trans hclock.symm, ?_, ?_, ?_⟩
    · rw [hprogram, hprogram']
      rfl
    · intro p hp
      rw [hprogram] at hp
      cases hp
    · rw [htoken, htoken']
      exact .none
    · rw [Tables, hentries, hentries']
      exact .nil
    · show (w'.session.scheduler.frames.nextToken : Int) = _ + (_ - _)
      omega
  · refine ⟨?_, hnumbered.unbroken, hnumbered'.unbroken, Int.le_refl _, ?_, ?_, ?_, ?_⟩
    · exact hnumbered'.configuration_eq.trans hnumbered.configuration_eq.symm
    · exact ((Int.add_comm _ _).trans (Int.sub_add_cancel _ _)).symm
    -- beyond its counter neither device keeps anything yet
    · intro handle hlt
      rw [hnumbered.shaders_unused handle hlt, hnumbered'.shaders_unused _ (lt_add_sub hlt)]
    · intro handle hlt
      rw [hnumbered.programs_unused handle hlt, hnumbered'.programs_unused _ (lt_add_sub hlt)]
      rfl
    · intro handle p hlt hp
      rw [hnumbered.programs_unused handle hlt] at hp
      cases hp

end Shift

/-! ### Forgetting -/

namespace Session

variable {settings : RenderSettings} {c : SimulatedDevice.Configuration} {w : World}
  {bundle : String}

/-- In a world that is reached, **a start after a stop** leads where the start leads, and leaves the
same trace. -/
theorem World.Reached.restart (h : w.Reached settings c) (havailable : w.device.available = true)
    {sections : Sections} (hsplit : Bundle.split bundle = .ok sections) :
    let stop := Step.operate .stop
    let start := Step.operate (.start bundle)
    w.performAll settings [stop, start] = w.perform settings start ∧
      ((w.perform settings stop).report settings start).result = (w.report settings start).result ∧
      (w.reports settings [stop, start]).flatMap Report.traced =
        (w.report settings start).traced := by
  intro stop start
  obtain ⟨hok, hcleared⟩ := h.stop
  generalize hrun : (Session.stop w.session).run SimulatedDevice.provider w.device = stopped
    at hok hcleared
  have hstop : w.perform settings stop = ⟨stopped.state, stopped.provider⟩ :=
    World.perform_of_run .stop nofun hrun
  have hstopped : w.report settings stop = ⟨_, stopped.moments.map (·.call), _⟩ :=
    World.report_of_run .stop nofun hrun
  have hreached : World.Reached settings c ⟨stopped.state, stopped.provider⟩ :=
    hstop ▸ h.operate .stop
  obtain ⟨_, -, -, hnumbered⟩ := h
  obtain ⟨_, -, -, hnumbered'⟩ := hreached
  have havailable' : stopped.provider.available = true := by
    have hsame := hnumbered'.configuration_eq.trans hnumbered.configuration_eq.symm
    exact (congrArg (·.available) hsame).trans havailable
  have hrestart := run_restart settings hrun hok hcleared hnumbered.unbroken
    havailable hnumbered'.unbroken havailable' hsplit
  generalize hfirst : (Session.start settings bundle w.session).run SimulatedDevice.provider
    w.device = first at hrestart
  generalize hagain : (Session.start settings bundle stopped.state).run SimulatedDevice.provider
    stopped.provider = again at hrestart
  obtain ⟨hresult, hstate, hprovider, later, hlater, hcalls⟩ := hrestart
  have hperform' : World.perform settings ⟨stopped.state, stopped.provider⟩ start = _ :=
    World.perform_of_run (.start bundle) nofun hagain
  have hreport : w.report settings start = _ := World.report_of_run (.start bundle) nofun hfirst
  have hreport' : World.report settings ⟨stopped.state, stopped.provider⟩ start = _ :=
    World.report_of_run (.start bundle) nofun hagain
  refine ⟨?_, ?_, ?_⟩
  · show (w.perform settings stop).perform settings start = _
    rw [hstop, hperform', World.perform_of_run (.start bundle) nofun hfirst, hstate, hprovider]
  · rw [hstop, hreport, hreport', hresult]
  · show List.flatMap Report.traced
      [w.report settings stop, (w.perform settings stop).report settings start] = _
    rw [hstop, hstopped, hreport, hreport']
    simp only [List.flatMap_cons, List.flatMap_nil, List.append_nil, Report.traced, hlater, hcalls]
    -- the question whether the device is there comes before the stop or after it, untraced
    have hread : ∀ calls : List Device.Call, (Call.isAvailable :: calls).filter (!·.isRead) =
        calls.filter (!·.isRead) := fun _ => rfl
    rw [hread, hread, List.filter_append]

/-- **A session forgets its history.** Take two new sessions with the same settings, each on a new
simulated device, and let each go through a history of its own. Then set both devices alike and stop
both sessions. From then on, whatever steps they go through together, all that these show is the
same up to one shift of handles and one of tokens, and from the first start that finds the device
there the sources are the same as well. Moreover, after any history, a start of a bundle that can
be taken apart, on a device that is there, leads to the same world as a stop and then that start,
ends in the same way, and leaves the same trace of calls. -/
theorem forgets_history (settings : RenderSettings) (first second : List Step)
    (c : SimulatedDevice.Configuration) :
    let w := ({} : World).performAll settings (first ++ [.configure c, .operate .stop])
    let w' := ({} : World).performAll settings (second ++ [.configure c, .operate .stop])
    let u := ({} : World).performAll settings first
    (∃ k : Shift, ∀ steps,
      List.Forall₂ (Report.Shifted k) (w.reports settings steps) (w'.reports settings steps) ∧
        (w.AdmitsSome settings steps → (w'.performAll settings steps).session.sources =
          (w.performAll settings steps).session.sources)) ∧
      ∀ bundle sections, u.device.available = true → Bundle.split bundle = .ok sections →
        u.performAll settings [.operate .stop, .operate (.start bundle)] =
            u.perform settings (.operate (.start bundle)) ∧
          ((u.perform settings (.operate .stop)).report settings
            (.operate (.start bundle))).result =
            (u.report settings (.operate (.start bundle))).result ∧
          (u.reports settings [.operate .stop, .operate (.start bundle)]).flatMap Report.traced =
            (u.report settings (.operate (.start bundle))).traced := by
  intro w w' u
  obtain ⟨_, hfirst⟩ := (World.reached_nil settings).performAll first
  obtain ⟨_, hsecond⟩ := (World.reached_nil settings).performAll second
  refine ⟨?_, fun bundle sections havailable hsplit => hfirst.restart havailable hsplit⟩
  have hw : w = (u.perform settings (.configure c)).perform settings (.operate .stop) :=
    List.foldl_append
  have hw' : w' = ((({} : World).performAll settings second).perform settings
      (.configure c)).perform settings (.operate .stop) := List.foldl_append
  rw [hw, hw']
  obtain ⟨k, hworlds⟩ := Shift.worlds_of_reached ((hfirst.configure c).operate .stop)
    ((hsecond.configure c).operate .stop) (hfirst.configure c).cleared (hsecond.configure c).cleared
  refine ⟨k, fun steps => ?_⟩
  obtain ⟨hreports, hlater⟩ := hworlds.performAll settings steps
  exact ⟨hreports, fun hadmits => hlater.sessions.sources_eq (.inr hadmits)⟩

/-- A session that showed the bare bundle and was stopped starts it again with the same sources as a
session that showed nothing before; and a new session starts it in the same way if it is stopped
first. -/
theorem forgets_history_bareBundle :
    let w := ({} : World).performAll {} ([] ++ [.configure {}, .operate .stop])
    let w' := ({} : World).performAll {}
      ([.operate (.start bareBundle)] ++ [.configure {}, .operate .stop])
    w.AdmitsSome {} [.operate (.start bareBundle)] ∧
      (w'.performAll {} [.operate (.start bareBundle)]).session.sources =
        (w.performAll {} [.operate (.start bareBundle)]).session.sources ∧
      ({} : World).device.available = true ∧ Bundle.split bareBundle = .ok ⟨"cube", "", ""⟩ ∧
      (({} : World).performAll {} []).performAll {}
          [.operate .stop, .operate (.start bareBundle)] =
        (({} : World).performAll {} []).perform {} (.operate (.start bareBundle)) := by
  have hadmits : World.AdmitsSome {}
      (({} : World).performAll {} ([] ++ [.configure {}, .operate .stop]))
      [.operate (.start bareBundle)] := .inl rfl
  obtain ⟨⟨k, hforgets⟩, hrestart⟩ := forgets_history {} [] [.operate (.start bareBundle)] {}
  exact ⟨hadmits, (hforgets _).2 hadmits, rfl, split_bareBundle,
    hrestart bareBundle _ rfl split_bareBundle |>.1⟩

end Session

end ShaderPreview
