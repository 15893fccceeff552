import ShaderPreview.Proofs.Frame.Conduct
import ShaderPreview.Proofs.Session.Parts

/-!
# The Safety of Sessions

A session's scheduler draws with handles that its pipeline owns, and a callback of the display may
come at any time. So a session is **coherent** as long as the scheduler keeps to what the pipeline
owns: a callback is registered only with a scheduler that has the pipeline's program. The scheduler
and the pipeline each keep to a contract of their own. While one of them is at work the other does
not change, and the pipeline is at work only while there is no callback.

A start goes through the device, the bundle, what was shown before, the build and the first frame.
Where it fails, what it leaves is known from where that was.

## Main definitions

* `Session.safety`: the contract on handles and on what is shown.
* `Session.Coherent`: the scheduler keeps to what the pipeline owns.
* `Session.StartFailed`: how a start fails.
* `Session.Operation`: what can be asked of a session, and what the display asks of it.

## Main results

* `Session.honours_onScheduler`, `Session.honours_onPipeline`: what the scheduler or the pipeline
  keeps to is safe for the session.
* `Session.honours_stop`, `Session.honours_start`: where stopping and starting lead.
* `Session.handles_live`: over any operations no dead handle is used or deleted.
-/

namespace ShaderPreview.Session

open Procedure Device

variable {relies : List (Exchange Device) → Exchange Device → Prop} {w : Session} {n : Nat}
  {α : Type}

/-! ### The contract -/

/-- Where a callback is registered, the scheduler's program is the pipeline's, and all its handles
are **live**. -/
def Shown (past : List (Exchange Device)) (s : Session) : Prop :=
  (callbacks past).entries ≠ [] → ∃ p, s.scheduler.program = some p ∧
    s.pipeline.program = some p ∧ ∀ o ∈ p.owned, o ∈ live past

/-- A session's **contract**: each handle that a call takes is live, and so is what is shown. -/
def safety (relies : List (Exchange Device) → Exchange Device → Prop) :
    Contract Device Session where
  relies := relies
  guarantees past s call := (∀ o ∈ call.uses, o ∈ live past) ∧ Shown past s

/-- A session is **coherent** when its scheduler keeps to what its pipeline owns, and its pipeline
is tidy. -/
structure Coherent (past : List (Exchange Device)) (s : Session) : Prop where
  kept : Scheduler.Kept s.pipeline.owned s.pipeline.program past s.scheduler
  tidy : s.pipeline.Tidy

/-- A scheduler that keeps to a pipeline has a callback only with a live program. -/
theorem shown_of_kept {past : List (Exchange Device)} {s : Session}
    (h : Scheduler.Kept s.pipeline.owned s.pipeline.program past s.scheduler) : Shown past s := by
  intro hentries
  rw [h.callbacks_eq, h.entries_eq] at hentries
  have htoken : s.scheduler.token.isSome := by
    rcases htoken : s.scheduler.token with _ | token
    · rw [htoken] at hentries
      exact absurd rfl hentries
    · rfl
  obtain ⟨p, hp⟩ := Option.isSome_iff_exists.mp (h.program_of_token htoken)
  obtain ⟨hshown, howned⟩ := h.shown_of_program p hp
  refine ⟨p, hp, hshown, fun o ho => h.stands.mem_live_iff.mpr ?_⟩
  rw [howned]
  exact ho

/-- What the scheduler keeps to, the session **keeps safe**. -/
theorem honours_onScheduler {p : DeviceProcedure Scheduler α}
    {pre : List (Exchange Device) → Scheduler → Prop}
    {ok : List (Exchange Device) → α → Scheduler → Prop}
    {err : List (Exchange Device) → Fault → Scheduler → Prop}
    (hp : Honours (Scheduler.conduct relies w.pipeline.owned w.pipeline.program) pre p ok err) :
    Honours (safety relies) (fun past s => s = w ∧ pre past s.scheduler) (onScheduler p)
      (fun past a s => ∃ q, s = { w with scheduler := q } ∧ ok past a q)
      (fun past fault s => ∃ q, s = { w with scheduler := q } ∧ err past fault q) := by
  have hunder :
      Honours ((safety relies).under fun q => { w with scheduler := q }) pre p ok err := by
    refine hp.recontract (fun _ _ h => h) ?_
    rintro past q call ⟨hkept, huses⟩
    exact ⟨fun o ho => hkept.stands.mem_live_iff.mpr (huses ho),
      shown_of_kept (s := { w with scheduler := q }) hkept⟩
  exact Honours.zoom (hunder.weaken (fun past a q h => ⟨q, rfl, h⟩) fun past fault q h =>
    ⟨q, rfl, h⟩) fun past h => h

/-- What the pipeline accounts for is **safe** while there is no callback. -/
theorem honours_onPipeline {p : DeviceProcedure Pipeline α} {sched : List (Exchange Device)}
    {pre : List (Exchange Device) → Pipeline → Prop}
    {ok : List (Exchange Device) → α → Pipeline → Prop}
    {err : List (Exchange Device) → Fault → Pipeline → Prop}
    (hsched : (callbacks sched).entries = [])
    (hp : Honours (Pipeline.accounting relies sched) pre p ok err) :
    Honours (safety relies) (fun past s => s = w ∧ pre past s.pipeline) (onPipeline p)
      (fun past a s => ∃ q, s = { w with pipeline := q } ∧ ok past a q)
      (fun past fault s => ∃ q, s = { w with pipeline := q } ∧ err past fault q) := by
  have hunder : Honours ((safety relies).under fun q => { w with pipeline := q }) pre p ok err := by
    refine hp.recontract (fun _ _ h => h) ?_
    rintro past q call ⟨-, huses, hscheduling⟩
    refine ⟨huses, fun hentries => ?_⟩
    rw [← callbacks_scheduling, hscheduling] at hentries
    exact absurd hsched hentries
  exact Honours.zoom (hunder.weaken (fun past a q h => ⟨q, rfl, h⟩) fun past fault q h =>
    ⟨q, rfl, h⟩) fun past h => h

/-! ### Stopping -/

/-- A session that shows **nothing**. -/
def Cleared (s : Session) : Prop := s.scheduler.Idle ∧ s.pipeline = {}

/-- Giving back what there is **may be refused**. -/
def ClearingRefusable (relies : List (Exchange Device) → Exchange Device → Prop) : Prop :=
  Pipeline.DeletionRefusable relies ∨ Scheduler.CancelRefusable relies

/-- Stopping **clears** a session, unless a cancellation or a deletion is refused. -/
theorem honours_stop :
    Honours (safety relies) (fun past s => Coherent past s ∧ frameRefusals past = n) stop
      (fun past _ s => Coherent past s ∧ Cleared s ∧ frameRefusals past = n)
      (fun past _ s => Coherent past s ∧ ClearingRefusable relies) := by
  rintro past w ⟨⟨hkept, htidy⟩, hn⟩
  rw [stop]
  have hframes : Honours (safety relies)
      (fun past s => s = w ∧ Scheduler.At w.pipeline.owned w.pipeline.program n w.scheduler past
        s.scheduler)
      (onScheduler Scheduler.stop)
      (fun past _ s => ∃ q, s = { w with scheduler := q } ∧ q.Idle ∧
        Scheduler.Kept w.pipeline.owned w.pipeline.program past q ∧ frameRefusals past = n)
      (fun past _ s => Coherent past s ∧ ClearingRefusable relies) := by
    refine (honours_onScheduler Scheduler.honours_stop).weaken_err ?_
    rintro past fault s ⟨q, rfl, hrefusable, rfl, h, -⟩
    exact ⟨⟨h, htidy⟩, .inr hrefusable⟩
  refine Honours.bind hframes (fun _ => ?_) past w ⟨rfl, rfl, hkept, hn⟩
  rintro past _ ⟨q, rfl, hidle, hkept, hn⟩
  have hnone : (callbacks (scheduling past)).entries = [] := by
    rw [callbacks_scheduling]
    exact hkept.entries_callbacks hidle.2.2
  refine (honours_onPipeline hnone Pipeline.honours_teardown).weaken ?_ ?_ past _
    ⟨rfl, rfl, hkept.stands, rfl⟩
  · rintro past' _ s ⟨p, rfl, rfl, hstands, hsched⟩
    exact ⟨⟨hkept.of_idle hidle hstands hsched, fun _ => rfl⟩, ⟨hidle, rfl⟩,
      (frameRefusals_congr hsched).trans hn⟩
  · rintro past' fault s ⟨p, rfl, h⟩
    obtain ⟨⟨-, hstands, hsched⟩, htidy, hrefusable⟩ := h.tidy htidy
    exact ⟨⟨hkept.of_idle hidle hstands hsched, htidy⟩, .inl hrefusable⟩

/-! ### Starting -/

/-- The absence of the device is **among what is relied on**. -/
def AbsenceRelied (relies : List (Exchange Device) → Exchange Device → Prop) : Prop :=
  ∃ past reply, reply ≠ .ok true ∧ relies past ⟨.isAvailable, reply⟩

/-- A session that is coherent after a number of refused calls about frames. -/
def Ready (n : Nat) (past : List (Exchange Device)) (s : Session) : Prop :=
  Coherent past s ∧ frameRefusals past = n

/-- A session stays coherent when it asks for the device, which may be absent only where that is
relied on. -/
theorem honours_requireDevice :
    Honours (safety relies) (Ready n) requireDevice (fun past _ s => Ready n past s)
      (fun past _ s => Coherent past s ∧ AbsenceRelied relies) := by
  have hkeep : ∀ past s reply, Ready n past s → Ready n (past ++ [⟨.isAvailable, reply⟩]) s := by
    rintro past s reply ⟨⟨hkept, htidy⟩, hn⟩
    refine ⟨⟨hkept.keep rfl fun _ => rfl, htidy⟩, ?_⟩
    rw [frameRefusals_append_singleton, hn]
    cases reply <;> rfl
  have hask : Honours (safety relies) (Ready n) (Device.ask .isAvailable)
      (fun past (available : Bool) s => Ready n past s ∧ (available = false → AbsenceRelied relies))
      (fun past _ s => Coherent past s ∧ AbsenceRelied relies) := by
    refine honours_perform ?_ ?_ ?_
    · rintro past s ⟨hco, -⟩
      exact ⟨fun o ho => absurd ho List.not_mem_nil, shown_of_kept hco.kept⟩
    · intro past s available h hrelied
      refine ⟨hkeep past s _ h, fun hfalse => ⟨past, .ok available, ?_, hrelied⟩⟩
      rw [hfalse]
      exact nofun
    · intro past s fault h hrelied
      exact ⟨(hkeep past s _ h).1, past, .error fault, nofun, hrelied⟩
  rw [requireDevice]
  refine Honours.bind hask fun available => ?_
  cases available with
  | true => exact honours_pure fun _ _ h => h.1
  | false => exact honours_fail fun _ _ h => ⟨h.1.1, h.2 rfl⟩

/-- New sources leave a session coherent. -/
theorem honours_keepSources {sources : Sources}
    {err : List (Exchange Device) → Fault → Session → Prop} :
    Honours (safety relies) (Ready n) (keepSources sources) (fun past _ s => Ready n past s)
      err := by
  refine honours_update ?_
  rintro past s ⟨⟨hkept, htidy⟩, hn⟩
  exact ⟨⟨hkept, htidy⟩, hn⟩

/-- A bundle is read, or it cannot be taken apart. -/
theorem honours_readBundle {settings : RenderSettings} {bundle : String} :
    Honours (safety relies) (Ready n) (readBundle settings bundle) (fun past _ s => Ready n past s)
      (fun past _ s => Coherent past s ∧ ∃ fault, Bundle.split bundle = .error fault) := by
  have hsplit : Honours (safety relies) (Ready n)
      (ofExcept ((Bundle.split bundle).mapError fun fault => .pipeline (.bundle fault)))
      (fun past _ s => Ready n past s)
      (fun past _ s => Coherent past s ∧ ∃ fault, Bundle.split bundle = .error fault) := by
    refine honours_ofExcept fun past s h => ?_
    rcases hsplit : Bundle.split bundle with fault | sections
    · exact ⟨h.1, fault, rfl⟩
    · exact h
  rw [readBundle]
  refine Honours.bind honours_keepSources fun _ => ?_
  refine Honours.bind hsplit fun sections => ?_
  generalize Repair.mend sections.fragment settings.defaultPrecision = repair
  refine Honours.bind honours_tellRepair fun _ => ?_
  exact Honours.bind honours_keepSources fun _ => honours_pure fun _ _ h => h

/-- **How a start fails**: the device is not there; the bundle cannot be taken apart; what was shown
before cannot be cleared; the build fails, and nothing is left; or the program is built, but one
call about its frames is refused. -/
inductive StartFailed (relies : List (Exchange Device) → Exchange Device → Prop) (bundle : String)
    (n : Nat) (past : List (Exchange Device)) (s : Session) : Prop
  | absent (h : AbsenceRelied relies)
  | unreadable (h : ∃ fault, Bundle.split bundle = .error fault)
  | notCleared (h : ClearingRefusable relies)
  | notBuilt (hidle : s.scheduler.Idle) (hpipeline : s.pipeline = { phase := .failed })
      (hn : frameRefusals past = n)
  | notRunning (p : Program) (htoken : s.scheduler.token = none)
      (hpipeline : s.pipeline = { phase := .active, owned := p.owned, program := some p })
      (hn : frameRefusals past = n + 1)

/-- A session that **runs** a program. -/
def Runs (p : Program) (s : Session) : Prop :=
  s.scheduler.token.isSome ∧ s.scheduler.clock.isSome ∧ s.scheduler.program = some p ∧
    s.pipeline = { phase := .active, owned := p.owned, program := some p }

/-- A session whose program is **built**, and that is about to run it. -/
def Built (n : Nat) (p : Program) (past : List (Exchange Device)) (s : Session) : Prop :=
  s.scheduler.Idle ∧ s.pipeline = { phase := .active, owned := p.owned, program := some p } ∧
    Scheduler.Kept p.owned (some p) past s.scheduler ∧ frameRefusals past = n

/-- A session in which a build failed and **nothing is left**. -/
def NotBuilt (n : Nat) (past : List (Exchange Device)) (s : Session) : Prop :=
  s.scheduler.Idle ∧ s.pipeline = { phase := .failed } ∧ frameRefusals past = n

/-- A cleared session builds, or nothing is left, unless a deletion is refused. -/
theorem honours_onPipeline_build {vertex fragment : String} {shape : Shape}
    (hnew : GivesNew relies) :
    Honours (safety relies)
      (fun past s => Coherent past s ∧ Cleared s ∧ frameRefusals past = n)
      (onPipeline (Pipeline.build vertex fragment shape)) (fun past p s => Built n p past s)
      (fun past _ s => Coherent past s ∧
        (NotBuilt n past s ∨ Pipeline.DeletionRefusable relies)) := by
  rintro past ⟨sources, pipeline, q⟩ ⟨⟨hkept, -⟩, ⟨hidle, hempty⟩, hn⟩
  obtain rfl : pipeline = {} := hempty
  have hnone : (callbacks (scheduling past)).entries = [] := by
    rw [callbacks_scheduling]
    exact hkept.entries_callbacks hidle.2.2
  refine (honours_onPipeline hnone (Pipeline.honours_build hnew fun _ => rfl)).weaken ?_ ?_ past _
    ⟨rfl, rfl, hkept.stands, rfl⟩
  · rintro past' p s ⟨_, rfl, rfl, hstands, hsched⟩
    exact ⟨hidle, rfl, hkept.of_idle hidle hstands hsched, (frameRefusals_congr hsched).trans hn⟩
  · rintro past' fault s ⟨p, rfl, ⟨-, hstands, hsched⟩, htidy, hfailed⟩
    refine ⟨⟨hkept.of_idle hidle hstands hsched, htidy⟩, ?_⟩
    rcases hfailed with rfl | hrefusable
    · exact .inl ⟨hidle, rfl, (frameRefusals_congr hsched).trans hn⟩
    · exact .inr hrefusable

/-- A cleared session builds or fails, and a failure is explained. -/
theorem honours_build {vertex fragment bundle : String} {shape : Shape} (hnew : GivesNew relies) :
    Honours (safety relies)
      (fun past s => Coherent past s ∧ Cleared s ∧ frameRefusals past = n)
      ((onPipeline (Pipeline.build vertex fragment shape)).handle explain)
      (fun past p s => Built n p past s)
      (fun past _ s => Coherent past s ∧ StartFailed relies bundle n past s) := by
  refine ((honours_onPipeline_build hnew).weaken_err ?_).handle
    fun fault => honours_explain
  rintro past fault s ⟨hco, ⟨hidle, hpipeline, hn⟩ | hrefusable⟩
  · exact ⟨hco, .notBuilt hidle hpipeline hn⟩
  · exact ⟨hco, .notCleared (.inl hrefusable)⟩

/-- What is built runs, unless a call about its frames is refused. -/
theorem honours_run {bundle : String} {p : Program} :
    Honours (safety relies) (Built n p) (onScheduler (Scheduler.start p))
      (fun past _ s => Ready n past s ∧ Runs p s)
      (fun past _ s => Coherent past s ∧ StartFailed relies bundle n past s) := by
  rintro past ⟨sources, pipeline, q⟩ ⟨hidle, hpipeline, hkept, hn⟩
  obtain rfl : pipeline = { phase := .active, owned := p.owned, program := some p } := hpipeline
  refine (honours_onScheduler (Scheduler.honours_start hidle)).weaken ?_ ?_ past _
    ⟨rfl, rfl, hkept, hn⟩
  · rintro past' _ s ⟨q', rfl, htoken, hclock, hprogram, hkept, hn⟩
    exact ⟨⟨⟨hkept, nofun⟩, hn⟩, htoken, hclock, hprogram, rfl⟩
  · rintro past' fault s ⟨q', rfl, htoken, hkept, hn⟩
    exact ⟨⟨hkept, nofun⟩, .notRunning p htoken rfl hn⟩

/-- A **start** that comes to its end runs a program. -/
theorem honours_start {settings : RenderSettings} {bundle : String} (hnew : GivesNew relies) :
    Honours (safety relies) (Ready n) (start settings bundle)
      (fun past _ s => Ready n past s ∧ ∃ p, Runs p s)
      (fun past _ s => Coherent past s ∧ StartFailed relies bundle n past s) := by
  rw [start]
  refine Honours.bind (honours_requireDevice.weaken_err
    fun _ _ _ h => ⟨h.1, .absent h.2⟩) fun _ => ?_
  refine Honours.bind (honours_readBundle.weaken_err
    fun _ _ _ h => ⟨h.1, .unreadable h.2⟩) fun parts => ?_
  refine Honours.bind (honours_stop.weaken_err fun _ _ _ h => ⟨h.1, .notCleared h.2⟩) fun _ => ?_
  refine Honours.bind (honours_build hnew) fun p => ?_
  exact honours_run.weaken_ok fun _ _ _ h => ⟨h.1, p, h.2⟩

/-! ### One operation after another -/

/-- What can be **asked of a session**, and what the display asks of it. -/
inductive Operation where
  | start (bundle : String)
  | stop
  | refresh
  | renderFrame

/-- Carries out an operation. -/
def Operation.carryOut (settings : RenderSettings) : Operation → DeviceProcedure Session Unit
  | start bundle => Session.start settings bundle
  | stop => Session.stop
  | refresh => do
    let _ ← Session.refresh settings
    return ()
  | renderFrame => Session.renderFrame settings

/-- An operation leaves a session coherent, however it ends. -/
theorem keeps_carryOut {settings : RenderSettings} (hnew : GivesNew relies) (op : Operation) :
    Keeps (safety relies) Coherent (op.carryOut settings) := by
  rintro past w h
  have hscheduler : ∀ {α : Type} {p : DeviceProcedure Scheduler α},
      Keeps (Scheduler.conduct relies w.pipeline.owned w.pipeline.program)
        (Scheduler.Kept w.pipeline.owned w.pipeline.program) p →
      Honours (safety relies) (fun past s => s = w ∧
        Scheduler.Kept w.pipeline.owned w.pipeline.program past s.scheduler) (onScheduler p)
        (fun past _ s => Coherent past s) (fun past _ s => Coherent past s) := by
    intro α p hp
    refine (honours_onScheduler hp).weaken ?_ ?_
    · rintro past _ s ⟨q, rfl, hkept⟩
      exact ⟨hkept, h.tidy⟩
    · rintro past fault s ⟨q, rfl, hkept⟩
      exact ⟨hkept, h.tidy⟩
  cases op with
  | start bundle =>
    exact (honours_start hnew).weaken (fun _ _ _ h => h.1.1) (fun _ _ _ h => h.1) past w ⟨h, rfl⟩
  | stop => exact honours_stop.weaken (fun _ _ _ h => h.1) (fun _ _ _ h => h.1) past w ⟨h, rfl⟩
  | refresh =>
    exact Honours.bind (hscheduler Scheduler.keeps_refresh)
      (fun _ => honours_pure fun _ _ h => h) past w ⟨rfl, h.kept⟩
  | renderFrame => exact hscheduler Scheduler.keeps_renderFrame past w ⟨rfl, h.kept⟩

/-- A new session is coherent. -/
theorem coherent_nil : Coherent [] {} :=
  ⟨⟨stands_nil, rfl, rfl, nofun, fun p hp => by cases hp⟩, fun _ => rfl⟩

/-- Operations one after another leave a session coherent, and each of their calls is safe. -/
theorem safe_of_path {settings : RenderSettings} {ops : List Operation}
    {moments : List (Moment Device Session)} {results : Except Fault (List (Except Fault Unit))}
    {s : Session}
    (hpath : Dialogue.Path (attemptAll (ops.map (Operation.carryOut settings)) {}) moments
      results s)
    (hnew : (created (moments.map Moment.exchange)).Nodup) :
    (safety Fresh).Guaranteed [] moments ∧ Coherent (moments.map Moment.exchange) s := by
  have hall : Keeps (safety Fresh) Coherent
      (attemptAll (ops.map (Operation.carryOut settings))) :=
    keeps_attemptAll (List.forall_mem_map.mpr fun op _ => keeps_carryOut (fun _ _ h => h) op)
  exact hall.path_end coherent_nil hpath fun before m after he => fresh_of_nodup hnew he

/-- **No dead handle** is used or deleted, whatever the device does, as long as the handles that it
creates are new. At each call and in the end, where a callback is registered, the scheduler's
program is the pipeline's, and its five handles are live. -/
theorem handles_live {settings : RenderSettings} {ops : List Operation}
    {moments : List (Moment Device Session)} {results : Except Fault (List (Except Fault Unit))}
    {s : Session}
    (hpath : Dialogue.Path (attemptAll (ops.map (Operation.carryOut settings)) {}) moments
      results s)
    (hnew : (created (moments.map Moment.exchange)).Nodup) :
    (∀ before m after, moments = before ++ m :: after →
        (∀ o ∈ m.call.uses, o ∈ live (before.map Moment.exchange)) ∧
          Shown (before.map Moment.exchange) m.state) ∧
      Shown (moments.map Moment.exchange) s := by
  obtain ⟨hcalls, hcoherent⟩ := safe_of_path hpath hnew
  exact ⟨hcalls, shown_of_kept hcoherent.kept⟩

/-- The shortest bundle that can be taken apart. -/
def bareBundle : String := "// Vertex Shader// Fragment Shader"

theorem split_bareBundle : Bundle.split bareBundle = .ok ⟨"cube", "", ""⟩ := by decide

/-- An empty fragment part always gets a precision statement. -/
theorem changed_mend_empty (precision : String) : (Repair.mend "" precision).changed = true := by
  have hinserted : (Repair.mend "" precision).precision = .inserted := by
    rw [Repair.mend]
    rfl
  rw [Repair.changed, hinserted]
  rfl

/-- Starting a bundle with empty parts, step by step. -/
theorem start_of_split_empty {settings : RenderSettings} {bundle name : String}
    (h : Bundle.split bundle = .ok ⟨name, "", ""⟩) :
    start settings bundle = (do
      requireDevice
      keepSources { raw := bundle }
      let repair := Repair.mend "" settings.defaultPrecision
      tell (.mended repair.precision repair.statements)
      tell (.generatedFragment "")
      tell (.mendedFragment repair.source)
      keepSources { raw := bundle, mendedFragment := repair.source }
      stop
      let program ← (onPipeline (Pipeline.build "" repair.source (Shape.ofName name))).handle explain
      onScheduler (Scheduler.start program)) := by
  have hread : readBundle settings bundle = (do
      keepSources { raw := bundle }
      let repair := Repair.mend "" settings.defaultPrecision
      tell (.mended repair.precision repair.statements)
      tell (.generatedFragment "")
      tell (.mendedFragment repair.source)
      keepSources { raw := bundle, mendedFragment := repair.source }
      return (⟨name, "", ""⟩, repair)) := by
    unfold readBundle tellRepair
    rw [h]
    simp only [Except.mapError, Procedure.ofExcept, pure_bind, changed_mend_empty, if_true,
      bind_assoc]
  rw [start]
  rw [hread]
  simp only [bind_assoc, pure_bind]

/-- Starting the bare bundle, step by step. -/
theorem start_bareBundle {settings : RenderSettings} :
    start settings bareBundle = (do
      requireDevice
      keepSources { raw := bareBundle }
      let repair := Repair.mend "" settings.defaultPrecision
      tell (.mended repair.precision repair.statements)
      tell (.generatedFragment "")
      tell (.mendedFragment repair.source)
      keepSources { raw := bareBundle, mendedFragment := repair.source }
      stop
      let program ← (onPipeline (Pipeline.build "" repair.source .cube)).handle explain
      onScheduler (Scheduler.start program)) := by
  have hshape : Shape.ofName "cube" = .cube := rfl
  rw [start_of_split_empty split_bareBundle, hshape]

/-- The bare bundle is started, drawn and stopped on a device that obliges. When it is drawn a
callback is registered, so that the program drawn is the one that is shown, and all of it is live;
the program that the stop deletes is live until then. -/
theorem handles_live_bareBundle :
    let run := (attemptAll ([.start bareBundle, .renderFrame, .stop].map
      (Operation.carryOut {})) {}).run (obliging fun _ => false) 0
    (created (run.moments.map Moment.exchange)).Nodup ∧
      (∃ before m after, run.moments = before ++ m :: after ∧ m.call = .drawTriangles 3 36 ∧
        ⟨.program, 3⟩ ∈ live (before.map Moment.exchange) ∧
        (callbacks (before.map Moment.exchange)).entries.map Prod.fst = [1] ∧
        ∃ p, m.state.scheduler.program = some p ∧ m.state.pipeline.program = some p ∧
          ∀ o ∈ p.owned, o ∈ live (before.map Moment.exchange)) ∧
      (∃ before m after, run.moments = before ++ m :: after ∧ m.call = .deleteProgram 3 ∧
        ⟨.program, 3⟩ ∈ live (before.map Moment.exchange)) ∧
      Shown (run.moments.map Moment.exchange) run.state := by
  intro run
  have hnew : (created (run.moments.map Moment.exchange)).Nodup := by
    simp only [run, List.map_cons, List.map_nil, Operation.carryOut, start_bareBundle]
    decide +kernel
  obtain ⟨hcalls, hend⟩ := handles_live (Dialogue.path_run _ _ _) hnew
  refine ⟨hnew, ?_, ?_, hend⟩
  · have hdrawn : (run.moments.map (·.call))[31]? = some (.drawTriangles 3 36) := by
      decide +kernel
    have hentries : (callbacks ((run.moments.take 31).map Moment.exchange)).entries.map Prod.fst =
        [1] := by decide +kernel
    rw [List.getElem?_map, Option.map_eq_some_iff] at hdrawn
    obtain ⟨m, hm, hcall⟩ := hdrawn
    obtain ⟨hlength, rfl⟩ := List.getElem?_eq_some_iff.mp hm
    have hsplit : run.moments = run.moments.take 31 ++ run.moments[31] :: run.moments.drop 32 := by
      rw [← List.drop_eq_getElem_cons hlength, List.take_append_drop]
    obtain ⟨huses, hshown⟩ := hcalls _ _ _ hsplit
    refine ⟨_, _, _, hsplit, hcall, huses _ ?_, hentries, hshown fun hnone => ?_⟩
    · rw [hcall]
      exact .head _
    · rw [hnone] at hentries
      cases hentries
  · have hdeleted : .deleteProgram 3 ∈ run.moments.map (·.call) := by decide +kernel
    obtain ⟨m, hm, hcall⟩ := List.mem_map.mp hdeleted
    obtain ⟨before, after, hsplit⟩ := List.append_of_mem hm
    refine ⟨before, m, after, hsplit, hcall, (hcalls _ _ _ hsplit).1 _ ?_⟩
    rw [hcall]
    exact .head _

end ShaderPreview.Session
