import ShaderPreview.Proofs.Pipeline.Verdicts
import ShaderPreview.Proofs.Session.Safety

/-!
# The Two Situations of a Session

The phase of a session is the pipeline's, whether it renders is the scheduler's affair, and the
callback is the display's. On a device that refuses nothing they never part: between operations a
session either **shows** a program, with all that belongs to it, or it **rests** and nothing of any
program is left. What the device answers otherwise makes no difference: whether it is there, what
its compiler and linker say, how late it is and how large the view.

A session that rests after a failure says so until it is stopped or something else is built. A start
that does not come to building leaves everything as it was, apart from the sources.

## Main definitions

* `Session.replace`: the part of a start that changes what is shown.
* `Session.StartPath`: the ways that a start can go.
* `Session.Course`: operations one after another, with what came of each.
* `Session.Showing`, `Session.Resting`: the two situations.

## Main results

* `Session.path_start`: how far a start goes is known from the device's presence and the bundle.
* `Session.Situated.advance`: an operation leads from one situation to one of the two.
* `Session.Course.situated`: a course of operations leads to one of the two.
* `Session.shows_or_rests`: over any operations a session is in exactly one situation, and a failure
  that it shows is that of the last build.
-/

namespace ShaderPreview.Session

open Procedure Device Contract

variable {settings : RenderSettings} {bundle : String} {s s' : Session}

/-- What is relied on: handles are new, and **nothing is refused**. -/
def Willing (past : List (Exchange Device)) (x : Exchange Device) : Prop :=
  Fresh past x ∧ Answered past x

/-! ### What a start replaces -/

/-- **Replaces** what is shown, the part of a start that comes after the bundle is read. -/
def replace (vertex fragment : String) (shape : Shape) : DeviceProcedure Session Unit := do
  stop
  let program ← (onPipeline (Pipeline.build vertex fragment shape)).handle explain
  onScheduler (Scheduler.start program)

/-- A start asks for the device, reads the bundle and replaces what is shown. -/
theorem start_eq (settings : RenderSettings) (bundle : String) :
    start settings bundle = (do
      requireDevice
      let (sections, repair) ← readBundle settings bundle
      replace sections.vertex repair.source (Shape.ofName sections.shapeName)) := rfl

/-- Where nothing is refused nobody else's faults come up. -/
theorem answered_of_willing {past : List (Exchange Device)} {x : Exchange Device}
    (h : (safety Willing).relies past x) : Answered past x := h.2

/-- Stopping fails only where the device refuses something. -/
theorem failsOnly_stop {P : Fault → Prop} : FailsOnly P stop :=
  Scheduler.failsOnly_stop.zoom.bind fun _ => Pipeline.failsOnly_teardown.zoom

/-- Stopping clears a session. -/
theorem honours_stop_willing :
    Honours (safety Willing) Coherent stop (fun past _ s => Coherent past s ∧ Cleared s)
      fun _ _ _ => False := by
  intro past s h
  have hstop := (honours_stop (n := frameRefusals past)).and_failsOnly (P := fun _ => False)
    failsOnly_stop fun _ _ => answered_of_willing
  exact hstop.weaken (fun _ _ _ h => ⟨h.1, h.2.1⟩) (fun _ _ _ h => h.2) past s ⟨h, rfl⟩

/-- A verdict that is explained stays one. -/
theorem failsOnly_explain {α : Type} {fault : Fault} (h : fault.IsVerdict) :
    FailsOnly Fault.IsVerdict (explain fault : DeviceProcedure Session α) := by
  cases fault with
  | pipeline fault =>
    refine failsOnly_state_bind fun s => ?_
    cases fault with
    | compile stage diagnostic sources => exact failsOnly_tell.bind fun _ => failsOnly_fail trivial
    | link diagnostic sources => exact failsOnly_tell.bind fun _ => failsOnly_fail trivial
    | _ => exact False.elim h
  | _ => exact False.elim h

/-- A session that rests after a **failed build**. -/
def Failed (s : Session) : Prop := s.scheduler.Idle ∧ s.pipeline = { phase := .failed }

/-- A cleared session builds, or there is a verdict and nothing is left. -/
theorem honours_build_willing {vertex fragment : String} {shape : Shape} {mesh : Mesh}
    (hmesh : Mesh.ofShape shape = .ok mesh) :
    Honours (safety Willing) (fun past s => Coherent past s ∧ Cleared s)
      ((onPipeline (Pipeline.build vertex fragment shape)).handle explain)
      (fun past p s => ∃ n, Built n p past s)
      (fun past fault s => (Coherent past s ∧ Failed s) ∧ fault.IsVerdict) := by
  refine Honours.and_failsOnly ?_ ((Pipeline.failsOnly_build hmesh).zoom.handle
    fun fault hfault => failsOnly_explain hfault) fun _ _ => answered_of_willing
  have hbuild : ∀ n, Honours (safety Willing)
      (fun past s => Coherent past s ∧ Cleared s ∧ frameRefusals past = n)
      (onPipeline (Pipeline.build vertex fragment shape)) (fun past p s => ∃ n, Built n p past s)
      (fun past _ s => Coherent past s ∧ Failed s) := by
    intro n
    refine (honours_onPipeline_build fun _ _ h => h.1).weaken (fun _ _ _ h => ⟨n, h⟩) ?_
    rintro past fault s ⟨hco, ⟨hidle, hpipeline, -⟩ | ⟨_, _, _, -, hrefused⟩⟩
    · exact ⟨hco, hidle, hpipeline⟩
    · exact absurd hrefused.2 not_exists_error_eq_ok
  intro past s h
  exact Honours.handle (hbuild (frameRefusals past)) (fun fault => honours_explain) past s
    ⟨h.1, h.2, rfl⟩

/-- What is built runs. -/
theorem honours_run_willing {p : Program} :
    Honours (safety Willing) (fun past s => ∃ n, Built n p past s)
      (onScheduler (Scheduler.start p)) (fun past _ s => Coherent past s ∧ Runs p s)
      fun _ _ _ => False := by
  rintro past s ⟨n, h⟩
  have hrun : Honours (safety Willing) (Built n p) (onScheduler (Scheduler.start p))
      (fun past _ s => Ready n past s ∧ Runs p s)
      (fun past _ s => Coherent past s ∧ StartFailed Willing bareBundle n past s) := honours_run
  have hrun := hrun.and_failsOnly (P := fun _ => False) Scheduler.failsOnly_start.zoom
    fun _ _ => answered_of_willing
  exact hrun.weaken (fun _ _ _ h => ⟨h.1.1, h.2⟩) (fun _ _ _ h => h.2) past s h

/-- Replacing what is shown leads to another program, or to a verdict and nothing. -/
theorem honours_replace {vertex fragment : String} {shape : Shape} {mesh : Mesh}
    (hmesh : Mesh.ofShape shape = .ok mesh) :
    Honours (safety Willing) Coherent (replace vertex fragment shape)
      (fun past _ s => Coherent past s ∧ ∃ p, Runs p s)
      (fun past fault s => (Coherent past s ∧ Failed s) ∧ fault.IsVerdict) := by
  refine Honours.bind (honours_stop_willing.weaken_err fun _ _ _ h => False.elim h) fun _ => ?_
  refine Honours.bind (honours_build_willing hmesh) fun p => ?_
  exact honours_run_willing.weaken (fun _ _ _ h => ⟨h.1, p, h.2⟩) fun _ _ _ h => False.elim h

/-- Replacing what is shown asks for a shader. -/
theorem honours_replace_asked {vertex fragment : String} {shape : Shape} :
    Honours (lax Answered) (fun _ _ => True) (replace vertex fragment shape)
      (fun past _ _ => AskedForShader past) fun past _ _ => AskedForShader past := by
  have hstays : ∀ {α : Type} {p : DeviceProcedure Session α},
      Honours (lax Answered) (fun past _ => AskedForShader past) p
        (fun past _ _ => AskedForShader past) fun past _ _ => AskedForShader past :=
    honours_of_past (fun _ x h => h.append x) fun _ _ h => h
  have hbuild : Honours (lax Answered) (fun _ _ => True)
      (onPipeline (Pipeline.build vertex fragment shape))
      (fun past _ _ => AskedForShader past) fun past _ _ => AskedForShader past :=
    Pipeline.honours_build_asked.zoom_past
  exact Honours.bind (failsOnly_stop.weaken_err fun _ _ _ h => False.elim h) fun _ =>
    Honours.bind (hbuild.handle fun _ => hstays) fun _ => hstays

/-- Where what is shown is replaced, a shader was asked for. A program runs in the end, or there is
a verdict and nothing. -/
theorem path_replace {vertex fragment : String} {shape : Shape} {mesh : Mesh}
    (hmesh : Mesh.ofShape shape = .ok mesh) {past : List (Exchange Device)}
    {moments : List (Moment Device Session)} {result : Except Fault Unit} (h : Coherent past s)
    (hpath : Dialogue.Path (replace vertex fragment shape s) moments result s')
    (hrelied : (safety Willing).Relied past moments) :
    AskedForShader (moments.map Moment.exchange) ∧
      ((∃ p, Runs p s') ∨ Failed s' ∧ ∃ fault, result = .error fault ∧ fault.IsVerdict) := by
  have hanswered : (lax Answered).Relied [] moments := fun before m after he =>
    (hrelied before m after he).2
  have hend := ((honours_replace hmesh past s h).path hpath hrelied).2
  refine ⟨(honours_replace_asked.path_end trivial hpath hanswered).2, ?_⟩
  rcases result with fault | _
  · obtain ⟨⟨-, hfailed⟩, hverdict⟩ := hend
    exact .inr ⟨hfailed, fault, rfl, hverdict⟩
  · exact .inl hend.2

/-! ### The ways of a start -/

/-- The **ways of a start**: the device is not there and nothing changes; the bundle cannot be taken
apart and only the sources change; or what is shown is replaced. -/
inductive StartPath (settings : RenderSettings) (bundle : String) (s : Session)
    (result : Except Fault Unit) (s' : Session) : List (Moment Device Session) → Prop
  | absent (reply : Except Fault Bool) (hreply : reply ≠ .ok true) (hs : s' = s)
      (hresult : ∃ fault, result = .error fault) :
      StartPath settings bundle s result s' [⟨s, .isAvailable, reply⟩]
  | unreadable (fault : BundleFault) (hsplit : Bundle.split bundle = .error fault)
      (hs : s' = { s with sources := some { raw := bundle } })
      (hresult : result = .error (.pipeline (.bundle fault))) :
      StartPath settings bundle s result s' [⟨s, .isAvailable, .ok true⟩]
  | replaced (sections : Sections) (hsplit : Bundle.split bundle = .ok sections)
      (sources : Sources) (later : List (Moment Device Session))
      (hpath : Dialogue.Path (replace sections.vertex
        (Repair.mend sections.fragment settings.defaultPrecision).source
        (Shape.ofName sections.shapeName) { s with sources := some sources }) later result s') :
      StartPath settings bundle s result s' (⟨s, .isAvailable, .ok true⟩ :: later)

/-- What comes after new sources finds them in the session. -/
theorem keepSources_bind_apply {α : Type} (sources : Sources)
    (k : Unit → DeviceProcedure Session α) (s : Session) :
    (keepSources sources >>= k) s = k () { s with sources := some sources } := rfl

/-- Telling what mending did makes no difference to what comes after. -/
theorem path_tellRepair {α : Type} {fragment : String} {repair : Repair}
    {k : Unit → DeviceProcedure Session α} {moments : List (Moment Device Session)}
    {result : Except Fault α}
    (h : Dialogue.Path ((tellRepair fragment repair >>= k) s) moments result s') :
    Dialogue.Path (k () s) moments result s' := by
  rw [tellRepair] at h
  by_cases hchanged : repair.changed = true
  · rw [if_pos hchanged] at h
    cases h with
    | tell h => cases h with
      | tell h => cases h with
        | tell h => exact h
  · rw [if_neg hchanged] at h
    exact h

/-- **How a start goes** depends on whether the device is there and whether the bundle can be taken
apart. -/
theorem path_start {moments : List (Moment Device Session)} {result : Except Fault Unit}
    (h : Dialogue.Path (start settings bundle s) moments result s') :
    StartPath settings bundle s result s' moments := by
  rw [start_eq, requireDevice, bind_assoc] at h
  cases h with
  | ask reply h =>
    rcases reply with fault | available
    · cases h
      exact .absent _ (fun hreply => by cases hreply) rfl ⟨_, rfl⟩
    cases available with
    | false =>
      cases h
      exact .absent _ (fun hreply => by cases hreply) rfl ⟨_, rfl⟩
    | true =>
      cases hsplit : Bundle.split bundle with
      | error fault =>
        simp only [readBundle, hsplit, Except.mapError] at h
        cases h
        exact .unreadable fault hsplit rfl rfl
      | ok sections =>
        simp only [readBundle, hsplit, Except.mapError, Procedure.ofExcept, pure_bind, bind_assoc,
          Dialogue.done_follow, Bool.not_true, Bool.false_eq_true, if_false,
          keepSources_bind_apply] at h
        exact .replaced sections hsplit _ _ (path_tellRepair h)

/-! ### One operation -/

/-- An **operation with what came of it**: its calls with their answers, and its result. -/
structure Turn where
  operation : Operation
  moments : List (Moment Device Session)
  result : Except Fault Unit

/-- A start that **came to building**: it asked for a shader. -/
def Turn.CameToBuild (t : Turn) : Prop :=
  (∃ bundle, t.operation = .start bundle) ∧ AskedForShader (t.moments.map Moment.exchange)

/-- A start that only asked whether the device is there did not come to building. -/
theorem Turn.not_cameToBuild {op : Operation} {reply : Except Fault Bool}
    {result : Except Fault Unit} :
    ¬Turn.CameToBuild ⟨op, [⟨s, .isAvailable, reply⟩], result⟩ := by
  rintro ⟨-, x, hx, stage, hcall⟩
  cases List.mem_singleton.mp hx
  cases hcall

/-- A start that came to building and ended with a **verdict** of the compiler or the linker. -/
def Turn.Condemned (t : Turn) : Prop :=
  t.CameToBuild ∧ ∃ fault, t.result = .error fault ∧ fault.IsVerdict

/-- An operation that **neither builds nor stops**. -/
def Turn.PassesBy (t : Turn) : Prop := ¬t.CameToBuild ∧ t.operation ≠ .stop

/-- A session that **rests**, since it was stopped or since a build failed. -/
def Rests (s : Session) : Prop := Cleared s ∨ Failed s

/-- A coherent session that **runs** a program **or rests**. -/
def Situated (past : List (Exchange Device)) (s : Session) : Prop :=
  Coherent past s ∧ ((∃ p, Runs p s) ∨ Rests s)

/-- A session that **goes on** as it was: with the same pipeline, and with what is drawn. -/
def GoesOn (w s : Session) : Prop :=
  s.pipeline = w.pipeline ∧ Scheduler.GoesOn w.scheduler s.scheduler

/-- What goes on runs the same program or rests in the same way. -/
theorem GoesOn.runs_or_rests (h : GoesOn s s') (hs : (∃ p, Runs p s) ∨ Rests s) :
    (∃ p, Runs p s') ∨ Rests s' := by
  obtain ⟨hpipeline, hscheduler⟩ := h
  rcases hs with ⟨p, htoken, hclock, hprogram, hbuilt⟩ | ⟨hidle, hempty⟩ | ⟨hidle, hfailed⟩
  · obtain ⟨hsame, hsame', hsame''⟩ := id hscheduler
    exact .inl ⟨p, hsame ▸ htoken, hsame'' ▸ hclock, hsame'.trans hprogram, hpipeline.trans hbuilt⟩
  · exact .inr (.inl ⟨hscheduler.idle hidle, hpipeline.trans hempty⟩)
  · exact .inr (.inr ⟨hscheduler.idle hidle, hpipeline.trans hfailed⟩)

/-- What the scheduler does while it keeps to what is shown and goes on, the session goes on
with. -/
theorem honours_goesOn {α : Type} {p : DeviceProcedure Scheduler α} {w : Session}
    (hp : ∀ q, Keeps (Scheduler.conduct Willing w.pipeline.owned w.pipeline.program)
      (Scheduler.KeptOn w.pipeline.owned w.pipeline.program q) p) :
    Honours (safety Willing) (fun past s => s = w ∧ Coherent past w) (onScheduler p)
      (fun _ _ s => GoesOn w s) (fun _ _ s => GoesOn w s) := by
  rintro past _ ⟨rfl, hco⟩
  refine (honours_onScheduler (hp _)).weaken ?_ ?_ past _ ⟨rfl, hco.kept, rfl, rfl, rfl⟩
  · rintro past' _ s ⟨q, rfl, -, hon⟩
    exact ⟨rfl, hon⟩
  · rintro past' _ s ⟨q, rfl, -, hon⟩
    exact ⟨rfl, hon⟩

/-- **An operation** leads from one situation to one of the two. It ends in a failure only by a
verdict, or by passing by in the face of one. -/
theorem Situated.advance {past : List (Exchange Device)} {t : Turn} (h : Situated past s)
    (hpath : Dialogue.Path (t.operation.carryOut settings s) t.moments t.result s')
    (hrelied : (safety Willing).Relied past t.moments) :
    Situated (past ++ t.moments.map Moment.exchange) s' ∧
      (s'.status = .failed → t.Condemned ∨ s.status = .failed ∧ t.PassesBy) := by
  obtain ⟨hco, hsituation⟩ := h
  obtain ⟨op, moments, result⟩ := t
  have hcoherent : Coherent (past ++ moments.map Moment.exchange) s' :=
    ((keeps_carryOut (fun _ _ h => h.1) op).path_end hco hpath hrelied).2
  have hgoesOn : GoesOn s s' → op ≠ .stop → ¬Turn.CameToBuild ⟨op, moments, result⟩ →
      Situated (past ++ moments.map Moment.exchange) s' ∧
        (s'.status = .failed → Turn.Condemned ⟨op, moments, result⟩ ∨
          s.status = .failed ∧ Turn.PassesBy ⟨op, moments, result⟩) := by
    intro hon hstop hbuild
    refine ⟨⟨hcoherent, hon.runs_or_rests hsituation⟩, fun hfailed => .inr ⟨?_, hbuild, hstop⟩⟩
    rwa [status, hon.1] at hfailed
  cases op with
  | start bundle =>
    cases path_start hpath with
    | absent reply hreply hs hresult =>
      subst hs
      exact hgoesOn ⟨rfl, rfl, rfl, rfl⟩ nofun Turn.not_cameToBuild
    | unreadable fault hsplit hs hresult =>
      subst hs
      exact hgoesOn ⟨rfl, rfl, rfl, rfl⟩ nofun Turn.not_cameToBuild
    | replaced sections hsplit sources later hreplace =>
      obtain ⟨mesh, hmesh⟩ := Mesh.exists_ofShape_ofName sections.shapeName
      have hready : Coherent (past ++ [⟨.isAvailable, .ok true⟩])
          { s with sources := some sources } := ⟨hco.kept.keep rfl fun _ => rfl, hco.tidy⟩
      have hlater : (safety Willing).Relied (past ++ [⟨.isAvailable, .ok true⟩]) later :=
        hrelied.rest [_]
      obtain ⟨⟨x, hx, hcall⟩, ⟨p, hruns⟩ | ⟨hfailed, hverdict⟩⟩ :=
        path_replace hmesh hready hreplace hlater
      · refine ⟨⟨hcoherent, .inl ⟨p, hruns⟩⟩, fun hfailed => ?_⟩
        rw [status, hruns.2.2.2] at hfailed
        cases hfailed
      · exact ⟨⟨hcoherent, .inr (.inr hfailed)⟩, fun _ =>
          .inl ⟨⟨⟨bundle, rfl⟩, x, .tail _ hx, hcall⟩, hverdict⟩⟩
  | stop =>
    have hend := ((honours_stop_willing past s hco).path hpath hrelied).2
    rcases result with fault | _
    · exact False.elim hend
    · obtain ⟨-, hcleared⟩ := hend
      refine ⟨⟨hcoherent, .inr (.inl hcleared)⟩, fun hfailed => ?_⟩
      rw [status, hcleared.2] at hfailed
      cases hfailed
  | refresh =>
    have hframes : Honours (safety Willing) (fun past w => w = s ∧ Coherent past s)
        (Operation.carryOut settings .refresh) (fun _ _ s' => GoesOn s s')
        (fun _ _ s' => GoesOn s s') :=
      Honours.bind (honours_goesOn fun _ => Scheduler.keepsOn_refresh) fun _ =>
        honours_pure fun _ _ h => h
    exact hgoesOn (hframes.path_end ⟨rfl, hco⟩ hpath hrelied).2 nofun
      fun ⟨⟨_, hstart⟩, _⟩ => nomatch hstart
  | renderFrame =>
    have hframe : Honours (safety Willing) (fun past w => w = s ∧ Coherent past s)
        (Operation.carryOut settings .renderFrame) (fun _ _ s' => GoesOn s s')
        (fun _ _ s' => GoesOn s s') := honours_goesOn fun _ => Scheduler.keepsOn_renderFrame
    exact hgoesOn (hframe.path_end ⟨rfl, hco⟩ hpath hrelied).2 nofun
      fun ⟨⟨_, hstart⟩, _⟩ => nomatch hstart

/-! ### One operation after another -/

/-- What **passed over some operations**. -/
def exchanges (turns : List Turn) : List (Exchange Device) :=
  turns.flatMap fun t => t.moments.map Moment.exchange

/-- What passed in one more operation comes after what passed before. -/
theorem exchanges_append_singleton {turns : List Turn} {t : Turn} :
    exchanges (turns ++ [t]) = exchanges turns ++ t.moments.map Moment.exchange := by
  rw [exchanges, List.flatMap_append, List.flatMap_singleton]
  rfl

/-- The **course of a new session**: operations one after another, each with what came of it. -/
inductive Course (settings : RenderSettings) : List Turn → Session → Prop
  | nil : Course settings [] {}
  | turn {turns : List Turn} {s s' : Session} {t : Turn} (h : Course settings turns s)
      (hpath : Dialogue.Path (t.operation.carryOut settings s) t.moments t.result s') :
      Course settings (turns ++ [t]) s'

/-- A session **shows** a program: it is the scheduler's too, it has a clock, there is one callback,
and the live handles are the five of the program. -/
structure Showing (past : List (Exchange Device)) (s : Session) : Prop where
  status_eq : s.status = .active
  rendering_eq : s.rendering = true
  program_eq : ∃ p, s.program = some p ∧ s.scheduler.program = some p ∧
    live past = p.owned.reverse
  isSome_clock : s.scheduler.clock.isSome
  one_callback : (callbacks past).entries.length = 1

/-- A session **rests**: there is no program, no shape and no clock, no callback and no live
handle. -/
structure Resting (past : List (Exchange Device)) (s : Session) : Prop where
  status_eq : s.status = .empty ∨ s.status = .failed
  rendering_eq : s.rendering = false
  program_eq : s.program = none
  shape_eq : s.shape = none
  clock_eq : s.scheduler.clock = none
  no_callback : (callbacks past).entries = []
  live_eq : live past = []

/-- A coherent session that runs a program shows it. -/
theorem Coherent.showing {past : List (Exchange Device)} {p : Program} (h : Coherent past s)
    (hp : Runs p s) : Showing past s := by
  obtain ⟨htoken, hclock, hprogram, hpipeline⟩ := hp
  refine ⟨?_, htoken, ⟨p, ?_, hprogram, ?_⟩, hclock, ?_⟩
  · rw [status, hpipeline]
  · rw [program, hpipeline]
  · rw [h.kept.stands.live_eq, hpipeline]
  · obtain ⟨token, htoken⟩ := Option.isSome_iff_exists.mp htoken
    rw [h.kept.callbacks_eq, h.kept.entries_eq, htoken]
    rfl

/-- A coherent session that runs none rests. -/
theorem Coherent.resting {past : List (Exchange Device)} (h : Coherent past s) (hs : Rests s) :
    Resting past s := by
  obtain ⟨phase, hphase, ⟨-, hclock, htoken⟩, hpipeline⟩ :
      ∃ phase, (phase = .empty ∨ phase = .failed) ∧ s.scheduler.Idle ∧ s.pipeline = { phase } := by
    rcases hs with ⟨hidle, hempty⟩ | ⟨hidle, hfailed⟩
    · exact ⟨_, .inl rfl, hidle, hempty⟩
    · exact ⟨_, .inr rfl, hidle, hfailed⟩
  have hnone : s.program = none := by rw [program, hpipeline]
  refine ⟨?_, ?_, hnone, ?_, hclock, h.kept.entries_callbacks htoken, ?_⟩
  · rw [status, hpipeline]
    exact hphase
  · rw [rendering, Scheduler.running, htoken]
    rfl
  · rw [shape, hnone]
    rfl
  · rw [h.kept.stands.live_eq, hpipeline]
    rfl

/-- A session does not show and rest at once. -/
theorem Showing.not_resting {past : List (Exchange Device)} (h : Showing past s) :
    ¬Resting past s := fun hrest =>
  Bool.false_ne_true (hrest.rendering_eq.symm.trans h.rendering_eq)

/-- The last build that was come to **ended with a verdict**, and what came after it passed it
by. -/
def LastCondemned (turns : List Turn) : Prop :=
  ∃ before t later, turns = before ++ t :: later ∧ t.Condemned ∧ ∀ t' ∈ later, t'.PassesBy

/-- **Over any course** of operations on a device that refuses nothing, a session is coherent and
in one of the two situations, and a failure that it shows is that of the last build. -/
theorem Course.situated {turns : List Turn} (hcourse : Course settings turns s)
    (hanswered : ∀ t ∈ turns, ∀ m ∈ t.moments, ∃ a, m.reply = .ok a)
    (hnew : (created (exchanges turns)).Nodup) :
    Situated (exchanges turns) s ∧ (s.status = .failed → LastCondemned turns) := by
  induction hcourse with
  | nil => exact ⟨⟨coherent_nil, .inr (.inl ⟨⟨rfl, rfl, rfl⟩, rfl⟩)⟩, nofun⟩
  | @turn turns s s' t hcourse hpath ih =>
    rw [exchanges_append_singleton] at hnew ⊢
    have hbefore : (created (exchanges turns)).Nodup := by
      rw [created, List.filterMap_append] at hnew
      exact (List.nodup_append.mp hnew).1
    obtain ⟨hsituated, hlast⟩ := ih (fun t ht => hanswered t (List.mem_append_left _ ht)) hbefore
    have hrelied : (safety Willing).Relied (exchanges turns) t.moments := by
      intro before m after he
      have ht : t ∈ turns ++ [t] := List.mem_append_right _ (List.mem_singleton_self t)
      refine ⟨fresh_of_nodup hnew he, hanswered t ht m ?_⟩
      rw [he]
      exact List.mem_append_right _ List.mem_cons_self
    obtain ⟨hnext, hfailure⟩ := hsituated.advance hpath hrelied
    refine ⟨hnext, fun hfailed => ?_⟩
    rcases hfailure hfailed with hcondemned | ⟨hfailed, hpasses⟩
    · exact ⟨turns, t, [], rfl, hcondemned, List.forall_mem_nil _⟩
    · obtain ⟨before, t', later, rfl, hcondemned, hlater⟩ := hlast hfailed
      refine ⟨before, t', later ++ [t], by rw [List.append_assoc, List.cons_append], hcondemned, ?_⟩
      intro t'' ht
      rcases List.mem_append.mp ht with ht | ht
      · exact hlater t'' ht
      · rw [List.mem_singleton.mp ht]
        exact hpasses

/-- **A session shows or rests**, and never both, over any course of operations on a device that
refuses nothing and gives new handles, whatever it answers otherwise. It shows a failure only if the
last start that came to building ended with a verdict of the compiler or the linker, and it was not
stopped since. -/
theorem shows_or_rests {turns : List Turn} (hcourse : Course settings turns s)
    (hanswered : ∀ t ∈ turns, ∀ m ∈ t.moments, ∃ a, m.reply = .ok a)
    (hnew : (created (exchanges turns)).Nodup) :
    Xor (Showing (exchanges turns) s) (Resting (exchanges turns) s) ∧
      (s.status = .failed → ∃ before t later, turns = before ++ t :: later ∧
        t.CameToBuild ∧ (∃ fault, t.result = .error fault ∧ fault.IsVerdict) ∧
        ∀ t' ∈ later, ¬t'.CameToBuild ∧ t'.operation ≠ .stop) := by
  obtain ⟨⟨hco, hsituation⟩, hlast⟩ := hcourse.situated hanswered hnew
  refine ⟨?_, fun hfailed => ?_⟩
  · rcases hsituation with ⟨p, hruns⟩ | hrests
    · have hshowing := hco.showing hruns
      exact .inl ⟨hshowing, hshowing.not_resting⟩
    · have hresting := hco.resting hrests
      exact .inr ⟨hresting, fun hshowing => hshowing.not_resting hresting⟩
  · obtain ⟨before, t, later, hturns, ⟨hbuild, hverdict⟩, hlater⟩ := hlast hfailed
    exact ⟨before, t, later, hturns, hbuild, hverdict, hlater⟩

/-- A device that obliges, but whose compiler **turns down** every source. -/
def turnsDown : Provider Device Handle where
  answer last call :=
    match call with
    | .shaderCompiled _ => (.ok false, last)
    | call => (obliging fun _ => false).answer last call

/-- The device that turns every source down still answers every call. -/
theorem answered_turnsDown (last : Handle) (call : Device.Call) :
    ∃ a, (turnsDown.answer last call).1 = .ok a := by
  cases call with
  | _ => exact ⟨_, rfl⟩

/-- Where the bare bundle is turned down, the session rests and shows the failure of that build. -/
theorem shows_or_rests_turnedDown :
    let run := (start {} bareBundle {}).run turnsDown 0
    let turn : Turn := ⟨.start bareBundle, run.moments, run.result⟩
    run.state.status = .failed ∧ Resting (exchanges [turn]) run.state ∧ turn.CameToBuild ∧
      ∃ fault, turn.result = .error fault ∧ fault.IsVerdict := by
  intro run turn
  have hstatus : run.state.status = .failed := by
    simp only [run, start_bareBundle]
    decide
  have hnew : (created (run.moments.map Moment.exchange)).Nodup := by
    simp only [run, start_bareBundle]
    decide
  have hpath : Dialogue.Path (start {} bareBundle {}) run.moments run.result run.state :=
    Dialogue.path_run turnsDown (start {} bareBundle {}) 0
  have hanswered : ∀ m ∈ run.moments, ∃ a, m.reply = .ok a := by
    intro m hm
    obtain ⟨last, hanswer⟩ := Dialogue.exists_answer_of_mem_run hm
    obtain ⟨a, ha⟩ := answered_turnsDown last m.call
    exact ⟨a, hanswer.symm.trans ha⟩
  -- From here on the run is any run with these four properties.
  clear_value run
  have hcourse : Course {} [turn] run.state := Course.turn .nil hpath
  have hturns : exchanges [turn] = run.moments.map Moment.exchange := List.flatMap_singleton ..
  have hall : ∀ t ∈ [turn], ∀ m ∈ t.moments, ∃ a, m.reply = .ok a :=
    List.forall_mem_singleton.mpr hanswered
  obtain ⟨hxor, hlast⟩ := shows_or_rests hcourse hall (hturns ▸ hnew)
  obtain ⟨before, t, later, hcut, hbuild, hverdict, -⟩ := hlast hstatus
  obtain rfl : turn = t := by
    have hmem : t ∈ [turn] := hcut ▸ List.mem_append_right before List.mem_cons_self
    exact (List.mem_singleton.mp hmem).symm
  rcases hxor with ⟨hshowing, -⟩ | ⟨hresting, -⟩
  · exact absurd (hstatus.symm.trans hshowing.status_eq) nofun
  · exact ⟨hstatus, hresting, hbuild, hverdict⟩

end ShaderPreview.Session
