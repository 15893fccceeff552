import ShaderPreview.Proofs.Frame.Registration
import ShaderPreview.Proofs.Pipeline.Stacking
import ShaderPreview.Proofs.Session.Safety

/-!
# One Pipeline After Another

A start replaces what was shown, and nothing of the two may overlap. First the callback is taken
out, so that no frame can come in between. Then all that an earlier build left is deleted, then the
new handles are created, and only when they all are there does the session ask for frames again. A
refusal anywhere ends the start there. So at no point is more held than one pipeline needs, on a
pipeline by itself as in a session, and whatever the device does.

## Main definitions

* `Session.stacking`: the contract to hold no more than one build needs.
* `Session.sequencing`: the contract to create and delete in between the frames only.

## Main results

* `Session.keeps_registered_carryOut`, `Session.keeps_stacked_carryOut`: what an operation keeps up.
* `Session.honours_start_sequencing`: the order of the calls of a start.
* `Session.one_pipeline_at_a_time`: the bound and the order, over any operations.
-/

namespace ShaderPreview

open Procedure Device

namespace Device.Call

variable {call : Device.Call}

/-- The scheduler has no part in what is created and deleted. -/
theorem keepsHandles_of_part (h : call.part = .scheduler) : call.keepsHandles = true := by
  cases call <;> first | rfl | cases h

/-- The pipeline has no part in the frames. -/
theorem isScheduling_of_part (h : call.part = .pipeline) : call.isScheduling = false := by
  cases call <;> first | rfl | cases h

end Device.Call

namespace Session

variable {α : Type} {settings : RenderSettings} {bundle : String} {s : Session}
  {past : List (Exchange Device)} {older all : List Owned} {token : Option Nat}
  {relies : List (Exchange Device) → Exchange Device → Prop}

/-! ### What is registered -/

/-- The display has the callback that **the session's scheduler** has a token for. -/
abbrev Registered (past : List (Exchange Device)) (s : Session) : Prop :=
  Scheduler.Registered past s.scheduler

/-- What keeps the registration up for the scheduler does so for the session. -/
theorem keeps_registered_onScheduler {p : DeviceProcedure Scheduler α}
    (hp : Keeps (.lax relies) Scheduler.Registered p) :
    Keeps (.lax relies) Registered (onScheduler p) :=
  Honours.zoom_of_forall (fun _ => hp) fun _ _ h => h

/-- The pipeline has no part in the registration. -/
theorem keeps_registered_onPipeline {p : DeviceProcedure Pipeline α}
    (hp : ConfinedTo .pipeline p) : Keeps (.lax relies) Registered (onPipeline p) :=
  hp.keeps_zoom (fun _ _ _ h => h) (fun _ _ _ _ _ => trivial) fun _ _ _ hpart h =>
    h.keep fun _ => turn_of_not_isScheduling (Device.Call.isScheduling_of_part hpart)

/-- Stopping keeps the registration up. -/
theorem keeps_registered_stop : Keeps (.lax relies) Registered stop :=
  Honours.bind (keeps_registered_onScheduler
    (Scheduler.honours_stop_registered.weaken_ok fun _ _ _ h => h.1)) fun _ =>
      keeps_registered_onPipeline Pipeline.confined_teardown

/-- A start keeps the registration up. -/
theorem keeps_registered_start : Keeps (.lax relies) Registered (start settings bundle) := by
  have hask : Keeps (.lax relies) Registered (Device.ask .isAvailable) :=
    honours_perform (fun _ _ _ => trivial) (fun _ _ _ h _ => h.keep fun _ => rfl)
      fun _ _ _ h _ => h.keep fun _ => rfl
  exact honours_start_parts hask (fun _ _ _ h => h) (fun _ _ h => h) keeps_registered_stop
    (keeps_registered_onPipeline Pipeline.confined_build) fun _ =>
      keeps_registered_onScheduler Scheduler.keeps_registered_start

/-- **An operation** keeps the registration up, however it ends. -/
theorem keeps_registered_carryOut (op : Operation) :
    Keeps (.lax relies) Registered (op.carryOut settings) := by
  cases op with
  | start bundle => exact keeps_registered_start
  | stop => exact keeps_registered_stop
  | refresh =>
    exact Honours.bind (keeps_registered_onScheduler Scheduler.keeps_registered_refresh) fun _ =>
      honours_pure fun _ _ h => h
  | renderFrame => exact keeps_registered_onScheduler Scheduler.keeps_registered_renderFrame

/-! ### What is held -/

/-- A session's **contract** on what is held: it is in order at each call, and where something is
created, all of it was created after the given handles. -/
def stacking (older : List Owned) : Contract Device Session where
  relies _ _ := True
  guarantees past _ call :=
    Pipeline.InOrder (held past) ∧
      (call.creates = true → created past = older ++ (held past).reverse)

/-- A session whose **pipeline is stacked**. -/
abbrev Stacked (past : List (Exchange Device)) (s : Session) : Prop :=
  Pipeline.Stacked past s.pipeline

/-- A session whose pipeline is stacked after the given handles **were created**. -/
abbrev Releasing (all : List Owned) (past : List (Exchange Device)) (s : Session) : Prop :=
  Pipeline.Releasing all past s.pipeline

/-- A call that neither creates nor deletes may be made where a pipeline is stacked. -/
theorem stacking_allows {call : Device.Call} (h : Stacked past s)
    (hkeep : call.keepsHandles = true) : (stacking older).guarantees past s call := by
  refine ⟨?_, fun hcreates => ?_⟩
  · rw [h.held_eq]
    exact h.inOrder
  · rw [creates_of_keepsHandles hkeep] at hcreates
    cases hcreates

/-- The scheduler has no part in what is held. -/
theorem keeps_releasing_onScheduler {p : DeviceProcedure Scheduler α}
    (hp : ConfinedTo .scheduler p) : Keeps (stacking older) (Releasing all) (onScheduler p) := by
  exact hp.keeps_zoom (fun _ _ _ h => h)
    (fun _ _ _ hpart h => stacking_allows h.1 (Device.Call.keepsHandles_of_part hpart))
    fun _ _ _ hpart h => h.keep (Device.Call.keepsHandles_of_part hpart)

/-- The scheduler leaves the pipeline stacked. -/
theorem keeps_stacked_onScheduler {p : DeviceProcedure Scheduler α}
    (hp : ConfinedTo .scheduler p) : Keeps (stacking older) Stacked (onScheduler p) :=
  fun past s h => (keeps_releasing_onScheduler hp).weaken (fun _ _ _ h => h.1)
    (fun _ _ _ h => h.1) past s ⟨h, rfl⟩

/-- What the pipeline holds the session holds. -/
theorem honours_onPipeline_stacking {p : DeviceProcedure Pipeline α}
    {pre : List (Exchange Device) → Pipeline → Prop}
    {ok : List (Exchange Device) → α → Pipeline → Prop}
    {err : List (Exchange Device) → Fault → Pipeline → Prop}
    (hp : Honours (Pipeline.stacking older) pre p ok err) :
    Honours (stacking older) (fun past s => pre past s.pipeline) (onPipeline p)
      (fun past a s => ok past a s.pipeline) fun past fault s => err past fault s.pipeline :=
  Honours.zoom_of_forall (fun _ => hp.recontract (fun _ _ h => h) fun _ _ _ hcall => hcall.2)
    fun _ _ h => h

/-- Stopping releases what is held, from the top, and creates nothing. -/
theorem honours_stop_stacked :
    Honours (stacking older) (Releasing all) stop (fun past _ s => Releasing all past s)
      fun past _ s => Stacked past s := by
  refine Honours.bind ((keeps_releasing_onScheduler Scheduler.confined_stop).weaken_err
    fun _ _ _ h => h.1) fun _ => ?_
  exact (honours_onPipeline_stacking Pipeline.honours_teardown_stacked).weaken_ok fun _ _ _ h => h.1

/-- A start creates on top of nothing. -/
theorem honours_start_stacked :
    Honours (stacking older) (Releasing older) (start settings bundle)
      (fun past _ s => Stacked past s) fun past _ s => Stacked past s := by
  have hask : Keeps (stacking older) (Releasing older) (Device.ask .isAvailable) :=
    honours_perform (fun _ _ h => stacking_allows h.1 rfl) (fun _ _ _ h _ => h.keep rfl)
      fun _ _ _ h _ => h.keep rfl
  exact honours_start_parts hask (fun _ _ _ h => h) (fun _ _ h => h.1) honours_stop_stacked
    (honours_onPipeline_stacking Pipeline.honours_build_stacked) fun _ =>
      keeps_stacked_onScheduler Scheduler.confined_start

/-- **An operation** leaves the pipeline stacked, however it ends. -/
theorem keeps_stacked_carryOut (op : Operation) :
    Keeps Pipeline.holding Stacked (op.carryOut settings) := by
  intro past s h
  have hop : Honours (stacking (created past)) (Releasing (created past)) (op.carryOut settings)
      (fun past _ s => Stacked past s) fun past _ s => Stacked past s := by
    cases op with
    | start bundle => exact honours_start_stacked
    | stop => exact honours_stop_stacked.weaken_ok fun _ _ _ h => h.1
    | refresh =>
      exact Honours.bind ((keeps_releasing_onScheduler Scheduler.confined_refresh).weaken_err
        fun _ _ _ h => h.1) fun _ => honours_pure fun _ _ h => h.1
    | renderFrame =>
      exact (keeps_releasing_onScheduler Scheduler.confined_renderFrame).weaken
        (fun _ _ _ h => h.1) fun _ _ _ h => h.1
  have hheld : Honours Pipeline.holding (Releasing (created past)) (op.carryOut settings)
      (fun past _ s => Stacked past s) fun past _ s => Stacked past s :=
    hop.recontract (fun _ _ h => h) fun _ _ _ hcall => hcall.1
  exact hheld past s ⟨h, rfl⟩

/-! ### The order of a start -/

/-- Frames **were not asked for**. -/
def Unasked (past : List (Exchange Device)) : Prop := ∀ x ∈ past, x.call ≠ .requestFrame

/-- Another call leaves frames not asked for. -/
theorem Unasked.append (h : Unasked past) {x : Exchange Device} (hx : x.call ≠ .requestFrame) :
    Unasked (past ++ [x]) :=
  List.forall_mem_append.mpr ⟨h, List.forall_mem_singleton.mpr hx⟩

/-- The contract to create and delete **in between the frames** only: where there was a callback
under the given token, it has been taken out, and nothing is created once frames were asked for. -/
def sequencing (token : Option Nat) : Contract Device Session where
  relies _ _ := True
  guarantees past _ call :=
    ((call.creates = true ∨ call.deleted?.isSome) →
      ∀ number ∈ token, ⟨.cancelFrame number, .ok ()⟩ ∈ past) ∧
    (call.creates = true → Unasked past)

/-- The callback under the given token **was taken out**, and frames were not asked for since. -/
def InBetween (token : Option Nat) (past : List (Exchange Device)) (_ : Session) : Prop :=
  (∀ number ∈ token, ⟨.cancelFrame number, .ok ()⟩ ∈ past) ∧ Unasked past

/-- A session has its callback **under the given token**, and frames were not asked for yet. -/
def Waiting (token : Option Nat) (past : List (Exchange Device)) (s : Session) : Prop :=
  Unasked past ∧ s.scheduler.token = token

/-- A call that neither creates nor deletes may be made at any time. -/
theorem sequencing_allows {call : Device.Call} (h : call.keepsHandles = true) :
    (sequencing token).guarantees past s call := by
  refine ⟨fun hcall => ?_, fun hcreates => ?_⟩
  · rw [creates_of_keepsHandles h, deleted?_of_keepsHandles h] at hcall
    exact absurd hcall (by decide)
  · rw [creates_of_keepsHandles h] at hcreates
    cases hcreates

/-- In between the frames the pipeline may do as it likes. -/
theorem keeps_inBetween {p : DeviceProcedure Pipeline α} (hp : ConfinedTo .pipeline p) :
    Keeps (sequencing token) (InBetween token) (onPipeline p) := by
  refine hp.keeps_zoom (fun _ _ _ h => h) (fun _ _ _ _ h => ⟨fun _ => h.1, fun _ => h.2⟩) ?_
  intro past s x hpart h
  refine ⟨fun number hnumber => List.mem_append_left _ (h.1 number hnumber), h.2.append ?_⟩
  intro hrequest
  rw [hrequest] at hpart
  cases hpart

/-- The scheduler makes no call that would have to be in between the frames. -/
theorem sequencing_onScheduler {p : DeviceProcedure Scheduler α} (hp : ConfinedTo .scheduler p) :
    Keeps (sequencing token) (fun _ _ => True) (onScheduler p) :=
  hp.keeps_zoom (fun _ _ _ h => h)
    (fun _ _ _ hpart _ => sequencing_allows (Device.Call.keepsHandles_of_part hpart))
    fun _ _ _ _ h => h

/-- The contract **as the scheduler sees it**. -/
abbrev sequencingFrom (token : Option Nat) (w : Session) : Contract Device Scheduler :=
  (sequencing token).under fun q => { w with scheduler := q }

/-- Stopping the frames takes the callback out. -/
theorem inBetween_stop :
    Honours (sequencing token) (Waiting token) (onScheduler Scheduler.stop)
      (fun past _ s => InBetween token past s) fun _ _ _ => True := by
  have hcancel : ∀ w, Honours (sequencingFrom token w)
      (fun past q => Unasked past ∧ q.token = token) Scheduler.cancelFrames
      (fun past _ _ => InBetween token past w) fun _ _ _ => True := by
    intro w
    refine honours_state_bind fun q => ?_
    rintro past q ⟨rfl, hunasked, htoken⟩
    rcases hq : q.token with _ | number
    · refine ⟨fun number hnumber => ?_, hunasked⟩
      rw [← htoken, hq] at hnumber
      cases hnumber
    have htaken : Honours (sequencingFrom token w) (fun past _ => Unasked past)
        (Device.ask (.cancelFrame number)) (fun past _ _ => InBetween token past w)
        fun _ _ _ => True := by
      refine honours_perform (fun past q _ => ?_) (fun past s a h _ => ⟨?_, h.append nofun⟩)
        fun _ _ _ _ _ => trivial
      · exact sequencing_allows (s := { w with scheduler := q }) rfl
      · intro number' hnumber'
        rw [← htoken, hq] at hnumber'
        rw [Option.mem_some_iff.mp hnumber']
        exact List.mem_append_right _ (.head _)
    have hforget : Keeps (sequencingFrom token w) (fun past _ => InBetween token past w)
        (update fun q => { q with frames := q.frames.cancel number, token := none }) :=
      honours_update fun _ _ h => h
    refine Honours.bind htaken (fun _ => Honours.bind (hforget.weaken_err fun _ _ _ _ => trivial)
      fun _ => ?_) past q hunasked
    rcases q.clock with _ | clock
    · exact honours_pure fun _ _ h => h
    · exact honours_tell fun _ _ h => h
  have hstop : ∀ w, Honours (sequencingFrom token w)
      (fun past q => Unasked past ∧ q.token = token) Scheduler.stop
      (fun past _ _ => InBetween token past w) fun _ _ _ => True := fun w =>
    Honours.bind (hcancel w) fun _ => honours_update fun _ _ h => h
  exact Honours.zoom_of_forall hstop fun _ _ h => h

/-- **A start** takes the callback out, then deletes and creates, then asks for frames. -/
theorem honours_start_sequencing :
    Honours (sequencing token) (Waiting token) (start settings bundle) (fun _ _ _ => True)
      fun _ _ _ => True := by
  have hask : Keeps (sequencing token) (Waiting token) (Device.ask .isAvailable) :=
    honours_perform (fun _ _ _ => sequencing_allows rfl)
      (fun _ _ _ h _ => ⟨h.1.append nofun, h.2⟩) fun _ _ _ h _ => ⟨h.1.append nofun, h.2⟩
  have hstop : Honours (sequencing token) (Waiting token) stop
      (fun past _ s => InBetween token past s) fun _ _ _ => True :=
    Honours.bind inBetween_stop fun _ =>
      (keeps_inBetween Pipeline.confined_teardown).weaken_err fun _ _ _ _ => trivial
  exact honours_start_parts hask (fun _ _ _ h => h) (fun _ _ _ => trivial) hstop
    ((keeps_inBetween Pipeline.confined_build).weaken (fun _ _ _ _ => trivial)
      fun _ _ _ _ => trivial) fun _ => sequencing_onScheduler Scheduler.confined_start

/-! ### One start after another -/

/-- What has been registered and not taken out is the one callback under the token. -/
theorem Registered.token_eq (h : Registered past s) :
    (callbacks past).entries.map Prod.fst = s.scheduler.token.toList := by
  rw [h.callbacks_eq, h.entries_eq, List.map_map]
  exact List.map_id _

/-- **The order of a start**: what it creates comes on top of nothing, what it creates and deletes
comes after the callback was taken out, and nothing is created once frames were asked for. -/
structure InTurn (earlier before : List (Exchange Device)) (call : Device.Call) : Prop where
  afresh : call.creates = true → Afresh earlier before
  taken_out : call.creates = true ∨ call.deleted?.isSome →
    ∀ number ∈ (callbacks earlier).entries.map Prod.fst, ⟨.cancelFrame number, .ok ()⟩ ∈ before
  unasked : call.creates = true → Unasked before

/-- Each call of a start is in turn. -/
theorem inTurn_of_path {past : List (Exchange Device)} {s' : Session}
    {moments before after : List (Moment Device Session)} {m : Moment Device Session}
    {result : Except Fault Unit} (hstacked : Stacked past s) (hregistered : Registered past s)
    (hpath : Dialogue.Path (start settings bundle s) moments result s')
    (he : moments = before ++ m :: after) : InTurn past (before.map Moment.exchange) m.call := by
  have hholds : Honours (stacking (created past)) (Releasing (created past))
      (start settings bundle) (fun past _ s => Stacked past s) fun past _ s => Stacked past s :=
    honours_start_stacked
  obtain ⟨hheld, -⟩ := hholds.path_end ⟨hstacked, rfl⟩ hpath fun _ _ _ _ => trivial
  have horder : Honours (sequencing s.scheduler.token) (Waiting s.scheduler.token)
      (start settings bundle) (fun _ _ _ => True) fun _ _ _ => True :=
    honours_start_sequencing
  have hwaiting : Waiting s.scheduler.token [] s :=
    ⟨fun _ hx => absurd hx List.not_mem_nil, rfl⟩
  obtain ⟨hsequence, -⟩ := horder.path_end hwaiting hpath fun _ _ _ _ => trivial
  obtain ⟨htaken, hunasked⟩ := hsequence before m after he
  refine ⟨fun hcreates => ?_, fun hcall number hnumber => htaken hcall number ?_, hunasked⟩
  · exact afresh_of_created_eq ((hheld before m after he).2 hcreates)
  · rw [hregistered.token_eq, Option.mem_toList] at hnumber
    exact hnumber

/-- **One pipeline at a time.** Over any builds and teardowns of a pipeline, and whatever the device
does, what was created and not passed to a deletion since is at most two shaders, one program and
two buffers. It is so at every point between two calls, and hence during each of them. Whenever a
build creates, everything that was created before that build was passed to a deletion.

The same is true of a session over any of its operations. Besides, when a start creates or deletes,
the callback that the display had before it was taken out, if there was one, and nothing is created
once the start has asked for frames. -/
theorem one_pipeline_at_a_time (settings : RenderSettings) :
    (∀ (ops : List Pipeline.Operation) moments results p,
      Dialogue.Path (attemptAll (ops.map Pipeline.Operation.carryOut) {}) moments results p →
        (∀ before, before <+: moments →
          Pipeline.AtMostOne (held (before.map Moment.exchange))) ∧
        ∀ (op : Pipeline.Operation) calls result p', Dialogue.Path (op.carryOut p) calls result p' →
          ∀ before m after, calls = before ++ m :: after → m.call.creates = true →
            Afresh (moments.map Moment.exchange) (before.map Moment.exchange)) ∧
      ∀ (ops : List Operation) moments results s,
        Dialogue.Path (attemptAll (ops.map (Operation.carryOut settings)) {}) moments results s →
          (∀ before, before <+: moments →
            Pipeline.AtMostOne (held (before.map Moment.exchange))) ∧
          ∀ bundle calls result s', Dialogue.Path (start settings bundle s) calls result s' →
            ∀ before m after, calls = before ++ m :: after →
              InTurn (moments.map Moment.exchange) (before.map Moment.exchange) m.call := by
  refine ⟨fun ops moments results p hpath => ?_, fun ops moments results s hpath => ?_⟩
  · have hall : Keeps Pipeline.holding Pipeline.Stacked
        (attemptAll (ops.map Pipeline.Operation.carryOut)) :=
      keeps_attemptAll (List.forall_mem_map.mpr fun op _ => Pipeline.keeps_stacked_carryOut op)
    obtain ⟨hcalls, hend⟩ := hall.path_end Pipeline.stacked_nil hpath fun _ _ _ _ => trivial
    refine ⟨fun before => Pipeline.atMostOne_of_guaranteed hcalls hend, ?_⟩
    intro op calls result p' hop before m after he hcreates
    exact Pipeline.afresh_of_path hend hop he hcreates
  · have hall : Keeps Pipeline.holding Stacked
        (attemptAll (ops.map (Operation.carryOut settings))) :=
      keeps_attemptAll (List.forall_mem_map.mpr fun op _ => keeps_stacked_carryOut op)
    have hregistered : Keeps (.lax fun _ _ => True) Registered
        (attemptAll (ops.map (Operation.carryOut settings))) :=
      keeps_attemptAll (List.forall_mem_map.mpr fun op _ => keeps_registered_carryOut op)
    obtain ⟨hcalls, hend⟩ := hall.path_end Pipeline.stacked_nil hpath fun _ _ _ _ => trivial
    obtain ⟨-, hregistration⟩ :=
      hregistered.path_end Scheduler.registered_nil hpath fun _ _ _ _ => trivial
    refine ⟨fun before => Pipeline.atMostOne_of_guaranteed hcalls hend, ?_⟩
    intro bundle calls result s' hstart before m after he
    exact inTurn_of_path hend hregistration hstart he

/-- A session that shows the bare bundle is given it again. It asks for frames once and creates as
much as before, so the five handles of the first start are gone by then. -/
theorem one_pipeline_at_a_time_restarted :
    let device := obliging fun _ => false
    let shown := (attemptAll ([Operation.start bareBundle].map (Operation.carryOut {})) {}).run
      device 0
    let restarted := (start {} bareBundle shown.state).run device shown.provider
    (held (shown.moments.map Moment.exchange)).length = 5 ∧
      (created (restarted.moments.map Moment.exchange)).length = 5 ∧
      (callbacks (shown.moments.map Moment.exchange)).entries.map Prod.fst = [1] ∧
      ∀ before m after, restarted.moments = before ++ m :: after →
        InTurn (shown.moments.map Moment.exchange) (before.map Moment.exchange) m.call := by
  intro device shown restarted
  have hshown := Dialogue.path_run device
    (attemptAll ([Operation.start bareBundle].map (Operation.carryOut {})) {}) 0
  have hrestarted := Dialogue.path_run device (start {} bareBundle shown.state) shown.provider
  refine ⟨by decide +kernel, by decide +kernel, by decide +kernel, ?_⟩
  exact ((one_pipeline_at_a_time {}).2 _ _ _ _ hshown).2 _ _ _ _ hrestarted

end Session

end ShaderPreview
