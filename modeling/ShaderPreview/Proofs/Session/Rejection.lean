import ShaderPreview.Proofs.Session.History
import ShaderPreview.Proofs.Session.Parts

/-!
# Rejected Starts

A start is **rejected** when the device is not there or when its bundle cannot be taken apart. Then
nothing has been stopped yet, so what was shown goes on as it did. All that such a start can leave
behind is the text of its bundle among the sources.

The sources are kept for whoever wants to look at them. No operation goes on from them: stopping,
drawing and refreshing work on the parts of a session beside them, and a start that finds the device
there writes its own before it reads them. So two sessions that differ in nothing but their sources
act alike, whatever they are used for and whatever the device does.

## Main definitions

* `Session.unsourced`: a session apart from its sources.
* `Session.RunsAlike`: two runs that differ in nothing but sources.
* `Session.Blind`: a procedure that never goes on from the sources it finds.

## Main results

* `Session.blind_start`, `Session.blind_answer`: a start is blind, and so is every operation.
* `Session.run_start_unavailable`, `Session.run_start_malformed`: the run of a rejected start.
* `Session.rejected_start_harmless`: a rejected start changes nothing but the recorded text, and
  nothing that comes after it.
-/

namespace ShaderPreview.Session

open Procedure Device

variable {α β δ : Type} {settings : RenderSettings} {bundle : String} {s s' : Session}
  {provider : Provider Device δ} {d d₁ : δ}

/-! ### Sessions apart from their sources -/

/-- A session **apart from its sources**. -/
def unsourced (s : Session) : Session := { s with sources := none }

/-- A call of a session, apart from the session's sources. -/
def unsourcedMoment (m : Moment Device Session) : Moment Device Session :=
  { m with state := m.state.unsourced }

/-- New sources take the place of those that made the difference. -/
theorem withSources_eq (h : s.unsourced = s'.unsourced) (sources : Option Sources) :
    { s with sources } = { s' with sources } :=
  congrArg (fun s : Session => { s with sources }) h

/-- Two runs that **differ in nothing but sources**, and not even in those at the end, if a start
found the device there on the way. -/
structure RunsAlike (r r' : Run Device Session δ α) : Prop where
  result_eq : r.result = r'.result
  provider_eq : r.provider = r'.provider
  notices_eq : r.notices = r'.notices
  moments_eq : r.moments.map unsourcedMoment = r'.moments.map unsourcedMoment
  unsourced_eq : r.state.unsourced = r'.state.unsourced
  state_eq : ⟨.isAvailable, .ok true⟩ ∈ r'.moments.map Moment.exchange → r.state = r'.state

/-- A run is like itself. -/
theorem RunsAlike.refl (r : Run Device Session δ α) : RunsAlike r r :=
  ⟨rfl, rfl, rfl, rfl, rfl, fun _ => rfl⟩

/-- What comes after runs alike makes runs alike again, if it is blind to the sources. -/
theorem RunsAlike.follow {dlg dlg' : Dialogue Device Session α}
    {next : Except Fault α → Session → Dialogue Device Session β}
    (h : RunsAlike (dlg.run provider d) (dlg'.run provider d))
    (hnext : ∀ r d s s', s.unsourced = s'.unsourced →
      RunsAlike ((next r s).run provider d) ((next r s').run provider d)) :
    RunsAlike ((dlg.follow next).run provider d) ((dlg'.follow next).run provider d) := by
  rw [Dialogue.run_follow, Dialogue.run_follow]
  revert h
  generalize dlg.run provider d = first, dlg'.run provider d = first'
  rintro ⟨hresult, hprovider, hnotices, hmoments, hunsourced, hstate⟩
  have h := hnext first'.result first'.provider _ _ hunsourced
  simp only [hresult, hprovider]
  refine ⟨h.result_eq, h.provider_eq, ?_, ?_, h.unsourced_eq, fun hmem => ?_⟩
  · rw [hnotices, h.notices_eq]
  · rw [List.map_append, List.map_append, hmoments, h.moments_eq]
  · rw [List.map_append] at hmem
    rcases List.mem_append.mp hmem with hfirst | hsecond
    · rw [hstate hfirst]
    · exact h.state_eq hsecond

/-- A procedure that is **blind to the sources**: sessions that differ in nothing else go through it
alike, on every device. -/
def Blind (p : DeviceProcedure Session α) : Prop :=
  ∀ (δ : Type) (provider : Provider Device δ) (d : δ) (s s' : Session),
    s.unsourced = s'.unsourced → RunsAlike ((p s).run provider d) ((p s').run provider d)

/-- What makes no call is blind. -/
theorem blind_pure (a : α) : Blind (pure a) := fun _ _ _ _ _ h =>
  ⟨rfl, rfl, rfl, rfl, h, fun hmem => absurd hmem List.not_mem_nil⟩

/-- Blind procedures are blind one after the other. -/
theorem Blind.bind {p : DeviceProcedure Session α} {f : α → DeviceProcedure Session β}
    (hp : Blind p) (hf : ∀ a, Blind (f a)) : Blind (p >>= f) := by
  intro δ provider d s s' h
  rw [bind_apply, bind_apply]
  refine (hp δ provider d s s' h).follow fun r d s s' h => ?_
  cases r with
  | ok a => exact hf a δ provider d s s' h
  | error fault => exact ⟨rfl, rfl, rfl, rfl, h, fun hmem => absurd hmem List.not_mem_nil⟩

/-- A blind procedure whose fault is caught is blind. -/
theorem Blind.attempt {p : DeviceProcedure Session α} (hp : Blind p) : Blind p.attempt :=
  fun δ provider d s s' h => (hp δ provider d s s' h).follow fun r d s s' h =>
    blind_pure r δ provider d s s' h

/-- Procedures that are blind are blind one after another. -/
theorem blind_attemptAll {ps : List (DeviceProcedure Session α)} (h : ∀ p ∈ ps, Blind p) :
    Blind (attemptAll ps) := by
  induction ps with
  | nil => exact blind_pure []
  | cons p ps ih =>
    obtain ⟨hp, hps⟩ := List.forall_mem_cons.mp h
    exact hp.attempt.bind fun _ => (ih hps).bind fun _ => blind_pure _

/-- A procedure on a part beside the sources is blind to them, if it does not ask whether the device
is there. -/
theorem blind_zoom {τ : Type} {get : Session → τ} {set : Session → τ → Session} {part : Part}
    {p : DeviceProcedure τ α} (hget : ∀ s : Session, get s.unsourced = get s)
    (hset : ∀ (s : Session) t, (set s t).unsourced = (set s.unsourced t).unsourced)
    (hp : ConfinedTo part p) (hpart : part ≠ .session) : Blind (p.zoom get set) := by
  intro δ provider d s s' h
  have hsame : get s = get s' := (hget s).symm.trans ((congrArg get h).trans (hget s'))
  have hwhole : ∀ t, (set s t).unsourced = (set s' t).unsourced := by
    intro t
    rw [hset, h, ← hset]
  rw [zoom, zoom, hsame, Dialogue.run_mapState, Dialogue.run_mapState]
  refine ⟨rfl, rfl, rfl, ?_, hwhole _, fun hmem => ?_⟩
  · simp only [List.map_map]
    refine List.map_congr_left fun m _ => ?_
    simp only [Function.comp_apply, unsourcedMoment, hwhole]
  · simp only [List.map_map, List.mem_map] at hmem
    obtain ⟨m, hm, hexchange⟩ := hmem
    have hcall : m.call = .isAvailable := congrArg Exchange.call hexchange
    have hmade := hp.path (Dialogue.path_run provider (p (get s')) d) m hm
    rw [hcall] at hmade
    exact absurd hmade.symm hpart

/-! ### Every operation is blind -/

/-- The scheduler is blind to the sources. -/
theorem blind_onScheduler {p : DeviceProcedure Scheduler α} (hp : ConfinedTo .scheduler p) :
    Blind (onScheduler p) :=
  blind_zoom (fun _ => rfl) (fun _ _ => rfl) hp nofun

/-- The pipeline is blind to the sources. -/
theorem blind_onPipeline {p : DeviceProcedure Pipeline α} (hp : ConfinedTo .pipeline p) :
    Blind (onPipeline p) :=
  blind_zoom (fun _ => rfl) (fun _ _ => rfl) hp nofun

/-- Asking whether the device is there comes first, and what the device answers decides whether
anything comes after. -/
theorem requireDevice_bind_apply (next : Unit → DeviceProcedure Session α) (s : Session) :
    (requireDevice >>= next) s = .ask s .isAvailable fun reply =>
      match reply with
      | .ok true => next () s
      | .ok false =>
        .done (.error (.pipeline (.deviceUnavailable "Graphics device is not available"))) s
      | .error fault => .done (.error fault) s := by
  rw [requireDevice, bind_assoc]
  show Dialogue.ask (I := Device) s .isAvailable _ = _
  congr 1
  funext reply
  rcases reply with fault | available
  · rfl
  · cases available <;> rfl

/-- Reading a bundle overwrites the sources. -/
theorem readBundle_bind_apply (next : Sections × Repair → DeviceProcedure Session α)
    (h : s.unsourced = s'.unsourced) :
    (readBundle settings bundle >>= next) s = (readBundle settings bundle >>= next) s' := by
  simp only [readBundle, bind_assoc, keepSources_bind_apply, withSources_eq h]

/-- A **start** is blind to the sources. It writes its own as soon as it finds the device there. -/
theorem blind_start (settings : RenderSettings) (bundle : String) :
    Blind (start settings bundle) := by
  intro δ provider d s s' h
  rw [start_eq, requireDevice_bind_apply, requireDevice_bind_apply, readBundle_bind_apply _ h]
  obtain ⟨reply, d₁, hanswer⟩ : ∃ reply d₁, provider.answer d .isAvailable = (reply, d₁) :=
    ⟨_, _, rfl⟩
  rw [Dialogue.run, Dialogue.run, hanswer]
  have hmoment : ∀ moments, unsourcedMoment ⟨s, .isAvailable, reply⟩ :: moments =
      unsourcedMoment ⟨s', .isAvailable, reply⟩ :: moments := by
    intro moments
    rw [unsourcedMoment, unsourcedMoment, h]
  have hturnedDown : ∀ reply, reply ≠ .ok true →
      ⟨.isAvailable, .ok true⟩ ∉ [(⟨.isAvailable, reply⟩ : Exchange Device)] := by
    intro reply hreply hmem
    cases List.mem_singleton.mp hmem
    exact hreply rfl
  rcases reply with fault | available
  · exact ⟨rfl, rfl, rfl, hmoment [], h, fun hmem => absurd hmem (hturnedDown _ (by simp))⟩
  cases available with
  | true => exact ⟨rfl, rfl, rfl, hmoment _, rfl, fun _ => rfl⟩
  | false => exact ⟨rfl, rfl, rfl, hmoment [], h, fun hmem => absurd hmem (hturnedDown _ (by simp))⟩

/-- **Every operation** is blind to the sources. -/
theorem blind_answer (settings : RenderSettings) (op : Operation) : Blind (op.answer settings) := by
  cases op with
  | start bundle => exact (blind_start settings bundle).bind fun _ => blind_pure none
  | stop =>
    have hstop : Blind stop :=
      (blind_onScheduler Scheduler.confined_stop).bind fun _ =>
        blind_onPipeline Pipeline.confined_teardown
    exact hstop.bind fun _ => blind_pure none
  | refresh =>
    exact (blind_onScheduler Scheduler.confined_refresh).bind fun count => blind_pure (some count)
  | renderFrame =>
    exact (blind_onScheduler Scheduler.confined_renderFrame).bind fun _ => blind_pure none

/-! ### Rejected starts -/

/-- A start where the **device is not there** leaves everything as it was. -/
theorem run_start_unavailable (hanswer : provider.answer d .isAvailable = (.ok false, d₁)) :
    (start settings bundle s).run provider d = {
      result := .error (.pipeline (.deviceUnavailable "Graphics device is not available"))
      state := s
      provider := d₁
      moments := [⟨s, .isAvailable, .ok false⟩] } := by
  rw [start_eq, requireDevice_bind_apply, Dialogue.run, hanswer]
  rfl

/-- A start whose bundle **cannot be taken apart** leaves its text, and nothing else. -/
theorem run_start_malformed (hanswer : provider.answer d .isAvailable = (.ok true, d₁))
    {fault : BundleFault} (hsplit : Bundle.split bundle = .error fault) :
    (start settings bundle s).run provider d = {
      result := .error (.pipeline (.bundle fault))
      state := { s with sources := some { raw := bundle } }
      provider := d₁
      moments := [⟨s, .isAvailable, .ok true⟩] } := by
  rw [start_eq, requireDevice_bind_apply, Dialogue.run, hanswer, readBundle, hsplit]
  rfl

/-- **A rejected start changes nothing but the recorded text.** Take any session on any device, and
a start that does not find the device there, or whose bundle cannot be taken apart. It gives up with
that very fault, and the only call it makes is the question whether the device is there, which
leaves no trace. In the first case the session is as it was. In the second one the text of the
bundle is recorded, without any parts, and the rest of the session is as it was.

Whatever is then asked of the session, the results are those of the session before that start on the
same device, and so are the calls, the answers, the notices, and the states apart from the sources.
From the first start on that finds the device there, the sources are the same as well. -/
theorem rejected_start_harmless (settings : RenderSettings) (bundle : String) (s : Session)
    (provider : Provider Device δ) {available : Bool}
    (hanswer : provider.answer d .isAvailable = (.ok available, d₁))
    (hrejected : available = true → ∃ fault, Bundle.split bundle = .error fault) :
    let failed := (start settings bundle s).run provider d
    (available = false → failed.state = s ∧ failed.result =
        .error (.pipeline (.deviceUnavailable "Graphics device is not available"))) ∧
      (∀ fault, available = true → Bundle.split bundle = .error fault →
        failed.state = { s with sources := some ⟨bundle, "", "", ""⟩ } ∧
          failed.result = .error (.pipeline (.bundle fault))) ∧
      failed.moments.map Moment.exchange = [⟨.isAvailable, .ok available⟩] ∧
      (∀ m ∈ failed.moments, m.call.isRead = true) ∧
      failed.notices = [] ∧ failed.provider = d₁ ∧
      ∀ ops : List Operation,
        let run := fun s : Session =>
          (attemptAll (ops.map (Operation.answer settings)) s).run provider d₁
        RunsAlike (run failed.state) (run s) := by
  have hops : ∀ ops : List Operation, Blind (attemptAll (ops.map (Operation.answer settings))) :=
    fun ops => blind_attemptAll (List.forall_mem_map.mpr fun op _ => blind_answer settings op)
  intro failed
  cases available with
  | false =>
    have hfailed : failed = _ := run_start_unavailable hanswer
    rw [hfailed]
    refine ⟨fun _ => ⟨rfl, rfl⟩, nofun, rfl, List.forall_mem_singleton.mpr rfl, rfl, rfl, ?_⟩
    exact fun ops => RunsAlike.refl _
  | true =>
    obtain ⟨fault, hsplit⟩ := hrejected rfl
    have hfailed : failed = _ := run_start_malformed hanswer hsplit
    rw [hfailed]
    refine ⟨nofun, fun fault' _ hsplit' => ⟨rfl, ?_⟩, rfl, List.forall_mem_singleton.mpr rfl, rfl,
      rfl, fun ops => hops ops δ provider d₁ _ _ rfl⟩
    rw [hsplit] at hsplit'
    rw [Except.error.inj hsplit']

/-- A session that shows the bare bundle is given an empty one. It goes on showing the bare bundle,
and the next refresh finds it as it was. -/
theorem rejected_start_harmless_empty :
    let device := obliging fun _ => false
    let shown := (start {} bareBundle {}).run device 0
    let failed := (start {} "" shown.state).run device shown.provider
    device.answer shown.provider .isAvailable = (.ok true, shown.provider) ∧
      Bundle.split "" =
        .error (.missingMarkers [Bundle.vertexMarker, Bundle.fragmentMarker] "") ∧
      failed.state = { shown.state with sources := some ⟨"", "", "", ""⟩ } ∧
      RunsAlike ((attemptAll [Operation.refresh.answer {}] failed.state).run device shown.provider)
        ((attemptAll [Operation.refresh.answer {}] shown.state).run device shown.provider) := by
  intro device shown failed
  have hanswer : device.answer shown.provider .isAvailable = (.ok true, shown.provider) := rfl
  have hsplit : Bundle.split "" =
      .error (.missingMarkers [Bundle.vertexMarker, Bundle.fragmentMarker] "") := by decide
  obtain ⟨-, hfailed, -, -, -, -, hlater⟩ :=
    rejected_start_harmless {} "" shown.state device hanswer fun _ => ⟨_, hsplit⟩
  exact ⟨hanswer, hsplit, (hfailed _ rfl hsplit).1, hlater [.refresh]⟩

end ShaderPreview.Session
