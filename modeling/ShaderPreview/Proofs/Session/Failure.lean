import ShaderPreview.Proofs.Session.Safety

/-!
# What a Failed Start Leaves Behind

A start that fails once the bundle is taken apart is meant to leave nothing alive. The build keeps
to this: whatever cuts it short, all that was obtained is given back. But the program's frames are
begun after the build, and nobody gives the program back when that fails. So it comes down to the
calls about frames: a failed start leaves nothing alive exactly when none of them was refused.

## Main results

* `Session.start_leaves_nothing_iff`: when a failed start leaves nothing alive.
* `Session.start_leaves_program`: a start that leaves a program with its five handles.
-/

namespace ShaderPreview.Session

open Procedure Device

/-- What is relied on in a start **on a device that is there** and that lets go: handles are new,
and no cancellation or deletion is refused. -/
def LetsGo (past : List (Exchange Device)) (x : Exchange Device) : Prop :=
  Fresh past x ∧ (x.call = .isAvailable → x = ⟨.isAvailable, .ok true⟩) ∧
    ∀ fault, x.reply = .error fault → x.call.deleted? = none ∧ ∀ token, x.call ≠ .cancelFrame token

/-- A device that lets go is not relied on to be absent. -/
theorem not_absenceRelied : ¬AbsenceRelied LetsGo := by
  rintro ⟨past, reply, hreply, -, havailable, -⟩
  obtain ⟨-, hreply'⟩ := Exchange.mk.inj (havailable rfl)
  exact hreply (eq_of_heq hreply')

/-- A device that lets go refuses nothing that clearing a session asks for. -/
theorem not_clearingRefusable : ¬ClearingRefusable LetsGo := by
  rintro (⟨past, call, fault, hdeleted, -, -, hkept⟩ | ⟨past, token, fault, -, -, hkept⟩)
  · rw [(hkept fault rfl).1] at hdeleted
    exact absurd hdeleted Bool.false_ne_true
  · exact (hkept fault rfl).2 token rfl

/-- On such a device a start fails in two ways: nothing is built, or what is built does not run. -/
theorem StartFailed.notBuilt_or_notRunning {bundle : String} {sections : Sections} {n : Nat}
    {past : List (Exchange Device)} {s : Session} (h : StartFailed LetsGo bundle n past s)
    (hsplit : Bundle.split bundle = .ok sections) :
    (s.scheduler.Idle ∧ s.pipeline = { phase := .failed } ∧ frameRefusals past = n) ∨
      ∃ p, s.scheduler.token = none ∧
        s.pipeline = { phase := .active, owned := p.owned, program := some p } ∧
        frameRefusals past = n + 1 := by
  cases h with
  | absent h => exact absurd h not_absenceRelied
  | unreadable h =>
    obtain ⟨fault, h⟩ := h
    rw [hsplit] at h
    cases h
  | notCleared h => exact absurd h not_clearingRefusable
  | notBuilt hidle hpipeline hn => exact .inl ⟨hidle, hpipeline, hn⟩
  | notRunning p htoken hpipeline hn => exact .inr ⟨p, htoken, hpipeline, hn⟩

/-- A **failed start** on a device that is there and lets go, of a bundle that can be taken apart,
after any operations. No callback is left. Nothing is left alive exactly when no call about frames
was refused; otherwise the program that was built is left with its five handles. -/
theorem start_leaves_nothing_iff {settings : RenderSettings} {ops : List Operation}
    {history moments : List (Moment Device Session)}
    {results : Except Fault (List (Except Fault Unit))} {s s' : Session} {bundle : String}
    {sections : Sections} {fault : Fault}
    (hhistory : Dialogue.Path (attemptAll (ops.map (Operation.carryOut settings)) {}) history
      results s)
    (hsplit : Bundle.split bundle = .ok sections)
    (hstart : Dialogue.Path (start settings bundle s) moments (.error fault) s')
    (hnew : (created ((history ++ moments).map Moment.exchange)).Nodup)
    (havailable : ∀ m ∈ moments, m.call = .isAvailable → m.exchange = ⟨.isAvailable, .ok true⟩)
    (hlets : ∀ m ∈ moments, ∀ fault, m.reply = .error fault →
      m.call.deleted? = none ∧ ∀ token, m.call ≠ .cancelFrame token) :
    (callbacks ((history ++ moments).map Moment.exchange)).entries = [] ∧ s'.rendering = false ∧
      ((live ((history ++ moments).map Moment.exchange) = [] ∧ s'.scheduler.clock = none ∧
        s'.program = none) ↔ frameRefusals (moments.map Moment.exchange) = 0) ∧
      (frameRefusals (moments.map Moment.exchange) ≠ 0 → ∃ p, s'.program = some p ∧
        live ((history ++ moments).map Moment.exchange) = p.owned.reverse) := by
  rw [List.map_append] at hnew ⊢
  have hpast : (created (history.map Moment.exchange)).Nodup := by
    rw [created, List.filterMap_append] at hnew
    exact (List.nodup_append.mp hnew).1
  obtain ⟨-, hcoherent⟩ := safe_of_path hhistory hpast
  have hrelied : (safety LetsGo).Relied (history.map Moment.exchange) moments := by
    intro before m after he
    have hm : m ∈ moments := by
      rw [he]
      exact List.mem_append_right _ List.mem_cons_self
    exact ⟨fresh_of_nodup hnew he, havailable m hm, hlets m hm⟩
  obtain ⟨-, hend, hfailed⟩ := (honours_start (fun _ _ h => h.1) _ s ⟨hcoherent, rfl⟩).path hstart
    hrelied
  have hcount : frameRefusals (history.map Moment.exchange ++ moments.map Moment.exchange) =
      frameRefusals (history.map Moment.exchange) + frameRefusals (moments.map Moment.exchange) :=
    List.countP_append
  have hlive := hend.kept.stands.live_eq
  have hsilent : s'.scheduler.token = none →
      (callbacks (history.map Moment.exchange ++ moments.map Moment.exchange)).entries = [] ∧
        s'.rendering = false := by
    intro htoken
    refine ⟨hend.kept.entries_callbacks htoken, ?_⟩
    rw [rendering, Scheduler.running, htoken]
    rfl
  rcases hfailed.notBuilt_or_notRunning hsplit with ⟨hidle, hpipeline, hn⟩ |
    ⟨p, htoken, hpipeline, hn⟩
  · obtain ⟨hcallbacks, hrendering⟩ := hsilent hidle.2.2
    rw [hpipeline] at hlive
    have hnone : frameRefusals (moments.map Moment.exchange) = 0 := by omega
    refine ⟨hcallbacks, hrendering, iff_of_true ⟨hlive, hidle.2.1, ?_⟩ hnone, absurd hnone⟩
    rw [program, hpipeline]
  · obtain ⟨hcallbacks, hrendering⟩ := hsilent htoken
    have hprogram : s'.program = some p := by rw [program, hpipeline]
    rw [hpipeline] at hlive
    refine ⟨hcallbacks, hrendering, iff_of_false ?_ (by omega), fun _ => ⟨p, hprogram, hlive⟩⟩
    rintro ⟨-, -, hnone⟩
    rw [hprogram] at hnone
    cases hnone

/-- A device that obliges, but **refuses to call back**. -/
def neverCallsBack : Provider Device Handle := obliging fun call => call = .requestFrame

/-- A device that is asked to call back and refuses leaves the program of the bare bundle with its
five handles. -/
theorem start_leaves_program :
    let run := (start {} bareBundle {}).run neverCallsBack 0
    run.result = .error (.broken "refused") ∧ run.state.status = .active ∧
      live (run.moments.map Moment.exchange) =
        [⟨.shader, 1⟩, ⟨.shader, 2⟩, ⟨.program, 3⟩, ⟨.buffer, 4⟩, ⟨.buffer, 5⟩] := by
  intro run
  simp only [run, start_bareBundle]
  decide

/-- Such a start is one after which something is left alive, since the call to call back was
refused. -/
theorem start_leaves_nothing_iff_neverCallsBack :
    let run := (start {} bareBundle {}).run neverCallsBack 0
    run.result = .error (.broken "refused") ∧
      frameRefusals (run.moments.map Moment.exchange) = 1 ∧
      ¬(live (run.moments.map Moment.exchange) = [] ∧ run.state.scheduler.clock = none ∧
        run.state.program = none) := by
  intro run
  have hresult : run.result = .error (.broken "refused") := by
    simp only [run, start_bareBundle]
    decide
  have hrefusals : frameRefusals (run.moments.map Moment.exchange) = 1 := by
    simp only [run, start_bareBundle]
    decide
  have hnew : (created (([] ++ run.moments).map Moment.exchange)).Nodup := by
    simp only [run, start_bareBundle]
    decide
  have hpath : Dialogue.Path (start {} bareBundle {}) run.moments (.error (.broken "refused"))
      run.state := hresult ▸ Dialogue.path_run neverCallsBack (start {} bareBundle {}) 0
  have hcall : ∀ m ∈ run.moments, ∀ fault, m.reply = .error fault → m.call = .requestFrame := by
    intro m hm fault hfault
    obtain ⟨last, hanswer⟩ := Dialogue.exists_answer_of_mem_run hm
    exact of_decide_eq_true (refuses_of_obliging (hanswer.trans hfault))
  have havailable : ∀ m ∈ run.moments, m.call = .isAvailable →
      m.exchange = ⟨.isAvailable, .ok true⟩ := by
    rintro ⟨state, call, reply⟩ hm rfl
    obtain ⟨last, hanswer⟩ := Dialogue.exists_answer_of_mem_run hm
    exact congrArg (Exchange.mk _) hanswer.symm
  have hlets : ∀ m ∈ run.moments, ∀ fault, m.reply = .error fault →
      m.call.deleted? = none ∧ ∀ token, m.call ≠ .cancelFrame token := by
    intro m hm fault hfault
    rw [hcall m hm fault hfault]
    exact ⟨rfl, nofun⟩
  have hhistory : Dialogue.Path (attemptAll (([] : List Operation).map (Operation.carryOut {})) {})
      [] (.ok []) {} := .done _ _
  obtain ⟨-, -, hiff, -⟩ := start_leaves_nothing_iff hhistory split_bareBundle hpath hnew havailable
    hlets
  rw [List.nil_append, hrefusals] at hiff
  exact ⟨hresult, hrefusals, fun h => absurd (hiff.mp h) (by decide)⟩

end ShaderPreview.Session
