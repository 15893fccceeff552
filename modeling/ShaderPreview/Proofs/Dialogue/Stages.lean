import ShaderPreview.Proofs.Dialogue.Confined

/-!
# The Stages of a Path

A path through a sequence of procedures goes through one of them after another, until one gives up.
A moment of the path lies in one of these stages. So where a kind of call can only be made at one
place of a program, the rest of the path from there on is a path through the rest of the program.

## Main results

* `Procedure.path_bind_iff`: the two ways through a sequence.
* `Procedure.path_attempt_bind_iff`: the way through a sequence that goes on after a fault.
* `Procedure.path_ask_bind`, `Procedure.path_ask_attempt_bind`: the way on from a call.
* `Procedure.path_mapState_iff`: a path seen from another state.
* `Procedure.exists_append_of_append_cons`: the stage in which a moment lies.
* `Procedure.Confined.path_bind`: a moment that is not a confined procedure's lies behind it.
-/

namespace ShaderPreview.Procedure

open Dialogue

variable {I : Interface} {σ τ α β : Type} {p : Procedure I σ α} {s final : σ}
  {moments : List (Moment I σ)}

/-- A path through **one procedure after another** goes through both, or the first one gives up. -/
theorem path_bind_iff {f : α → Procedure I σ β} {result : Except Fault β} :
    Dialogue.Path ((p >>= f) s) moments result final ↔
      (∃ fault, result = .error fault ∧ Dialogue.Path (p s) moments (.error fault) final) ∨
        ∃ a middle first second, moments = first ++ second ∧
          Dialogue.Path (p s) first (.ok a) middle ∧
          Dialogue.Path (f a middle) second result final := by
  rw [bind_apply, path_follow]
  constructor
  · rintro ⟨first, r, middle, second, hfirst, hsecond, rfl⟩
    cases r with
    | ok a => exact .inr ⟨a, middle, first, second, rfl, hfirst, hsecond⟩
    | error fault =>
      cases hsecond
      exact .inl ⟨fault, rfl, by rwa [List.append_nil]⟩
  · rintro (⟨fault, rfl, hfirst⟩ | ⟨a, middle, first, second, rfl, hfirst, hsecond⟩)
    · exact ⟨moments, .error fault, final, [], hfirst, .done _ _, (List.append_nil _).symm⟩
    · exact ⟨first, .ok a, middle, second, hfirst, hsecond, rfl⟩

/-- A path that **goes on after a fault** goes through both. -/
theorem path_attempt_bind_iff {f : Except Fault α → Procedure I σ β} {result : Except Fault β} :
    Dialogue.Path ((p.attempt >>= f) s) moments result final ↔
      ∃ r middle first second, moments = first ++ second ∧ Dialogue.Path (p s) first r middle ∧
        Dialogue.Path (f r middle) second result final := by
  rw [bind_apply, attempt, follow_assoc, path_follow]
  constructor
  · rintro ⟨first, r, middle, second, hfirst, hsecond, rfl⟩
    exact ⟨r, middle, first, second, rfl, hfirst, hsecond⟩
  · rintro ⟨r, middle, first, second, rfl, hfirst, hsecond⟩
    exact ⟨first, r, middle, second, hfirst, hsecond, rfl⟩

/-- A path that looks at the state goes on with it. -/
theorem path_state_bind {f : σ → Procedure I σ β} {result : Except Fault β} :
    Dialogue.Path ((state >>= f) s) moments result final ↔
      Dialogue.Path (f s s) moments result final := Iff.rfl

/-- A path that changes the state goes on from the new one. -/
theorem path_update_bind {g : σ → σ} {f : Unit → Procedure I σ β} {result : Except Fault β} :
    Dialogue.Path ((update g >>= f) s) moments result final ↔
      Dialogue.Path (f () (g s)) moments result final := Iff.rfl

/-- A path that **makes a call** goes on with the answer, or ends with the refusal. -/
theorem path_ask_bind {call : I.Call} {f : I.Reply call → Procedure I σ β}
    {result : Except Fault β} (h : Dialogue.Path ((perform call >>= f) s) moments result final) :
    (∃ fault, moments = [⟨s, call, .error fault⟩] ∧ result = .error fault ∧ final = s) ∨
      ∃ a rest, moments = ⟨s, call, .ok a⟩ :: rest ∧ Dialogue.Path (f a s) rest result final := by
  rcases path_bind_iff.mp h with
    ⟨fault, rfl, hfirst⟩ | ⟨a, middle, first, second, rfl, hfirst, hsecond⟩
  · cases hfirst with
    | ask reply hfirst =>
      cases hfirst
      exact .inl ⟨fault, rfl, rfl, rfl⟩
  · cases hfirst with
    | ask reply hfirst =>
      cases hfirst
      exact .inr ⟨a, second, rfl, hsecond⟩

/-- A path that **makes a call** goes on with what it was answered, in any case. -/
theorem path_ask_attempt_bind {call : I.Call} {f : Except Fault (I.Reply call) → Procedure I σ β}
    {result : Except Fault β}
    (h : Dialogue.Path (((perform call).attempt >>= f) s) moments result final) :
    ∃ reply rest, moments = ⟨s, call, reply⟩ :: rest ∧
      Dialogue.Path (f reply s) rest result final := by
  obtain ⟨r, middle, first, second, rfl, hfirst, hsecond⟩ := path_attempt_bind_iff.mp h
  cases hfirst with
  | ask reply hfirst =>
    cases hfirst
    exact ⟨_, second, rfl, hsecond⟩

/-- The result or fault of a procedure whose result is put in another form, which may fail. -/
theorem attempt_bind_ofExcept {f : α → Except Fault β} :
    (p >>= fun a => ofExcept (f a)).attempt =
      p.attempt >>= fun r => (pure (r >>= f) : Procedure I σ (Except Fault β)) := by
  funext s
  rw [attempt, bind_apply, bind_apply, attempt, follow_assoc, follow_assoc]
  congr 1
  funext r s
  rcases r with fault | a
  · rfl
  · change (ofExcept (f a) s).follow _ = Dialogue.done (.ok (f a)) s
    cases f a <;> rfl

/-- A path seen **from another state**. -/
theorem path_mapState_iff {f : σ → τ} {d : Dialogue I σ α} {moments : List (Moment I τ)}
    {result : Except Fault α} {final : τ} :
    Dialogue.Path (d.mapState f) moments result final ↔
      ∃ moments' final', moments = moments'.map (fun m => ⟨f m.state, m.call, m.reply⟩) ∧
        final = f final' ∧ Dialogue.Path d moments' result final' := by
  constructor
  · intro h
    induction d generalizing moments with
    | done r s =>
      cases h
      exact ⟨[], s, rfl, rfl, .done _ s⟩
    | ask s c next ih =>
      cases h with
      | ask reply h =>
        obtain ⟨moments', final', rfl, rfl, h'⟩ := ih reply h
        exact ⟨⟨s, c, reply⟩ :: moments', final', rfl, rfl, .ask reply h'⟩
    | tell n next ih =>
      cases h with
      | tell h =>
        obtain ⟨moments', final', rfl, rfl, h'⟩ := ih h
        exact ⟨moments', final', rfl, rfl, .tell h'⟩
  · rintro ⟨moments', final', rfl, rfl, h⟩
    induction h with
    | done r s => exact .done r (f s)
    | ask reply h ih => exact .ask reply ih
    | tell h ih => exact .tell ih

/-- A moment of two stages lies in **the first or in the second**. -/
theorem exists_append_of_append_cons {γ : Type} {first second before after : List γ} {m : γ}
    (h : first ++ second = before ++ m :: after) :
    (∃ since, first = before ++ m :: since ∧ after = since ++ second) ∨
      ∃ until', before = first ++ until' ∧ second = until' ++ m :: after := by
  rcases List.append_eq_append_iff.mp h with ⟨until', hbefore, hsecond⟩ | ⟨since, hfirst, hsecond⟩
  · exact .inr ⟨until', hbefore, hsecond⟩
  · cases since with
    | nil => exact .inr ⟨[], by simpa using hfirst.symm, hsecond.symm⟩
    | cons m' since =>
      obtain ⟨rfl, rfl⟩ := List.cons.inj hsecond
      exact .inl ⟨since, hfirst, rfl⟩

/-- A moment that is **not a confined procedure's** lies behind it. -/
theorem Confined.path_bind {P : I.Call → Prop} {f : α → Procedure I σ β} {result : Except Fault β}
    {before after : List (Moment I σ)} {m : Moment I σ} (hp : Confined P p) (hm : ¬P m.call)
    (h : Dialogue.Path ((p >>= f) s) (before ++ m :: after) result final) :
    ∃ a middle first before', before = first ++ before' ∧ (∀ m ∈ first, P m.call) ∧
      Dialogue.Path (f a middle) (before' ++ m :: after) result final := by
  rcases path_bind_iff.mp h with
    ⟨fault, -, hfirst⟩ | ⟨a, middle, first, second, he, hfirst, hsecond⟩
  · exact absurd (hp.path hfirst m (List.mem_append_right _ (.head _))) hm
  · rcases exists_append_of_append_cons he.symm with ⟨since, rfl, -⟩ | ⟨before', rfl, rfl⟩
    · exact absurd (hp.path hfirst m (List.mem_append_right _ (.head _))) hm
    · exact ⟨a, middle, first, before', rfl, hp.path hfirst, hsecond⟩

end ShaderPreview.Procedure
