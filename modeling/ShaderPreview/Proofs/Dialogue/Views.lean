import ShaderPreview.Dialogue.Procedure
import ShaderPreview.Dialogue.Run

/-!
# Runs Seen from Elsewhere

A dialogue may be seen from a larger state, and its result may be put in another form. Neither makes
a difference to the calls of a run or to what the provider becomes. A procedure that does not look
at the state and does not change it is the same dialogue from every state.

## Main definitions

* `Procedure.Stateless`: a procedure has nothing to do with the state.

## Main results

* `Dialogue.run_mapState`: a run seen from another state.
* `Dialogue.mapState_follow`: one dialogue after another, both seen from another state.
* `Procedure.Stateless.bind`: procedures one after another that have nothing to do with the state.
* `Procedure.run_bind_pure`: a run whose result is put in another form.
-/

namespace ShaderPreview

variable {I : Interface} {σ τ δ α β : Type}

namespace Dialogue

/-- The run of a dialogue **seen from another state**. -/
theorem run_mapState (provider : Provider I δ) (f : σ → τ) (dlg : Dialogue I σ α) (d : δ) :
    (dlg.mapState f).run provider d =
      let run := dlg.run provider d
      { run with
        state := f run.state
        moments := run.moments.map fun m => ⟨f m.state, m.call, m.reply⟩ } := by
  induction dlg generalizing d with
  | done r s => rfl
  | ask s call next ih => simp only [mapState, run, ih, List.map_cons]
  | tell n next ih => simp only [mapState, run, ih]

/-- What comes after is seen from the other state **as well**. -/
theorem mapState_follow (f : σ → τ) (dlg : Dialogue I σ α)
    {next : Except Fault α → σ → Dialogue I σ β} {next' : Except Fault α → τ → Dialogue I τ β}
    (h : ∀ r s, next' r (f s) = (next r s).mapState f) :
    (dlg.mapState f).follow next' = (dlg.follow next).mapState f := by
  induction dlg with
  | done r s => exact h r s
  | ask s call next ih => exact congrArg (ask (f s) call) (funext fun reply => ih reply)
  | tell n next ih => exact congrArg (tell n) ih

end Dialogue

namespace Procedure

/-- A procedure has **nothing to do with the state**: it is the same dialogue from every state. -/
def Stateless (p : Procedure I σ α) : Prop := ∀ s s', p s' = (p s).mapState fun _ => s'

/-- A result has nothing to do with the state. -/
theorem stateless_pure {a : α} : Stateless (pure a : Procedure I σ α) := fun _ _ => rfl

/-- Nor has a result that may be a fault. -/
theorem stateless_ofExcept {r : Except Fault α} : Stateless (ofExcept r : Procedure I σ α) := by
  intro s s'
  cases r <;> rfl

/-- Nor has a call. -/
theorem stateless_perform {call : I.Call} :
    Stateless (perform call : Procedure I σ (I.Reply call)) := fun _ _ => rfl

/-- **One after another** they have nothing to do with the state either. -/
theorem Stateless.bind {p : Procedure I σ α} {f : α → Procedure I σ β} (hp : Stateless p)
    (hf : ∀ a, Stateless (f a)) : Stateless (p >>= f) := by
  intro s s'
  rw [bind_apply, bind_apply, hp s s']
  refine Dialogue.mapState_follow _ _ fun r s => ?_
  cases r with
  | ok a => exact hf a s s'
  | error fault => rfl

/-- It is the same dialogue from states that look the same. -/
theorem Stateless.mapState_eq {p : Procedure I σ α} {f : σ → τ} {s s' : σ} (hp : Stateless p)
    (h : f s = f s') : (p s).mapState f = (p s').mapState f :=
  calc (p s).mapState f
    _ = ((p s).mapState fun _ => s).mapState f := by rw [← hp s s]
    _ = (p s).mapState (f ∘ fun _ => s) := Dialogue.mapState_mapState _ _ _
    _ = (p s).mapState (f ∘ fun _ => s') := congrArg (Dialogue.mapState · (p s)) (funext fun _ => h)
    _ = ((p s).mapState fun _ => s').mapState f := (Dialogue.mapState_mapState _ _ _).symm
    _ = (p s').mapState f := by rw [← hp s s']

end Procedure

/-- The run of a procedure whose result is **put in another form**. -/
theorem Procedure.run_bind_pure (provider : Provider I δ) (p : Procedure I σ α) (f : α → β) (s : σ)
    (d : δ) :
    ((p >>= fun a => pure (f a)) s).run provider d =
      let run := (p s).run provider d
      { run with result := run.result.map f } := by
  rw [bind_apply, Dialogue.run_follow]
  generalize (p s).run provider d = run
  obtain ⟨fault | a, s, d, moments, notices⟩ := run
  · simp only [Dialogue.run, List.append_nil, Except.map]
  · simp only [Dialogue.run, List.append_nil, Except.map, pure_apply]

end ShaderPreview
