import ShaderPreview.Dialogue.Procedure

/-!
# Running a Dialogue

A **provider** answers the calls of an interface from a state of its own. A dialogue with a provider
has one path; the run is that path with its end: the calls with their answers and the state in
which each was made, what the user was told, and the two final states.

## Main definitions

* `Provider`: answers calls.
* `Moment`: one call of a run.
* `Run`: what a run leaves behind.
* `Dialogue.run`: the run of a dialogue with a provider.

## Main results

* `Dialogue.run_follow`: the run of one dialogue after another is one run after another.
-/

namespace ShaderPreview

/-- A **provider** of an interface: how each call is answered or refused, and what it does to the
provider's own state. -/
structure Provider (I : Interface) (δ : Type) where
  answer : δ → (call : I.Call) → Except Fault (I.Reply call) × δ

/-- **One call** of a run: the caller's state when it was made, and the answer. -/
structure Moment (I : Interface) (σ : Type) where
  state : σ
  call : I.Call
  reply : Except Fault (I.Reply call)

/-- What a **run** leaves behind. -/
structure Run (I : Interface) (σ δ α : Type) where
  result : Except Fault α
  state : σ
  provider : δ
  moments : List (Moment I σ) := []
  notices : List Notice := []

namespace Dialogue

variable {I : Interface} {σ δ α β : Type}

/-- The **run** of a dialogue with a provider. -/
def run (provider : Provider I δ) : Dialogue I σ α → δ → Run I σ δ α
  | done result state, d => { result, state, provider := d }
  | ask state call next, d =>
    let (reply, d) := provider.answer d call
    let rest := (next reply).run provider d
    { rest with moments := ⟨state, call, reply⟩ :: rest.moments }
  | tell notice next, d =>
    let rest := next.run provider d
    { rest with notices := notice :: rest.notices }

/-- The **run of one dialogue after another**: the second one starts where the first one ended. -/
theorem run_follow (provider : Provider I δ) (d : Dialogue I σ α)
    (k : Except Fault α → σ → Dialogue I σ β) (start : δ) :
    (d.follow k).run provider start =
      let first := d.run provider start
      let second := (k first.result first.state).run provider first.provider
      { second with
        moments := first.moments ++ second.moments
        notices := first.notices ++ second.notices } := by
  induction d generalizing start with
  | done r s => rfl
  | ask s c next ih => simp only [ask_follow, run, ih, List.cons_append]
  | tell n next ih => simp only [tell_follow, run, ih, List.cons_append]

end Dialogue

end ShaderPreview
