import ShaderPreview.Dialogue.Run

/-!
# Paths Through a Dialogue

Nothing is known of a device beforehand: it may answer a call in any way, or refuse it. A **path**
goes through a dialogue by choosing an answer at each call. What holds on all paths holds whatever
the device does; a run with a provider is one of the paths.

## Main definitions

* `Dialogue.Path`: the calls on a way through a dialogue, and where it ends.

## Main results

* `Dialogue.path_follow`: a path through one dialogue after another falls into two.
* `Dialogue.path_run`: a run is a path.
-/

namespace ShaderPreview.Dialogue

variable {I : Interface} {σ τ δ α β : Type}

/-- A **way through a dialogue**: the calls on it with the answers that were chosen, and the result
and state at its end. -/
inductive Path : Dialogue I σ α → List (Moment I σ) → Except Fault α → σ → Prop
  | done (result : Except Fault α) (state : σ) : Path (.done result state) [] result state
  | ask {state : σ} {call : I.Call} {next : Except Fault (I.Reply call) → Dialogue I σ α}
      {moments : List (Moment I σ)} {result : Except Fault α} {final : σ}
      (reply : Except Fault (I.Reply call)) (h : Path (next reply) moments result final) :
      Path (.ask state call next) (⟨state, call, reply⟩ :: moments) result final
  | tell {notice : Notice} {next : Dialogue I σ α} {moments : List (Moment I σ)}
      {result : Except Fault α} {final : σ} (h : Path next moments result final) :
      Path (.tell notice next) moments result final

/-- A path through one dialogue **after another** is a path through the first and then one through
the second. -/
theorem path_follow {d : Dialogue I σ α} {k : Except Fault α → σ → Dialogue I σ β}
    {moments : List (Moment I σ)} {result : Except Fault β} {final : σ} :
    Path (d.follow k) moments result final ↔
      ∃ first middle state second, Path d first middle state ∧
        Path (k middle state) second result final ∧ moments = first ++ second := by
  induction d generalizing moments with
  | done r s =>
    refine ⟨fun h => ⟨[], r, s, moments, .done r s, h, rfl⟩, ?_⟩
    rintro ⟨first, middle, state, second, hd, hk, rfl⟩
    cases hd
    exact hk
  | ask s c next ih =>
    constructor
    · intro h
      cases h with
      | ask reply h =>
        obtain ⟨first, middle, state, second, hd, hk, rfl⟩ := (ih reply).mp h
        exact ⟨_, middle, state, second, .ask reply hd, hk, rfl⟩
    · rintro ⟨first, middle, state, second, hd, hk, rfl⟩
      cases hd with
      | ask reply hd => exact .ask reply ((ih reply).mpr ⟨_, _, _, _, hd, hk, rfl⟩)
  | tell n next ih =>
    constructor
    · intro h
      cases h with
      | tell h =>
        obtain ⟨first, middle, state, second, hd, hk, rfl⟩ := ih.mp h
        exact ⟨first, middle, state, second, .tell hd, hk, rfl⟩
    · rintro ⟨first, middle, state, second, hd, hk, rfl⟩
      cases hd with
      | tell hd => exact .tell (ih.mpr ⟨_, _, _, _, hd, hk, rfl⟩)

/-- A **run** with a provider is a path. -/
theorem path_run (provider : Provider I δ) (d : Dialogue I σ α) (start : δ) :
    let run := d.run provider start
    Path d run.moments run.result run.state := by
  induction d generalizing start with
  | done r s => exact .done r s
  | ask s c next ih => exact .ask _ (ih _ _)
  | tell n next ih => exact .tell (ih _)

end ShaderPreview.Dialogue
