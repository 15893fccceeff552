import ShaderPreview.Proofs.Dialogue.Contract

/-!
# Procedures on a Layer, Step by Step

A procedure that is carried out by a layer is put together as it was: a sequence is carried out as a
sequence, what handles a fault handles it still, and a call is what the layer makes of it. So it can
be followed step by step together with the layer's own state, where it matters in which state the
layer is.

## Main results

* `Procedure.implement_bind`, `Procedure.implement_handle`, `Procedure.implement_zoom`: procedures
  that are put together.
* `Procedure.implement_perform`: a call.
-/

namespace ShaderPreview

variable {I J : Interface} {σ τ ρ α β : Type}
  {layer : (call : I.Call) → Procedure J τ (I.Reply call)}

namespace Dialogue

/-- One dialogue after another is carried out as such. -/
theorem implement_follow (d : Dialogue I σ α) (k : Except Fault α → σ → Dialogue I σ β) (t : τ) :
    (d.follow k).implement layer t =
      (d.implement layer t).follow fun r both => (k r both.1).implement layer both.2 := by
  induction d generalizing t with
  | done r s => rfl
  | ask s call next ih =>
    simp only [ask_follow, implement, follow_assoc, ih]
  | tell n next ih => exact congrArg (tell n) (ih t)

/-- A dialogue seen from another state is carried out as such. -/
theorem implement_mapState (f : σ → ρ) (d : Dialogue I σ α) (t : τ) :
    (d.mapState f).implement layer t =
      (d.implement layer t).mapState fun both => (f both.1, both.2) := by
  induction d generalizing t with
  | done r s => rfl
  | ask s call next ih =>
    simp only [mapState, implement, ih]
    generalize layer call t = d
    induction d with
    | done r t' => rfl
    | ask t' call next ih' => exact congrArg (ask _ call) (funext fun reply => ih' reply)
    | tell n next ih' => exact congrArg (tell n) ih'
  | tell n next ih => exact congrArg (tell n) (ih t)

end Dialogue

namespace Procedure

/-- **A sequence** on a layer is a sequence. -/
theorem implement_bind (p : Procedure I σ α) (f : α → Procedure I σ β) :
    (p >>= f).implement layer = p.implement layer >>= fun a => (f a).implement layer := by
  funext both
  rw [implement, bind_apply, bind_apply, Dialogue.implement_follow]
  congr 1
  funext r both
  cases r <;> rfl

/-- What **handles a fault** on a layer handles it there. -/
theorem implement_handle (p : Procedure I σ α) (recover : Fault → Procedure I σ α) :
    (p.handle recover).implement layer =
      (p.implement layer).handle fun fault => (recover fault).implement layer := by
  funext both
  rw [implement, handle, handle, Dialogue.implement_follow]
  congr 1
  funext r both
  cases r <;> rfl

/-- Work that is done at a fault is carried out by the layer below as all the rest is. -/
theorem implement_onFault (p : Procedure I σ α) (work : Procedure I σ Unit) :
    (p.onFault work).implement layer = (p.implement layer).onFault (work.implement layer) := by
  rw [onFault, implement_handle]
  simp only [implement_bind]
  rfl

/-- **On a part** of the state a layer does what it does there. -/
theorem implement_zoom (get : σ → ρ) (set : σ → ρ → σ) (p : Procedure I ρ α) :
    (p.zoom get set).implement layer = (p.implement layer).zoom
      (fun both => (get both.1, both.2)) fun both part => (set both.1 part.1, part.2) :=
  funext fun both => Dialogue.implement_mapState (set both.1) (p (get both.1)) both.2

/-- **A call** is what the layer makes of it. -/
theorem implement_perform (call : I.Call) :
    (perform call : Procedure I σ _).implement layer =
      (layer call).zoom Prod.snd fun both t => (both.1, t) := by
  funext both
  obtain ⟨s, t⟩ := both
  have hfollow : ∀ d : Dialogue J τ (I.Reply call),
      ((d.mapState fun t => (s, t)).follow fun reply both =>
        (Dialogue.done reply s : Dialogue I σ _).implement layer both.2) =
        d.mapState fun t => (s, t) := by
    intro d
    induction d with
    | done r t => rfl
    | ask t call next ih => exact congrArg (Dialogue.ask _ call) (funext fun reply => ih reply)
    | tell n next ih => exact congrArg (Dialogue.tell n) ih
  exact hfollow (layer call t)

end Procedure

end ShaderPreview
