import ShaderPreview.Proofs.Dialogue.Contract

/-!
# Contracts Across Layers

A layer carries out the calls of an upper interface by procedures over a lower one. What is known of
the upper calls alone is then known of the whole, as long as the layer **makes good** what is relied
on above: each call that is guaranteed is answered in a way that is relied on, and what has passed
above stays related to what has passed below.

## Main definitions

* `Procedure.MakesGood`: a layer answers as is relied on above it.

## Main results

* `Procedure.Honours.implement`: a procedure that honours a contract still does when it is carried
  out by such a layer.
-/

namespace ShaderPreview

variable {I J : Interface} {σ τ α : Type} {C : Contract I σ} {D : Contract J τ}
  {R : List (Exchange I) → List (Exchange J) → τ → Prop}
  {layer : (call : I.Call) → Procedure J τ (I.Reply call)}

/-- A layer **makes good** what is relied on above it. It keeps the two pasts and its own state
related. -/
def Procedure.MakesGood (C : Contract I σ) (D : Contract J τ)
    (R : List (Exchange I) → List (Exchange J) → τ → Prop)
    (layer : (call : I.Call) → Procedure J τ (I.Reply call)) : Prop :=
  ∀ above s call, C.guarantees above s call →
    Honours D (R above) (layer call)
      (fun below a t => C.relies above ⟨call, .ok a⟩ ∧ R (above ++ [⟨call, .ok a⟩]) below t)
      (fun below fault t =>
        C.relies above ⟨call, .error fault⟩ ∧ R (above ++ [⟨call, .error fault⟩]) below t)

open Procedure

/-- A dialogue that honours a contract comes to the **same end** on a layer that makes good what it
relies on. -/
theorem Dialogue.Honours.implement {post : List (Exchange I) → Except Fault α → σ → Prop}
    {above : List (Exchange I)} {below : List (Exchange J)} {t : τ} {d : Dialogue I σ α}
    (h : d.Honours C post above) (hlayer : MakesGood C D R layer) (hR : R above below t) :
    (d.implement layer t).Honours (D.under Prod.snd)
      (fun below r both => ∃ above, R above below both.2 ∧ post above r both.1) below := by
  induction d generalizing above below t with
  | done r s => exact ⟨above, hR, h⟩
  | ask s call next ih =>
    obtain ⟨hcall, hnext⟩ := h
    refine honours_follow.mpr (honours_mapState.mpr ?_)
    refine (hlayer above s call hcall below t hR).mono (fun _ _ h => h) (fun _ _ _ h => h) ?_
    intro below r t hr
    cases r with
    | ok a => exact ih (.ok a) (hnext _ hr.1) hr.2
    | error fault => exact ih (.error fault) (hnext _ hr.1) hr.2
  | tell n next ih => exact ih h hR

/-- A procedure that honours a contract **still does** on a layer that makes good what it relies
on. -/
theorem Procedure.Honours.implement {pre : List (Exchange I) → σ → Prop} {p : Procedure I σ α}
    {ok : List (Exchange I) → α → σ → Prop} {err : List (Exchange I) → Fault → σ → Prop}
    (h : Honours C pre p ok err) (hlayer : MakesGood C D R layer) :
    Honours (D.under Prod.snd)
      (fun below both => ∃ above, R above below both.2 ∧ pre above both.1)
      (p.implement layer)
      (fun below a both => ∃ above, R above below both.2 ∧ ok above a both.1)
      (fun below fault both => ∃ above, R above below both.2 ∧ err above fault both.1) := by
  rintro below ⟨s, t⟩ ⟨above, hR, hs⟩
  refine ((h above s hs).implement hlayer hR).mono (fun _ _ h => h) (fun _ _ _ h => h) ?_
  intro below r both hr
  cases r with
  | ok a => exact hr
  | error fault => exact hr

end ShaderPreview
