import ShaderPreview.Proofs.Dialogue.Answered
import ShaderPreview.Proofs.Dialogue.Layers

/-!
# Confined Procedures

Which calls a procedure can make at all is known from its text, whatever the state it starts from
and whatever it is answered. A procedure that makes only calls of one kind is **confined** to them.
It keeps up all that such calls do not disturb, under any contract that allows them.

## Main definitions

* `Procedure.Confined`: a procedure makes only such calls.

## Main results

* `Procedure.Confined.bind`, `Procedure.Confined.onFault`: procedures that are put together.
* `Procedure.Confined.implement`: on a layer that is confined any procedure is.
* `Procedure.Confined.path`: every call on a path is such a call.
* `Procedure.Confined.keeps`, `Procedure.Confined.keeps_zoom`: what such calls do not disturb is
  kept up, also by a procedure on a part of a state.
* `Procedure.Confined.honours`: what is honoured without guarantees is honoured under any contract
  that allows such calls.
-/

namespace ShaderPreview

variable {I : Interface} {σ τ α β : Type} {P : I.Call → Prop}

namespace Procedure

/-- The contract to make only **such calls**. -/
def callsOnly (P : I.Call → Prop) : Contract I σ where
  relies _ _ := True
  guarantees _ _ call := P call

/-- A procedure is **confined** to such calls. -/
abbrev Confined (P : I.Call → Prop) (p : Procedure I σ α) : Prop :=
  Keeps (callsOnly P) (fun _ _ => True) p

end Procedure

/-- What such calls do not disturb in the past stays so in a dialogue that makes no others. -/
theorem Dialogue.Honours.keeps_past {C : Contract I σ} {Q : List (Exchange I) → Prop}
    {post : List (Exchange I) → Except Fault α → σ → Prop} {past : List (Exchange I)}
    {d : Dialogue I σ α} (h : d.Honours (Procedure.callsOnly P) post past)
    (hcall : ∀ past s call, P call → Q past → C.guarantees past s call)
    (hstep : ∀ past x, P x.call → Q past → Q (past ++ [x])) (hQ : Q past) :
    d.Honours C (fun past _ _ => Q past) past := by
  induction d generalizing past with
  | done r s => exact hQ
  | ask s call next ih =>
    obtain ⟨hP, hnext⟩ := h
    refine ⟨hcall past s call hP hQ, fun reply _ => ?_⟩
    exact ih reply (hnext reply trivial) (hstep past ⟨call, reply⟩ hP hQ)
  | tell n next ih => exact ih h hQ

namespace Procedure

variable {p : Procedure I σ α} {q : Procedure I τ α} {get : σ → τ} {set : σ → τ → σ}

/-! ### Procedures that are put together -/

/-- A result asks for nothing. -/
theorem confined_pure {a : α} : Confined P (pure a : Procedure I σ α) :=
  honours_pure fun _ _ _ => trivial

/-- A change of the state asks for nothing. -/
theorem confined_update {f : σ → σ} : Confined P (update f : Procedure I σ Unit) :=
  honours_update fun _ _ _ => trivial

/-- A notice asks for nothing. -/
theorem confined_tell {notice : Notice} : Confined P (tell notice : Procedure I σ Unit) :=
  honours_tell fun _ _ _ => trivial

/-- A failure asks for nothing. -/
theorem confined_fail {fault : Fault} : Confined P (fail fault : Procedure I σ α) :=
  honours_fail fun _ _ _ => trivial

/-- A call may be made if it is of the kind. -/
theorem confined_perform {call : I.Call} (h : P call) :
    Confined P (perform call : Procedure I σ (I.Reply call)) :=
  honours_perform (fun _ _ _ => h) (fun _ _ _ _ _ => trivial) fun _ _ _ _ _ => trivial

/-- To look at the state and go on is confined to what the rest is confined to. -/
theorem confined_state_bind {f : σ → Procedure I σ α} (h : ∀ s, Confined P (f s)) :
    Confined P (state >>= f) :=
  honours_state_bind fun s => (h s).mono (fun _ _ _ => trivial) (fun _ _ _ h => h) fun _ _ _ h => h

/-- A sequence is confined to what its parts are confined to. -/
theorem Confined.bind {f : α → Procedure I σ β} (hp : Confined P p) (hf : ∀ a, Confined P (f a)) :
    Confined P (p >>= f) :=
  Honours.bind hp hf

/-- So is a procedure with work that is done when it fails. -/
theorem Confined.onFault {work : Procedure I σ Unit} (hp : Confined P p) (hw : Confined P work) :
    Confined P (p.onFault work) :=
  Honours.onFault hp fun _ => hw

/-- So is an attempt, which turns a failure into a result. -/
theorem Confined.attempt (hp : Confined P p) : Confined P p.attempt := Honours.attempt hp

/-- A part of the state may be worked on by a procedure that is confined. -/
theorem Confined.zoom (hq : Confined P q) : Confined P (q.zoom get set) :=
  Honours.zoom_of_forall (fun _ => hq) fun _ _ h => h

/-- A procedure may make more kinds of calls. -/
theorem Confined.widen {Q : I.Call → Prop} (hp : Confined P p) (h : ∀ call, P call → Q call) :
    Confined Q p :=
  hp.recontract (fun _ _ h => h) fun _ _ call hcall => h call hcall

/-- On a layer that is confined **any procedure** is. -/
theorem Confined.implement {J : Interface} {Q : J.Call → Prop}
    {layer : (call : I.Call) → Procedure J τ (I.Reply call)} (h : ∀ call, Confined Q (layer call)) :
    Confined Q (p.implement layer) := by
  have hany : Honours (.lax fun _ _ => True) (fun _ _ => True) p (fun _ _ _ => True)
      fun _ _ _ => True := honours_of_past (fun _ _ _ => trivial) fun _ _ _ => trivial
  have hlayer : MakesGood (.lax fun _ _ => True : Contract I σ) (callsOnly Q)
      (fun _ _ _ => True) layer := fun _ _ call _ =>
    (h call).weaken (fun _ _ _ _ => ⟨trivial, trivial⟩) fun _ _ _ _ => ⟨trivial, trivial⟩
  exact (hany.implement hlayer).mono (fun _ _ _ => ⟨[], trivial, trivial⟩)
    (fun _ _ _ _ => trivial) fun _ _ _ _ => trivial

/-! ### What is known of confined procedures -/

/-- Every call **on a path** of a confined procedure is such a call. -/
theorem Confined.path {s final : σ} {moments : List (Moment I σ)} {result : Except Fault α}
    (h : Confined P p) (hp : Dialogue.Path (p s) moments result final) :
    ∀ m ∈ moments, P m.call := by
  intro m hm
  obtain ⟨before, after, he⟩ := List.append_of_mem hm
  have hrelied : (callsOnly P).Relied [] moments := fun _ _ _ _ => trivial
  obtain ⟨hcalls, -⟩ := h.path_end trivial hp hrelied
  exact hcalls before m after he

/-- What such calls **do not disturb** in the past stays so. -/
theorem Confined.keeps {C : Contract I σ} {Q : List (Exchange I) → Prop} (hp : Confined P p)
    (hcall : ∀ past s call, P call → Q past → C.guarantees past s call)
    (hstep : ∀ past x, P x.call → Q past → Q (past ++ [x])) :
    Keeps C (fun past _ => Q past) p := by
  intro past s hQ
  refine ((hp past s trivial).keeps_past hcall hstep hQ).mono (fun _ _ h => h) (fun _ _ _ h => h) ?_
  intro past r s h
  cases r with
  | ok a => exact h
  | error fault => exact h

/-- What such calls do not disturb, and **the part** does not matter for, stays so. -/
theorem Confined.keeps_zoom {C : Contract I σ} {Q : List (Exchange I) → σ → Prop}
    (hq : Confined P q) (hset : ∀ past s t, Q past s → Q past (set s t))
    (hcall : ∀ past s call, P call → Q past s → C.guarantees past s call)
    (hstep : ∀ past s x, P x.call → Q past s → Q (past ++ [x]) s) :
    Keeps C Q (q.zoom get set) := by
  have hpart : ∀ s, Keeps (C.under (set s)) (fun past _ => ∀ t, Q past (set s t)) q := fun s =>
    hq.keeps (fun past t call hP hQ => hcall past (set s t) call hP (hQ t))
      fun past x hP hQ t => hstep past (set s t) x hP (hQ t)
  exact Honours.zoom_of_forall
    (fun s => (hpart s).weaken (fun _ _ t h => h t) fun _ _ t h => h t)
    fun past s h t => hset past s t h

/-- What is honoured without guarantees is honoured under any contract that **allows such
calls**. -/
theorem Confined.honours {C : Contract I σ} {pre : List (Exchange I) → σ → Prop}
    {ok : List (Exchange I) → α → σ → Prop} {err : List (Exchange I) → Fault → σ → Prop}
    (hp : Confined P p) (h : Honours (.lax C.relies) pre p ok err)
    (hcall : ∀ past s call, P call → C.guarantees past s call) : Honours C pre p ok err := by
  have hboth : Honours C (fun past s => pre past s ∧ True) p (fun past a s => ok past a s ∧ True)
      fun past fault s => err past fault s ∧ True :=
    (h.both hp).recontract (fun _ _ hr => ⟨hr, trivial⟩) fun past s call hmade =>
      hcall past s call hmade.2
  exact hboth.mono (fun _ _ hs => ⟨hs, trivial⟩) (fun _ _ _ h => h.1) fun _ _ _ h => h.1

end Procedure

end ShaderPreview
