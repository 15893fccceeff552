import ShaderPreview.Proofs.Dialogue.Contract

/-!
# Dialogues That Are Answered

On a device that refuses nothing only the program itself gives up. Which faults it can give up with
is known from its text: sequences and parts of it add nothing of their own. Nothing needs to be
guaranteed for that, so the contract is a **lax** one, and what is shown under it comes on top of
what a stricter contract gives.

## Main definitions

* `Contract.lax`: a contract without guarantees.
* `Contract.both`: two contracts at once.
* `Contract.Answered`: no call is refused.
* `Procedure.FailsOnly`: the faults that a procedure gives up with when it is answered.

## Main results

* `Procedure.Honours.both`, `Procedure.Honours.and`: two contracts are honoured at once, and what is
  shown under a lax contract comes on top.
* `Procedure.FailsOnly.bind`, `Procedure.FailsOnly.handle`, `Procedure.FailsOnly.zoom`: procedures
  that are put together.
* `Procedure.honours_of_past`: what has passed stays so, whatever a procedure does.
-/

namespace ShaderPreview

variable {I : Interface} {σ τ α β : Type}

namespace Contract

/-- A contract that **guarantees nothing**. -/
def lax (relies : List (Exchange I) → Exchange I → Prop) : Contract I σ where
  relies := relies
  guarantees _ _ _ := True

/-- Two contracts **at once**. -/
def both (C C' : Contract I σ) : Contract I σ where
  relies past x := C.relies past x ∧ C'.relies past x
  guarantees past s call := C.guarantees past s call ∧ C'.guarantees past s call

/-- A call that is **answered**, and not refused. -/
def Answered (_ : List (Exchange I)) (x : Exchange I) : Prop := ∃ a, x.reply = .ok a

/-- A refused call is not answered. -/
theorem not_exists_error_eq_ok {fault : Fault} : ¬∃ a : α, Except.error fault = .ok a := by
  rintro ⟨a, h⟩
  cases h

end Contract

open Contract

namespace Dialogue

variable {C : Contract I σ} {past : List (Exchange I)} {d : Dialogue I σ α}
  {relies : List (Exchange I) → Exchange I → Prop}

/-- A dialogue that honours two contracts honours **both at once**. -/
theorem Honours.both {C' : Contract I σ}
    {post post' : List (Exchange I) → Except Fault α → σ → Prop} (h : d.Honours C post past)
    (h' : d.Honours C' post' past) :
    d.Honours (C.both C') (fun past r s => post past r s ∧ post' past r s) past := by
  induction d generalizing past with
  | done r s => exact ⟨h, h'⟩
  | ask s call next ih =>
    exact ⟨⟨h.1, h'.1⟩, fun reply hr => ih reply (h.2 reply hr.1) (h'.2 reply hr.2)⟩
  | tell n next ih => exact ih h h'

/-- What a dialogue comes to under a lax contract comes **on top** of what it comes to under
another. -/
theorem Honours.and {post post' : List (Exchange I) → Except Fault α → σ → Prop}
    (h : d.Honours C post past) (h' : d.Honours (lax relies) post' past)
    (hrelies : ∀ past x, C.relies past x → relies past x) :
    d.Honours C (fun past r s => post past r s ∧ post' past r s) past :=
  (h.both h').mono (fun past x hr => ⟨hr, hrelies past x hr⟩) (fun _ _ _ hcall => hcall.1)
    fun _ _ _ h => h

/-- What has passed **stays so**. -/
theorem honours_of_past {P : List (Exchange I) → Prop} (hgrow : ∀ past x, P past → P (past ++ [x]))
    (h : P past) : d.Honours (lax relies) (fun past _ _ => P past) past := by
  induction d generalizing past with
  | done r s => exact h
  | ask s call next ih => exact ⟨trivial, fun reply _ => ih reply (hgrow _ _ h)⟩
  | tell n next ih => exact ih h

end Dialogue

namespace Procedure

variable {C : Contract I σ} {pre : List (Exchange I) → σ → Prop}
  {ok ok' : List (Exchange I) → α → σ → Prop} {err err' : List (Exchange I) → Fault → σ → Prop}
  {relies : List (Exchange I) → Exchange I → Prop} {p : Procedure I σ α}

/-- A procedure that honours two contracts honours **both at once**. -/
theorem Honours.both {C' : Contract I σ} {pre' : List (Exchange I) → σ → Prop}
    (h : Honours C pre p ok err) (h' : Honours C' pre' p ok' err') :
    Honours (C.both C') (fun past s => pre past s ∧ pre' past s) p
      (fun past a s => ok past a s ∧ ok' past a s)
      (fun past fault s => err past fault s ∧ err' past fault s) := by
  intro past s hs
  refine ((h past s hs.1).both (h' past s hs.2)).mono (fun _ _ h => h) (fun _ _ _ h => h) ?_
  intro past r s hr
  cases r with
  | ok a => exact hr
  | error fault => exact hr

/-- What is honoured under one contract is honoured together. -/
theorem Honours.conj {pre' : List (Exchange I) → σ → Prop} (h : Honours C pre p ok err)
    (h' : Honours C pre' p ok' err') :
    Honours C (fun past s => pre past s ∧ pre' past s) p
      (fun past a s => ok past a s ∧ ok' past a s)
      (fun past fault s => err past fault s ∧ err' past fault s) :=
  (h.both h').recontract (fun _ _ hr => ⟨hr, hr⟩) fun _ _ _ hcall => hcall.1

/-- What a procedure comes to under a lax contract comes **on top** of what it comes to under
another. -/
theorem Honours.and {pre' : List (Exchange I) → σ → Prop} (h : Honours C pre p ok err)
    (h' : Honours (lax relies) pre' p ok' err') (hpre : ∀ past s, pre past s → pre' past s)
    (hrelies : ∀ past x, C.relies past x → relies past x) :
    Honours C pre p (fun past a s => ok past a s ∧ ok' past a s)
      (fun past fault s => err past fault s ∧ err' past fault s) :=
  ((h.both h').recontract (fun past x hr => ⟨hr, hrelies past x hr⟩)
    fun _ _ _ hcall => hcall.1).mono (fun past s hs => ⟨hs, hpre past s hs⟩) (fun _ _ _ h => h)
    fun _ _ _ h => h

/-- What has passed **stays so**, whatever a procedure does. -/
theorem honours_of_past {P : List (Exchange I) → Prop}
    (hgrow : ∀ past x, P past → P (past ++ [x])) (hpre : ∀ past s, pre past s → P past) :
    Honours (lax relies) pre p (fun past _ _ => P past) (fun past _ _ => P past) := by
  intro past s hs
  refine (Dialogue.honours_of_past hgrow (hpre past s hs)).mono (fun _ _ h => h)
    (fun _ _ _ h => h) ?_
  intro past r s h
  cases r with
  | ok a => exact h
  | error fault => exact h

/-- What is known of the past alone does not depend on the state. -/
theorem Honours.zoom_past {pre : List (Exchange I) → Prop} {ok : List (Exchange I) → α → Prop}
    {err : List (Exchange I) → Fault → Prop} {q : Procedure I τ α} {get : σ → τ} {set : σ → τ → σ}
    (hq : Honours (lax relies) (fun past _ => pre past) q (fun past a _ => ok past a)
      fun past fault _ => err past fault) :
    Honours (lax relies) (fun past _ => pre past) (q.zoom get set) (fun past a _ => ok past a)
      fun past fault _ => err past fault := by
  intro past s hs
  rw [Procedure.zoom, Dialogue.honours_mapState]
  refine (hq past (get s) hs).mono (fun _ _ h => h) (fun _ _ _ h => h) ?_
  intro past r t h
  cases r with
  | ok a => exact h
  | error fault => exact h

/-! ### Faults -/

/-- A procedure that is answered **fails only** with such faults. -/
abbrev FailsOnly (P : Fault → Prop) (p : Procedure I σ α) : Prop :=
  Honours (lax Answered) (fun _ _ => True) p (fun _ _ _ => True) fun _ fault _ => P fault

variable {P : Fault → Prop}

/-- What gives a result does not fail. -/
theorem failsOnly_pure {a : α} : FailsOnly P (pure a : Procedure I σ α) :=
  honours_pure fun _ _ _ => trivial

/-- A change of the state does not fail. -/
theorem failsOnly_update {f : σ → σ} : FailsOnly P (update f : Procedure I σ Unit) :=
  honours_update fun _ _ _ => trivial

/-- A notice does not fail. -/
theorem failsOnly_tell {notice : Notice} : FailsOnly P (tell notice : Procedure I σ Unit) :=
  honours_tell fun _ _ _ => trivial

/-- A failure may be one of those that are allowed. -/
theorem failsOnly_fail {fault : Fault} (h : P fault) :
    FailsOnly P (fail fault : Procedure I σ α) :=
  honours_fail fun _ _ _ => h

/-- A call that is answered does not fail. -/
theorem failsOnly_perform {call : I.Call} : FailsOnly P (perform call : Procedure I σ _) :=
  honours_perform (fun _ _ _ => trivial) (fun _ _ _ _ _ => trivial) fun _ _ _ _ h =>
    absurd h not_exists_error_eq_ok

/-- To look at the state and go on fails only as what follows does. -/
theorem failsOnly_state_bind {f : σ → Procedure I σ α} (h : ∀ s, FailsOnly P (f s)) :
    FailsOnly P (state >>= f) :=
  honours_state_bind fun s => (h s).mono (fun _ _ _ => trivial) (fun _ _ _ h => h) fun _ _ _ h => h

/-- A sequence fails only as its parts do. -/
theorem FailsOnly.bind {f : α → Procedure I σ β} (hp : FailsOnly P p)
    (hf : ∀ a, FailsOnly P (f a)) : FailsOnly P (p >>= f) :=
  Honours.bind hp hf

/-- What comes after a fault fails **in its own way**. -/
theorem FailsOnly.handle {Q : Fault → Prop} {recover : Fault → Procedure I σ α}
    (hp : FailsOnly Q p) (hr : ∀ fault, Q fault → FailsOnly P (recover fault)) :
    FailsOnly P (p.handle recover) :=
  Honours.handle hp fun fault past s h => hr fault h past s trivial

/-- What is known of the faults comes on top of what is known of the state. -/
theorem Honours.and_failsOnly (h : Honours C pre p ok err) (hp : FailsOnly P p)
    (hrelies : ∀ past x, C.relies past x → Answered past x) :
    Honours C pre p ok (fun past fault s => err past fault s ∧ P fault) :=
  (h.and hp (fun _ _ _ => trivial) hrelies).weaken_ok fun _ _ _ h => h.1

/-- A procedure **on a part** of a state fails as it does there. -/
theorem FailsOnly.zoom {q : Procedure I τ α} {get : σ → τ} {set : σ → τ → σ}
    (hq : FailsOnly P q) : FailsOnly P (q.zoom get set) :=
  Honours.zoom_past hq

end Procedure

end ShaderPreview
