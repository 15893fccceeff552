import ShaderPreview.Dialogue.Basic

/-!
# Procedures

A **procedure** is an operation on a component: from each state of the component it is a dialogue.
Procedures are put together in `do` blocks. A fault ends a block but keeps the state in which it
arose, and every way of going on after a fault starts from that state.

## Main definitions

* `Procedure`: the type, with its monad.
* `Procedure.perform`, `Procedure.tell`, `Procedure.fail`: make a call, tell the user, give up.
* `Procedure.attempt`: the result or fault as a value.
* `Procedure.onFault`: work to be done before a fault passes on.
* `Procedure.ensuring`: work to be done whichever way a procedure ends.
* `Procedure.zoom`: a procedure on a part of a larger state.

## Main results

* Procedures are a lawful monad.
-/

namespace ShaderPreview

/-- A **procedure** on a component with state `σ`. -/
def Procedure (I : Interface) (σ α : Type) : Type := σ → Dialogue I σ α

namespace Procedure

variable {I J : Interface} {σ τ α β γ : Type}

/-- Does nothing and gives a value. -/
protected def pure (a : α) : Procedure I σ α := fun s => .done (.ok a) s

/-- One procedure after another; a fault of the first is a fault of both. -/
protected def bind (p : Procedure I σ α) (f : α → Procedure I σ β) : Procedure I σ β := fun s =>
  (p s).follow fun result s =>
    match result with
    | .ok a => f a s
    | .error fault => .done (.error fault) s

instance : Monad (Procedure I σ) where
  pure := Procedure.pure
  bind := Procedure.bind

/-- The state of the component. -/
def state : Procedure I σ σ := fun s => .done (.ok s) s

/-- A change of the component's state. -/
def update (f : σ → σ) : Procedure I σ Unit := fun s => .done (.ok ()) (f s)

/-- Gives up with a fault. -/
def fail (fault : Fault) : Procedure I σ α := fun s => .done (.error fault) s

/-- **Makes a call**. -/
def perform (call : I.Call) : Procedure I σ (I.Reply call) := fun s =>
  .ask s call fun reply => .done reply s

/-- Tells the user something. -/
def tell (notice : Notice) : Procedure I σ Unit := fun s => .tell notice (.done (.ok ()) s)

/-- A value, or giving up. -/
def ofExcept : Except Fault α → Procedure I σ α
  | .ok a => pure a
  | .error fault => fail fault

/-- The **result or fault** of a procedure, as a value. -/
def attempt (p : Procedure I σ α) : Procedure I σ (Except Fault α) := fun s =>
  (p s).follow fun result s => .done (.ok result) s

/-- Goes on after a fault. -/
def handle (p : Procedure I σ α) (recover : Fault → Procedure I σ α) : Procedure I σ α := fun s =>
  (p s).follow fun result s =>
    match result with
    | .ok a => .done (.ok a) s
    | .error fault => recover fault s

/-- Does some **work before a fault passes on**. If the work itself is cut short by a fault, that
one passes on instead. -/
def onFault (p : Procedure I σ α) (work : Procedure I σ Unit) : Procedure I σ α :=
  p.handle fun fault => do
    work
    fail fault

/-- Does some **work whichever way a procedure ends**. If the work itself is cut short by a fault,
that one is the outcome. -/
def ensuring (p : Procedure I σ α) (work : Procedure I σ Unit) : Procedure I σ α := do
  let result ← p.attempt
  work
  ofExcept result

/-- A procedure **on a part** of a larger state. -/
def zoom (get : σ → τ) (set : σ → τ → σ) (p : Procedure I τ α) : Procedure I σ α := fun s =>
  (p (get s)).mapState (set s)

/-- A procedure on a component of its own, which is shown as part of the larger state while it
lasts. -/
def within (start : τ) (view : τ → σ) (p : Procedure I τ α) : Procedure I σ α := fun _ =>
  (p start).mapState view

/-- A procedure over one interface, **carried out** over the interface below by a layer with a state
of its own. -/
def implement (layer : (call : I.Call) → Procedure J τ (I.Reply call)) (p : Procedure I σ α) :
    Procedure J (σ × τ) α := fun both =>
  (p both.1).implement layer both.2

/-! ### Laws -/

@[simp] theorem pure_apply (a : α) (s : σ) : (pure a : Procedure I σ α) s = .done (.ok a) s := rfl

@[simp] theorem fail_apply (fault : Fault) (s : σ) :
    (fail fault : Procedure I σ α) s = .done (.error fault) s := rfl

@[simp] theorem state_apply (s : σ) : (state : Procedure I σ σ) s = .done (.ok s) s := rfl

@[simp] theorem update_apply (f : σ → σ) (s : σ) :
    (update f : Procedure I σ Unit) s = .done (.ok ()) (f s) := rfl

@[simp] theorem perform_apply (call : I.Call) (s : σ) :
    (perform call : Procedure I σ (I.Reply call)) s = .ask s call fun reply => .done reply s := rfl

@[simp] theorem tell_apply (notice : Notice) (s : σ) :
    (tell notice : Procedure I σ Unit) s = .tell notice (.done (.ok ()) s) := rfl

/-- What a sequence does in a state. -/
theorem bind_apply (p : Procedure I σ α) (f : α → Procedure I σ β) (s : σ) :
    (p >>= f) s = (p s).follow fun result s =>
      match result with
      | .ok a => f a s
      | .error fault => .done (.error fault) s := rfl

/-- Going on with a pure result changes nothing. -/
theorem bind_pure' (p : Procedure I σ α) : (p >>= fun a => (pure a : Procedure I σ α)) = p := by
  funext s
  rw [bind_apply]
  have h : (fun (result : Except Fault α) (s : σ) =>
      match result with
      | .ok a => (pure a : Procedure I σ α) s
      | .error fault => .done (.error fault) s) = Dialogue.done := by
    funext result s
    cases result <;> rfl
  rw [h, Dialogue.follow_done]

/-- Sequences may be grouped either way. -/
theorem bind_assoc' (p : Procedure I σ α) (f : α → Procedure I σ β) (g : β → Procedure I σ γ) :
    (p >>= f) >>= g = p >>= fun a => f a >>= g := by
  funext s
  rw [bind_apply, bind_apply, bind_apply, Dialogue.follow_assoc]
  congr 1
  funext result s
  cases result <;> rfl

instance : LawfulMonad (Procedure I σ) :=
  LawfulMonad.mk' _ (fun p => bind_pure' p) (fun _ _ => rfl) (fun p f g => bind_assoc' p f g)

end Procedure

end ShaderPreview
