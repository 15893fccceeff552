import ShaderPreview.Notice

/-!
# Dialogues

A program that works on a device it does not contain is a **dialogue**: it makes calls, and goes on
in a way that depends on what each call answered. A call may also be refused with a fault. Keeping
the program apart from the device in this way means that a statement about *every* behaviour of the
device is a statement about every path through the dialogue.

Each call carries the program's own state at that moment, so that a statement about every point of a
run, also in the middle of an operation, is a statement about the calls on a path.

## Main definitions

* `Interface`: what may be called, and what each call answers.
* `Dialogue`: the tree of calls, ending in a result and a final state.
* `Dialogue.follow`: what comes after a dialogue, whichever way it ended.
* `Dialogue.mapState`: the same dialogue seen from a larger state.
* `Dialogue.implement`: a dialogue with one device, made into a dialogue with the device below.

## Main results

* `Dialogue.follow_assoc`: following is associative.
* `Dialogue.follow_done`: following by nothing changes nothing.
-/

namespace ShaderPreview

/-- An **interface**: the calls, and the type of each call's answer. -/
structure Interface where
  Call : Type
  Reply : Call → Type

/-- A **dialogue** over an interface. It ends with a result or a fault and a final state; it makes a
call in a state and goes on with the answer; or it tells the user something and goes on. -/
inductive Dialogue (I : Interface) (σ α : Type) : Type where
  | done (result : Except Fault α) (state : σ)
  | ask (state : σ) (call : I.Call) (next : Except Fault (I.Reply call) → Dialogue I σ α)
  | tell (notice : Notice) (next : Dialogue I σ α)

namespace Dialogue

variable {I J : Interface} {σ τ ρ α β γ : Type}

/-- Goes on after a dialogue with its result or fault, and its final state. -/
def follow : Dialogue I σ α → (Except Fault α → σ → Dialogue I σ β) → Dialogue I σ β
  | done result state, k => k result state
  | ask state call next, k => ask state call fun reply => (next reply).follow k
  | tell notice next, k => tell notice (next.follow k)

/-- The same dialogue **seen from another state**. -/
def mapState (f : σ → τ) : Dialogue I σ α → Dialogue I τ α
  | done result state => done result (f state)
  | ask state call next => ask (f state) call fun reply => (next reply).mapState f
  | tell notice next => tell notice (next.mapState f)

/-- A dialogue whose every call is **carried out by another dialogue** with the interface below. The
layer in between has a state of its own, which is shown beside the upper one. -/
def implement (perform : (call : I.Call) → τ → Dialogue J τ (I.Reply call)) :
    Dialogue I σ α → τ → Dialogue J (σ × τ) α
  | done result state, lower => done result (state, lower)
  | ask state call next, lower =>
    ((perform call lower).mapState fun lower => (state, lower)).follow fun reply both =>
      (next reply).implement perform both.2
  | tell notice next, lower => tell notice (next.implement perform lower)

/-! ### Laws -/

@[simp] theorem done_follow (r : Except Fault α) (s : σ)
    (k : Except Fault α → σ → Dialogue I σ β) : (done r s : Dialogue I σ α).follow k = k r s := rfl

@[simp] theorem ask_follow (s : σ) (c : I.Call) (next : Except Fault (I.Reply c) → Dialogue I σ α)
    (k : Except Fault α → σ → Dialogue I σ β) :
    (ask s c next).follow k = ask s c fun reply => (next reply).follow k := rfl

@[simp] theorem tell_follow (n : Notice) (next : Dialogue I σ α)
    (k : Except Fault α → σ → Dialogue I σ β) :
    (tell n next).follow k = tell n (next.follow k) := rfl

/-- Following is **associative**. -/
theorem follow_assoc (d : Dialogue I σ α) (k : Except Fault α → σ → Dialogue I σ β)
    (l : Except Fault β → σ → Dialogue I σ γ) :
    (d.follow k).follow l = d.follow fun r s => (k r s).follow l := by
  induction d with
  | done r s => rfl
  | ask s c next ih => exact congrArg (ask s c) (funext fun reply => ih reply)
  | tell n next ih => exact congrArg (tell n) ih

/-- Following by **nothing** changes nothing. -/
@[simp] theorem follow_done (d : Dialogue I σ α) : d.follow done = d := by
  induction d with
  | done r s => rfl
  | ask s c next ih => exact congrArg (ask s c) (funext fun reply => ih reply)
  | tell n next ih => exact congrArg (tell n) ih

/-- Seeing a dialogue from its own state changes nothing. -/
@[simp] theorem mapState_id (d : Dialogue I σ α) : d.mapState id = d := by
  induction d with
  | done r s => rfl
  | ask s c next ih => exact congrArg (ask s c) (funext fun reply => ih reply)
  | tell n next ih => exact congrArg (tell n) ih

/-- Two changes of view are one. -/
theorem mapState_mapState (f : σ → τ) (g : τ → ρ) (d : Dialogue I σ α) :
    (d.mapState f).mapState g = d.mapState (g ∘ f) := by
  induction d with
  | done r s => rfl
  | ask s c next ih => exact congrArg (ask _ c) (funext fun reply => ih reply)
  | tell n next ih => exact congrArg (tell n) ih

end Dialogue

end ShaderPreview
