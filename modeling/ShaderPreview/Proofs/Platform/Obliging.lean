import ShaderPreview.Platform.Interface
import ShaderPreview.Proofs.Dialogue.Answered

/-!
# Platforms That Oblige

A platform **obliges** when it does what it is asked. It may still turn a program down, as this is
for the shader's author to mend, and a file may have gone. Apart from that it refuses nothing, its
context does not go while the window is open, and its files hold text.

On such a platform a procedure can be followed step by step, from one state to the next. What passes
is summed up as it goes on: the readings of the clock, the number of renderings, and the verdict on
the latest program.

## Main definitions

* `Platform.obliges`: an exchange of a platform that obliges.
* `Platform.Work`, `Platform.work`: what has passed, summed up.
* `Platform.Leads`: where a procedure leads on a platform that obliges.

## Main results

* `Platform.Leads.bind`, `Platform.Leads.handle`, `Platform.Leads.zoom`: procedures that are put
  together.
* `Platform.Leads.path`: where a procedure leads, each of its paths ends.
-/

namespace ShaderPreview.Platform

open Procedure Contract

/-! ### What passes -/

/-- An exchange of a platform that **obliges**. -/
def obliges : Exchange Platform → Bool
  | ⟨.linkProgram .., .error (.rejected _)⟩ => true
  | ⟨.readFile _, .error (.file _)⟩ => true
  | ⟨.readFile _, .ok bytes⟩ => (Utf8.decode bytes).isOk
  | ⟨.pollEvents, .ok batch⟩ => !batch.contextLost
  | ⟨_, .ok _⟩ => true
  | _ => false

/-- What has passed, **summed up**: the readings of the clock, how often something was rendered, and
whether the latest program was accepted. -/
structure Work where
  readings : List Float := []
  renders : Nat := 0
  verdict : Option Bool := none

/-- What one more exchange **adds**. -/
def Work.after (w : Work) : Exchange Platform → Work
  | ⟨.now, .ok reading⟩ => { w with readings := w.readings ++ [reading] }
  | ⟨.render .., .ok ()⟩ => { w with renders := w.renders + 1 }
  | ⟨.linkProgram .., .ok _⟩ => { w with verdict := some true }
  | ⟨.linkProgram .., .error _⟩ => { w with verdict := some false }
  | _ => w

/-- The **sum of what has passed**. -/
def work (past : List (Exchange Platform)) : Work := past.foldl Work.after {}

/-- One more exchange is summed up on top of the others. -/
theorem work_append {past : List (Exchange Platform)} {x : Exchange Platform} :
    work (past ++ [x]) = (work past).after x := by
  rw [work, List.foldl_append]
  rfl

/-- Whether a call **adds nothing**, and is answered by a platform that obliges. -/
def Call.isPlain : Platform.Call → Bool
  | .linkProgram .. => false
  | .render .. => false
  | .pollEvents => false
  | .readFile _ => false
  | .now => false
  | _ => true

/-- A plain call adds nothing. -/
theorem after_of_isPlain {w : Work} {call : Platform.Call} (h : call.isPlain = true)
    (reply : Except Fault (Platform.Reply call)) : w.after ⟨call, reply⟩ = w := by
  cases call <;> first | rfl | cases h

/-- A platform that obliges answers each plain call. -/
theorem not_obliges_of_isPlain {call : Platform.Call} (h : call.isPlain = true) (fault : Fault) :
    obliges ⟨call, .error fault⟩ = false := by
  cases call <;> first | rfl | cases h

/-! ### Where procedures lead -/

variable {σ τ α β : Type} {w : Work} {s : σ} {p : PlatformProcedure σ α}
  {ok ok' : Work → α → σ → Prop} {err err' : Work → Fault → σ → Prop}

/-- What is said of either end in view of **the sum of what has passed**. -/
abbrev ends (ok : Work → α → σ → Prop) (err : Work → Fault → σ → Prop) :
    List (Exchange Platform) → Except Fault α → σ → Prop :=
  outcome (fun past a s => ok (work past) a s) fun past fault s => err (work past) fault s

/-- Where a procedure **leads** from a state on a platform that obliges. -/
def Leads (w : Work) (s : σ) (p : PlatformProcedure σ α) (ok : Work → α → σ → Prop)
    (err : Work → Fault → σ → Prop) : Prop :=
  ∀ past, work past = w →
    (p s).Honours (lax fun _ x => obliges x = true) (ends ok err) past

/-- What **never** happens. -/
abbrev never (_ : Work) (_ : Fault) (_ : σ) : Prop := False

namespace Leads

/-- What leads somewhere leads to all that follows from it. -/
theorem mono (h : Leads w s p ok err) (hok : ∀ w a s, ok w a s → ok' w a s)
    (herr : ∀ w fault s, err w fault s → err' w fault s) : Leads w s p ok' err' := by
  intro past hpast
  refine (h past hpast).mono (fun _ _ h => h) (fun _ _ _ h => h) fun past r s hend => ?_
  rcases r with fault | a
  · exact herr _ _ _ hend
  · exact hok _ _ _ hend

/-- A result leads where it is given. -/
theorem pure {a : α} (h : ok w a s) : Leads w s (pure a) ok err := by
  rintro past rfl
  exact h

/-- A failure leads where it is raised. -/
theorem fail {fault : Fault} (h : err w fault s) :
    Leads w s (fail fault : PlatformProcedure σ α) ok err := by
  rintro past rfl
  exact h

/-- A change of the state leads to the state that is changed. -/
theorem update {ok : Work → Unit → σ → Prop} {f : σ → σ} (h : ok w () (f s)) :
    Leads w s (update f) ok err := by
  rintro past rfl
  exact h

/-- A notice leads nowhere else. -/
theorem tell {ok : Work → Unit → σ → Prop} {notice : Notice} (h : ok w () s) :
    Leads w s (tell notice) ok err := by
  rintro past rfl
  exact h

/-- **One procedure after another**: the first one leads to where the second one leads on. -/
theorem bind {f : α → PlatformProcedure σ β} {ok : Work → β → σ → Prop}
    (h : Leads w s p (fun w a s => Leads w s (f a) ok err) err) : Leads w s (p >>= f) ok err := by
  intro past hpast
  rw [bind_apply, Dialogue.honours_follow]
  refine (h past hpast).mono (fun _ _ h => h) (fun _ _ _ h => h) fun past r s hend => ?_
  rcases r with fault | a
  · exact hend
  · exact hend past rfl

/-- To look at the state and go on leads where the rest leads. -/
theorem state_bind {f : σ → PlatformProcedure σ α} (h : Leads w s (f s) ok err) :
    Leads w s (state >>= f) ok err := h

/-- Going on **after a fault**. -/
theorem handle {recover : Fault → PlatformProcedure σ α}
    (h : Leads w s p ok fun w fault s => Leads w s (recover fault) ok err) :
    Leads w s (p.handle recover) ok err := by
  intro past hpast
  rw [Procedure.handle, Dialogue.honours_follow]
  refine (h past hpast).mono (fun _ _ h => h) (fun _ _ _ h => h) fun past r s hend => ?_
  rcases r with fault | a
  · exact hend past rfl
  · exact hend

/-- The result or fault as a value. -/
theorem attempt {ok : Work → Except Fault α → σ → Prop}
    (h : Leads w s p (fun w a s => ok w (.ok a) s) fun w fault s => ok w (.error fault) s) :
    Leads w s p.attempt ok err := by
  intro past hpast
  rw [Procedure.attempt, Dialogue.honours_follow]
  refine (h past hpast).mono (fun _ _ h => h) (fun _ _ _ h => h) fun past r s hend => ?_
  rcases r with fault | a
  · exact hend
  · exact hend

/-- Work before a fault passes on. -/
theorem onFault {recovery : PlatformProcedure σ Unit}
    (h : Leads w s p ok fun w fault s => Leads w s recovery (fun w _ s => err w fault s) err) :
    Leads w s (p.onFault recovery) ok err :=
  handle (h.mono (fun _ _ _ h => h) fun _ _ _ h => bind (h.mono (fun _ _ _ h => fail h)
    fun _ _ _ h => h))

/-- A procedure **on a part** of the state. -/
theorem zoom {get : σ → τ} {set : σ → τ → σ} {q : PlatformProcedure τ α}
    (h : Leads w (get s) q (fun w a t => ok w a (set s t)) fun w fault t => err w fault (set s t)) :
    Leads w s (q.zoom get set) ok err := by
  intro past hpast
  rw [Procedure.zoom, Dialogue.honours_mapState]
  refine (h past hpast).mono (fun _ _ h => h) (fun _ _ _ h => h) fun past r t hend => ?_
  rcases r with fault | a
  · exact hend
  · exact hend

/-- A call, whatever it is answered. -/
theorem ask {call : Platform.Call} {ok : Work → Platform.Reply call → σ → Prop}
    (hok : ∀ a, obliges ⟨call, .ok a⟩ = true → ok (w.after ⟨call, .ok a⟩) a s)
    (herr : ∀ fault, obliges ⟨call, .error fault⟩ = true →
      err (w.after ⟨call, .error fault⟩) fault s) :
    Leads w s (Platform.ask call) ok err := by
  rintro past rfl
  refine ⟨trivial, fun reply hreply => ?_⟩
  rcases reply with fault | a
  · have hend := herr fault hreply
    rw [← work_append] at hend
    exact hend
  · have hend := hok a hreply
    rw [← work_append] at hend
    exact hend

/-- A plain call is answered, and adds nothing. -/
theorem ask_plain {call : Platform.Call} {ok : Work → Platform.Reply call → σ → Prop}
    (hcall : call.isPlain = true) (hok : ∀ a, ok w a s) :
    Leads w s (Platform.ask call) ok err := by
  refine ask (fun a _ => ?_) fun fault hfault => ?_
  · rw [after_of_isPlain hcall]
    exact hok a
  · rw [not_obliges_of_isPlain hcall] at hfault
    cases hfault

/-- A program is accepted, or it is turned down. -/
theorem ask_link {vertex : String} {fragment : Option String}
    {ok : Work → LinkedProgram → σ → Prop}
    (hok : ∀ linked, ok { w with verdict := some true } linked s)
    (herr : ∀ message, err { w with verdict := some false } (.rejected message) s) :
    Leads w s (Platform.ask (.linkProgram vertex fragment)) ok err := by
  refine ask (fun linked _ => hok linked) fun fault hfault => ?_
  cases fault with
  | rejected message => exact herr message
  | _ => cases hfault

/-- A rendering is counted. -/
theorem ask_render {array : Nat} {vertices : Int} {ok : Work → Unit → σ → Prop}
    (hok : ok { w with renders := w.renders + 1 } () s) :
    Leads w s (Platform.ask (.render array vertices)) ok err :=
  ask (fun _ _ => hok) fun _ hfault => by cases hfault

/-- A reading of the clock is kept. -/
theorem ask_now {ok : Work → Float → σ → Prop}
    (hok : ∀ reading, ok { w with readings := w.readings ++ [reading] } reading s) :
    Leads w s (Platform.ask .now) ok err :=
  ask (fun reading _ => hok reading) fun _ hfault => by cases hfault

/-- Procedures that do the same from a state lead to the same from there. -/
theorem congr {q : PlatformProcedure σ α} (h : p s = q s) (hq : Leads w s q ok err) :
    Leads w s p ok err := by
  intro past hpast
  rw [h]
  exact hq past hpast

/-- Where a procedure leads, **each of its paths** ends. -/
theorem path {moments : List (Moment Platform σ)} {result : Except Fault α} {final : σ}
    (h : Leads {} s p ok err) (hpath : Dialogue.Path (p s) moments result final)
    (hobliges : ∀ m ∈ moments, obliges m.exchange = true) :
    ends ok err (moments.map Moment.exchange) result final := by
  have hrelied : (lax (fun _ x => obliges x = true) : Contract Platform σ).Relied [] moments := by
    intro before m after he
    exact hobliges m (he ▸ List.mem_append_right _ (.head _))
  exact ((h [] rfl).path hpath hrelied).2

end Leads

-- From here on procedures are followed by the rules alone. Opened, the definition would be a walk
-- through the whole dialogue.
attribute [irreducible] Leads

end ShaderPreview.Platform
