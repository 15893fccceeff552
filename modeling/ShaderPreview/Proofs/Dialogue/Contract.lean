import ShaderPreview.Dialogue.Path

/-!
# Contracts of Dialogues

What a dialogue may do depends on what has passed before it: on the calls that were made and how
they were answered. A **contract** says, with that past in view, which answers a dialogue relies on,
and what it guarantees of each of its calls. A dialogue **honours** a contract when it gives the
guarantee at every call and comes to an agreed end, as long as the answers are such as it relies on.

Contracts are made good piece by piece: a sequence of procedures honours a contract when each of
them takes over where the one before it ended, and a procedure on a part of a state honours what is
agreed about the whole. What is honoured holds on every path.

## Main definitions

* `Exchange`: a call with its answer.
* `Contract`: what is relied on and what is guaranteed.
* `Dialogue.Honours`, `Procedure.Honours`: a dialogue or a procedure keeps to a contract.
* `Procedure.attemptAll`: procedures one after another, whatever becomes of each.

## Main results

* `Dialogue.Honours.path`: what is honoured holds at every call and at the end of each path.
* `Procedure.Honours.path_end`: what is honoured at either end holds at the end of each path.
* `Procedure.Honours.bind`, `Procedure.Honours.onFault`, `Procedure.Honours.zoom`: the rules for
  putting procedures together.
* `Procedure.keeps_attemptAll`: what each procedure keeps up, all of them keep up.
-/

namespace ShaderPreview

variable {I : Interface} {σ τ α β : Type}

/-- **One call with its answer**. -/
structure Exchange (I : Interface) where
  call : I.Call
  reply : Except Fault (I.Reply call)

/-- The exchange of a moment. -/
def Moment.exchange (m : Moment I σ) : Exchange I := ⟨m.call, m.reply⟩

/-- What is read off the past grows with each exchange. -/
theorem Exchange.filterMap_append_singleton {past : List (Exchange I)} {x : Exchange I}
    {f : Exchange I → Option α} :
    (past ++ [x]).filterMap f = past.filterMap f ++ (f x).toList := by
  rw [List.filterMap_append, List.filterMap_cons]
  cases f x <;> rfl

/-- Where what is read off a path has no duplicates, each reading is new. -/
theorem Moment.notMem_filterMap_of_nodup {past : List (Exchange I)}
    {moments before after : List (Moment I σ)} {m : Moment I σ} {f : Exchange I → Option α} {a : α}
    (h : ((past ++ moments.map Moment.exchange).filterMap f).Nodup)
    (he : moments = before ++ m :: after) (hm : f m.exchange = some a) :
    a ∉ (past ++ before.map Moment.exchange).filterMap f := by
  intro ha
  rw [he, List.map_append, List.map_cons, ← List.append_assoc, List.filterMap_append,
    List.filterMap_cons_some hm] at h
  exact (List.nodup_append.mp h).2.2 a ha a List.mem_cons_self rfl

/-- A **contract**: which answers are relied on after what has passed, and what is guaranteed of a
call in the state in which it is made. -/
structure Contract (I : Interface) (σ : Type) where
  relies : List (Exchange I) → Exchange I → Prop
  guarantees : List (Exchange I) → σ → I.Call → Prop

namespace Contract

/-- The contract of a part of a state, when it is **seen from the whole**. -/
def under (C : Contract I σ) (f : τ → σ) : Contract I τ where
  relies := C.relies
  guarantees past t call := C.guarantees past (f t) call

/-- The answers on a path are **such as the contract relies on**. -/
def Relied (C : Contract I σ) (past : List (Exchange I)) (moments : List (Moment I σ)) : Prop :=
  ∀ before m after, moments = before ++ m :: after →
    C.relies (past ++ before.map Moment.exchange) m.exchange

/-- The calls on a path are **such as the contract guarantees**. -/
def Guaranteed (C : Contract I σ) (past : List (Exchange I)) (moments : List (Moment I σ)) : Prop :=
  ∀ before m after, moments = before ++ m :: after →
    C.guarantees (past ++ before.map Moment.exchange) m.state m.call

/-- The answers on the rest of a path are such as the contract relies on. -/
theorem Relied.rest {C : Contract I σ} {past : List (Exchange I)} (first : List (Moment I σ))
    {second : List (Moment I σ)} (h : C.Relied past (first ++ second)) :
    C.Relied (past ++ first.map Moment.exchange) second := by
  intro before m after he
  have hr := h (first ++ before) m after (by rw [he, List.append_assoc])
  rwa [List.map_append, ← List.append_assoc] at hr

end Contract

/-! ### Dialogues -/

namespace Dialogue

variable {C : Contract I σ} {past : List (Exchange I)}
  {post : List (Exchange I) → Except Fault α → σ → Prop}

/-- A dialogue **honours** a contract: each call is guaranteed, and after each answer that is relied
on the rest of the dialogue honours the contract. -/
def Honours (C : Contract I σ) (post : List (Exchange I) → Except Fault α → σ → Prop) :
    List (Exchange I) → Dialogue I σ α → Prop
  | past, .done result state => post past result state
  | past, .ask state call next =>
    C.guarantees past state call ∧
      ∀ reply, C.relies past ⟨call, reply⟩ → Honours C post (past ++ [⟨call, reply⟩]) (next reply)
  | past, .tell _ next => Honours C post past next

/-- A dialogue that honours a contract honours a weaker one. -/
theorem Honours.mono {C' : Contract I σ} {post' : List (Exchange I) → Except Fault α → σ → Prop}
    {d : Dialogue I σ α} (h : d.Honours C post past)
    (hrelies : ∀ past x, C'.relies past x → C.relies past x)
    (hguarantees : ∀ past s call, C.guarantees past s call → C'.guarantees past s call)
    (hpost : ∀ past r s, post past r s → post' past r s) : d.Honours C' post' past := by
  induction d generalizing past with
  | done r s => exact hpost past r s h
  | ask s call next ih =>
    obtain ⟨hcall, hnext⟩ := h
    exact ⟨hguarantees past s call hcall, fun reply hr => ih reply (hnext reply (hrelies _ _ hr))⟩
  | tell n next ih => exact ih h

/-- A dialogue after another takes over where the first one ended. -/
theorem honours_follow {d : Dialogue I σ α} {k : Except Fault α → σ → Dialogue I σ β}
    {post : List (Exchange I) → Except Fault β → σ → Prop} :
    (d.follow k).Honours C post past ↔
      d.Honours C (fun past r s => (k r s).Honours C post past) past := by
  induction d generalizing past with
  | done r s => exact Iff.rfl
  | ask s call next ih =>
    exact and_congr_right fun _ => forall_congr' fun reply => imp_congr_right fun _ => ih reply
  | tell n next ih => exact ih

/-- A dialogue seen from a larger state honours what it honours there. -/
theorem honours_mapState {f : τ → σ} {d : Dialogue I τ α} :
    (d.mapState f).Honours C post past ↔
      d.Honours (C.under f) (fun past r t => post past r (f t)) past := by
  induction d generalizing past with
  | done r s => exact Iff.rfl
  | ask s call next ih =>
    exact and_congr_right fun _ => forall_congr' fun reply => imp_congr_right fun _ => ih reply
  | tell n next ih => exact ih

/-- What a dialogue honours **holds on every path** whose answers are relied on: at each of its
calls, and at its end. -/
theorem Honours.path {d : Dialogue I σ α} {moments : List (Moment I σ)} {result : Except Fault α}
    {final : σ} (h : d.Honours C post past) (hp : Path d moments result final)
    (hr : C.Relied past moments) :
    C.Guaranteed past moments ∧ post (past ++ moments.map Moment.exchange) result final := by
  induction hp generalizing past with
  | done result state =>
    refine ⟨fun before m after he => ?_, ?_⟩
    · exact absurd he (by simp)
    · rw [List.map_nil, List.append_nil]
      exact h
  | @ask state call next moments result final reply hp ih =>
    obtain ⟨hcall, hnext⟩ := h
    have hfirst : C.relies past ⟨call, reply⟩ := by
      have hr := hr [] ⟨state, call, reply⟩ moments rfl
      rwa [List.map_nil, List.append_nil] at hr
    have hrest : C.Relied (past ++ [⟨call, reply⟩]) moments :=
      Contract.Relied.rest [⟨state, call, reply⟩] hr
    obtain ⟨hguaranteed, hend⟩ := ih (hnext reply hfirst) hrest
    rw [List.append_assoc] at hend
    refine ⟨fun before m after he => ?_, hend⟩
    cases before with
    | nil =>
      obtain ⟨rfl, -⟩ := List.cons.inj he
      rw [List.map_nil, List.append_nil]
      exact hcall
    | cons first before =>
      obtain ⟨rfl, htail⟩ := List.cons.inj he
      have hg := hguaranteed before m after htail
      rw [List.append_assoc] at hg
      exact hg
  | tell hp ih => exact ih h hr

/-- On a run the answers are the provider's. -/
theorem exists_answer_of_mem_run {δ : Type} {provider : Provider I δ} {d : Dialogue I σ α}
    {start : δ} {m : Moment I σ} (h : m ∈ (d.run provider start).moments) :
    ∃ lower, (provider.answer lower m.call).1 = m.reply := by
  induction d generalizing start with
  | done r s => exact absurd h List.not_mem_nil
  | ask s call next ih =>
    rcases List.mem_cons.mp h with rfl | h
    · exact ⟨start, rfl⟩
    · exact ih _ h
  | tell n next ih => exact ih h

end Dialogue

/-! ### Procedures -/

namespace Procedure

variable {C : Contract I σ} {pre : List (Exchange I) → σ → Prop}
  {ok : List (Exchange I) → α → σ → Prop} {err : List (Exchange I) → Fault → σ → Prop}
  {p : Procedure I σ α}

/-- What is agreed about **either outcome**. -/
def outcome (ok : List (Exchange I) → α → σ → Prop) (err : List (Exchange I) → Fault → σ → Prop) :
    List (Exchange I) → Except Fault α → σ → Prop
  | past, .ok a, s => ok past a s
  | past, .error fault, s => err past fault s

/-- A procedure **honours** a contract from every state and past that it is agreed to start in, and
comes to the agreed end with a result or with a fault. -/
def Honours (C : Contract I σ) (pre : List (Exchange I) → σ → Prop) (p : Procedure I σ α)
    (ok : List (Exchange I) → α → σ → Prop) (err : List (Exchange I) → Fault → σ → Prop) : Prop :=
  ∀ past s, pre past s → (p s).Honours C (outcome ok err) past

/-- A procedure may be asked for less and started with more. -/
theorem Honours.mono {pre' : List (Exchange I) → σ → Prop}
    {ok' : List (Exchange I) → α → σ → Prop} {err' : List (Exchange I) → Fault → σ → Prop}
    (h : Honours C pre p ok err) (hpre : ∀ past s, pre' past s → pre past s)
    (hok : ∀ past a s, ok past a s → ok' past a s)
    (herr : ∀ past fault s, err past fault s → err' past fault s) : Honours C pre' p ok' err' := by
  intro past s hs
  refine (h past s (hpre past s hs)).mono (fun _ _ h => h) (fun _ _ _ h => h) ?_
  intro past r s hr
  cases r with
  | ok a => exact hok past a s hr
  | error fault => exact herr past fault s hr

/-- A procedure may be asked for less at its ends alone. -/
theorem Honours.weaken {ok' : List (Exchange I) → α → σ → Prop}
    {err' : List (Exchange I) → Fault → σ → Prop} (h : Honours C pre p ok err)
    (hok : ∀ past a s, ok past a s → ok' past a s)
    (herr : ∀ past fault s, err past fault s → err' past fault s) : Honours C pre p ok' err' :=
  h.mono (fun _ _ h => h) hok herr

/-- A procedure may be asked for less where it succeeds alone. -/
theorem Honours.weaken_ok {ok' : List (Exchange I) → α → σ → Prop} (h : Honours C pre p ok err)
    (hok : ∀ past a s, ok past a s → ok' past a s) : Honours C pre p ok' err :=
  h.weaken hok fun _ _ _ h => h

/-- A procedure may be asked for less where it fails alone. -/
theorem Honours.weaken_err {err' : List (Exchange I) → Fault → σ → Prop}
    (h : Honours C pre p ok err) (herr : ∀ past fault s, err past fault s → err' past fault s) :
    Honours C pre p ok err' :=
  h.weaken (fun _ _ _ h => h) herr

/-- A procedure that honours a contract honours one that relies on more and guarantees less. -/
theorem Honours.recontract {C' : Contract I σ} (h : Honours C pre p ok err)
    (hrelies : ∀ past x, C'.relies past x → C.relies past x)
    (hguarantees : ∀ past s call, C.guarantees past s call → C'.guarantees past s call) :
    Honours C' pre p ok err :=
  fun past s hs => (h past s hs).mono hrelies hguarantees fun _ _ _ h => h

/-- What is agreed at the start apart from the state may be known beforehand. -/
theorem honours_given {Q : Prop} (h : Q → Honours C pre p ok err) :
    Honours C (fun past s => pre past s ∧ Q) p ok err :=
  fun past s hs => h hs.2 past s hs.1

/-- A procedure **keeps up** a condition, however it ends. -/
abbrev Keeps (C : Contract I σ) (pre : List (Exchange I) → σ → Prop) (p : Procedure I σ α) : Prop :=
  Honours C pre p (fun past _ s => pre past s) fun past _ s => pre past s

/-- A result honours a contract where the state is one to end in. -/
theorem honours_pure {a : α} (h : ∀ past s, pre past s → ok past a s) :
    Honours C pre (pure a : Procedure I σ α) ok err :=
  fun past s hs => h past s hs

/-- A failure honours it where the state is one to fail in. -/
theorem honours_fail {fault : Fault} (h : ∀ past s, pre past s → err past fault s) :
    Honours C pre (fail fault : Procedure I σ α) ok err :=
  fun past s hs => h past s hs

/-- A change of the state honours it where what it leads to is one to end in. -/
theorem honours_update {f : σ → σ} {ok : List (Exchange I) → Unit → σ → Prop}
    (h : ∀ past s, pre past s → ok past () (f s)) : Honours C pre (update f) ok err :=
  fun past s hs => h past s hs

/-- A notice honours it, and changes nothing. -/
theorem honours_tell {notice : Notice} {ok : List (Exchange I) → Unit → σ → Prop}
    (h : ∀ past s, pre past s → ok past () s) : Honours C pre (tell notice) ok err :=
  fun past s hs => h past s hs

/-- A result that may be a fault honours it where each of the two has the state that it needs. -/
theorem honours_ofExcept {r : Except Fault α} (h : ∀ past s, pre past s → outcome ok err past r s) :
    Honours C pre (ofExcept r : Procedure I σ α) ok err := by
  intro past s hs
  cases r with
  | ok a => exact h past s hs
  | error fault => exact h past s hs

/-- A value or a fault keeps up what there is. -/
theorem keeps_ofExcept {r : Except Fault α} : Keeps C pre (ofExcept r : Procedure I σ α) := by
  refine honours_ofExcept fun past s h => ?_
  cases r with
  | ok a => exact h
  | error fault => exact h

/-- A call honours a contract that guarantees it, if each answer that is relied on leads to the
agreed end. -/
theorem honours_perform {call : I.Call} {ok : List (Exchange I) → I.Reply call → σ → Prop}
    (hcall : ∀ past s, pre past s → C.guarantees past s call)
    (hok : ∀ past s a, pre past s → C.relies past ⟨call, .ok a⟩ →
      ok (past ++ [⟨call, .ok a⟩]) a s)
    (herr : ∀ past s fault, pre past s → C.relies past ⟨call, .error fault⟩ →
      err (past ++ [⟨call, .error fault⟩]) fault s) :
    Honours C pre (perform call) ok err := by
  intro past s hs
  refine ⟨hcall past s hs, fun reply hr => ?_⟩
  cases reply with
  | ok a => exact hok past s a hs hr
  | error fault => exact herr past s fault hs hr

/-- What a procedure honours **however it ends** holds at the end of each path. -/
theorem Honours.path_end {post : List (Exchange I) → σ → Prop}
    {past : List (Exchange I)} {s final : σ} {moments : List (Moment I σ)} {result : Except Fault α}
    (h : Honours C pre p (fun past _ s => post past s) fun past _ s => post past s)
    (hs : pre past s) (hp : Dialogue.Path (p s) moments result final)
    (hr : C.Relied past moments) :
    C.Guaranteed past moments ∧ post (past ++ moments.map Moment.exchange) final := by
  obtain ⟨hcalls, hend⟩ := (h past s hs).path hp hr
  rcases result with fault | a
  · exact ⟨hcalls, hend⟩
  · exact ⟨hcalls, hend⟩

/-- **One procedure after another**: the second one takes over where the first one ended. -/
theorem Honours.bind {f : α → Procedure I σ β} {mid : List (Exchange I) → α → σ → Prop}
    {ok : List (Exchange I) → β → σ → Prop} (hp : Honours C pre p mid err)
    (hf : ∀ a, Honours C (fun past s => mid past a s) (f a) ok err) :
    Honours C pre (p >>= f) ok err := by
  intro past s hs
  rw [bind_apply, Dialogue.honours_follow]
  refine (hp past s hs).mono (fun _ _ h => h) (fun _ _ _ h => h) ?_
  intro past r s hr
  cases r with
  | ok a => exact hf a past s hr
  | error fault => exact hr

/-- A procedure that looks at the state first goes on for each state. -/
theorem honours_state_bind {f : σ → Procedure I σ α}
    (h : ∀ s, Honours C (fun past s' => s' = s ∧ pre past s') (f s) ok err) :
    Honours C pre (state >>= f) ok err :=
  fun past s hs => h s past s ⟨rfl, hs⟩

/-- Going on after a fault. -/
theorem Honours.handle {recover : Fault → Procedure I σ α}
    {mid : List (Exchange I) → Fault → σ → Prop} (hp : Honours C pre p ok mid)
    (hr : ∀ fault, Honours C (fun past s => mid past fault s) (recover fault) ok err) :
    Honours C pre (p.handle recover) ok err := by
  intro past s hs
  rw [Procedure.handle, Dialogue.honours_follow]
  refine (hp past s hs).mono (fun _ _ h => h) (fun _ _ _ h => h) ?_
  intro past r s h
  cases r with
  | ok a => exact h
  | error fault => exact hr fault past s h

/-- **Work before a fault passes on** starts where the fault arose. -/
theorem Honours.onFault {work : Procedure I σ Unit} {mid : List (Exchange I) → Fault → σ → Prop}
    (hp : Honours C pre p ok mid)
    (hw : ∀ fault, Honours C (fun past s => mid past fault s) work
      (fun past _ s => err past fault s) err) :
    Honours C pre (p.onFault work) ok err :=
  hp.handle fun fault => (hw fault).bind fun _ => honours_fail fun _ _ h => h

/-- The result or fault as a value. -/
theorem Honours.attempt {ok' : List (Exchange I) → Except Fault α → σ → Prop}
    (hp : Honours C pre p (fun past a s => ok' past (.ok a) s)
      (fun past fault s => ok' past (.error fault) s)) : Honours C pre p.attempt ok' err := by
  intro past s hs
  rw [Procedure.attempt, Dialogue.honours_follow]
  refine (hp past s hs).mono (fun _ _ h => h) (fun _ _ _ h => h) ?_
  intro past r s h
  cases r with
  | ok a => exact h
  | error fault => exact h

/-- A procedure **on a part** of a state honours what is agreed about the whole, when the rest of
the whole stays as it is. -/
theorem Honours.zoom {get : σ → τ} {set : σ → τ → σ} {q : Procedure I τ α} {whole : σ}
    {preq : List (Exchange I) → τ → Prop}
    (hq : Honours (C.under (set whole)) preq q (fun past a t => ok past a (set whole t))
      (fun past fault t => err past fault (set whole t)))
    (hpre : ∀ past, pre past whole → preq past (get whole)) :
    Honours C (fun past s => s = whole ∧ pre past s) (q.zoom get set) ok err := by
  rintro past _ ⟨rfl, hs⟩
  rw [Procedure.zoom, Dialogue.honours_mapState]
  refine (hq past (get _) (hpre past hs)).mono (fun _ _ h => h) (fun _ _ _ h => h) ?_
  intro past r t h
  cases r with
  | ok a => exact h
  | error fault => exact h

/-- What is honoured on a part, whatever the rest is, is honoured on the whole. -/
theorem Honours.zoom_of_forall {get : σ → τ} {set : σ → τ → σ} {q : Procedure I τ α}
    {preq : σ → List (Exchange I) → τ → Prop}
    (hq : ∀ whole, Honours (C.under (set whole)) (preq whole) q
      (fun past a t => ok past a (set whole t)) fun past fault t => err past fault (set whole t))
    (hpre : ∀ past s, pre past s → preq s past (get s)) :
    Honours C pre (q.zoom get set) ok err := by
  intro past s hs
  have hzoom : Honours C (fun past s' => s' = s ∧ preq s past (get s)) (q.zoom get set) ok err :=
    Honours.zoom (hq s) fun _ h => h
  exact hzoom past s ⟨rfl, hpre past s hs⟩

/-- A procedure on a component of its own honours what is agreed about the component as it is
shown. -/
theorem Honours.within {start : τ} {view : τ → σ} {q : Procedure I τ α}
    {preq : List (Exchange I) → τ → Prop}
    (hq : Honours (C.under view) preq q (fun past a t => ok past a (view t))
      fun past fault t => err past fault (view t))
    (hpre : ∀ past s, pre past s → preq past start) :
    Honours C pre (q.within start view) ok err := by
  intro past s hs
  rw [Procedure.within, Dialogue.honours_mapState]
  refine (hq past start (hpre past s hs)).mono (fun _ _ h => h) (fun _ _ _ h => h) ?_
  intro past r t h
  cases r with
  | ok a => exact h
  | error fault => exact h

/-! ### One procedure after another -/

/-- Procedures **one after another**, whatever becomes of each. -/
def attemptAll : List (Procedure I σ α) → Procedure I σ (List (Except Fault α))
  | [] => pure []
  | p :: ps => do
    let result ← p.attempt
    let results ← attemptAll ps
    return result :: results

/-- What each procedure **keeps up**, all of them keep up one after another. -/
theorem keeps_attemptAll {ps : List (Procedure I σ α)} (h : ∀ p ∈ ps, Keeps C pre p) :
    Keeps C pre (attemptAll ps) := by
  induction ps with
  | nil => exact honours_pure fun _ _ hs => hs
  | cons p ps ih =>
    obtain ⟨hp, hps⟩ := List.forall_mem_cons.mp h
    exact hp.attempt.bind fun _ => (ih hps).bind fun _ => honours_pure fun _ _ hs => hs

/-- Where each procedure keeps up two conditions and one of them leads from the first to the second,
all of them lead there. -/
theorem honours_attemptAll_of_mem {post : List (Exchange I) → σ → Prop}
    {ps : List (Procedure I σ α)} (hmem : p ∈ ps) (hpre : ∀ p ∈ ps, Keeps C pre p)
    (hpost : ∀ p ∈ ps, Keeps C post p)
    (hp : Honours C pre p (fun past _ s => post past s) fun past _ s => post past s) :
    Honours C pre (attemptAll ps) (fun past _ s => post past s) fun past _ s => post past s := by
  induction ps with
  | nil => exact absurd hmem List.not_mem_nil
  | cons q ps ih =>
    obtain ⟨hq, hps⟩ := List.forall_mem_cons.mp hpre
    obtain ⟨-, hps'⟩ := List.forall_mem_cons.mp hpost
    rcases List.mem_cons.mp hmem with rfl | hmem
    · exact hp.attempt.bind fun _ => (keeps_attemptAll hps').bind fun _ =>
        honours_pure fun _ _ hs => hs
    · exact hq.attempt.bind fun _ => (ih hmem hps hps').bind fun _ =>
        honours_pure fun _ _ hs => hs

end Procedure

end ShaderPreview
