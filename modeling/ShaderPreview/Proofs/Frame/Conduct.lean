import ShaderPreview.Frame.Scheduler
import ShaderPreview.Proofs.Dialogue.Answered
import ShaderPreview.Proofs.Pipeline.Accounting

/-!
# The Conduct of a Scheduler

A scheduler draws with handles that it does not own. It **keeps** to what it was given as long as
its program is the one whose handles are live, and to the display as long as its callback stands in
the display's table exactly when it holds a token. Both are true at each of its calls, and after
each of its operations however it ends.

Drawing is refused in many ways. Starting and stopping are cut short only where a call about frames
is refused, and then exactly one was.

## Main definitions

* `Scheduler.Kept`: the scheduler keeps to the display and to its program.
* `Scheduler.conduct`: the contract.
* `Scheduler.KeptOn`: while it draws, the scheduler also goes on with its program.

## Main results

* `Scheduler.honours_stop`, `Scheduler.honours_start`: where starting and stopping lead.
* `Scheduler.keeps_renderFrame`, `Scheduler.keeps_refresh`: a frame or a refresh keeps what there
  was, however it ends.
* `Scheduler.failsOnly_stop`, `Scheduler.failsOnly_start`: stopping and starting do not fail without
  a refusal.
-/

namespace ShaderPreview.Scheduler

open Procedure Device

variable {relies : List (Exchange Device) → Exchange Device → Prop} {owned : List Owned}
  {shown : Option Program} {q : Scheduler} {n : Nat}

/-! ### The contract -/

/-- A scheduler **keeps** to the display and to its program, when the given handles are live, and
are those of the program that is shown. -/
structure Kept (owned : List Owned) (shown : Option Program) (past : List (Exchange Device))
    (s : Scheduler) : Prop where
  stands : Stands past owned
  callbacks_eq : callbacks past = s.frames
  entries_eq : s.frames.entries = s.token.toList.map (·, ())
  program_of_token : s.token.isSome → s.program.isSome
  shown_of_program : ∀ p, s.program = some p → shown = some p ∧ owned = p.owned

/-- A scheduler's **contract**: it keeps to the display and to its program at each call, and takes
live handles only. -/
def conduct (relies : List (Exchange Device) → Exchange Device → Prop) (owned : List Owned)
    (shown : Option Program) : Contract Device Scheduler where
  relies := relies
  guarantees past s call := Kept owned shown past s ∧ call.uses ⊆ owned

/-- A scheduler that is **idle** has nothing but the display's table. -/
def Idle (s : Scheduler) : Prop := s.program = none ∧ s.clock = none ∧ s.token = none

/-- An idle scheduler keeps to anything, as long as nobody else meddles with the frames. -/
theorem Kept.of_idle {past past' : List (Exchange Device)} {owned' : List Owned}
    {shown' : Option Program} (h : Kept owned shown past q) (hq : Idle q)
    (hstands : Stands past' owned') (hsched : scheduling past' = scheduling past) :
    Kept owned' shown' past' q := by
  obtain ⟨hprogram, -, htoken⟩ := hq
  refine ⟨hstands, (callbacks_congr hsched).trans h.callbacks_eq, h.entries_eq, ?_, ?_⟩
  · intro hsome
    rw [htoken] at hsome
    cases hsome
  · intro p hp
    rw [hprogram] at hp
    cases hp

/-- Where a scheduler has no token, there is no callback. -/
theorem Kept.entries_callbacks {past : List (Exchange Device)} (h : Kept owned shown past q)
    (htoken : q.token = none) : (callbacks past).entries = [] := by
  rw [h.callbacks_eq, h.entries_eq, htoken]
  rfl

/-- A call that leaves handles and callbacks alone changes nothing. -/
theorem Kept.keep {past : List (Exchange Device)} {x : Exchange Device}
    (h : Kept owned shown past q) (hkeep : x.call.keepsHandles)
    (hturn : ∀ frames, turn frames x = frames) : Kept owned shown (past ++ [x]) q := by
  obtain ⟨hstands, hcallbacks, hentries, htoken, hshown⟩ := h
  refine ⟨hstands.keep (obtained?_of_keepsHandles hkeep) (deleted?_of_keepsHandles hkeep), ?_,
    hentries, htoken, hshown⟩
  rw [callbacks_append_singleton, hturn]
  exact hcallbacks

/-- The clock has no part in it. -/
theorem Kept.withClock {past : List (Exchange Device)} (h : Kept owned shown past q)
    (clock : Option FrameClock) : Kept owned shown past { q with clock } :=
  ⟨h.stands, h.callbacks_eq, h.entries_eq, h.program_of_token, h.shown_of_program⟩

/-! ### Drawing -/

/-- A scheduler that **goes on** with the program of another, under the same token, and has a clock
if that one had one. -/
def GoesOn (q s : Scheduler) : Prop :=
  s.token = q.token ∧ s.program = q.program ∧ s.clock.isSome = q.clock.isSome

/-- What goes on from an idle scheduler is idle. -/
theorem GoesOn.idle {s : Scheduler} (h : GoesOn q s) (hq : Idle q) : Idle s := by
  obtain ⟨htoken, hprogram, hclock⟩ := h
  obtain ⟨hnone, hnotime, hnotoken⟩ := hq
  rw [hnotime] at hclock
  have hstill : s.clock = none :=
    Option.isNone_iff_eq_none.mp (Option.isSome_eq_false_iff.mp hclock)
  exact ⟨hprogram.trans hnone, hstill, htoken.trans hnotoken⟩

/-- A scheduler **keeps** to what there is **and goes on** with its program. -/
def KeptOn (owned : List Owned) (shown : Option Program) (q : Scheduler)
    (past : List (Exchange Device)) (s : Scheduler) : Prop :=
  Kept owned shown past s ∧ GoesOn q s

/-- A call that leaves handles and callbacks alone may be made on handles that are live. -/
theorem keepsOn_ask {call : Device.Call} (hkeep : call.keepsHandles)
    (hturn : ∀ frames reply, turn frames ⟨call, reply⟩ = frames) (huses : call.uses ⊆ owned) :
    Keeps (conduct relies owned shown) (KeptOn owned shown q) (Device.ask call) :=
  honours_perform (fun _ _ h => ⟨h.1, huses⟩)
    (fun _ _ _ h _ => ⟨h.1.keep hkeep fun frames => hturn frames _, h.2⟩)
    fun _ _ _ h _ => ⟨h.1.keep hkeep fun frames => hturn frames _, h.2⟩

/-- Setting uniforms uses the program alone, which is owned. -/
theorem keepsOn_setUniforms {program : Handle} {values : List (String × UniformValue)}
    (hprogram : ⟨.program, program⟩ ∈ owned) :
    Keeps (conduct relies owned shown) (KeptOn owned shown q) (setUniforms program values) := by
  have huses : [⟨.program, program⟩] ⊆ owned := List.cons_subset.mpr ⟨hprogram, List.nil_subset _⟩
  induction values with
  | nil => exact honours_pure fun _ _ h => h
  | cons value rest ih =>
    obtain ⟨name, value⟩ := value
    refine Honours.bind (keepsOn_ask rfl (fun _ _ => rfl) huses) fun location => ?_
    by_cases hlocation : (location != absent) = true
    · simp only [hlocation, if_true]
      exact Honours.bind (keepsOn_ask rfl (fun _ _ => rfl) huses) fun _ => ih
    · simp only [hlocation]
      exact ih

/-- So does drawing. -/
theorem keepsOn_draw {settings : RenderSettings} {program : Program} {elapsed : Float}
    (hprogram : ⟨.program, program.program⟩ ∈ owned) :
    Keeps (conduct relies owned shown) (KeptOn owned shown q)
      (draw settings program elapsed) := by
  have huses : [⟨.program, program.program⟩] ⊆ owned :=
    List.cons_subset.mpr ⟨hprogram, List.nil_subset _⟩
  rw [draw]
  refine Honours.bind (keepsOn_ask rfl (fun _ _ => rfl) (List.nil_subset _)) fun size => ?_
  refine Honours.bind keeps_ofExcept fun aspect => ?_
  refine Honours.bind keeps_ofExcept fun matrices => ?_
  refine Honours.bind (keepsOn_ask rfl (fun _ _ => rfl) (List.nil_subset _)) fun _ => ?_
  refine Honours.bind (keepsOn_ask rfl (fun _ _ => rfl) (List.nil_subset _)) fun _ => ?_
  refine Honours.bind (keepsOn_ask rfl (fun _ _ => rfl) (List.nil_subset _)) fun _ => ?_
  refine Honours.bind (keepsOn_ask rfl (fun _ _ => rfl) huses) fun _ => ?_
  refine Honours.bind keeps_ofExcept fun resolution => ?_
  refine Honours.bind (keepsOn_setUniforms hprogram) fun _ => ?_
  exact keepsOn_ask rfl (fun _ _ => rfl) huses

/-- A frame keeps to the program that the scheduler has, if it has one. -/
theorem keepsOn_renderFrame {settings : RenderSettings} :
    Keeps (conduct relies owned shown) (KeptOn owned shown q) (renderFrame settings) := by
  rw [renderFrame]
  refine honours_state_bind fun s => ?_
  rintro past s ⟨rfl, h⟩
  rcases hprogram : s.program with _ | program
  · exact h
  rcases hclock : s.clock with _ | clock
  · exact h
  have hhandle : ⟨.program, program.program⟩ ∈ owned := by
    rw [(h.1.shown_of_program program hprogram).2]
    exact .tail _ (.tail _ (.head _))
  refine Honours.bind (keepsOn_ask rfl (fun _ _ => rfl) (List.nil_subset _)) (fun reading => ?_)
    past s h
  have htimed : true = q.clock.isSome := by
    rw [← h.2.2.2, hclock]
    rfl
  have hadvance : Keeps (conduct relies owned shown) (KeptOn owned shown q)
      (update fun s => { s with clock := some (clock.advance reading) }) :=
    honours_update fun _ _ h => ⟨h.1.withClock _, h.2.1, h.2.2.1, htimed⟩
  exact Honours.bind hadvance fun _ => keepsOn_draw hhandle

/-- Looking at the display's table changes nothing. -/
theorem keepsOn_frames : Keeps (conduct relies owned shown) (KeptOn owned shown q)
    (do return (← state).frames) :=
  honours_state_bind fun _ => honours_pure fun _ _ h => h.2

/-- The frames of several callbacks do, one after another. -/
theorem keepsOn_runEach {settings : RenderSettings} {entries : List (Nat × Unit)} :
    Keeps (conduct relies owned shown) (KeptOn owned shown q)
      (FrameTable.runEach (do return (← state).frames) (fun _ _ => renderFrame settings)
        entries) := by
  induction entries with
  | nil => exact honours_pure fun _ _ h => h
  | cons entry rest ih =>
    refine Honours.bind keepsOn_frames fun current => ?_
    by_cases hcontains : current.contains entry.1 = true
    · simp only [hcontains, if_true]
      refine Honours.bind keepsOn_renderFrame fun _ => ?_
      exact Honours.bind ih fun _ => honours_pure fun _ _ h => h
    · simp only [hcontains]
      exact ih

/-- So does a refresh. -/
theorem keepsOn_refresh {settings : RenderSettings} :
    Keeps (conduct relies owned shown) (KeptOn owned shown q) (refresh settings) := by
  unfold refresh FrameTable.dispatch
  exact Honours.bind keepsOn_frames fun _ => keepsOn_runEach

/-- What keeps to what there is and goes on with any program it starts from keeps what there was. -/
theorem keeps_of_keepsOn {α : Type} {p : DeviceProcedure Scheduler α}
    (h : ∀ q, Keeps (conduct relies owned shown) (KeptOn owned shown q) p) :
    Keeps (conduct relies owned shown) (Kept owned shown) p := fun past s hs =>
  (h s).weaken (fun _ _ _ h => h.1) (fun _ _ _ h => h.1) past s ⟨hs, rfl, rfl, rfl⟩

/-- **A frame** keeps what there was, however it ends. -/
theorem keeps_renderFrame {settings : RenderSettings} :
    Keeps (conduct relies owned shown) (Kept owned shown) (renderFrame settings) :=
  keeps_of_keepsOn fun _ => keepsOn_renderFrame

/-- **A refresh** keeps what there was, however it ends. -/
theorem keeps_refresh {settings : RenderSettings} :
    Keeps (conduct relies owned shown) (Kept owned shown) (refresh settings) :=
  keeps_of_keepsOn fun _ => keepsOn_refresh

/-! ### Starting and stopping -/

/-- A scheduler in a given state that keeps to what there is, after a number of refused calls about
frames. -/
def At (owned : List Owned) (shown : Option Program) (n : Nat) (q : Scheduler)
    (past : List (Exchange Device)) (s : Scheduler) : Prop :=
  s = q ∧ Kept owned shown past s ∧ frameRefusals past = n

/-- A refused call about frames changes nothing but the number of refusals. -/
theorem At.refused {past : List (Exchange Device)} {s : Scheduler} {call : Device.Call}
    {fault : Fault} (h : At owned shown n q past s) (hkeep : call.keepsHandles)
    (hsched : call.isScheduling) :
    At owned shown (n + 1) q (past ++ [⟨call, .error fault⟩]) s := by
  obtain ⟨rfl, h, hn⟩ := h
  refine ⟨rfl, h.keep hkeep fun frames => turn_error call fault, ?_⟩
  rw [frameRefusals_append_singleton, hn, isFrameRefusal, hsched]
  rfl

/-- A call about frames turns the display's table, or it is refused and nothing changes. The
scheduler's own table is turned afterwards. -/
theorem honours_turn {call : Device.Call} {f : FrameTable Unit → FrameTable Unit}
    (hkeep : call.keepsHandles) (hsched : call.isScheduling) (huses : call.uses = [])
    (hturn : ∀ frames a, turn frames ⟨call, .ok a⟩ = f frames) :
    Honours (conduct relies owned shown) (At owned shown n q) (Device.ask call)
      (fun past _ s => s = q ∧ Stands past owned ∧ callbacks past = f q.frames ∧
        frameRefusals past = n)
      (fun past fault s => (∃ past, relies past ⟨call, .error fault⟩) ∧
        At owned shown (n + 1) q past s) := by
  refine honours_perform ?_ ?_ ?_
  · rintro past s ⟨-, h, -⟩
    refine ⟨h, ?_⟩
    rw [huses]
    exact List.nil_subset _
  · rintro past s a ⟨rfl, h, hn⟩ -
    refine ⟨rfl, h.stands.keep (obtained?_of_keepsHandles hkeep)
      (deleted?_of_keepsHandles hkeep), ?_, ?_⟩
    · rw [callbacks_append_singleton, hturn, h.callbacks_eq]
    · rw [frameRefusals_append_singleton, hn]
      rfl
  · exact fun past s fault h hrelied => ⟨⟨past, hrelied⟩, h.refused hkeep hsched⟩

/-- Taking out a callback **may be refused**. -/
def CancelRefusable (relies : List (Exchange Device) → Exchange Device → Prop) : Prop :=
  ∃ past token fault, relies past ⟨.cancelFrame token, .error fault⟩

/-- The callback is taken out, or the call that does it is refused and nothing changes. -/
theorem honours_cancelFrames :
    Honours (conduct relies owned shown) (At owned shown n q) cancelFrames
      (fun past _ s => ∃ frames, At owned shown n { q with frames, token := none } past s)
      (fun past _ s => CancelRefusable relies ∧ At owned shown (n + 1) q past s) := by
  rw [cancelFrames]
  refine honours_state_bind fun s => ?_
  rintro past s ⟨rfl, rfl, h, hn⟩
  rcases htoken : s.token with _ | token
  · refine ⟨s.frames, ?_, h, hn⟩
    rw [← htoken]
  have hcancel : Honours (conduct relies owned shown) (At owned shown n s)
      (Device.ask (.cancelFrame token))
      (fun past _ s' => s' = s ∧ Stands past owned ∧ callbacks past = s.frames.cancel token ∧
        frameRefusals past = n)
      (fun past _ s' => CancelRefusable relies ∧ At owned shown (n + 1) s past s') := by
    refine (honours_turn rfl rfl rfl fun _ _ => rfl).weaken (fun _ _ _ h => h) ?_
    rintro past fault s' ⟨⟨past', hrelied⟩, h⟩
    exact ⟨⟨past', token, fault, hrelied⟩, h⟩
  have hforget : Honours (conduct relies owned shown)
      (fun past s' => s' = s ∧ Stands past owned ∧ callbacks past = s.frames.cancel token ∧
        frameRefusals past = n)
      (update fun s => { s with frames := s.frames.cancel token, token := none })
      (fun past _ s' => At owned shown n
        { s with frames := s.frames.cancel token, token := none } past s')
      (fun past _ s' => CancelRefusable relies ∧ At owned shown (n + 1) s past s') := by
    refine honours_update ?_
    rintro past s' ⟨rfl, hstands, hcallbacks, hn⟩
    refine ⟨rfl, ⟨hstands, hcallbacks, ?_, nofun, h.shown_of_program⟩, hn⟩
    rw [FrameTable.entries_cancel, h.entries_eq, htoken]
    simp only [Option.toList_some, List.map_cons, List.map_nil, bne_self_eq_false,
      Bool.false_eq_true, not_false_eq_true, List.filter_cons_of_neg, List.filter_nil,
      Option.toList_none]
  refine Honours.bind hcancel (fun _ => Honours.bind hforget fun _ => ?_) past s ⟨rfl, h, hn⟩
  rcases s.clock with _ | clock
  · exact honours_pure fun _ _ h => ⟨_, h⟩
  · exact honours_tell fun _ _ h => ⟨_, h⟩

/-- A scheduler that has **stopped** is idle. It has not stopped where taking out its callback was
refused. -/
theorem honours_stop :
    Honours (conduct relies owned shown) (At owned shown n q) stop
      (fun past _ s => Idle s ∧ Kept owned shown past s ∧ frameRefusals past = n)
      (fun past _ s => CancelRefusable relies ∧ At owned shown (n + 1) q past s) := by
  rw [stop]
  refine Honours.bind honours_cancelFrames fun _ => honours_update ?_
  rintro past s ⟨frames, rfl, h, hn⟩
  have hidle : Idle { frames } := ⟨rfl, rfl, rfl⟩
  exact ⟨hidle, ⟨h.stands, h.callbacks_eq, h.entries_eq, nofun, fun p hp => by cases hp⟩, hn⟩

/-- A callback is put in where there was none. -/
theorem honours_requestFrames (hprogram : q.program.isSome) (htoken : q.token = none) :
    Honours (conduct relies owned shown) (At owned shown n q) requestFrames
      (fun past _ s => ∃ token frames,
        At owned shown n { q with token := some token, frames } past s)
      (fun past _ s => At owned shown (n + 1) q past s) := by
  rintro past s ⟨rfl, h, hn⟩
  have hrequest : Honours (conduct relies owned shown) (At owned shown n s)
      (Device.ask .requestFrame)
      (fun past _ s' => s' = s ∧ Stands past owned ∧ callbacks past = (s.frames.register ()).2 ∧
        frameRefusals past = n)
      (fun past _ s' => At owned shown (n + 1) s past s') :=
    (honours_turn rfl rfl rfl fun _ _ => rfl).weaken (fun _ _ _ h => h) fun _ _ _ h => h.2
  refine Honours.bind hrequest (fun _ => honours_update ?_) past s ⟨rfl, h, hn⟩
  rintro past s' ⟨rfl, hstands, hcallbacks, hn⟩
  refine ⟨s'.frames.nextToken, (s'.frames.register ()).2, rfl,
    ⟨hstands, hcallbacks, ?_, fun _ => hprogram, h.shown_of_program⟩, hn⟩
  rw [FrameTable.entries_register, h.entries_eq, htoken]
  rfl

/-- Reading the time changes nothing, unless it is refused. -/
theorem honours_now :
    Honours (conduct relies owned shown) (At owned shown n q) (Device.ask .now)
      (fun past _ s => At owned shown n q past s)
      (fun past _ s => At owned shown (n + 1) q past s) := by
  rintro past s ⟨rfl, h, hn⟩
  refine (honours_turn (f := id) rfl rfl rfl fun _ _ => rfl).weaken ?_ (fun _ _ _ h => h.2) past s
    ⟨rfl, h, hn⟩
  rintro past' reading s' ⟨rfl, hstands, hcallbacks, hn⟩
  exact ⟨rfl, ⟨hstands, hcallbacks, h.entries_eq, h.program_of_token, h.shown_of_program⟩, hn⟩

/-- A scheduler that **runs** a program, without a refusal. -/
def Runs (program : Program) (n : Nat) (past : List (Exchange Device)) (s : Scheduler) : Prop :=
  s.token.isSome ∧ s.clock.isSome ∧ s.program = some program ∧
    Kept program.owned (some program) past s ∧ frameRefusals past = n

/-- A scheduler that **could not start**, since one call about frames was refused. -/
def CouldNotStart (program : Program) (n : Nat) (past : List (Exchange Device)) (_ : Fault)
    (s : Scheduler) : Prop :=
  s.token = none ∧ Kept program.owned (some program) past s ∧ frameRefusals past = n + 1

/-- One refused call more, and no token: the start did not succeed. -/
theorem At.couldNotStart {past : List (Exchange Device)} {fault : Fault} {s : Scheduler}
    {program : Program} (h : At program.owned (some program) (n + 1) q past s)
    (hq : q.token = none) : CouldNotStart program n past fault s := by
  obtain ⟨rfl, h, hn⟩ := h
  exact ⟨hq, h, hn⟩

/-- **Starting** where a scheduler is idle: it runs, or it has no callback. -/
theorem honours_start {program : Program} (hq : Idle q) :
    Honours (conduct relies program.owned (some program))
      (At program.owned (some program) n q) (start program)
      (fun past _ s => Runs program n past s) (CouldNotStart program n) := by
  rw [start]
  refine Honours.bind (honours_stop.weaken_err
    fun past fault s h => h.2.couldNotStart hq.2.2) fun _ => ?_
  -- From here on the scheduler is known apart from the display's table.
  rintro past ⟨_, _, _, frames⟩ ⟨⟨rfl, rfl, rfl⟩, h, hn⟩
  have hset : Honours (conduct relies program.owned (some program))
      (At program.owned (some program) n { frames })
      (update fun s => { s with program := some program })
      (fun past _ s => At program.owned (some program) n { program := some program, frames } past s)
      (CouldNotStart program n) := by
    refine honours_update ?_
    rintro past s ⟨rfl, ⟨hstands, hcallbacks, hentries, -, -⟩, hn⟩
    refine ⟨rfl, ⟨hstands, hcallbacks, hentries, nofun, fun p hp => ?_⟩, hn⟩
    obtain rfl := Option.some.inj hp
    exact ⟨rfl, rfl⟩
  have hclock : ∀ reading, Honours (conduct relies program.owned (some program))
      (At program.owned (some program) n { program := some program, frames })
      (update fun s => { s with clock := some { start := reading } })
      (fun past _ s => At program.owned (some program) n
        { program := some program, clock := some { start := reading }, frames } past s)
      (CouldNotStart program n) := by
    intro reading
    refine honours_update ?_
    rintro past s ⟨rfl, h, hn⟩
    exact ⟨rfl, h.withClock _, hn⟩
  have hnow : Honours (conduct relies program.owned (some program))
      (At program.owned (some program) n { program := some program, frames }) (Device.ask .now)
      (fun past _ s => At program.owned (some program) n { program := some program, frames } past s)
      (CouldNotStart program n) :=
    honours_now.weaken_err fun _ _ _ h => h.couldNotStart rfl
  refine Honours.bind hset (fun _ => Honours.bind hnow fun reading =>
    Honours.bind (hclock reading) fun _ => (honours_requestFrames rfl rfl).weaken ?_ ?_)
    past _ ⟨rfl, h, hn⟩
  · rintro past _ s ⟨token, frames, rfl, h, hn⟩
    exact ⟨rfl, rfl, rfl, h, hn⟩
  · exact fun past fault s h => h.couldNotStart rfl

/-! ### Without refusals -/

variable {P : Fault → Prop}

/-- Without refusals a stop does not fail, since nothing in it but its calls can. -/
theorem failsOnly_stop : FailsOnly P stop := by
  have hcancel : FailsOnly P cancelFrames := by
    refine failsOnly_state_bind fun s => ?_
    rcases s.token with _ | token
    · exact failsOnly_pure
    refine failsOnly_perform.bind fun _ => failsOnly_update.bind fun _ => ?_
    rcases s.clock with _ | clock
    · exact failsOnly_pure
    · exact failsOnly_tell
  exact hcancel.bind fun _ => failsOnly_update

/-- Nor does a start. -/
theorem failsOnly_start {program : Program} : FailsOnly P (start program) :=
  failsOnly_stop.bind fun _ => failsOnly_update.bind fun _ => failsOnly_perform.bind fun _ =>
    failsOnly_update.bind fun _ => failsOnly_perform.bind fun _ => failsOnly_update

end ShaderPreview.Scheduler
