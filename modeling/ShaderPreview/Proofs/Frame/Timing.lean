import ShaderPreview.Proofs.Dialogue.Stages
import ShaderPreview.Proofs.Frame.Callbacks
import ShaderPreview.Proofs.Frame.Upkeep

/-!
# Reading and Handing Over the Time

A scheduler reads the time when it starts and once for each frame. It hands the time over to the
program by asking where the program keeps it and setting what it finds there. What is handed over in
a frame is the elapsed time of the clock, which moved on to the reading of that frame before
anything else could go wrong.

Reading the time itself does not fail. That is all that is relied on of the device.

## Main definitions

* `Scheduler.readings`: the times that were read.
* `Scheduler.HandsOver`: a value was handed over as the time.
* `Scheduler.timing`: the contract.

## Main results

* `Scheduler.path_start_timed`, `Scheduler.path_stop_timed`, `Scheduler.path_renderFrame_timed`:
  what each operation reads and hands over, and what becomes of the clock.
-/

namespace ShaderPreview.Scheduler

open Procedure Device

variable {past : List (Exchange Device)} {x : Exchange Device} {s s' : Scheduler}
  {settings : RenderSettings} {rs : List Float} {program : Option Program}
  {clock : Option FrameClock} {Allowed : UniformValue → Prop}
  {moments : List (Moment Device Scheduler)} {result : Except Fault Unit} {value : UniformValue}

/-! ### What is read and handed over -/

/-- The time that an exchange **reads**. -/
def reading? : Exchange Device → Option Float
  | ⟨.now, .ok reading⟩ => some reading
  | _ => none

/-- The times that were **read**, in order. -/
def readings (past : List (Exchange Device)) : List Float := past.filterMap reading?

/-- Only a call for the time reads it. -/
theorem readings_append_singleton (h : x.call ≠ .now) : readings (past ++ [x]) = readings past := by
  have hnone : reading? x = none := by
    obtain ⟨call, reply⟩ := x
    cases call <;> first | rfl | exact absurd rfl h
  rw [readings, Exchange.filterMap_append_singleton, hnone, Option.toList_none, List.append_nil]
  rfl

/-- The time can be read **throughout**. -/
def ReadsTime (moments : List (Moment Device Scheduler)) : Prop :=
  ∀ m ∈ moments, ∀ fault, m.exchange ≠ ⟨.now, .error fault⟩

/-- The last that passed is a question for **where the time is kept**. -/
def AskedForTime (past : List (Exchange Device)) : Prop :=
  ∃ asked program, past.getLast? = some asked ∧ asked.call = .uniformLocation program "time"

/-- A value is **handed over as the time**: it is set right after the question where the time is
kept. -/
def HandsOver (moments : List (Moment Device Scheduler)) (value : UniformValue) : Prop :=
  ∃ before m after program location, moments = before ++ m :: after ∧
    m.call = .setUniform program location value ∧ AskedForTime (before.map Moment.exchange)

/-- Where no call is made nothing is handed over. -/
theorem not_handsOver_nil : ¬HandsOver [] value := by
  rintro ⟨before, m, after, program, location, he, -⟩
  exact absurd he (by simp)

/-- The **contract**: that the time can be read is relied on, and only such values are handed over
as the time. -/
def timing (Allowed : UniformValue → Prop) : Contract Device Scheduler where
  relies _ x := ∀ fault, x ≠ ⟨.now, .error fault⟩
  guarantees past _ call := AskedForTime past → ∀ program location value,
    call = .setUniform program location value → Allowed value

/-- A path on which the time can be read is one that the contract relies on. -/
theorem ReadsTime.relied (h : ReadsTime moments) : (timing Allowed).Relied past moments :=
  fun before m _ he => h m (he ▸ List.mem_append_right before List.mem_cons_self)

/-- What is handed over is as the contract says. -/
theorem HandsOver.allowed (hover : HandsOver moments value)
    (h : (timing Allowed).Guaranteed [] moments) : Allowed value := by
  obtain ⟨before, m, after, program, location, he, hset, hasked⟩ := hover
  exact h before m after he hasked program location value hset

/-! ### The program and its clock -/

/-- The **program, the clock and the times read** so far. -/
structure Timed (rs : List Float) (program : Option Program) (clock : Option FrameClock)
    (past : List (Exchange Device)) (s : Scheduler) : Prop where
  readings_eq : readings past = rs
  program_eq : s.program = program
  clock_eq : s.clock = clock

/-- A call that does not read the time leaves the program, the clock and the readings. -/
theorem Timed.pass (h : Timed rs program clock past s) (hcall : x.call ≠ .now) :
    Timed rs program clock (past ++ [x]) s :=
  ⟨(readings_append_singleton hcall).trans h.readings_eq, h.program_eq, h.clock_eq⟩

/-- Whether a call neither reads the time nor **sets anything**. -/
def isUntimed : Device.Call → Bool
  | .now => false
  | .setUniform .. => false
  | _ => true

/-- A call that neither reads the time nor sets anything changes nothing. -/
theorem keeps_ask_timed {call : Device.Call} (hcall : isUntimed call = true) :
    Keeps (timing Allowed) (Timed rs program clock) (Device.ask call) := by
  have hnow : call ≠ .now := fun h => by rw [h] at hcall; cases hcall
  refine honours_perform (fun past s _ _ program location value hset => ?_)
    (fun _ _ _ h _ => h.pass hnow) fun _ _ _ h _ => h.pass hnow
  rw [hset] at hcall
  cases hcall

/-! ### Stopping -/

/-- A stop that comes to its end leaves no program and no clock; one that is cut short leaves
both. -/
theorem honours_stop_timed :
    Honours (timing Allowed) (Timed rs program clock) stop
      (fun past _ s => Timed rs none none past s)
      fun past _ s => Timed rs program clock past s := by
  have hcancel : Keeps (timing Allowed) (Timed rs program clock) cancelFrames :=
    keeps_cancelFrames (fun _ => keeps_ask_timed rfl) fun _ _ _ _ h =>
      ⟨h.readings_eq, h.program_eq, h.clock_eq⟩
  exact hcancel.bind fun _ => honours_update fun _ _ h => ⟨h.readings_eq, rfl, rfl⟩

/-- **A stop** reads nothing and hands nothing over. -/
theorem path_stop_timed (hpath : Dialogue.Path (stop s) moments result s')
    (hreads : ReadsTime moments) :
    (∀ value, ¬HandsOver moments value) ∧
      (result = .ok () ∧ Timed [] none none (moments.map Moment.exchange) s' ∨
        result.isOk = false ∧ Timed [] s.program s.clock (moments.map Moment.exchange) s') := by
  have hstop : Honours (timing fun _ => False) (Timed [] s.program s.clock) stop
      (fun past _ s => Timed [] none none past s)
      fun past _ s' => Timed [] s.program s.clock past s' := honours_stop_timed
  obtain ⟨hcalls, hend⟩ := (hstop [] s ⟨rfl, rfl, rfl⟩).path hpath hreads.relied
  refine ⟨fun value hover => hover.allowed hcalls, ?_⟩
  rcases result with fault | ⟨⟩
  · exact .inr ⟨rfl, hend⟩
  · exact .inl ⟨rfl, hend⟩

/-! ### Starting -/

/-- A start that has **read the time** has a program, and a clock that starts there. -/
def Begun (program : Program) (past : List (Exchange Device)) (s : Scheduler) : Prop :=
  ∃ reading, Timed [reading] (some program) (some { start := reading }) past s

/-- A start reads the time once and begins, unless its stop is cut short. -/
theorem honours_start_timed {next : Program} :
    Honours (timing Allowed) (Timed [] program clock) (start next)
      (fun past _ s => Begun next past s)
      fun past _ s => Timed [] program clock past s ∨ Begun next past s := by
  have hbegin : Honours (timing Allowed) (Timed [] none none)
      (update fun s => { s with program := some next })
      (fun past _ s => Timed [] (some next) none past s)
      fun past _ s => Timed [] program clock past s ∨ Begun next past s :=
    honours_update fun _ _ h => ⟨h.readings_eq, rfl, h.clock_eq⟩
  have hnow : Honours (timing Allowed) (Timed [] (some next) none) (Device.ask .now)
      (fun past reading s => Timed [reading] (some next) none past s)
      fun past _ s => Timed [] program clock past s ∨ Begun next past s := by
    refine honours_perform (fun _ _ _ _ _ _ _ hset => nomatch hset) (fun past s reading h _ => ?_)
      fun past s fault _ hrelied => absurd rfl (hrelied fault)
    refine ⟨?_, h.program_eq, h.clock_eq⟩
    rw [readings, Exchange.filterMap_append_singleton, ← readings, h.readings_eq]
    rfl
  have hclock : ∀ reading, Honours (timing Allowed) (Timed [reading] (some next) none)
      (update fun s => { s with clock := some { start := reading } })
      (fun past _ s => Begun next past s)
      fun past _ s => Timed [] program clock past s ∨ Begun next past s :=
    fun reading => honours_update fun _ _ h => ⟨reading, h.readings_eq, h.program_eq, rfl⟩
  have hrequest : Keeps (timing Allowed) (Begun next) requestFrames := by
    rintro past s ⟨reading, h⟩
    refine (keeps_requestFrames (keeps_ask_timed rfl) fun _ _ _ _ h => ?_).weaken
      (fun _ _ _ h => ⟨reading, h⟩) (fun _ _ _ h => ⟨reading, h⟩) past s h
    exact ⟨h.readings_eq, h.program_eq, h.clock_eq⟩
  refine Honours.bind (honours_stop_timed.weaken_err fun _ _ _ h => .inl h) fun _ => ?_
  refine Honours.bind hbegin fun _ => Honours.bind hnow fun reading => ?_
  exact Honours.bind (hclock reading) fun _ => hrequest.weaken_err fun _ _ _ h => .inr h

/-- **A start** hands nothing over. It reads the time once and begins, or it changes nothing. -/
theorem path_start_timed {next : Program} (hpath : Dialogue.Path (start next s) moments result s')
    (hreads : ReadsTime moments) :
    (∀ value, ¬HandsOver moments value) ∧
      (Timed [] s.program s.clock (moments.map Moment.exchange) s' ∨
        Begun next (moments.map Moment.exchange) s') := by
  have hstart : Honours (timing fun _ => False) (Timed [] s.program s.clock) (start next)
      (fun past _ s' => Timed [] s.program s.clock past s' ∨ Begun next past s')
      fun past _ s' => Timed [] s.program s.clock past s' ∨ Begun next past s' :=
    honours_start_timed.weaken_ok fun _ _ _ h => .inr h
  have hbefore : Timed [] s.program s.clock [] s := ⟨rfl, rfl, rfl⟩
  obtain ⟨hcalls, hend⟩ := hstart.path_end hbefore hpath hreads.relied
  exact ⟨fun value hover => hover.allowed hcalls, hend⟩

/-! ### Drawing -/

variable {elapsed : Float}

/-- Setting uniforms hands over the elapsed time, if that is the value under the name of the
time. -/
theorem keeps_setUniforms_timed {handle : Handle} {values : List (String × UniformValue)}
    (htime : ∀ value, ("time", value) ∈ values → value = .scalar elapsed) :
    Keeps (timing (· = .scalar elapsed)) (Timed rs program clock) (setUniforms handle values) := by
  induction values with
  | nil => exact honours_pure fun _ _ h => h
  | cons entry rest ih =>
    obtain ⟨name, value⟩ := entry
    have hrest := ih fun value hvalue => htime value (List.mem_cons_of_mem _ hvalue)
    -- The question names the uniform whose value is set next.
    have hlocation : Honours (timing (· = .scalar elapsed)) (Timed rs program clock)
        (Device.ask (.uniformLocation handle name))
        (fun past _ s => Timed rs program clock past s ∧
          ∃ asked, past.getLast? = some asked ∧ asked.call = .uniformLocation handle name)
        fun past _ s => Timed rs program clock past s :=
      honours_perform (fun _ _ _ _ _ _ _ hset => nomatch hset)
        (fun _ _ _ h _ => ⟨h.pass nofun, _, List.getLast?_concat, rfl⟩)
        fun _ _ _ h _ => h.pass nofun
    have hset : ∀ location, Honours (timing (· = .scalar elapsed))
        (fun past s => Timed rs program clock past s ∧
          ∃ asked, past.getLast? = some asked ∧ asked.call = .uniformLocation handle name)
        (Device.ask (.setUniform handle location value))
        (fun past _ s => Timed rs program clock past s)
        fun past _ s => Timed rs program clock past s := by
      intro location
      refine honours_perform ?_ (fun _ _ _ h _ => h.1.pass nofun) fun _ _ _ h _ => h.1.pass nofun
      rintro past s ⟨-, asked, hlast, hasked⟩ ⟨asked', handle', hlast', hasked'⟩ _ _ _ ⟨⟩
      obtain rfl := Option.some.inj (hlast.symm.trans hlast')
      obtain ⟨-, rfl⟩ := Call.uniformLocation.inj (hasked.symm.trans hasked')
      exact htime value List.mem_cons_self
    refine Honours.bind hlocation fun location => ?_
    by_cases habsent : (location != absent) = true
    · simp only [habsent, if_true]
      exact Honours.bind (hset location) fun _ => hrest
    · simp only [habsent]
      exact hrest.mono (fun _ _ h => h.1) (fun _ _ _ h => h) fun _ _ _ h => h

/-- Drawing hands over the elapsed time, and reads nothing. -/
theorem keeps_draw_timed {p : Program} :
    Keeps (timing (· = .scalar elapsed)) (Timed rs program clock) (draw settings p elapsed) := by
  rw [draw]
  refine Honours.bind (keeps_ask_timed rfl) fun size => ?_
  refine Honours.bind keeps_ofExcept fun aspect => Honours.bind keeps_ofExcept fun matrices => ?_
  refine Honours.bind (keeps_ask_timed rfl) fun _ => Honours.bind (keeps_ask_timed rfl) fun _ => ?_
  refine Honours.bind (keeps_ask_timed rfl) fun _ => Honours.bind (keeps_ask_timed rfl) fun _ => ?_
  refine Honours.bind keeps_ofExcept fun resolution => ?_
  refine Honours.bind (keeps_setUniforms_timed fun value hvalue => ?_) fun _ => keeps_ask_timed rfl
  simpa [uniforms] using hvalue

/-- **A frame** reads the time once and moves the clock on, wherever it is cut short. What it hands
over is the elapsed time of the clock. -/
theorem path_renderFrame_timed {p : Program} {c : FrameClock} (hprogram : s.program = some p)
    (hclock : s.clock = some c) (hpath : Dialogue.Path (renderFrame settings s) moments result s')
    (hreads : ReadsTime moments) :
    ∃ reading,
      Timed [reading] (some p) (some (c.advance reading)) (moments.map Moment.exchange) s' ∧
      ∀ value, HandsOver moments value → value = .scalar (c.advance reading).elapsed := by
  rw [renderFrame, path_state_bind, hprogram, hclock] at hpath
  rcases path_ask_bind hpath with ⟨fault, rfl, -, -⟩ | ⟨reading, rest, rfl, hrest⟩
  · exact absurd rfl (hreads _ List.mem_cons_self fault)
  rw [path_update_bind] at hrest
  have hdraw : Keeps (timing (· = .scalar (c.advance reading).elapsed))
      (Timed [reading] (some p) (some (c.advance reading)))
      (draw settings p (c.advance reading).elapsed) := keeps_draw_timed
  have hread : ReadsTime rest := fun m hm => hreads m (List.mem_cons_of_mem _ hm)
  have hbefore : Timed [reading] (some p) (some (c.advance reading))
      [(⟨.now, .ok reading⟩ : Exchange Device)] { s with clock := some (c.advance reading) } :=
    ⟨rfl, hprogram, rfl⟩
  obtain ⟨hcalls, hend⟩ := hdraw.path_end hbefore hrest hread.relied
  refine ⟨reading, hend, ?_⟩
  rintro value ⟨before, m, after, program, location, he, hset, hasked⟩
  -- The reading sets nothing, so what is set lies behind it.
  cases before with
  | nil =>
    obtain ⟨rfl, -⟩ := List.cons.inj he
    cases hset
  | cons first before =>
    obtain ⟨rfl, htail⟩ := List.cons.inj he
    exact hcalls before m after htail hasked program location value hset

/-- Without a program or a clock there is no frame. -/
theorem renderFrame_of_none (h : s.program = none ∨ s.clock = none) :
    renderFrame settings s = .done (.ok ()) s := by
  obtain ⟨program, clock, token, frames⟩ := s
  rcases h with h | h
  · obtain rfl : program = none := h
    rfl
  · obtain rfl : clock = none := h
    cases program <;> rfl

end ShaderPreview.Scheduler
