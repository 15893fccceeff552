import Mathlib.Data.Option.Basic
import ShaderPreview.Proofs.Dialogue.Views
import ShaderPreview.Proofs.Frame.RunningTime
import ShaderPreview.Proofs.Frame.Timing

/-!
# The Time of a Program

From the moment at which a start reads the time until it is stopped or another start takes its
place, a program **lives**. What a run makes of its life is known from the deeds of the run alone:
which program it is, when it began, what was read since, and how many frames were asked for. This is
what the clock tells. The time that a shader sees is the latest of zero and the differences that are
numbers, so it does not run backwards; and it has nothing to do with what was read before the life
began.

Deeds may be cut short by any refusal and by any fault of the arithmetic. Only reading the time does
not fail.

## Main definitions

* `Scheduler.Deed`, `Scheduler.Carried`: an operation that was carried out, and a run of them.
* `Scheduler.Life`, `Scheduler.Life.after`: the life of a program, and what some deeds make of it.
* `FrameClock.Tells`: a clock tells the time of a life.

## Main results

* `Scheduler.InTime.deed`: what one deed makes of the clock.
* `Scheduler.time_never_runs_backwards`: what any run makes of it.
-/

namespace ShaderPreview

open Procedure Device

namespace Scheduler

variable {settings : RenderSettings} {s s' : Scheduler}

/-! ### Deeds and lives -/

/-- An operation that was **carried out**: the scheduler before it, its calls and its result. -/
structure Deed where
  operation : Operation
  before : Scheduler
  moments : List (Moment Device Scheduler)
  result : Except Fault Unit

namespace Deed

/-- The times that were **read**. -/
def readings (d : Deed) : List Float := Scheduler.readings (d.moments.map Moment.exchange)

/-- The number of **frames** that were asked for: a refresh asks for one with each callback. -/
def frames (d : Deed) : Nat :=
  match d.operation with
  | .renderFrame => 1
  | .refresh => d.before.frames.size
  | .start _ | .stop => 0

/-- Whether a program that lives **lives on**: no start has read the time, and no stop has come to
its end. -/
def livesOn (d : Deed) : Bool :=
  match d.operation with
  | .start _ => d.readings.isEmpty
  | .stop => !d.result.isOk
  | .renderFrame | .refresh => true

end Deed

/-- A **run**: deeds one after another, from one scheduler to the next. -/
inductive Carried (settings : RenderSettings) : Scheduler → List Deed → Scheduler → Prop
  | nil (s : Scheduler) : Carried settings s [] s
  | cons {s s' s'' : Scheduler} {operation : Operation} {moments : List (Moment Device Scheduler)}
      {result : Except Fault Unit} {deeds : List Deed}
      (hpath : Dialogue.Path (operation.carryOut settings s) moments result s')
      (h : Carried settings s' deeds s'') :
      Carried settings s (⟨operation, s, moments, result⟩ :: deeds) s''

/-- The **life of a program**: when it began, what was read since, and how many frames were asked
for. -/
structure Life where
  program : Program
  start : Float
  readings : List Float := []
  frames : Nat := 0

namespace Life

/-- The times since the beginning of a life that are **numbers**, and zero. -/
def times (l : Life) : List Float :=
  0.0 :: (l.readings.map fun reading => reading - l.start).filter fun t => !t.isNaN

/-- What **a deed** makes of a life. -/
def next (life : Option Life) (d : Deed) : Option Life :=
  match d.operation with
  | .start program => (d.readings.head?.map fun reading => { program, start := reading }) <|> life
  | .stop => if d.result.isOk then none else life
  | .renderFrame | .refresh =>
    life.map fun l => { l with readings := l.readings ++ d.readings, frames := l.frames + d.frames }

/-- What **some deeds** make of a life. -/
def after (life : Option Life) (deeds : List Deed) : Option Life := deeds.foldl next life

end Life

end Scheduler

/-! ### What a clock tells -/

namespace FrameClock

open Scheduler (Life)

variable {c c' : FrameClock} {l l' : Life}

/-- A clock **tells the time** of a life: its start and the number of its frames, in each of which
the time was read once, and the latest of the times. -/
structure Tells (c : FrameClock) (l : Life) : Prop where
  start_eq : c.start = l.start
  frames_eq : c.frames = l.frames
  length_readings : l.readings.length = l.frames
  isLatest : IsLatest c.elapsed l.times

/-- A clock that begins tells the time of a life that begins. -/
theorem tells_start (program : Program) (reading : Float) :
    Tells { start := reading } { program, start := reading } :=
  ⟨rfl, rfl, rfl, isLatest_singleton 0.0⟩

/-- A clock that moves on tells the time of the life that goes on. -/
theorem Tells.advance (h : Tells c l) (reading : Float) :
    Tells (c.advance reading)
      { l with readings := l.readings ++ [reading], frames := l.frames + 1 } := by
  refine ⟨h.start_eq, congrArg (· + 1) h.frames_eq, ?_, ?_⟩
  · rw [List.length_append, h.length_readings]
    rfl
  · have htimes : ({ l with readings := l.readings ++ [reading], frames := l.frames + 1 } :
        Life).times = l.times ++ [reading - l.start].filter fun t => !t.isNaN := by
      simp only [Life.times, List.map_append, List.filter_append, List.cons_append, List.map_cons,
        List.map_nil]
    rw [htimes, FrameClock.advance, h.start_eq]
    exact h.isLatest.later _

/-- The time of a clock is a number. -/
theorem Tells.isNaN_eq_false (h : Tells c l) : c.elapsed.isNaN = false := by
  rcases List.mem_cons.mp h.isLatest.mem with hzero | hmem
  · rw [hzero]
    decide +kernel
  · simpa using (List.mem_filter.mp hmem).2

/-- The time of a clock is not negative. -/
theorem Tells.not_neg (h : Tells c l) : ¬c.elapsed < 0.0 :=
  h.isLatest.not_lt 0.0 List.mem_cons_self

/-- The time of a clock does not run backwards as long as the life lasts. -/
theorem Tells.not_lt (h : Tells c l) (h' : Tells c' l') (hstart : l'.start = l.start)
    (hreadings : l.readings <+: l'.readings) : ¬c'.elapsed < c.elapsed := by
  refine h.isLatest.not_lt_of_subset h'.isLatest ?_
  obtain ⟨later, hlater⟩ := hreadings
  rw [Life.times, Life.times, hstart, ← hlater, List.map_append, List.filter_append,
    ← List.cons_append]
  exact List.subset_append_left _ _

/-- Before anything is read a clock stands at zero. -/
theorem Tells.eq_start (h : Tells c l) (hreadings : l.readings = []) :
    c = { start := l.start } := by
  obtain ⟨start, elapsed, frames⟩ := c
  obtain ⟨hstart, hframes, hlength, hlatest⟩ := h
  rw [hreadings] at hlength
  have helapsed := hlatest.mem
  rw [Life.times, hreadings] at helapsed
  obtain rfl : start = l.start := hstart
  obtain rfl : frames = 0 := hframes.trans hlength.symm
  obtain rfl : elapsed = 0.0 := List.mem_singleton.mp helapsed
  rfl

end FrameClock

namespace Scheduler

variable {settings : RenderSettings} {s s' s'' : Scheduler} {life : Option Life}
  {operation : Operation} {moments : List (Moment Device Scheduler)} {result : Except Fault Unit}
  {deeds later : List Deed}

/-! ### One deed -/

/-- A scheduler is **in time** with a life: its clock tells the time of the life, its program is the
one that lives, and it keeps to the display. -/
structure InTime (s : Scheduler) (life : Option Life) : Prop where
  tells : Option.Rel FrameClock.Tells s.clock life
  program_eq : s.program = life.map (·.program)
  registered : ∃ past, Registered past s

/-- At first there is no life. -/
theorem inTime_none : InTime {} none := ⟨.none, rfl, [], registered_nil⟩

/-- Where there is a clock there is a life whose time it tells. -/
theorem InTime.exists_life (h : InTime s life) {c : FrameClock} (hclock : s.clock = some c) :
    ∃ l, life = some l ∧ c.Tells l := by
  have htells := h.tells
  rw [hclock] at htells
  cases htells with
  | some htells => exact ⟨_, rfl, htells⟩

/-- Where there is a life there is a clock that tells its time. -/
theorem InTime.exists_clock {l : Life} (h : InTime s (some l)) :
    ∃ c, s.clock = some c ∧ c.Tells l := by
  have htells := h.tells
  generalize s.clock = clock at htells
  cases htells with
  | some htells => exact ⟨_, rfl, htells⟩

/-- What is handed over is the elapsed time of **the clock** that a scheduler has. -/
def TellsTime (moments : List (Moment Device Scheduler)) (s : Scheduler) : Prop :=
  ∀ value, HandsOver moments value → ∃ c, s.clock = some c ∧ value = .scalar c.elapsed

/-- Where nothing is handed over nothing wrong is. -/
theorem tellsTime_of_not (h : ∀ value, ¬HandsOver moments value) : TellsTime moments s :=
  fun value hover => absurd hover (h value)

/-- A deed leaves a scheduler that keeps to the display. -/
theorem InTime.registered_deed (h : InTime s life)
    (hpath : Dialogue.Path (operation.carryOut settings s) moments result s') :
    ∃ past, Registered past s' := by
  obtain ⟨past, hpast⟩ := h.registered
  have hkeeps : Keeps (.lax fun _ _ => True) Registered (operation.carryOut settings) :=
    keeps_registered_carryOut operation
  exact ⟨_, (hkeeps.path_end hpast hpath fun _ _ _ _ => trivial).2⟩

/-- A frame of a program that does not live does nothing. -/
theorem InTime.frame_of_none (h : InTime s none) :
    renderFrame settings s = .done (.ok ()) s := by
  have hclock : s.clock = none := by
    rcases hclock : s.clock with _ | c
    · rfl
    · obtain ⟨l, hnone, -⟩ := h.exists_life hclock
      cases hnone
  exact renderFrame_of_none (.inr hclock)

/-- A refresh is a frame where the scheduler is running, and does nothing where it is not. -/
theorem carryOut_refresh (settings : RenderSettings) (h : InTime s life) :
    (s.token = none ∧ s.frames.size = 0 ∧
        Operation.refresh.carryOut settings s = .done (.ok ()) s) ∨
      (s.running = true ∧ s.frames.size = 1 ∧
        Operation.refresh.carryOut settings s = renderFrame settings s) := by
  obtain ⟨past, hpast⟩ := h.registered
  have hentries := hpast.entries_eq
  have hopen : Operation.refresh.carryOut settings s = (do
      let _ ← refresh settings
      return () : DeviceProcedure Scheduler Unit) s := rfl
  rw [FrameTable.size, hentries, hopen, bind_apply, running]
  rcases htoken : s.token with _ | token
  · rw [htoken] at hentries
    rw [refresh_of_entries_nil hentries]
    exact .inl ⟨rfl, rfl, rfl⟩
  · rw [htoken] at hentries
    rw [refresh_of_entries_singleton hentries, ← bind_apply]
    exact .inr ⟨rfl, rfl, by simp⟩

/-- A frame moves the clock on with the life, wherever it is cut short. -/
theorem InTime.frame (h : InTime s life)
    (hpath : Dialogue.Path (renderFrame settings s) moments result s')
    (hreads : ReadsTime moments) :
    Option.Rel FrameClock.Tells s'.clock (life.map fun l =>
      { l with
        readings := l.readings ++ readings (moments.map Moment.exchange)
        frames := l.frames + 1 }) ∧
      s'.program = s.program ∧ TellsTime moments s' := by
  cases life with
  | none =>
    rw [h.frame_of_none] at hpath
    cases hpath
    exact ⟨h.tells, rfl, tellsTime_of_not fun _ => not_handsOver_nil⟩
  | some l =>
    obtain ⟨c, hclock, htells⟩ := h.exists_clock
    obtain ⟨reading, htimed, hover⟩ := path_renderFrame_timed h.program_eq hclock hpath hreads
    rw [htimed.clock_eq, htimed.program_eq, htimed.readings_eq, h.program_eq]
    exact ⟨.some (htells.advance reading), rfl,
      fun value hvalue => ⟨_, htimed.clock_eq, hover value hvalue⟩⟩

/-- **A deed** makes of the clock what it makes of the life, however it ends. -/
theorem InTime.deed (h : InTime s life)
    (hpath : Dialogue.Path (operation.carryOut settings s) moments result s')
    (hreads : ReadsTime moments) :
    InTime s' (Life.next life ⟨operation, s, moments, result⟩) ∧ TellsTime moments s' := by
  have hregistered := h.registered_deed hpath
  -- Where the program and the clock are known, so is the life.
  have htimed : ∀ {rs program clock life'},
      Timed rs program clock (moments.map Moment.exchange) s' →
      Option.Rel FrameClock.Tells clock life' → program = life'.map (·.program) →
      InTime s' life' := by
    rintro rs program clock life' ⟨-, rfl, rfl⟩ htells hprogram
    exact ⟨htells, hprogram, hregistered⟩
  have hlives : ∀ f : Life → Life, (∀ l, (f l).program = l.program) → s'.program = s.program →
      s'.program = (life.map f).map (·.program) := by
    intro f hf hsame
    rw [hsame, h.program_eq, Option.map_map]
    exact congrArg (life.map ·) (funext fun l => (hf l).symm)
  cases operation with
  | start next =>
    obtain ⟨hover, hend⟩ := path_start_timed hpath hreads
    refine ⟨?_, tellsTime_of_not hover⟩
    rcases hend with hend | ⟨reading, hend⟩
    · rw [Life.next, Deed.readings, hend.readings_eq]
      exact htimed hend h.tells h.program_eq
    · rw [Life.next, Deed.readings, hend.readings_eq]
      exact htimed hend (.some (FrameClock.tells_start next reading)) rfl
  | stop =>
    obtain ⟨hover, hend⟩ := path_stop_timed hpath hreads
    refine ⟨?_, tellsTime_of_not hover⟩
    rcases hend with ⟨rfl, hend⟩ | ⟨hfailed, hend⟩
    · exact htimed hend .none rfl
    · rw [Life.next, hfailed]
      exact htimed hend h.tells h.program_eq
  | renderFrame =>
    obtain ⟨htells, hsame, hover⟩ := h.frame hpath hreads
    exact ⟨⟨htells, hlives _ (fun _ => rfl) hsame, hregistered⟩, hover⟩
  | refresh =>
    rcases carryOut_refresh settings h with ⟨-, hsize, hopen⟩ | ⟨-, hsize, hopen⟩
    · rw [hopen] at hpath
      cases hpath
      have hsame : Life.next life ⟨.refresh, s, [], .ok ()⟩ = life := by
        cases life <;> simp [Life.next, Deed.frames, Deed.readings, readings, hsize]
      rw [hsame]
      exact ⟨h, tellsTime_of_not fun _ => not_handsOver_nil⟩
    · rw [hopen] at hpath
      obtain ⟨htells, hsame, hover⟩ := h.frame hpath hreads
      refine ⟨⟨?_, hlives _ (fun _ => rfl) hsame, hregistered⟩, hover⟩
      rw [Life.next, Deed.frames, hsize]
      exact htells

/-! ### Runs -/

/-- A run makes of the clock what it makes of the life. -/
theorem InTime.carried (h : InTime s life) (hrun : Carried settings s deeds s')
    (hreads : ∀ d ∈ deeds, ReadsTime d.moments) : InTime s' (Life.after life deeds) := by
  induction hrun generalizing life with
  | nil s => exact h
  | cons hpath _ ih =>
    obtain ⟨hfirst, hrest⟩ := List.forall_mem_cons.mp hreads
    exact ih (h.deed hpath hfirst).1 hrest

/-- A life that goes on has begun when it began, and what was read stays read. -/
theorem Life.exists_after {l : Life} (hlives : ∀ d ∈ deeds, d.livesOn = true) :
    ∃ l', Life.after (some l) deeds = some l' ∧ l'.start = l.start ∧
      l.readings <+: l'.readings := by
  induction deeds generalizing l with
  | nil => exact ⟨l, rfl, rfl, List.prefix_refl _⟩
  | cons d deeds ih =>
    obtain ⟨hfirst, hrest⟩ := List.forall_mem_cons.mp hlives
    have hnext : ∃ l', Life.next (some l) d = some l' ∧ l'.start = l.start ∧
        l.readings <+: l'.readings := by
      rcases d with ⟨operation, before, moments, result⟩
      cases operation with
      | start next =>
        have hnone : Deed.readings ⟨.start next, before, moments, result⟩ = [] :=
          List.isEmpty_iff.mp hfirst
        exact ⟨l, by rw [Life.next, hnone]; rfl, rfl, List.prefix_refl _⟩
      | stop =>
        have hfailed : result.isOk = false := by simpa [Deed.livesOn] using hfirst
        exact ⟨l, by rw [Life.next, hfailed]; rfl, rfl, List.prefix_refl _⟩
      | renderFrame => exact ⟨_, rfl, rfl, List.prefix_append _ _⟩
      | refresh => exact ⟨_, rfl, rfl, List.prefix_append _ _⟩
    obtain ⟨l', hl', hstart', hreadings'⟩ := hnext
    obtain ⟨l'', hl'', hstart'', hreadings''⟩ := ih (l := l') hrest
    refine ⟨l'', ?_, hstart''.trans hstart', hreadings'.trans hreadings''⟩
    rw [Life.after, List.foldl_cons, hl']
    exact hl''

/-! ### The first frame -/

/-- What **a frame looks at**: the program and its clock. -/
def shown (s : Scheduler) : Option Program × Option FrameClock := (s.program, s.clock)

/-- Setting uniforms has nothing to do with the state. The induction is on the uniforms. -/
theorem stateless_setUniforms {handle : Handle} (values : List (String × UniformValue)) :
    Stateless (setUniforms handle values) := by
  induction values with
  | nil => exact stateless_pure
  | cons entry rest ih =>
    refine stateless_perform.bind fun location => ?_
    by_cases habsent : (location != absent) = true
    · simp only [habsent, if_true]
      exact stateless_perform.bind fun _ => ih
    · simp only [habsent]
      exact ih

/-- Drawing has nothing to do with the state. -/
theorem stateless_draw {p : Program} {elapsed : Float} : Stateless (draw settings p elapsed) := by
  rw [draw]
  refine stateless_perform.bind fun size => stateless_ofExcept.bind fun aspect => ?_
  refine stateless_ofExcept.bind fun matrices => stateless_perform.bind fun _ => ?_
  refine stateless_perform.bind fun _ => stateless_perform.bind fun _ => ?_
  refine stateless_perform.bind fun _ => stateless_ofExcept.bind fun resolution => ?_
  exact (stateless_setUniforms _).bind fun _ => stateless_perform

/-- A frame is the same dialogue for schedulers that show the same. -/
theorem renderFrame_eq_of_shown (h : shown s = shown s') :
    (renderFrame settings s).mapState shown = (renderFrame settings s').mapState shown := by
  obtain ⟨hprogram, hclock⟩ := Prod.mk.inj h
  rcases hp : s.program with _ | p
  · rw [renderFrame_of_none (.inl hp), renderFrame_of_none (.inl (hprogram ▸ hp))]
    exact congrArg (Dialogue.done _) h
  rcases hc : s.clock with _ | c
  · rw [renderFrame_of_none (.inr hc), renderFrame_of_none (.inr (hclock ▸ hc))]
    exact congrArg (Dialogue.done _) h
  rw [renderFrame, bind_apply, bind_apply]
  simp only [state_apply, Dialogue.done_follow, ← hprogram, ← hclock, hp, hc]
  refine congrArg₂ (fun t next => Dialogue.ask (I := Device) t .now next) h (funext fun reply => ?_)
  cases reply with
  | ok reading =>
    have hadvanced : shown { s with clock := some (c.advance reading) } =
        shown { s' with clock := some (c.advance reading) } :=
      congrArg (fun t => (t.1, some (c.advance reading))) h
    exact stateless_draw.mapState_eq hadvanced
  | error fault => exact congrArg (Dialogue.done _) h

/-! ### Time over a run -/

/-- What is known of the time **after a run**, whatever was read. -/
structure KeepsTime (settings : RenderSettings) (deeds : List Deed) (s : Scheduler) : Prop where
  /-- The clock tells the time of the life that there is, if there is one. -/
  tells : Option.Rel FrameClock.Tells s.clock (Life.after none deeds)
  /-- The program is the one whose start began that life. -/
  program_eq : s.program = (Life.after none deeds).map (·.program)
  /-- The time is a number, and it is not negative. -/
  number : ∀ c, s.clock = some c → c.elapsed.isNaN = false ∧ ¬c.elapsed < 0.0
  /-- What the next deed hands over as the time is what its clock says. -/
  handed : ∀ (operation : Operation) moments result s',
    Dialogue.Path (operation.carryOut settings s) moments result s' → ReadsTime moments →
      TellsTime moments s'
  /-- The time does not run backwards as long as the program lives on. -/
  forward : ∀ later s' c, Carried settings s later s' →
    (∀ d ∈ later, ReadsTime d.moments ∧ d.livesOn = true) → s.clock = some c →
      ∃ c', s'.clock = some c' ∧ c'.start = c.start ∧ ¬c'.elapsed < c.elapsed
  /-- The first frame of a life is that of a scheduler with the program that was started and a new
  clock. -/
  afresh : ∀ l (operation : Operation), Life.after none deeds = some l → l.readings = [] →
    operation = .renderFrame ∨ operation = .refresh ∧ s.running = true →
      (operation.carryOut settings s).mapState shown =
        (renderFrame settings
          { program := some l.program, clock := some { start := l.start } }).mapState shown

/-- Where a scheduler is in time the time does not run backwards as long as its program lives on. -/
theorem InTime.forward (h : InTime s life) (hrun : Carried settings s later s')
    (hlater : ∀ d ∈ later, ReadsTime d.moments ∧ d.livesOn = true) {c : FrameClock}
    (hclock : s.clock = some c) :
    ∃ c', s'.clock = some c' ∧ c'.start = c.start ∧ ¬c'.elapsed < c.elapsed := by
  obtain ⟨l, rfl, htells⟩ := h.exists_life hclock
  obtain ⟨l', hl', hstart, hreadings⟩ := Life.exists_after (l := l) fun d hd => (hlater d hd).2
  have hend := h.carried hrun fun d hd => (hlater d hd).1
  rw [hl'] at hend
  obtain ⟨c', hclock', htells'⟩ := hend.exists_clock
  exact ⟨c', hclock', htells'.start_eq.trans (hstart.trans htells.start_eq.symm),
    htells.not_lt htells' hstart hreadings⟩

/-- Where a scheduler is in time and nothing was read since the start, the first frame is that of a
scheduler with the program that lives and a new clock. -/
theorem InTime.afresh {l : Life} (h : InTime s (some l)) (hreadings : l.readings = [])
    (hframe : operation = .renderFrame ∨ operation = .refresh ∧ s.running = true) :
    (operation.carryOut settings s).mapState shown =
      (renderFrame settings
        { program := some l.program, clock := some { start := l.start } }).mapState shown := by
  have hopen : operation.carryOut settings s = renderFrame settings s := by
    rcases hframe with rfl | ⟨rfl, hrunning⟩
    · rfl
    · rcases carryOut_refresh settings h with ⟨htoken, -, -⟩ | ⟨-, -, hopen⟩
      · rw [running, htoken] at hrunning
        cases hrunning
      · exact hopen
  obtain ⟨c, hclock, htells⟩ := h.exists_clock
  rw [hopen]
  refine renderFrame_eq_of_shown ?_
  rw [shown, hclock, htells.eq_start hreadings, h.program_eq]
  rfl

/-- **Time never runs backwards, and it begins anew with each program.** Over any run of starts,
stops, frames and refreshes in which the time can be read, whatever is read and whatever else is
refused, the clock tells the time of the life that there is: the latest of zero and the differences
that are numbers, and as many frames as were asked for, those that were cut short included. The
program is handed this time and no other, and it does not run backwards as long as the program lives
on. The first frame of a life is of the program that was started, and has nothing to do with what
was read before. -/
theorem time_never_runs_backwards (hrun : Carried settings {} deeds s)
    (hreads : ∀ d ∈ deeds, ReadsTime d.moments) : KeepsTime settings deeds s := by
  have htime : InTime s (Life.after none deeds) := inTime_none.carried hrun hreads
  refine ⟨htime.tells, htime.program_eq, fun c hclock => ?_,
    fun operation moments result s' hpath hread => ?_,
    fun later s' c hrun hlater hclock => htime.forward hrun hlater hclock,
    fun l operation hl hreadings hframe => ?_⟩
  · obtain ⟨l, -, htells⟩ := htime.exists_life hclock
    exact ⟨htells.isNaN_eq_false, htells.not_neg⟩
  · exact (htime.deed hpath hread).2
  · rw [hl] at htime
    exact htime.afresh hreadings hframe

/-! ### A run on a device -/

variable {δ : Type} {provider : Provider Device δ}

/-- The run of some **operations on a device**. -/
def carry (settings : RenderSettings) (provider : Provider Device δ) :
    List Operation → Scheduler → δ → List Deed × Scheduler
  | [], s, _ => ([], s)
  | operation :: rest, s, d =>
    let run := (operation.carryOut settings s).run provider d
    let later := carry settings provider rest run.state run.provider
    (⟨operation, s, run.moments, run.result⟩ :: later.1, later.2)

/-- Operations on a device are a run. -/
theorem carried_carry (operations : List Operation) (s : Scheduler) (d : δ) :
    Carried settings s (carry settings provider operations s d).1
      (carry settings provider operations s d).2 := by
  induction operations generalizing s d with
  | nil => exact .nil s
  | cons operation rest ih => exact .cons (Dialogue.path_run provider _ d) (ih _ _)

/-- On a device whose time can be read it is read in each deed. -/
theorem readsTime_carry (h : ∀ d fault, (provider.answer d .now).1 ≠ .error fault)
    (operations : List Operation) (s : Scheduler) (d : δ) :
    ∀ deed ∈ (carry settings provider operations s d).1, ReadsTime deed.moments := by
  induction operations generalizing s d with
  | nil => exact fun _ hdeed => absurd hdeed List.not_mem_nil
  | cons operation rest ih =>
    refine List.forall_mem_cons.mpr ⟨fun m hm fault he => ?_, ih _ _⟩
    obtain ⟨lower, hanswer⟩ := Dialogue.exists_answer_of_mem_run hm
    obtain ⟨state, call, reply⟩ := m
    obtain ⟨rfl, hreply⟩ := Exchange.mk.inj he
    exact h lower fault (hanswer.trans (eq_of_heq hreply))

/-- A device that reads the given **times one after another**, and keeps the time of each program at
one place. -/
def ticking : Provider Device (List Float) where
  answer times
    | .now => (.ok (times.headD 0.0), times.tail)
    | .uniformLocation .. => (.ok 0, times)
    | call => (.ok (obligingReply 0 call), times)

/-- A program is started at five o'clock, and then it is seven, nothing that is a number, and
six. -/
theorem time_never_runs_backwards_ticking :
    let program : Program := ⟨1, 2, 3, 4, 5, .cube, 36, 0, 1⟩
    let operations : List Operation := [.start program, .renderFrame, .refresh, .refresh]
    let run := carry {} ticking operations {} [5.0, 7.0, 0.0 / 0.0, 6.0]
    run.2.clock = some { start := 5.0, elapsed := 2.0, frames := 3 } ∧
      KeepsTime {} run.1 run.2 := by
  intro program operations run
  refine ⟨by decide +kernel, time_never_runs_backwards (carried_carry operations {} _) ?_⟩
  exact readsTime_carry (fun _ _ h => by cases h) operations {} _

end Scheduler

end ShaderPreview
