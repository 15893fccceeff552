import ShaderPreview.Frame.Scheduler
import ShaderPreview.Proofs.Dialogue.Contract

/-!
# What a Scheduler Keeps Up

Before a scheduler draws it prepares the frame: it reads the time and the size of the view, and sets
what the frame is drawn with. Meanwhile only its clock moves on. A condition that preparations and
the clock do not disturb is **upheld**. Then drawing keeps it up as well, if the one call that draws
does; and that call is made for the very program with which the frame began.

Starting and stopping deal with the frames of the display, so there is a rule for each of the calls
that do.

## Main definitions

* `Device.Call.preparesFrame`: the calls that prepare a frame.
* `Scheduler.Upheld`: a condition that preparations and the clock do not disturb.

## Main results

* `Scheduler.Upheld.renderFrame`, `Scheduler.Upheld.refresh`: a frame and a refresh keep it up, if
  drawing does.
* `Scheduler.Upheld.start`: so does a start, if asking for frames does.
* `Scheduler.refresh_of_entries_nil`, `Scheduler.refresh_of_entries_singleton`: a refresh with no
  callback and with one.
-/

namespace ShaderPreview

/-- Whether a call **prepares a frame**. -/
def Device.Call.preparesFrame : Device.Call → Bool
  | .now => true
  | .viewportSize => true
  | .setViewport _ => true
  | .clear _ => true
  | .enableDepthTest => true
  | .useProgram _ => true
  | .uniformLocation .. => true
  | .setUniform .. => true
  | _ => false

namespace Scheduler

open Procedure

/-- A condition on the past and the scheduler is **upheld** under a contract: the calls that prepare
a frame may be made where it holds, and neither they nor the clock disturb it. -/
structure Upheld (C : Contract Device Scheduler)
    (I : List (Exchange Device) → Scheduler → Prop) : Prop where
  allowed : ∀ past s (call : Device.Call), call.preparesFrame = true → I past s →
    C.guarantees past s call
  step : ∀ past s x, x.call.preparesFrame = true → C.relies past x → I past s → I (past ++ [x]) s
  time : ∀ past s clock, I past s → I past { s with clock }

/-- The call that draws a program, made by a scheduler that has it. -/
def DrawsUnder (C : Contract Device Scheduler) (I : List (Exchange Device) → Scheduler → Prop) :
    Prop :=
  ∀ program : Program, Honours C (fun past s => I past s ∧ s.program = some program)
    (Device.ask (.drawTriangles program.program program.vertexCount)) (fun past _ s => I past s)
    fun past _ s => I past s

variable {C : Contract Device Scheduler} {I : List (Exchange Device) → Scheduler → Prop}
  {settings : RenderSettings}

namespace Upheld

/-! ### Drawing -/

/-- A call that prepares a frame is among those that are upheld. -/
theorem ask (h : Upheld C I) {call : Device.Call} (hcall : call.preparesFrame = true) :
    Keeps C I (Device.ask call) :=
  honours_perform (fun past s hs => h.allowed past s call hcall hs)
    (fun past s _ hs hr => h.step past s _ hcall hr hs)
    fun past s _ hs hr => h.step past s _ hcall hr hs

/-- The program stays the same as long as only the clock moves on. -/
theorem withProgram (h : Upheld C I) (program : Option Program) :
    Upheld C fun past s => I past s ∧ s.program = program where
  allowed past s call hcall hs := h.allowed past s call hcall hs.1
  step past s x hx hr hs := ⟨h.step past s x hx hr hs.1, hs.2⟩
  time past s clock hs := ⟨h.time past s clock hs.1, hs.2⟩

/-- Setting uniforms is upheld, however many there are. -/
theorem setUniforms (h : Upheld C I) {program : Handle} {values : List (String × UniformValue)} :
    Keeps C I (setUniforms program values) := by
  induction values with
  | nil => exact honours_pure fun _ _ hs => hs
  | cons value rest ih =>
    refine Honours.bind (h.ask rfl) fun location => ?_
    by_cases hlocation : (location != Device.absent) = true
    · simp only [hlocation, if_true]
      exact Honours.bind (h.ask rfl) fun _ => ih
    · simp only [hlocation]
      exact ih

/-- Drawing keeps it up if the call that draws does. -/
theorem draw (h : Upheld C I) (hdraw : DrawsUnder C I) {program : Program} {elapsed : Float} :
    Honours C (fun past s => I past s ∧ s.program = some program) (draw settings program elapsed)
      (fun past _ s => I past s) fun past _ s => I past s := by
  have hprepared := h.withProgram (some program)
  -- Whatever cuts the preparations short, there is nothing more to draw.
  have hcut : ∀ {α : Type} {p : DeviceProcedure Scheduler α},
      Keeps C (fun past s => I past s ∧ s.program = some program) p →
        Honours C (fun past s => I past s ∧ s.program = some program) p
          (fun past _ s => I past s ∧ s.program = some program) fun past _ s => I past s :=
    fun hp => hp.weaken_err fun _ _ _ hs => hs.1
  rw [Scheduler.draw]
  refine Honours.bind (hcut (hprepared.ask rfl)) fun size => ?_
  refine Honours.bind (hcut keeps_ofExcept) fun aspect => ?_
  refine Honours.bind (hcut keeps_ofExcept) fun matrices => ?_
  refine Honours.bind (hcut (hprepared.ask rfl)) fun _ => ?_
  refine Honours.bind (hcut (hprepared.ask rfl)) fun _ => ?_
  refine Honours.bind (hcut (hprepared.ask rfl)) fun _ => ?_
  refine Honours.bind (hcut (hprepared.ask rfl)) fun _ => ?_
  refine Honours.bind (hcut keeps_ofExcept) fun resolution => ?_
  exact Honours.bind (hcut hprepared.setUniforms) fun _ => hdraw program

/-- **A frame** keeps it up if the call that draws does. -/
theorem renderFrame (h : Upheld C I) (hdraw : DrawsUnder C I) :
    Keeps C I (renderFrame settings) := by
  refine honours_state_bind fun s => ?_
  rcases hprogram : s.program with _ | program
  · exact honours_pure fun _ _ hs => hs.2
  rcases s.clock with _ | clock
  · exact honours_pure fun _ _ hs => hs.2
  have hbegun := h.withProgram (some program)
  have htime : ∀ clock, Honours C (fun past s => I past s ∧ s.program = some program)
      (update fun s => { s with clock })
      (fun past _ s => I past s ∧ s.program = some program) fun past _ s => I past s :=
    fun clock => honours_update fun past s hs => hbegun.time past s clock hs
  refine Honours.mono (Honours.bind (hbegun.ask rfl |>.weaken_err fun _ _ _ hs => hs.1)
    fun reading => Honours.bind (htime _) fun _ => h.draw hdraw) ?_ (fun _ _ _ hs => hs)
    fun _ _ _ hs => hs
  rintro past _ ⟨rfl, hs⟩
  exact ⟨hs, hprogram⟩

/-- **A refresh** keeps it up if the call that draws does. -/
theorem refresh (h : Upheld C I) (hdraw : DrawsUnder C I) : Keeps C I (refresh settings) := by
  have hframes : Keeps C I (do return (← state).frames) :=
    honours_state_bind fun _ => honours_pure fun _ _ hs => hs.2
  have heach : ∀ entries, Keeps C I
      (FrameTable.runEach (do return (← state).frames)
        (fun _ _ => Scheduler.renderFrame settings) entries) := by
    intro entries
    induction entries with
    | nil => exact honours_pure fun _ _ hs => hs
    | cons entry rest ih =>
      refine Honours.bind hframes fun current => ?_
      by_cases hcontains : current.contains entry.1 = true
      · simp only [hcontains, if_true]
        exact Honours.bind (h.renderFrame hdraw) fun _ =>
          Honours.bind ih fun _ => honours_pure fun _ _ hs => hs
      · simp only [hcontains]
        exact ih
  exact Honours.bind hframes fun start => heach start.entries

/-! ### Starting -/

variable {pre : List (Exchange Device) → Scheduler → Prop}
  {ok : List (Exchange Device) → Unit → Scheduler → Prop}
  {err : List (Exchange Device) → Fault → Scheduler → Prop}

/-- **A start** leads where asking for frames leads, once what came before is stopped. -/
theorem start (h : Upheld C I) {program : Program}
    (hstop : Honours C pre stop (fun past _ s => I past { s with program := some program }) err)
    (hrequest : Honours C I requestFrames ok err)
    (herr : ∀ past fault s, I past s → err past fault s) :
    Honours C pre (start program) ok err := by
  have hset : Honours C (fun past s => I past { s with program := some program })
      (update fun s => { s with program := some program }) (fun past _ s => I past s) err :=
    honours_update fun _ _ hs => hs
  have htime : ∀ clock, Honours C I (update fun s => { s with clock })
      (fun past _ s => I past s) err :=
    fun clock => honours_update fun past s hs => h.time past s clock hs
  refine Honours.bind hstop fun _ => Honours.bind hset fun _ => ?_
  refine Honours.bind ((h.ask rfl).weaken_err herr) fun reading => ?_
  exact Honours.bind (htime _) fun _ => hrequest

end Upheld

/-! ### The frames of the display -/

/-- A refresh runs what is in the display's table. -/
theorem refresh_eq_runEach (s : Scheduler) :
    refresh settings s = (FrameTable.runEach (do return (← state).frames)
      (fun _ _ => renderFrame settings) s.frames.entries : DeviceProcedure Scheduler Nat) s := rfl

/-- Where there is **no callback** a refresh does nothing. -/
theorem refresh_of_entries_nil {s : Scheduler} (h : s.frames.entries = []) :
    refresh settings s = .done (.ok 0) s := by
  rw [refresh_eq_runEach, h]
  rfl

/-- Where there is **one callback** a refresh is one frame. -/
theorem refresh_of_entries_singleton {s : Scheduler} {token : Nat}
    (h : s.frames.entries = [(token, ())]) :
    refresh settings s = (do
      renderFrame settings
      return 1 : DeviceProcedure Scheduler Nat) s := by
  have hcontains : s.frames.contains token = true := by
    rw [FrameTable.contains, h]
    simp
  rw [refresh_eq_runEach, h]
  show (if s.frames.contains token then _ else _ : DeviceProcedure Scheduler Nat) s = _
  rw [if_pos hcontains]
  rfl

/-- Taking the callback out keeps up what does not depend on the display. -/
theorem keeps_cancelFrames (hask : ∀ token, Keeps C I (Device.ask (.cancelFrame token)))
    (hset : ∀ past s frames token, I past s → I past { s with frames, token }) :
    Keeps C I cancelFrames := by
  refine honours_state_bind fun s => ?_
  refine Honours.mono ?_ (fun _ _ hs => hs.2) (fun _ _ _ hs => hs) (fun _ _ _ hs => hs)
  rcases s.token with _ | token
  · exact honours_pure fun _ _ hs => hs
  have hforget : Keeps C I
      (update fun s => { s with frames := s.frames.cancel token, token := none }) :=
    honours_update fun past s hs => hset past s _ none hs
  refine Honours.bind (hask token) fun _ => Honours.bind hforget fun _ => ?_
  rcases s.clock with _ | clock
  · exact honours_pure fun _ _ hs => hs
  · exact honours_tell fun _ _ hs => hs

/-- Asking for frames keeps up what does not depend on the display. -/
theorem keeps_requestFrames (hask : Keeps C I (Device.ask .requestFrame))
    (hset : ∀ past s frames token, I past s → I past { s with frames, token }) :
    Keeps C I requestFrames :=
  Honours.bind hask fun _ => honours_update fun past s hs => hset past s _ _ hs

end Scheduler

end ShaderPreview
