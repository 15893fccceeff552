import ShaderPreview.Proofs.Frame.Arithmetic
import ShaderPreview.Proofs.Pipeline.Lockstep

/-!
# Schedulers in Step

A scheduler knows of handles what its program has, and of tokens what the display's table gave it.
Schedulers that differ by a shift of both do the same on devices in step. Each callback of one
table stands beside the shifted one of the other, so a refresh passes over the same ones.

Drawing can fail at its arithmetic. Such a failure has no handles in it, and is the same on either
side.

## Main definitions

* `Shift.Schedulers`: a scheduler is the other one, shifted.

## Main results

* `Scheduler.follows_start`, `Scheduler.follows_stop`: starting and stopping go along.
* `Scheduler.follows_renderFrame`, `Scheduler.follows_refresh`: frames and refreshes go along.
-/

namespace ShaderPreview

open Procedure

namespace Shift

/-- A table **is the other one**: its callbacks stand under shifted tokens, in the same order. -/
def Tables (k : Shift) (frames frames' : FrameTable Unit) : Prop :=
  List.Forall₂ (fun e e' => k.Token e.1 e'.1) frames.entries frames'.entries

/-- A scheduler **is the other one**: its program under shifted handles, its tokens shifted, and the
same clock. -/
structure Schedulers (k : Shift) (floor : Handle) (s s' : Scheduler) : Prop where
  program_eq : s'.program = s.program.map k.program
  program_above : ∀ p, s.program = some p → floor < p.program
  clock_eq : s'.clock = s.clock
  token_rel : Option.Rel k.Token s.token s'.token
  frames_rel : k.Tables s.frames s'.frames
  next_rel : k.Token s.frames.nextToken s'.frames.nextToken

variable {k : Shift}

/-- Shifted tokens are equal when the tokens are. -/
theorem Token.eq_iff {t t' u u' : Nat} (ht : k.Token t t') (hu : k.Token u u') :
    t = u ↔ t' = u' := by
  unfold Token at ht hu
  omega

/-- The tokens that come next are as far apart. -/
theorem Token.succ {t t' : Nat} (h : k.Token t t') : k.Token (t + 1) (t' + 1) := by
  unfold Token at h ⊢
  omega

/-- A shifted token is in the shifted table when the token is in the table. -/
theorem Tables.contains_eq {frames frames' : FrameTable Unit} {token token' : Nat}
    (hframes : k.Tables frames frames') (htoken : k.Token token token') :
    frames'.contains token' = frames.contains token := by
  rw [FrameTable.contains, FrameTable.contains]
  unfold Tables at hframes
  generalize frames.entries = entries at hframes
  generalize frames'.entries = entries' at hframes
  induction hframes with
  | nil => rfl
  | @cons e e' rest rest' he hrest ih =>
    have hsame : (e'.1 == token') = (e.1 == token) := by
      rw [Bool.eq_iff_iff, beq_iff_eq, beq_iff_eq, he.eq_iff htoken]
    rw [List.any_cons, List.any_cons, ih, hsame]

end Shift

namespace Scheduler

variable {k : Shift} {floor : Handle}

/-! ### Starting and stopping -/

/-- Schedulers in lockstep cancel alike. -/
theorem follows_cancelFrames :
    k.Follows floor (k.Schedulers floor) cancelFrames cancelFrames fun _ _ => True := by
  refine Shift.follows_state_bind fun s s' hs => ?_
  have htoken := hs.token_rel
  rw [hs.clock_eq]
  generalize s.token = token at htoken
  generalize s'.token = token' at htoken
  cases htoken with
  | none => exact Shift.follows_pure trivial
  | @some token token' htoken =>
    refine Shift.follows_silent (.cancelled htoken) fun _ _ => ?_
    refine Shift.Follows.bind (Shift.follows_update ?_) fun _ _ _ => ?_
    · intro s s' hs
      refine ⟨hs.program_eq, hs.program_above, hs.clock_eq, .none, ?_, hs.next_rel⟩
      refine List.rel_filter ?_ hs.frames_rel
      intro e e' he
      simp only [bne_iff_ne, ne_eq, he.eq_iff htoken]
    · rcases s.clock with _ | clock
      · exact Shift.follows_pure trivial
      · exact Shift.follows_tell

/-- **Stopping** goes along. -/
theorem follows_stop :
    k.Follows floor (k.Schedulers floor) stop stop fun _ _ => True := by
  refine follows_cancelFrames.bind fun _ _ _ => Shift.follows_update fun s s' hs => ?_
  exact ⟨rfl, (fun _ hp => nomatch hp), rfl, hs.token_rel, hs.frames_rel, hs.next_rel⟩

/-- Schedulers ask for frames alike. -/
theorem follows_requestFrames :
    k.Follows floor (k.Schedulers floor) requestFrames requestFrames fun _ _ => True := by
  refine Shift.follows_silent (.moved .requestFrame nofun) fun _ _ =>
    Shift.follows_update fun s s' hs => ?_
  refine ⟨hs.program_eq, hs.program_above, hs.clock_eq, .some hs.next_rel, ?_, hs.next_rel.succ⟩
  exact List.rel_append hs.frames_rel (.cons hs.next_rel .nil)

/-- **Starting** goes along. -/
theorem follows_start {program program' : Program} (h : k.Programs floor program program') :
    k.Follows floor (k.Schedulers floor) (start program) (start program') fun _ _ => True := by
  obtain ⟨habove, rfl⟩ := h
  refine follows_stop.bind fun _ _ _ => ?_
  refine Shift.Follows.bind (Shift.follows_update ?_) fun _ _ _ => ?_
  · intro s s' hs
    refine ⟨rfl, ?_, hs.clock_eq, hs.token_rel, hs.frames_rel, hs.next_rel⟩
    rintro _ ⟨⟩
    exact habove
  refine Shift.follows_ask (fun a a' : Float => a = a') (.moved .now nofun)
    (fun _ _ h => ⟨h, (congrArg (·.time) h.configuration_eq).symm⟩) ?_
  rintro reading _ rfl
  refine Shift.Follows.bind (Shift.follows_update ?_) fun _ _ _ => follows_requestFrames
  intro s s' hs
  exact ⟨hs.program_eq, hs.program_above, rfl, hs.token_rel, hs.frames_rel, hs.next_rel⟩

/-! ### Drawing -/

variable {R : Scheduler → Scheduler → Prop}

/-- Uniforms are set alike for programs in the same place. -/
theorem follows_setUniforms {program : Handle} (hprogram : floor < program)
    (values : List (String × UniformValue)) :
    k.Follows floor R (setUniforms program values) (setUniforms (program + k.handles) values)
      fun _ _ => True := by
  induction values with
  | nil => exact Shift.follows_pure trivial
  | cons value rest ih =>
    obtain ⟨name, value⟩ := value
    refine Shift.follows_ask (fun a a' : Int => a = a')
      (.moved (.uniformLocation program name) nofun)
      (fun _ _ h => ⟨h, (h.location hprogram _ _ name).symm⟩) ?_
    rintro location _ rfl
    by_cases hlocation : (location != Device.absent) = true
    · simp only [hlocation, if_true]
      exact Shift.follows_silent (.moved (.setUniform program location value) nofun) fun _ _ => ih
    · simp only [hlocation]
      exact ih

/-- Programs in the same place are drawn alike. -/
theorem follows_draw {settings : RenderSettings} {program : Program} {elapsed : Float}
    (hprogram : floor < program.program) :
    k.Follows floor R (draw settings program elapsed) (draw settings (k.program program) elapsed)
      fun _ _ => True := by
  refine Shift.follows_ask (fun a a' : ViewSize => a = a') (.moved .viewportSize nofun)
    (fun _ _ h => ⟨h, (congrArg (·.view) h.configuration_eq).symm⟩) ?_
  rintro size _ rfl
  refine (Shift.follows_ofExcept fun fault h =>
    (size.computed_aspect _ fault h).not_isVerdict).bind ?_
  rintro aspect _ rfl
  refine (Shift.follows_ofExcept fun fault h =>
    (FrameMatrices.computed_after _ _ _ fault h).not_isVerdict).bind ?_
  rintro matrices _ rfl
  refine Shift.follows_silent (.moved (.setViewport size) nofun) fun _ _ => ?_
  refine Shift.follows_silent (.moved (.clear settings.clearColor) nofun) fun _ _ => ?_
  refine Shift.follows_silent (.moved .enableDepthTest nofun) fun _ _ => ?_
  refine Shift.follows_silent (.moved (.useProgram program.program) nofun) fun _ _ => ?_
  refine (Shift.follows_ofExcept fun fault h =>
    (size.computed_resolution fault h).not_isVerdict).bind ?_
  rintro resolution _ rfl
  refine (follows_setUniforms hprogram _).bind fun _ _ _ => ?_
  exact .of_bind_pure <| Shift.follows_silent
    (.moved (.drawTriangles program.program program.vertexCount) nofun) fun _ _ =>
    Shift.follows_pure trivial

/-- **Frames** go along. -/
theorem follows_renderFrame (settings : RenderSettings) :
    k.Follows floor (k.Schedulers floor) (renderFrame settings) (renderFrame settings)
      fun _ _ => True := by
  refine Shift.follows_state_bind fun s s' hs => ?_
  rw [hs.program_eq, hs.clock_eq]
  rcases hprogram : s.program with _ | program
  · exact Shift.follows_pure trivial
  rcases s.clock with _ | clock
  · exact Shift.follows_pure trivial
  refine Shift.follows_ask (fun a a' : Float => a = a') (.moved .now nofun)
    (fun _ _ h => ⟨h, (congrArg (·.time) h.configuration_eq).symm⟩) ?_
  rintro reading _ rfl
  refine Shift.Follows.bind (Shift.follows_update ?_) fun _ _ _ =>
    follows_draw (hs.program_above program hprogram)
  intro s s' hs
  exact ⟨hs.program_eq, hs.program_above, rfl, hs.token_rel, hs.frames_rel, hs.next_rel⟩

/-- The tables that are looked at are in lockstep. -/
theorem follows_frames :
    k.Follows floor (k.Schedulers floor) (do return (← state).frames) (do return (← state).frames)
      k.Tables :=
  Shift.follows_state_bind fun _ _ hs => Shift.follows_pure hs.frames_rel

/-- Callbacks under tokens that go together run alike. -/
theorem follows_runEach (settings : RenderSettings) {entries entries' : List (Nat × Unit)}
    (h : List.Forall₂ (fun e e' => k.Token e.1 e'.1) entries entries') :
    k.Follows floor (k.Schedulers floor)
      (FrameTable.runEach (do return (← state).frames) (fun _ _ => renderFrame settings) entries)
      (FrameTable.runEach (do return (← state).frames) (fun _ _ => renderFrame settings) entries')
      fun n n' => n = n' := by
  induction h with
  | nil => exact Shift.follows_pure rfl
  | @cons e e' rest rest' he hrest ih =>
    refine follows_frames.bind fun frames frames' hframes => ?_
    rw [hframes.contains_eq he]
    by_cases hthere : frames.contains e.1 = true
    · simp only [hthere, if_true]
      refine (follows_renderFrame settings).bind fun _ _ _ => ih.bind ?_
      rintro n _ rfl
      exact Shift.follows_pure rfl
    · simp only [hthere]
      exact ih

/-- **Refreshes** go along, and give the same number. -/
theorem follows_refresh (settings : RenderSettings) :
    k.Follows floor (k.Schedulers floor) (refresh settings) (refresh settings)
      fun n n' => n = n' :=
  follows_frames.bind fun _ _ hframes => follows_runEach settings hframes

end Scheduler

end ShaderPreview
