import Mathlib.Data.List.Induction
import Mathlib.Data.List.Nodup
import ShaderPreview.Frame.Table
import ShaderPreview.Dialogue.Run
import ShaderPreview.Pipeline
import ShaderPreview.Proofs.Dialogue.Contract

/-!
# The Ledger of a Device

What a device holds for a program is read off the exchanges that have passed. A handle is
**created** when a call that creates is answered, and it is **deleted** when it is passed to a
deletion, also to one that is refused. It is **live** in between. Handles of different kinds are
different, even where the device gave them the same number. The callbacks that are registered with
the display are read off in the same way, and so are the calls about frames that it refused.

The exchanges **stand** at a list of handles, the newest first, when these are the live ones and the
accounts are in order: nothing was created twice, and nothing was deleted twice or before it was
created. Each kind of exchange moves the stand in its own way.

## Main definitions

* `Device.created`, `Device.deleted`, `Device.live`: the handles in the ledger.
* `Device.Stands`: the accounts are in order, and these handles are live.
* `Device.callbacks`, `Device.frameRefusals`: the callbacks of the display, and what it refused.
* `Device.Fresh`: an exchange that creates gives a handle that is new.
* `Device.obliging`: a device that does what it is asked, apart from what it refuses.

## Main results

* `Device.Stands.keep`, `Device.Stands.create`, `Device.Stands.delete`: how an exchange moves the
  stand.
* `Device.callbacks_scheduling`: the callbacks are known from the calls about frames alone.
* `Device.fresh_of_nodup`: on a path that creates no handle twice, each handle is new.
-/

namespace ShaderPreview.Device

/-! ### Reading a call -/

/-- The handles that a call **takes**, each with the kind of thing it has to stand for. -/
def Call.uses : Device.Call → List Owned
  | .isAvailable => []
  | .createShader _ => []
  | .compileShader shader _ => [⟨.shader, shader⟩]
  | .shaderCompiled shader => [⟨.shader, shader⟩]
  | .shaderInfoLog shader => [⟨.shader, shader⟩]
  | .deleteShader shader => [⟨.shader, shader⟩]
  | .createProgram => []
  | .attachShader program shader => [⟨.program, program⟩, ⟨.shader, shader⟩]
  | .linkProgram program => [⟨.program, program⟩]
  | .programLinked program => [⟨.program, program⟩]
  | .programInfoLog program => [⟨.program, program⟩]
  | .deleteProgram program => [⟨.program, program⟩]
  | .useProgram program => [⟨.program, program⟩]
  | .createBuffer => []
  | .uploadBuffer buffer _ => [⟨.buffer, buffer⟩]
  | .deleteBuffer buffer => [⟨.buffer, buffer⟩]
  | .attributeLocation program _ => [⟨.program, program⟩]
  | .bindAttribute program _ buffer _ => [⟨.program, program⟩, ⟨.buffer, buffer⟩]
  | .uniformLocation program _ => [⟨.program, program⟩]
  | .setUniform program _ _ => [⟨.program, program⟩]
  | .viewportSize => []
  | .setViewport _ => []
  | .clear _ => []
  | .enableDepthTest => []
  | .drawTriangles program _ => [⟨.program, program⟩]
  | .requestFrame => []
  | .cancelFrame _ => []
  | .now => []

/-- The handle that a call **deletes**. -/
def Call.deleted? : Device.Call → Option Owned
  | .deleteShader shader => some ⟨.shader, shader⟩
  | .deleteProgram program => some ⟨.program, program⟩
  | .deleteBuffer buffer => some ⟨.buffer, buffer⟩
  | _ => none

/-- The handle that a call **fills**: with what a link gives, or with bytes. -/
def Call.fills? : Device.Call → Option Owned
  | .linkProgram program => some ⟨.program, program⟩
  | .uploadBuffer buffer _ => some ⟨.buffer, buffer⟩
  | _ => none

/-- Whether a call has to do with the **frames** of the display. -/
def Call.isScheduling : Device.Call → Bool
  | .requestFrame => true
  | .cancelFrame _ => true
  | .now => true
  | _ => false

/-- Whether a call creates nothing and deletes nothing. -/
def Call.keepsHandles : Device.Call → Bool
  | .createShader _ => false
  | .createProgram => false
  | .createBuffer => false
  | .deleteShader _ => false
  | .deleteProgram _ => false
  | .deleteBuffer _ => false
  | _ => true

/-- The handle that an exchange **creates**. -/
def obtained? : Exchange Device → Option Owned
  | ⟨.createShader _, .ok shader⟩ => some ⟨.shader, shader⟩
  | ⟨.createProgram, .ok program⟩ => some ⟨.program, program⟩
  | ⟨.createBuffer, .ok buffer⟩ => some ⟨.buffer, buffer⟩
  | _ => none

/-- A call that keeps the handles deletes none of them. -/
theorem deleted?_of_keepsHandles {call : Device.Call} (h : call.keepsHandles) :
    call.deleted? = none := by
  cases call <;> first | rfl | exact absurd h Bool.false_ne_true

/-- A call that keeps the handles gives none. -/
theorem obtained?_of_keepsHandles {x : Exchange Device} (h : x.call.keepsHandles) :
    obtained? x = none := by
  obtain ⟨call, reply⟩ := x
  cases call <;> first | rfl | exact absurd h Bool.false_ne_true

/-- An exchange that creates does not delete. -/
theorem deleted?_of_obtained? {x : Exchange Device} {o : Owned} (h : obtained? x = some o) :
    x.call.deleted? = none := by
  obtain ⟨call, reply⟩ := x
  cases call <;> first | rfl | exact absurd h (by simp [obtained?])

/-- An exchange that deletes does not create. -/
theorem obtained?_of_deleted? {x : Exchange Device} {o : Owned} (h : x.call.deleted? = some o) :
    obtained? x = none := by
  cases hx : obtained? x with
  | none => rfl
  | some o' =>
    rw [deleted?_of_obtained? hx] at h
    cases h

/-- A refused call creates nothing. -/
theorem obtained?_error (call : Device.Call) (fault : Fault) :
    obtained? ⟨call, .error fault⟩ = none := by
  cases call <;> rfl

/-! ### The handles -/

/-- The handles that were **created**, in order. -/
def created (past : List (Exchange Device)) : List Owned := past.filterMap obtained?

/-- The handles that were **deleted**, in order. -/
def deleted (past : List (Exchange Device)) : List Owned := past.filterMap (·.call.deleted?)

/-- The handles that are **live**, in the order of their creation. -/
def live (past : List (Exchange Device)) : List Owned :=
  (created past).filter fun o => o ∉ deleted past

variable {past : List (Exchange Device)} {x : Exchange Device} {o : Owned} {owned : List Owned}

/-- What was created over two stretches was created in one of them, in order. -/
theorem created_append (past later : List (Exchange Device)) :
    created (past ++ later) = created past ++ created later :=
  List.filterMap_append

/-- What was deleted over two stretches was deleted in one of them, in order. -/
theorem deleted_append (past later : List (Exchange Device)) :
    deleted (past ++ later) = deleted past ++ deleted later :=
  List.filterMap_append

/-- One more exchange adds what it gave, if it gave anything. -/
theorem created_append_singleton :
    created (past ++ [x]) = created past ++ (obtained? x).toList :=
  Exchange.filterMap_append_singleton

/-- One more exchange adds what its call deletes, if it deletes anything. -/
theorem deleted_append_singleton :
    deleted (past ++ [x]) = deleted past ++ x.call.deleted?.toList :=
  Exchange.filterMap_append_singleton

/-- What is live was created and not deleted. -/
theorem mem_live : o ∈ live past ↔ o ∈ created past ∧ o ∉ deleted past := by
  rw [live, List.mem_filter, decide_eq_true_iff]

/-- The accounts are in order, and the given handles, the newest first, are **the live ones**. -/
structure Stands (past : List (Exchange Device)) (owned : List Owned) : Prop where
  created_nodup : (created past).Nodup
  deleted_nodup : (deleted past).Nodup
  deleted_subset : deleted past ⊆ created past
  live_eq : live past = owned.reverse

/-- At first there is nothing. -/
theorem stands_nil : Stands [] [] :=
  ⟨List.nodup_nil, List.nodup_nil, List.Subset.refl _, rfl⟩

namespace Stands

/-- Where the ledger stands, what is owned is what is live. -/
theorem mem_live_iff (h : Stands past owned) : o ∈ live past ↔ o ∈ owned := by
  rw [h.live_eq, List.mem_reverse]

/-- The handle on top is the newest one that is live. -/
theorem live_cons (h : Stands past (o :: owned)) : live past = owned.reverse ++ [o] := by
  rw [h.live_eq, List.reverse_cons]

/-- An exchange that creates nothing and deletes nothing **leaves the stand as it is**. -/
theorem keep (h : Stands past owned) (hc : obtained? x = none) (hd : x.call.deleted? = none) :
    Stands (past ++ [x]) owned := by
  have hcreated : created (past ++ [x]) = created past := by
    rw [created_append_singleton, hc, Option.toList_none, List.append_nil]
  have hdeleted : deleted (past ++ [x]) = deleted past := by
    rw [deleted_append_singleton, hd, Option.toList_none, List.append_nil]
  refine ⟨?_, ?_, ?_, ?_⟩
  · rw [hcreated]
    exact h.created_nodup
  · rw [hdeleted]
    exact h.deleted_nodup
  · rw [hcreated, hdeleted]
    exact h.deleted_subset
  · rw [live, hcreated, hdeleted]
    exact h.live_eq

/-- A new handle comes **on top**. -/
theorem create (h : Stands past owned) (hc : obtained? x = some o) (hnew : o ∉ created past) :
    Stands (past ++ [x]) (o :: owned) := by
  have hcreated : created (past ++ [x]) = created past ++ [o] := by
    rw [created_append_singleton, hc, Option.toList_some]
  have hdeleted : deleted (past ++ [x]) = deleted past := by
    rw [deleted_append_singleton, deleted?_of_obtained? hc, Option.toList_none, List.append_nil]
  have hnot : o ∉ deleted past := fun hd => hnew (h.deleted_subset hd)
  refine ⟨?_, ?_, ?_, ?_⟩
  · rw [hcreated, ← List.concat_eq_append]
    exact h.created_nodup.concat hnew
  · rw [hdeleted]
    exact h.deleted_nodup
  · rw [hcreated, hdeleted]
    exact fun o' hd => List.mem_append_left _ (h.deleted_subset hd)
  · rw [live, hcreated, hdeleted, List.filter_append, List.reverse_cons, ← h.live_eq, live]
    simp only [hnot, not_false_eq_true, decide_true, List.filter_cons_of_pos, List.filter_nil]

/-- A deletion takes the handle **on top**, whether it is carried out or refused. -/
theorem delete (h : Stands past (o :: owned)) (hd : x.call.deleted? = some o) :
    Stands (past ++ [x]) owned := by
  have hcreated : created (past ++ [x]) = created past := by
    rw [created_append_singleton, obtained?_of_deleted? hd, Option.toList_none, List.append_nil]
  have hdeleted : deleted (past ++ [x]) = deleted past ++ [o] := by
    rw [deleted_append_singleton, hd, Option.toList_some]
  obtain ⟨hcreatedo, hnot⟩ := mem_live.mp (h.mem_live_iff.mpr List.mem_cons_self)
  have hlive : (live past).Nodup := h.created_nodup.filter _
  have hrest : o ∉ owned.reverse := by
    rw [h.live_cons, List.nodup_append] at hlive
    exact fun ho => hlive.2.2 o ho o (List.mem_singleton_self o) rfl
  refine ⟨?_, ?_, ?_, ?_⟩
  · rw [hcreated]
    exact h.created_nodup
  · rw [hdeleted, ← List.concat_eq_append]
    exact h.deleted_nodup.concat hnot
  · rw [hcreated, hdeleted]
    intro o' ho
    rcases List.mem_append.mp ho with ho | ho
    · exact h.deleted_subset ho
    · exact List.mem_singleton.mp ho ▸ hcreatedo
  · have hfilter : live (past ++ [x]) = (live past).filter fun o' => o' ≠ o := by
      rw [live, hcreated, hdeleted, live, List.filter_filter]
      refine List.filter_congr fun o' _ => ?_
      simp only [List.mem_append, List.mem_singleton, not_or, ne_eq, Bool.decide_and, and_comm]
    rw [hfilter, h.live_cons, List.filter_append, List.filter_eq_self.mpr]
    · simp only [ne_eq, not_true_eq_false, decide_false, Bool.false_eq_true, not_false_eq_true,
        List.filter_cons_of_neg, List.filter_nil, List.append_nil]
    · exact fun o' ho => decide_eq_true fun he => hrest (he ▸ ho)

end Stands

/-! ### The frames -/

/-- The exchanges that have to do with the **frames** of the display. -/
def scheduling (past : List (Exchange Device)) : List (Exchange Device) :=
  past.filter (·.call.isScheduling)

/-- The display's table **after an exchange**. Only what is accepted changes it. -/
def turn (frames : FrameTable Unit) : Exchange Device → FrameTable Unit
  | ⟨.requestFrame, .ok _⟩ => (frames.register ()).2
  | ⟨.cancelFrame token, .ok _⟩ => frames.cancel token
  | _ => frames

/-- The **callbacks** that are registered with the display. -/
def callbacks (past : List (Exchange Device)) : FrameTable Unit := past.foldl turn {}

/-- One more exchange turns the table of callbacks on by one step. -/
theorem callbacks_append_singleton : callbacks (past ++ [x]) = turn (callbacks past) x := by
  rw [callbacks, List.foldl_append]
  rfl

/-- An exchange about frames is kept among those. -/
theorem scheduling_append_singleton (h : x.call.isScheduling) :
    scheduling (past ++ [x]) = scheduling past ++ [x] := by
  rw [scheduling, List.filter_append, List.filter_cons_of_pos (by exact h), List.filter_nil]
  rfl

/-- Any other exchange is left out. -/
theorem scheduling_append_singleton_of_not (h : x.call.isScheduling = false) :
    scheduling (past ++ [x]) = scheduling past := by
  rw [scheduling, List.filter_append, List.filter_cons_of_neg (by rw [h]; decide), List.filter_nil,
    List.append_nil]
  rfl

/-- An exchange that is not about frames leaves the table as it is. -/
theorem turn_of_not_isScheduling {frames : FrameTable Unit} (h : x.call.isScheduling = false) :
    turn frames x = frames := by
  obtain ⟨call, reply⟩ := x
  cases call <;> first | rfl | exact absurd h.symm Bool.false_ne_true

/-- A refused call leaves the display's table as it is. -/
theorem turn_error {frames : FrameTable Unit} (call : Device.Call) (fault : Fault) :
    turn frames ⟨call, .error fault⟩ = frames := by
  cases call <;> rfl

/-- The callbacks are **known from the scheduling** alone. -/
theorem callbacks_scheduling : callbacks (scheduling past) = callbacks past := by
  induction past using List.reverseRecOn with
  | nil => rfl
  | append_singleton past x ih =>
    cases h : x.call.isScheduling with
    | true =>
      rw [scheduling_append_singleton h, callbacks_append_singleton, callbacks_append_singleton, ih]
    | false =>
      rw [scheduling_append_singleton_of_not h, callbacks_append_singleton,
        turn_of_not_isScheduling h, ih]

/-- The table of callbacks depends on the exchanges about frames only. -/
theorem callbacks_congr {past' : List (Exchange Device)} (h : scheduling past' = scheduling past) :
    callbacks past' = callbacks past := by
  rw [← callbacks_scheduling, h, callbacks_scheduling]

/-- Whether a call **about frames** was refused. -/
def isFrameRefusal : Exchange Device → Bool
  | ⟨call, .error _⟩ => call.isScheduling
  | ⟨_, .ok _⟩ => false

/-- The number of calls about frames that were **refused**. -/
def frameRefusals (past : List (Exchange Device)) : Nat := past.countP isFrameRefusal

/-- One more exchange counts if it refuses a call about frames. -/
theorem frameRefusals_append_singleton :
    frameRefusals (past ++ [x]) = frameRefusals past + (isFrameRefusal x).toNat := by
  rw [frameRefusals, List.countP_append, List.countP_singleton]
  cases isFrameRefusal x <;> rfl

/-- The refusals are known from the scheduling alone. -/
theorem frameRefusals_scheduling : frameRefusals (scheduling past) = frameRefusals past := by
  rw [frameRefusals, scheduling, List.countP_filter, frameRefusals]
  refine List.countP_congr fun x _ => ?_
  obtain ⟨call, fault | a⟩ := x
  · simp only [isFrameRefusal, Bool.and_self]
  · simp only [isFrameRefusal, Bool.false_and]

/-- The number of refused calls about frames depends on the same exchanges only. -/
theorem frameRefusals_congr {past' : List (Exchange Device)}
    (h : scheduling past' = scheduling past) : frameRefusals past' = frameRefusals past := by
  rw [← frameRefusals_scheduling, h, frameRefusals_scheduling]

/-! ### New handles -/

/-- A handle that is created is **new**. -/
def Fresh (past : List (Exchange Device)) (x : Exchange Device) : Prop :=
  ∀ o, obtained? x = some o → o ∉ created past

/-- What is relied on includes that **handles are new**. -/
def GivesNew (relies : List (Exchange Device) → Exchange Device → Prop) : Prop :=
  ∀ past x, relies past x → Fresh past x

/-- On a path on which **no handle is created twice**, each handle that is created is new. -/
theorem fresh_of_nodup {σ : Type} {moments before after : List (Moment Device σ)}
    {m : Moment Device σ} (h : (created (past ++ moments.map Moment.exchange)).Nodup)
    (he : moments = before ++ m :: after) :
    Fresh (past ++ before.map Moment.exchange) m.exchange :=
  fun _ hm => Moment.notMem_filterMap_of_nodup h he hm

/-! ### A device that obliges -/

/-- What an obliging device **answers**, when the given handle is the next one. Every source
compiles and every program links, but a program does without all names. -/
def obligingReply (next : Handle) : (call : Device.Call) → Device.Reply call
  | .isAvailable => true
  | .createShader _ => next
  | .compileShader .. => ()
  | .shaderCompiled _ => true
  | .shaderInfoLog _ => ""
  | .deleteShader _ => ()
  | .createProgram => next
  | .attachShader .. => ()
  | .linkProgram _ => ()
  | .programLinked _ => true
  | .programInfoLog _ => ""
  | .deleteProgram _ => ()
  | .useProgram _ => ()
  | .createBuffer => next
  | .uploadBuffer .. => ()
  | .deleteBuffer _ => ()
  | .attributeLocation .. => absent
  | .bindAttribute .. => ()
  | .uniformLocation .. => absent
  | .setUniform .. => ()
  | .viewportSize => .pixels 1 1
  | .setViewport _ => ()
  | .clear _ => ()
  | .enableDepthTest => ()
  | .drawTriangles .. => ()
  | .requestFrame => ()
  | .cancelFrame _ => ()
  | .now => 0.0

/-- A device that numbers what it creates and **obliges** in all calls but those that it refuses. -/
def obliging (refuses : Device.Call → Bool) : Provider Device Handle where
  answer last call :=
    if refuses call then (.error (.broken "refused"), last)
    else if call.keepsHandles then (.ok (obligingReply last call), last)
    else (.ok (obligingReply (last + 1) call), last + 1)

/-- An obliging device refuses only what it refuses. -/
theorem refuses_of_obliging {refuses : Device.Call → Bool} {last : Handle} {call : Device.Call}
    {fault : Fault} (h : ((obliging refuses).answer last call).1 = .error fault) :
    refuses call = true := by
  by_contra hcall
  dsimp only [obliging] at h
  rw [if_neg hcall] at h
  by_cases hkeep : call.keepsHandles = true
  · rw [if_pos hkeep] at h
    cases h
  · rw [if_neg hkeep] at h
    cases h

end ShaderPreview.Device
