import ShaderPreview.Proofs.Pipeline.Upkeep
import ShaderPreview.Proofs.Session.Parts
import ShaderPreview.Proofs.Session.Safety

/-!
# Handles Are Filled Once

What a link gives takes the place of what an earlier link of the same program gave, and what is
uploaded takes the place of an earlier upload. In a session it never comes to that: only a build
fills a handle, and it fills one that it has just created. So no handle is filled twice, as long as
handles are new and whatever else the device does.

## Main definitions

* `Device.filled`: the handles that were filled.
* `Device.filling`: the contract to fill no handle twice.
* `Device.FillsCreated`: only handles that were created were filled.
* `Device.FillsOnce`: a procedure keeps to the contract by filling only what it creates.

## Main results

* `Pipeline.fillsOnce_link`, `Pipeline.fillsOnce_upload`: filling what has just been created.
* `Session.fillsOnce_carryOut`: no operation of a session fills a handle twice.
-/

namespace ShaderPreview

open Procedure

/-! ### The contract -/

namespace Device

variable {σ τ α : Type} {past : List (Exchange Device)} {x : Exchange Device} {o : Owned}
  {relies : List (Exchange Device) → Exchange Device → Prop}

/-- The handles that the device was asked to **fill**, in order. -/
def filled (past : List (Exchange Device)) : List Owned := past.filterMap (·.call.fills?)

/-- What is filled after one more call was filled before it or is filled by it. -/
theorem mem_filled_append_singleton :
    o ∈ filled (past ++ [x]) ↔ o ∈ filled past ∨ x.call.fills? = some o := by
  rw [filled, Exchange.filterMap_append_singleton, List.mem_append, Option.mem_toList]
  exact Iff.rfl

/-- The contract to fill **no handle twice**. -/
def filling (relies : List (Exchange Device) → Exchange Device → Prop) : Contract Device σ where
  relies := relies
  guarantees past _ call := ∀ o, call.fills? = some o → o ∉ filled past

/-- Only handles that **were created** were filled. -/
def FillsCreated (past : List (Exchange Device)) (_ : σ) : Prop := filled past ⊆ created past

/-- A procedure that fills **only what it creates**, and that only once. -/
abbrev FillsOnce (relies : List (Exchange Device) → Exchange Device → Prop)
    (p : DeviceProcedure σ α) : Prop :=
  Keeps (filling relies) FillsCreated p

/-- What was created stays among what was created. -/
theorem mem_created_append (h : o ∈ created past) : o ∈ created (past ++ [x]) := by
  rw [created_append_singleton]
  exact List.mem_append_left _ h

/-- A call that does not fill leaves what was filled as it is. -/
theorem FillsCreated.append {s : σ} (h : FillsCreated past s) (hcall : x.call.fills? = none) :
    FillsCreated (past ++ [x]) s := by
  intro o ho
  rcases mem_filled_append_singleton.mp ho with ho | ho
  · exact mem_created_append (h ho)
  · rw [hcall] at ho
    cases ho

/-- A call that does not fill may be made. -/
theorem guarantees_of_fills? {call : Device.Call} (hcall : call.fills? = none) (s : σ) :
    (filling relies).guarantees past s call := by
  intro o ho
  rw [hcall] at ho
  cases ho

/-- A call that does not fill fills nothing twice. -/
theorem fillsOnce_ask {call : Device.Call} (hcall : call.fills? = none) :
    FillsOnce (σ := σ) relies (Device.ask call) :=
  honours_perform (fun _ s _ => guarantees_of_fills? hcall s)
    (fun _ _ _ h _ => h.append hcall) fun _ _ _ h _ => h.append hcall

/-- A procedure on a part of a state fills as it does there. -/
theorem FillsOnce.zoom {q : DeviceProcedure τ α} {get : σ → τ} {set : σ → τ → σ}
    (hq : FillsOnce relies q) : FillsOnce relies (q.zoom get set) :=
  Honours.zoom_of_forall (fun _ => hq) fun _ _ h => h

/-- A handle that **awaits its filling**: it was created and was not filled. -/
structure Awaits (o : Owned) (past : List (Exchange Device)) (s : σ) : Prop where
  fills : FillsCreated past s
  mem_created : o ∈ created past
  notMem_filled : o ∉ filled past

/-- A call that does not fill leaves a handle awaiting its filling. -/
theorem awaits_ask {call : Device.Call} (hcall : call.fills? = none) :
    Honours (filling (σ := σ) relies) (Awaits o) (Device.ask call)
      (fun past _ s => Awaits o past s) fun past _ s => FillsCreated past s := by
  refine honours_perform (fun _ s _ => guarantees_of_fills? hcall s) ?_
    fun _ _ _ h _ => h.fills.append hcall
  intro past s a h _
  refine ⟨h.fills.append hcall, mem_created_append h.mem_created, fun ho => h.notMem_filled ?_⟩
  refine (mem_filled_append_singleton.mp ho).resolve_right fun hfills => ?_
  rw [hcall] at hfills
  cases hfills

/-- A handle that has just been created awaits its filling. -/
theorem awaits_create (hnew : GivesNew relies) {call : Device.Call}
    {name : Device.Reply call → Owned} (hname : ∀ a, obtained? ⟨call, .ok a⟩ = some (name a))
    (hcall : call.fills? = none) :
    Honours (filling (σ := σ) relies) FillsCreated (Device.ask call)
      (fun past a s => Awaits (name a) past s) fun past _ s => FillsCreated past s := by
  refine honours_perform (fun _ s _ => guarantees_of_fills? hcall s) ?_
    fun _ _ _ h _ => h.append hcall
  intro past s a h hrelied
  have hfresh : name a ∉ created past := hnew past _ hrelied _ (hname a)
  refine ⟨h.append hcall, ?_, fun ho => hfresh ?_⟩
  · rw [created_append_singleton, hname]
    exact List.mem_append_right _ (.head _)
  · refine h ((mem_filled_append_singleton.mp ho).resolve_right fun hfills => ?_)
    rw [hcall] at hfills
    cases hfills

/-- A handle that awaits its filling is filled. -/
theorem fillsOnce_fill {call : Device.Call} (hcall : call.fills? = some o) :
    Honours (filling (σ := σ) relies) (Awaits o) (Device.ask call)
      (fun past _ s => FillsCreated past s) fun past _ s => FillsCreated past s := by
  have hfill : ∀ past (s : σ) reply, Awaits o past s →
      FillsCreated (past ++ [⟨call, reply⟩]) s := by
    intro past s reply h o' ho'
    refine mem_created_append ?_
    rcases mem_filled_append_singleton.mp ho' with ho' | ho'
    · exact h.fills ho'
    · cases hcall.symm.trans ho'
      exact h.mem_created
  refine honours_perform ?_ (fun _ _ _ h _ => hfill _ _ _ h) fun _ _ _ h _ => hfill _ _ _ h
  intro past s h o' ho'
  cases hcall.symm.trans ho'
  exact h.notMem_filled

end Device

open Device

variable {relies : List (Exchange Device) → Exchange Device → Prop}

/-! ### The pipeline -/

namespace Pipeline

/-- The pipeline's calls that do not fill leave only created handles filled. -/
theorem upheld_fillsCreated : Upheld (filling relies) FillsCreated where
  ask _ hcall := fillsOnce_ask hcall
  own _ _ _ h := h
  enter _ _ _ _ h := h

/-- Taking ownership of a handle leaves it awaiting its filling. -/
theorem awaits_acquire {o : Owned} {kind : HandleKind} {handle : Handle} :
    Honours (filling relies) (Awaits o) (acquire kind handle) (fun past _ s => Awaits o past s)
      fun past _ s => FillsCreated past s :=
  honours_update fun _ _ h => ⟨h.fills, h.mem_created, h.notMem_filled⟩

/-- A program is **linked when it has just been created**. -/
theorem fillsOnce_link {vertexShader fragmentShader : Handle} (hnew : GivesNew relies) :
    FillsOnce relies (link vertexShader fragmentShader) := by
  rw [link]
  refine Honours.bind (awaits_create hnew (fun _ => rfl) rfl) fun program => ?_
  refine Honours.bind awaits_acquire fun _ => ?_
  refine Honours.bind (awaits_ask rfl) fun _ => ?_
  refine Honours.bind (awaits_ask rfl) fun _ => ?_
  refine Honours.bind (fillsOnce_fill rfl) fun _ => ?_
  refine Honours.bind (fillsOnce_ask rfl) fun linked => ?_
  cases linked with
  | true => exact honours_pure fun _ _ h => h
  | false => exact Honours.bind (fillsOnce_ask rfl) fun _ => honours_fail fun _ _ h => h

/-- A buffer is **filled when it has just been created**. -/
theorem fillsOnce_upload {data : List UInt8} (hnew : GivesNew relies) :
    FillsOnce relies (upload data) := by
  rw [upload]
  refine Honours.bind (awaits_create hnew (fun _ => rfl) rfl) fun buffer => ?_
  refine Honours.bind awaits_acquire fun _ => ?_
  exact Honours.bind (fillsOnce_fill rfl) fun _ => honours_pure fun _ _ h => h

/-- A teardown fills nothing. -/
theorem fillsOnce_teardown : FillsOnce relies teardown :=
  upheld_fillsCreated.teardown fun _ _ _ _ h => h

/-- A build fills what it creates, each handle once. -/
theorem fillsOnce_build {vertex fragment : String} {shape : Shape} (hnew : GivesNew relies) :
    FillsOnce relies (build vertex fragment shape) :=
  upheld_fillsCreated.build (fun _ _ _ _ h => h) (fun _ _ => fillsOnce_link hnew)
    fun _ => fillsOnce_upload hnew

end Pipeline

/-! ### The session -/

namespace Session

/-- The scheduler fills nothing. -/
theorem fillsOnce_onScheduler {α : Type} {p : DeviceProcedure Scheduler α}
    (hp : ConfinedTo .scheduler p) : FillsOnce relies (onScheduler p) := by
  have hcall : ∀ {call : Device.Call}, call.part = .scheduler → call.fills? = none := by
    intro call hpart
    cases call <;> first | rfl | cases hpart
  exact hp.keeps_zoom (fun _ _ _ h => h) (fun _ s _ hpart _ => guarantees_of_fills? (hcall hpart) s)
    fun _ _ _ hpart h => h.append (hcall hpart)

/-- Stopping fills nothing. -/
theorem fillsOnce_stop : FillsOnce relies stop :=
  Honours.bind (fillsOnce_onScheduler Scheduler.confined_stop) fun _ =>
    Pipeline.fillsOnce_teardown.zoom

/-- A start fills what its build creates, each handle once. -/
theorem fillsOnce_start {settings : RenderSettings} {bundle : String} (hnew : GivesNew relies) :
    FillsOnce relies (start settings bundle) :=
  honours_start_parts (fillsOnce_ask rfl) (fun _ _ _ h => h) (fun _ _ h => h)
    fillsOnce_stop (Pipeline.fillsOnce_build hnew).zoom
    fun _ => fillsOnce_onScheduler Scheduler.confined_start

/-- **No operation** fills a handle twice, as long as handles are new. -/
theorem fillsOnce_carryOut {settings : RenderSettings} (hnew : GivesNew relies) (op : Operation) :
    FillsOnce relies (op.carryOut settings) := by
  cases op with
  | start bundle => exact fillsOnce_start hnew
  | stop => exact fillsOnce_stop
  | refresh =>
    exact Honours.bind (fillsOnce_onScheduler Scheduler.confined_refresh) fun _ =>
      honours_pure fun _ _ h => h
  | renderFrame => exact fillsOnce_onScheduler Scheduler.confined_renderFrame

end Session

end ShaderPreview
