import ShaderPreview.Proofs.Device.Ledger

/-!
# What a Pipeline Keeps Up

A pipeline works in a few ways only: it makes calls, it changes what it owns, and it goes on to
another phase. A condition that none of these disturbs is **upheld**, and then every step of a build
and every release keeps it up, however they end. Links and uploads are set apart, since there are
conditions that they keep up only for a handle that is new.

## Main definitions

* `Pipeline.Upheld`: a condition that the ways of working do not disturb.

## Main results

* `Pipeline.Upheld.assemble`, `Pipeline.Upheld.releaseAll`: the steps of a build and a release keep
  it up.
* `Pipeline.Upheld.teardown`, `Pipeline.Upheld.build`: so do the operations, if it does not depend
  on the program and the phase.
-/

namespace ShaderPreview.Pipeline

open Procedure

/-- A condition on the past and the pipeline is **upheld** under a contract: no call but a link or
an upload disturbs it, no change to what is owned, and no phase but the active one. -/
structure Upheld (C : Contract Device Pipeline)
    (I : List (Exchange Device) → Pipeline → Prop) : Prop where
  ask : ∀ call : Device.Call, call.fills? = none → Keeps C I (Device.ask call)
  own : ∀ past p owned, I past p → I past { p with owned }
  enter : ∀ past p phase, phase ≠ .active → I past p → I past { p with phase }

namespace Upheld

variable {C : Contract Device Pipeline} {I : List (Exchange Device) → Pipeline → Prop}

/-! ### Building -/

/-- Acquiring a handle is upheld: it changes what is owned. -/
theorem acquire (h : Upheld C I) {kind : HandleKind} {handle : Handle} :
    Keeps C I (acquire kind handle) :=
  honours_update fun past p hp => h.own past p _ hp

/-- Compiling is upheld. -/
theorem compile (h : Upheld C I) {stage : Stage} {source : String} :
    Keeps C I (compile stage source) := by
  refine Honours.bind (h.ask _ rfl) fun shader => ?_
  refine Honours.bind h.acquire fun _ => ?_
  refine Honours.bind (h.ask _ rfl) fun _ => ?_
  refine Honours.bind (h.ask _ rfl) fun compiled => ?_
  cases compiled with
  | true => exact honours_pure fun _ _ hp => hp
  | false => exact Honours.bind (h.ask _ rfl) fun _ => honours_fail fun _ _ hp => hp

/-- Linking is upheld if its one call that fills something is. -/
theorem link (h : Upheld C I) {vertexShader fragmentShader : Handle}
    (hask : ∀ program, Keeps C I (Device.ask (.linkProgram program))) :
    Keeps C I (link vertexShader fragmentShader) := by
  refine Honours.bind (h.ask _ rfl) fun program => ?_
  refine Honours.bind h.acquire fun _ => ?_
  refine Honours.bind (h.ask _ rfl) fun _ => ?_
  refine Honours.bind (h.ask _ rfl) fun _ => ?_
  refine Honours.bind (hask program) fun _ => ?_
  refine Honours.bind (h.ask _ rfl) fun linked => ?_
  cases linked with
  | true => exact honours_pure fun _ _ hp => hp
  | false => exact Honours.bind (h.ask _ rfl) fun _ => honours_fail fun _ _ hp => hp

/-- An upload is upheld if its one call that fills something is. -/
theorem upload (h : Upheld C I) {data : List UInt8}
    (hask : ∀ buffer, Keeps C I (Device.ask (.uploadBuffer buffer data))) :
    Keeps C I (upload data) :=
  Honours.bind (h.ask _ rfl) fun buffer => Honours.bind h.acquire fun _ =>
    Honours.bind (hask buffer) fun _ => honours_pure fun _ _ hp => hp

/-- Feeding an attribute is upheld. -/
theorem feed (h : Upheld C I) {program buffer : Handle} {name : String} :
    Keeps C I (feed program name buffer) := by
  refine Honours.bind (h.ask _ rfl) fun location => ?_
  by_cases hlocation : (location != Device.absent) = true
  · simp only [hlocation, if_true]
    exact Honours.bind (h.ask _ rfl) fun _ => honours_pure fun _ _ hp => hp
  · simp only [hlocation]
    exact honours_pure fun _ _ hp => hp

/-- Putting a mesh behind a program is upheld if uploads are. -/
theorem bindMesh (h : Upheld C I) {vertexShader fragmentShader program : Handle} {shape : Shape}
    (hupload : ∀ data, Keeps C I (Pipeline.upload data)) :
    Keeps C I (bindMesh vertexShader fragmentShader program shape) :=
  Honours.bind keeps_ofExcept fun _ => Honours.bind (hupload _) fun _ =>
    Honours.bind (hupload _) fun _ => Honours.bind h.feed fun _ => Honours.bind h.feed fun _ =>
      honours_pure fun _ _ hp => hp

/-- The **steps of a build** keep it up if linking and uploading do. -/
theorem assemble (h : Upheld C I) {vertex fragment : String} {shape : Shape}
    (hlink : ∀ vertexShader fragmentShader, Keeps C I (Pipeline.link vertexShader fragmentShader))
    (hupload : ∀ data, Keeps C I (Pipeline.upload data)) :
    Keeps C I (assemble vertex fragment shape) := by
  have henter : ∀ phase, phase ≠ .active → Keeps C I (Pipeline.enter phase) := fun phase hphase =>
    honours_update fun past p hp => h.enter past p phase hphase hp
  refine Honours.bind (henter .compiling nofun) fun _ => ?_
  refine Honours.bind h.compile fun vertexShader => ?_
  refine Honours.bind h.compile fun fragmentShader => ?_
  refine Honours.bind (hlink vertexShader fragmentShader) fun program => ?_
  refine Honours.bind (henter .linked nofun) fun _ => ?_
  refine Honours.bind (h.bindMesh hupload) fun program => ?_
  exact Honours.bind (henter .bound nofun) fun _ => honours_pure fun _ _ hp => hp

/-! ### Releasing -/

/-- A deletion is upheld, of whatever kind. -/
theorem delete (h : Upheld C I) {o : Owned} : Keeps C I (delete o) := by
  obtain ⟨kind, handle⟩ := o
  cases kind with
  | shader => exact h.ask _ rfl
  | program => exact h.ask _ rfl
  | buffer => exact h.ask _ rfl

/-- Deletions one after another are upheld. -/
theorem releaseEach (h : Upheld C I) {owned : List Owned} : Keeps C I (releaseEach owned) := by
  induction owned with
  | nil => exact honours_pure fun _ _ hp => hp
  | cons o rest ih =>
    exact Honours.bind (honours_update fun past p hp => h.own past p rest hp) fun _ =>
      Honours.bind h.delete fun _ => ih

/-- A **release** keeps it up. -/
theorem releaseAll (h : Upheld C I) : Keeps C I releaseAll :=
  honours_state_bind fun _ => h.releaseEach.mono (fun _ _ hp => hp.2) (fun _ _ _ hp => hp)
    fun _ _ _ hp => hp

/-- The steps of a build and the clean-up after a fault keep it up. -/
theorem assemble_onFault (h : Upheld C I) {vertex fragment : String} {shape : Shape}
    (hlink : ∀ vertexShader fragmentShader, Keeps C I (Pipeline.link vertexShader fragmentShader))
    (hupload : ∀ data, Keeps C I (Pipeline.upload data)) :
    Keeps C I ((Pipeline.assemble vertex fragment shape).onFault do
      Pipeline.releaseAll
      Pipeline.enter .failed) :=
  (h.assemble hlink hupload).onFault fun _ => Honours.bind h.releaseAll fun _ =>
    honours_update fun past p hp => h.enter past p .failed nofun hp

/-! ### Operations -/

/-- A **teardown** keeps it up. -/
theorem teardown (h : Upheld C I)
    (hset : ∀ past p program phase, I past p → I past { p with program, phase }) :
    Keeps C I teardown := by
  have hempty : Keeps C I (update fun p => { p with program := none, phase := .empty }) :=
    honours_update fun past p hp => hset past p none .empty hp
  refine honours_state_bind fun s => ?_
  refine Honours.mono ?_ (fun _ _ hp => hp.2) (fun _ _ _ hp => hp) (fun _ _ _ hp => hp)
  by_cases howned : s.owned.isEmpty = true
  · simp only [howned]
    exact Honours.bind h.releaseAll fun _ => hempty
  · simp only [howned]
    exact Honours.bind (honours_tell fun _ _ hp => hp) fun _ =>
      Honours.bind h.releaseAll fun _ => hempty

/-- A **build** keeps it up if linking and uploading do. -/
theorem build (h : Upheld C I)
    (hset : ∀ past p program phase, I past p → I past { p with program, phase })
    {vertex fragment : String} {shape : Shape}
    (hlink : ∀ vertexShader fragmentShader, Keeps C I (Pipeline.link vertexShader fragmentShader))
    (hupload : ∀ data, Keeps C I (Pipeline.upload data)) :
    Keeps C I (build vertex fragment shape) := by
  have hrest : Keeps C I (do
      let program ← (Pipeline.assemble vertex fragment shape).onFault do
        Pipeline.releaseAll
        Pipeline.enter .failed
      update fun p => { p with program := some program, phase := .active }
      tell (.programActive shape program.vertexCount)
      return program) :=
    Honours.bind (h.assemble_onFault hlink hupload) fun program =>
      Honours.bind (honours_update fun past p hp => hset past p (some program) .active hp) fun _ =>
        Honours.bind (honours_tell fun _ _ hp => hp) fun _ => honours_pure fun _ _ hp => hp
  refine honours_state_bind fun s => ?_
  refine Honours.mono ?_ (fun _ _ hp => hp.2) (fun _ _ _ hp => hp) (fun _ _ _ hp => hp)
  by_cases hphase : (s.phase != .empty) = true
  · simp only [hphase, if_true]
    exact Honours.bind (h.teardown hset) fun _ => hrest
  · simp only [hphase]
    exact hrest

end Upheld

end ShaderPreview.Pipeline
