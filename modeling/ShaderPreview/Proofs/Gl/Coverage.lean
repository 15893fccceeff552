import ShaderPreview.Proofs.Dialogue.Layers
import ShaderPreview.Proofs.Gl.Storage
import ShaderPreview.Proofs.Session.Filling

/-!
# What a Session Relies On

A session relies on a device for new handles and for deletions that are not refused. A device on a
context makes this good, as long as the context spares releases. The programs and buffers in its
tables are then **covered**: they stand under handles that are live for the session. No handle is
filled twice, so nothing is lost and nothing is given up. So once no handle is live, nothing is
stored.

## Main definitions

* `Device.Yields`, `Device.dealing`: what a session relies on, and what it guarantees.
* `GlDevice.Covered`: what is in the tables is live.
* `GlDevice.Serves`: the device is in stock, has lost nothing, and is covered.

## Main results

* `GlDevice.Covered.step`: how a device call moves the cover.
* `GlDevice.makesGood_perform`: a device makes good what a session relies on.
-/

namespace ShaderPreview

open Procedure Contract Device

/-! ### Handles -/

namespace Device

variable {past : List (Exchange Device)} {x : Exchange Device} {o : Owned}

/-- A handle that is live stays live unless it is deleted. -/
theorem mem_live_append (h : o ∈ live past) (hx : x.call.deleted? ≠ some o) :
    o ∈ live (past ++ [x]) := by
  obtain ⟨hcreated, hdeleted⟩ := mem_live.mp h
  refine mem_live.mpr ⟨mem_created_append hcreated, ?_⟩
  rw [deleted_append_singleton, List.mem_append, Option.mem_toList]
  exact fun h => h.elim hdeleted hx

/-- A handle that is new becomes live. -/
theorem mem_live_of_obtained? (hx : obtained? x = some o) (hnew : o ∉ deleted past) :
    o ∈ live (past ++ [x]) := by
  refine mem_live.mpr ⟨?_, ?_⟩
  · rw [created_append_singleton, hx]
    exact List.mem_append_right _ (.head _)
  · rw [deleted_append_singleton, deleted?_of_obtained? hx, Option.toList_none, List.append_nil]
    exact hnew

/-- A call takes what it deletes. -/
theorem mem_uses_of_deleted? {call : Device.Call} (h : call.deleted? = some o) : o ∈ call.uses := by
  cases call <;> cases h <;> exact .head _

/-- What is relied on: handles are new, and the device **yields**, that is, it does not refuse to
take back. -/
def Yields (past : List (Exchange Device)) (x : Exchange Device) : Prop :=
  Fresh past x ∧ (x.call.takesBack = true → Answered past x)

/-- How a session **deals** with a device: it takes only handles that are live, and it fills no
handle twice. -/
def dealing {σ : Type} : Contract Device σ where
  relies := Yields
  guarantees past _ call := (∀ o ∈ call.uses, o ∈ live past) ∧
    ∀ o, call.fills? = some o → o ∉ filled past

/-- A device that yields gives new handles. -/
theorem givesNew_yields : GivesNew Yields := fun _ _ h => h.1

/-- A call that deletes something takes it back. -/
theorem takesBack_of_deleted? {call : Device.Call} (h : call.deleted? = some o) :
    call.takesBack = true := by
  cases call <;> first | rfl | cases h

end Device

namespace GlDevice

variable {d d' : GlDevice} {x : Exchange Device} {handle : Handle} {above : List (Exchange Device)}

/-! ### Moves and handles -/

/-- A program that is in the tables was there and is not deleted, or it is created. It has been
linked before, or it is linked now. -/
theorem Moves.program {p' : GlProgram} (h : Moves d x d')
    (hp' : d'.programs.find? handle = some p') :
    (∃ p, d.programs.find? handle = some p ∧ x.call.deleted? ≠ some ⟨.program, handle⟩ ∧
        (p'.linkedProgram = p.linkedProgram ∨ x.call.fills? = some ⟨.program, handle⟩)) ∨
      obtained? x = some ⟨.program, handle⟩ ∧ p'.linkedProgram = none := by
  cases h with
  | aside hcall hcontext hprograms hbuffers hlast =>
    rw [hprograms] at hp'
    refine .inl ⟨p', hp', ?_, .inl rfl⟩
    rcases hcall with hkeep | ⟨shader, hshader⟩
    · rw [deleted?_of_keepsHandles hkeep]
      exact nofun
    · rw [hshader]
      exact nofun
  | createShader => exact .inl ⟨p', hp', nofun, .inl rfl⟩
  | createProgram =>
    rw [Registry.find?_put] at hp'
    split at hp'
    case isTrue hnew =>
      cases hp'
      exact .inr ⟨by rw [hnew]; rfl, rfl⟩
    case isFalse => exact .inl ⟨p', hp', nofun, .inl rfl⟩
  | createBuffer => exact .inl ⟨p', hp', nofun, .inl rfl⟩
  | @amend _ other p p₁ hcall hp hamends =>
    have hdeleted : x.call.deleted? ≠ some ⟨.program, handle⟩ := by
      rw [deleted?_of_keepsHandles hcall]
      exact nofun
    rw [Registry.find?_put] at hp'
    split at hp'
    case isTrue hsame =>
      subst hsame
      cases hp'
      refine .inl ⟨p, hp, hdeleted, ?_⟩
      cases hamends with
      | aside hlinked => exact .inl hlinked
      | link => exact .inr rfl
      | learn => exact .inl rfl
      | bind => exact .inl rfl
      | bindRefused => exact .inl rfl
      | draw => exact .inl rfl
    case isFalse => exact .inl ⟨p', hp', hdeleted, .inl rfl⟩
  | upload => exact .inl ⟨p', hp', nofun, .inl rfl⟩
  | @deleteProgram other reply programs hprograms =>
    refine .inl ⟨p', hprograms.within handle p' hp', ?_, .inl rfl⟩
    intro hdeleted
    cases hdeleted
    rw [hprograms handle, if_pos (.head _)] at hp'
    cases hp'
  | deleteBuffer => exact .inl ⟨p', hp', nofun, .inl rfl⟩

/-- A buffer that is in the tables was there and is not deleted, or it is created. It has been
filled before, or it is filled now. -/
theorem Moves.buffer {object' : Option Nat} (h : Moves d x d')
    (hobject' : d'.buffers.find? handle = some object') :
    (∃ object, d.buffers.find? handle = some object ∧ x.call.deleted? ≠ some ⟨.buffer, handle⟩ ∧
        (object' = object ∨ x.call.fills? = some ⟨.buffer, handle⟩)) ∨
      obtained? x = some ⟨.buffer, handle⟩ ∧ object' = none := by
  cases h with
  | aside hcall hcontext hprograms hbuffers hlast =>
    rw [hbuffers] at hobject'
    refine .inl ⟨object', hobject', ?_, .inl rfl⟩
    rcases hcall with hkeep | ⟨shader, hshader⟩
    · rw [deleted?_of_keepsHandles hkeep]
      exact nofun
    · rw [hshader]
      exact nofun
  | createShader => exact .inl ⟨object', hobject', nofun, .inl rfl⟩
  | createProgram => exact .inl ⟨object', hobject', nofun, .inl rfl⟩
  | createBuffer =>
    rw [Registry.find?_put] at hobject'
    split at hobject'
    case isTrue hnew =>
      cases hobject'
      exact .inr ⟨by rw [hnew]; rfl, rfl⟩
    case isFalse => exact .inl ⟨object', hobject', nofun, .inl rfl⟩
  | amend hcall hp hamends =>
    refine .inl ⟨object', hobject', ?_, .inl rfl⟩
    rw [deleted?_of_keepsHandles hcall]
    exact nofun
  | @upload other data reply object hbuffer number =>
    rw [Registry.find?_put] at hobject'
    split at hobject'
    case isTrue hsame => exact .inl ⟨object, hsame ▸ hbuffer, nofun, .inr (hsame ▸ rfl)⟩
    case isFalse => exact .inl ⟨object', hobject', nofun, .inl rfl⟩
  | deleteProgram => exact .inl ⟨object', hobject', nofun, .inl rfl⟩
  | @deleteBuffer other reply buffers hbuffers =>
    refine .inl ⟨object', hbuffers.within handle object' hobject', ?_, .inl rfl⟩
    intro hdeleted
    cases hdeleted
    rw [hbuffers handle, if_pos (.head _)] at hobject'
    cases hobject'

/-- A handle that is created is the next one. -/
theorem Moves.obtained {o : Owned} (h : Moves d x d') (hx : obtained? x = some o) :
    o.handle = d.lastHandle + 1 ∧ d'.lastHandle = d.lastHandle + 1 := by
  cases h with
  | aside hcall =>
    rcases hcall with hkeep | ⟨shader, hshader⟩
    · rw [obtained?_of_keepsHandles hkeep] at hx
      cases hx
    · rw [obtained?_of_deleted? (o := ⟨.shader, shader⟩) (by rw [hshader]; rfl)] at hx
      cases hx
  | createShader => cases hx; exact ⟨rfl, rfl⟩
  | createProgram => cases hx; exact ⟨rfl, rfl⟩
  | createBuffer => cases hx; exact ⟨rfl, rfl⟩
  | amend hcall =>
    rw [obtained?_of_keepsHandles hcall] at hx
    cases hx
  | upload => cases hx
  | deleteProgram => cases hx
  | deleteBuffer => cases hx

/-- Handles are counted up. -/
theorem Moves.lastHandle_le (h : Moves d x d') : d.lastHandle ≤ d'.lastHandle := by
  have hnext : d.lastHandle ≤ d.lastHandle + 1 := Int.le_of_lt (Int.lt_succ d.lastHandle)
  cases h with
  | aside hcall hcontext hprograms hbuffers hlast => exact Int.le_of_eq hlast.symm
  | createShader => exact hnext
  | createProgram => exact hnext
  | createBuffer => exact hnext
  | amend => exact Int.le_refl _
  | upload => exact Int.le_refl _
  | deleteProgram => exact Int.le_refl _
  | deleteBuffer => exact Int.le_refl _

/-! ### The cover -/

/-- A device is **covered** by what has passed above it: what is in its tables is live there, and
what is filled was asked for. Handles are counted up, and only such were deleted as were created. -/
structure Covered (above : List (Exchange Device)) (d : GlDevice) : Prop where
  program_live : ∀ handle p, d.programs.find? handle = some p → ⟨.program, handle⟩ ∈ live above
  buffer_live : ∀ handle object, d.buffers.find? handle = some object →
    ⟨.buffer, handle⟩ ∈ live above
  program_filled : ∀ handle p, d.programs.find? handle = some p → p.linkedProgram ≠ none →
    ⟨.program, handle⟩ ∈ filled above
  buffer_filled : ∀ handle object, d.buffers.find? handle = some object → object ≠ none →
    ⟨.buffer, handle⟩ ∈ filled above
  created_le : ∀ o ∈ created above, o.handle ≤ d.lastHandle
  deleted_subset : deleted above ⊆ created above

namespace Covered

/-- Handles that are to come are free. -/
theorem numbered (h : Covered above d) : d.Numbered := by
  intro handle hhandle
  have hnot : ∀ kind, ⟨kind, handle⟩ ∉ live above := fun kind hlive =>
    Int.not_le.mpr hhandle (h.created_le _ (mem_live.mp hlive).1)
  refine ⟨?_, ?_⟩
  · by_contra hsome
    obtain ⟨p, hp⟩ := Option.ne_none_iff_exists'.mp hsome
    exact hnot .program (h.program_live handle p hp)
  · by_contra hsome
    obtain ⟨object, hobject⟩ := Option.ne_none_iff_exists'.mp hsome
    exact hnot .buffer (h.buffer_live handle object hobject)

/-- A handle that is created is new. -/
theorem fresh (h : Covered above d) (hmoves : Moves d x d') : Fresh above x := by
  intro o hx ho
  have hle := h.created_le o ho
  rw [(hmoves.obtained hx).1] at hle
  exact Int.not_le.mpr (Int.lt_succ d.lastHandle) hle

/-- A device call **moves the cover**, if it deletes only what is live. -/
theorem step (h : Covered above d) (hmoves : Moves d x d')
    (hdeletes : ∀ o, x.call.deleted? = some o → o ∈ live above) :
    Covered (above ++ [x]) d' := by
  have hnew : ∀ o, obtained? x = some o → o ∈ live (above ++ [x]) := fun o hx =>
    mem_live_of_obtained? hx fun hdeleted => h.fresh hmoves o hx (h.deleted_subset hdeleted)
  refine ⟨fun handle p' hp' => ?_, fun handle object' hobject' => ?_,
    fun handle p' hp' hlinked => ?_, fun handle object' hobject' hfull => ?_, fun o ho => ?_,
    fun o ho => ?_⟩
  · rcases hmoves.program hp' with ⟨p, hp, hdeleted, -⟩ | ⟨hcreated, -⟩
    · exact mem_live_append (h.program_live handle p hp) hdeleted
    · exact hnew _ hcreated
  · rcases hmoves.buffer hobject' with ⟨object, hobject, hdeleted, -⟩ | ⟨hcreated, -⟩
    · exact mem_live_append (h.buffer_live handle object hobject) hdeleted
    · exact hnew _ hcreated
  · refine mem_filled_append_singleton.mpr ?_
    rcases hmoves.program hp' with ⟨p, hp, -, hsame | hfills⟩ | ⟨-, hnone⟩
    · exact .inl (h.program_filled handle p hp (hsame ▸ hlinked))
    · exact .inr hfills
    · exact absurd hnone hlinked
  · refine mem_filled_append_singleton.mpr ?_
    rcases hmoves.buffer hobject' with ⟨object, hobject, -, rfl | hfills⟩ | ⟨-, hnone⟩
    · exact .inl (h.buffer_filled handle object' hobject hfull)
    · exact .inr hfills
    · exact absurd hnone hfull
  · rw [created_append_singleton, List.mem_append, Option.mem_toList] at ho
    rcases ho with ho | ho
    · exact Int.le_trans (h.created_le o ho) hmoves.lastHandle_le
    · obtain ⟨hhandle, hlast⟩ := hmoves.obtained ho
      exact Int.le_of_eq (hhandle.trans hlast.symm)
  · rw [deleted_append_singleton, List.mem_append, Option.mem_toList] at ho
    rcases ho with ho | ho
    · exact mem_created_append (h.deleted_subset ho)
    · exact mem_created_append (mem_live.mp (hdeletes o ho)).1

/-- A device that gives things back stays covered. -/
theorem empties (h : Covered above d) (hempties : Empties d d') : Covered above d' :=
  ⟨fun handle p hp => h.program_live handle p (hempties.programs_within handle p hp),
    fun handle object hobject =>
      h.buffer_live handle object (hempties.buffers_within handle object hobject),
    fun handle p hp => h.program_filled handle p (hempties.programs_within handle p hp),
    fun handle object hobject =>
      h.buffer_filled handle object (hempties.buffers_within handle object hobject),
    fun o ho => hempties.lastHandle_eq ▸ h.created_le o ho, h.deleted_subset⟩

/-- Where nothing is live, nothing is stored. -/
theorem storage_eq_none (h : Covered above d) (hlive : live above = []) (place : Place) :
    d.storage place = none := by
  have hnot : ∀ o, o ∉ live above := fun o => hlive ▸ List.not_mem_nil
  refine GlDevice.storage_eq_none (fun handle => ?_) (fun handle => ?_) place
  · by_contra hsome
    obtain ⟨p, hp⟩ := Option.ne_none_iff_exists'.mp hsome
    exact hnot _ (h.program_live handle p hp)
  · by_contra hsome
    obtain ⟨object, hobject⟩ := Option.ne_none_iff_exists'.mp hsome
    exact hnot _ (h.buffer_live handle object hobject)

/-- A call that fills a handle for the first time replaces nothing. -/
theorem replaced_eq_nil {call : Device.Call} (h : Covered above d)
    (honce : ∀ o, call.fills? = some o → o ∉ filled above) : d.replaced call = [] := by
  cases call with
  | linkProgram handle =>
    have hnone : d.storage (.linked handle) = none := by
      by_contra hsome
      obtain ⟨o, ho⟩ := Option.ne_none_iff_exists'.mp hsome
      obtain ⟨p, hp, hlinked⟩ := Option.bind_eq_some_iff.mp ho
      refine honce _ rfl (h.program_filled handle p hp fun hnone => ?_)
      rw [hnone] at hlinked
      cases hlinked
    rw [replaced, hnone]
    rfl
  | _ => rfl

/-- A call that fills a handle for the first time gives nothing up. -/
theorem givesUpNothing {call : Device.Call} (h : Covered above d)
    (honce : ∀ o, call.fills? = some o → o ∉ filled above) : d.GivesUpNothing call := by
  rintro handle data rfl
  by_contra hsome
  obtain ⟨o, ho⟩ := Option.ne_none_iff_exists'.mp hsome
  obtain ⟨object, hobject, hfull⟩ := Option.bind_eq_some_iff.mp ho
  refine honce _ rfl (h.buffer_filled handle object hobject fun hnone => ?_)
  rw [hnone] at hfull
  cases hfull

end Covered

/-! ### The layer -/

/-- A device **serves** what has passed above it: it is in stock, has lost nothing, and is covered.
Whether it still has its context is known. -/
structure Serves (context : Bool) (above : List (Exchange Device))
    (below : List (Exchange Platform)) (d : GlDevice) : Prop where
  inStock : InStock [] below d
  covered : Covered above d
  hasContext_eq : d.hasContext = context

/-- A new device on an untouched context serves. -/
theorem serves_onContext {info : ContextInfo} {glslVersion : Option Int} {view : Option ViewSize}
    {below : List (Exchange Platform)} (h : Platform.Untouched below) :
    Serves true [] below (onContext info glslVersion view) :=
  ⟨inStock_of_untouched h, ⟨nofun, nofun, nofun, nofun, nofun, nofun⟩, rfl⟩

/-- A device **makes good** what is relied on above it. -/
theorem makesGood_perform {σ : Type} {context : Bool} :
    MakesGood (dealing (σ := σ)) (lax Spares) (Serves context) perform := by
  rintro above s call ⟨huses, honce⟩ below d ⟨hstock, hcovered, hcontext⟩
  have hdeletes : ∀ o, call.deleted? = some o → o ∈ live above := fun o ho =>
    huses o (mem_uses_of_deleted? ho)
  have hstocks : Stocks [] d call (perform call) := honours_perform hcovered.numbered call
  have hcall := hstocks.and (honours_perform_moves call) (fun _ _ h => h.state_eq)
    fun _ _ _ => trivial
  refine (hcall.weaken ?_ ?_) below d hstock
  · rintro below a d' ⟨hstock, hmoves⟩
    rw [hcovered.replaced_eq_nil honce, List.append_nil] at hstock
    exact ⟨⟨hcovered.fresh hmoves, fun _ => ⟨a, rfl⟩⟩, hstock.elim And.left id,
      hcovered.step hmoves hdeletes, hmoves.hasContext_eq.trans hcontext⟩
  · rintro below fault d' ⟨⟨⟨hstock, -⟩ | ⟨handle, data, hupload, hspoilt⟩, hkeeps⟩, hmoves⟩
    · refine ⟨⟨hcovered.fresh hmoves, fun htakes => ?_⟩, hstock, hcovered.step hmoves hdeletes,
        hmoves.hasContext_eq.trans hcontext⟩
      exact absurd (hkeeps.symm.trans htakes) Bool.false_ne_true
    · obtain ⟨o, ho, -⟩ := hspoilt.released
      rw [hcovered.givesUpNothing honce handle data hupload] at ho
      cases ho

/-- Setting the view leaves a device serving, however it ends. -/
theorem keeps_setViewport {context : Bool} {view : ViewSize} :
    Keeps (lax Spares) (Serves context above) (setViewport view) := by
  rintro below d ⟨hstock, hcovered, hcontext⟩
  have hview : Honours free (Is d) (setViewport view)
      (fun _ _ s => s = { d with view }) (fun _ _ s => s = { d with view }) := by
    refine Honours.bind honours_is_update fun _ => ?_
    exact Honours.bind keeps_requireContext fun _ => keeps_is_ask
  have hstocked : Honours (lax Spares) (Stocked [] d.storage d) (setViewport view)
      (fun below _ s => InStock [] below s) (fun below _ s => InStock [] below s) :=
    honours_stocked_setViewport
  have hboth := hstocked.and hview (fun _ _ h => h.state_eq) fun _ _ _ => trivial
  have hserves : ∀ {below s}, InStock [] below s → s = { d with view } →
      Serves context above below s := by
    rintro below s hstock rfl
    exact ⟨hstock, ⟨hcovered.program_live, hcovered.buffer_live, hcovered.program_filled,
      hcovered.buffer_filled, hcovered.created_le, hcovered.deleted_subset⟩, hcontext⟩
  exact (hboth.weaken (fun _ _ _ h => hserves h.1 h.2) fun _ _ _ h => hserves h.1 h.2) below d
    hstock

/-- A release leaves a device serving without its context. -/
theorem honours_release_serves {context : Bool}
    {err : List (Exchange Platform) → Fault → GlDevice → Prop} :
    Honours (lax Spares) (Serves context above) release
      (fun below _ s => Serves false above below s) err := by
  rintro below d ⟨hstock, hcovered, hcontext⟩
  have hrelease : Honours (lax Spares) (Stocked [] d.storage d) release
      (fun below _ s => InStock [] below s ∧ s.hasContext = false) fun _ _ _ => False :=
    honours_release
  have hboth := hrelease.and honours_release_empties (fun _ _ h => h.state_eq) fun _ _ _ => trivial
  refine (hboth.weaken ?_ ?_) below d hstock
  · rintro below _ s ⟨⟨hstock, hgone⟩, hempties, -⟩
    exact ⟨hstock, hcovered.empties hempties, hgone⟩
  · exact fun _ _ _ h => h.1.elim

end GlDevice

end ShaderPreview
