import ShaderPreview.Proofs.Device.Ledger

/-!
# The Accounts of a Pipeline

A pipeline enters each handle the moment it is obtained, and strikes it out just before its deletion
is asked for. So its books **balance** at every call: what it owns is what is live on the device, in
the order of creation, apart from the handle that is being deleted. This holds however a build or a
teardown is cut short, and from whatever that leaves the next operation starts.

A build gives back what it obtained when a step fails. The giving back can itself be cut short, but
only where the device refuses a deletion. Whether it may is left to what is relied on.

## Main definitions

* `Pipeline.Books`, `Pipeline.Balanced`: what is live, beside what is owned.
* `Pipeline.accounting`: the contract on handles.
* `Pipeline.Tidy`: in the empty phase there is nothing.
* `Pipeline.Operation`: what can be asked of a pipeline.

## Main results

* `Pipeline.honours_teardown`, `Pipeline.honours_build`: where a teardown and a build lead, and what
  a failure leaves.
* `Pipeline.accounts_balance`: over any operations no handle is lost, and none is deleted twice.
-/

namespace ShaderPreview

/-- The handles of a program as a pipeline **owns** them, the newest first. -/
def Program.owned (p : Program) : List Owned := [
  ⟨.buffer, p.normalBuffer⟩, ⟨.buffer, p.positionBuffer⟩, ⟨.program, p.program⟩,
  ⟨.shader, p.fragmentShader⟩, ⟨.shader, p.vertexShader⟩]

namespace Pipeline

open Procedure Device

variable {relies : List (Exchange Device) → Exchange Device → Prop}
  {sched : List (Exchange Device)} {p : Pipeline} {owned : List Owned}

/-! ### The contract -/

/-- The **books** of a pipeline: its state, what is live on the device, the newest first, and what
was scheduled, which is no business of the pipeline's. -/
structure Books (sched : List (Exchange Device)) (owned : List Owned) (p : Pipeline)
    (past : List (Exchange Device)) (s : Pipeline) : Prop where
  state_eq : s = p
  stands : Stands past owned
  scheduling_eq : scheduling past = sched

/-- The books **balance**: what is live is what is owned. -/
abbrev Balanced (sched : List (Exchange Device)) (p : Pipeline) :
    List (Exchange Device) → Pipeline → Prop :=
  Books sched p.owned p

/-- A pipeline's **contract** on handles. At each call the books balance, apart from the handle that
the call deletes, and each handle that the call takes is live. -/
def accounting (relies : List (Exchange Device) → Exchange Device → Prop)
    (sched : List (Exchange Device)) : Contract Device Pipeline where
  relies := relies
  guarantees past p call :=
    Stands past (call.deleted?.toList ++ p.owned) ∧ (∀ o ∈ call.uses, o ∈ live past) ∧
      scheduling past = sched

/-- A build that is **under way** has left the empty phase, and has no program yet. -/
def IsUnderway (p : Pipeline) : Prop := p.phase ≠ .empty ∧ p.program = none

/-- A build is **cut short**: the books balance wherever it was. -/
def CutShort (sched past : List (Exchange Device)) (_ : Fault) (s : Pipeline) : Prop :=
  IsUnderway s ∧ Balanced sched s past s

/-- A call that gives nothing, deletes nothing and schedules nothing makes no entry in the books. -/
theorem Books.keep {past : List (Exchange Device)} {x : Exchange Device} {s : Pipeline}
    (h : Books sched owned p past s) (hc : obtained? x = none) (hd : x.call.deleted? = none)
    (hs : x.call.isScheduling = false) : Books sched owned p (past ++ [x]) s :=
  ⟨h.state_eq, h.stands.keep hc hd, (scheduling_append_singleton_of_not hs).trans h.scheduling_eq⟩

/-- Wherever the books balance a build may be cut short. -/
theorem Books.cutShort {past : List (Exchange Device)} {s : Pipeline} {fault : Fault}
    (h : Balanced sched p past s) (hp : IsUnderway p) : CutShort sched past fault s := by
  obtain ⟨rfl, hstands, hsched⟩ := h
  exact ⟨hp, rfl, hstands, hsched⟩

/-- A call on handles that are owned leaves the books as they are. -/
theorem honours_ask {call : Device.Call} (hp : IsUnderway p) (hkeep : call.keepsHandles)
    (hsched : call.isScheduling = false) (huses : call.uses ⊆ p.owned) :
    Honours (accounting relies sched) (Balanced sched p) (Device.ask call)
      (fun past _ s => Balanced sched p past s) (CutShort sched) := by
  have hkept : ∀ past s reply, Balanced sched p past s →
      Balanced sched p (past ++ [⟨call, reply⟩]) s := fun past s reply h =>
    h.keep (obtained?_of_keepsHandles hkeep) (deleted?_of_keepsHandles hkeep) hsched
  refine honours_perform ?_ (fun past s a h _ => hkept past s _ h)
    (fun past s fault h _ => (hkept past s _ h).cutShort hp)
  rintro past s ⟨rfl, hstands, hscheduling⟩
  refine ⟨?_, fun o ho => hstands.mem_live_iff.mpr (huses ho), hscheduling⟩
  rw [deleted?_of_keepsHandles hkeep]
  exact hstands

/-- What is created is live before it is entered. -/
theorem honours_create {call : Device.Call} {name : Device.Reply call → Owned}
    (hnew : GivesNew relies) (hp : IsUnderway p)
    (hname : ∀ a, obtained? ⟨call, .ok a⟩ = some (name a)) (hdeleted : call.deleted? = none)
    (hsched : call.isScheduling = false) (huses : call.uses = []) :
    Honours (accounting relies sched) (Balanced sched p) (Device.ask call)
      (fun past a s => Books sched (name a :: p.owned) p past s) (CutShort sched) := by
  refine honours_perform ?_ ?_ ?_
  · rintro past s ⟨rfl, hstands, hscheduling⟩
    refine ⟨?_, ?_, hscheduling⟩
    · rw [hdeleted]
      exact hstands
    · rw [huses]
      exact fun o ho => absurd ho List.not_mem_nil
  · rintro past s a ⟨rfl, hstands, hscheduling⟩ hrelied
    exact ⟨rfl, hstands.create (hname a) (hnew _ _ hrelied _ (hname a)),
      (scheduling_append_singleton_of_not hsched).trans hscheduling⟩
  · intro past s fault h _
    exact (h.keep (obtained?_error call fault) hdeleted hsched).cutShort hp

/-- A change of the pipeline's own state leaves what is live. -/
theorem honours_change {f : Pipeline → Pipeline}
    {err : List (Exchange Device) → Fault → Pipeline → Prop} :
    Honours (accounting relies sched) (Books sched owned p) (update f)
      (fun past _ s => Books sched owned (f p) past s) err := by
  refine honours_update ?_
  rintro past s ⟨rfl, hstands, hscheduling⟩
  exact ⟨rfl, hstands, hscheduling⟩

/-- Entering a handle balances the books again. -/
theorem honours_acquire {kind : HandleKind} {handle : Handle}
    {err : List (Exchange Device) → Fault → Pipeline → Prop} :
    Honours (accounting relies sched) (Books sched (⟨kind, handle⟩ :: p.owned) p)
      (acquire kind handle)
      (fun past _ s => Balanced sched { p with owned := ⟨kind, handle⟩ :: p.owned } past s) err :=
  honours_change

/-! ### Building -/

/-- Compiling enters the shader before anything else can go wrong with it. -/
theorem honours_compile {stage : Stage} {source : String} (hnew : GivesNew relies)
    (hp : IsUnderway p) :
    Honours (accounting relies sched) (Balanced sched p) (compile stage source)
      (fun past shader s =>
        Balanced sched { p with owned := ⟨.shader, shader⟩ :: p.owned } past s)
      (CutShort sched) := by
  rw [compile]
  refine Honours.bind (honours_create hnew hp (fun _ => rfl) rfl rfl rfl) fun shader => ?_
  refine Honours.bind honours_acquire fun _ => ?_
  have hp' : IsUnderway { p with owned := ⟨.shader, shader⟩ :: p.owned } := hp
  have hshader : [⟨.shader, shader⟩] ⊆ (⟨.shader, shader⟩ :: p.owned : List Owned) :=
    List.cons_subset_cons _ (List.nil_subset _)
  refine Honours.bind (honours_ask hp' rfl rfl hshader) fun _ => ?_
  refine Honours.bind (honours_ask hp' rfl rfl hshader) fun compiled => ?_
  by_cases hcompiled : compiled = true
  · rw [if_pos hcompiled]
    exact honours_pure fun _ _ h => h
  · rw [if_neg hcompiled]
    refine Honours.bind (honours_ask hp' rfl rfl hshader) fun log => ?_
    exact honours_fail fun _ _ h => h.cutShort hp'

/-- Linking enters the program, of two shaders that are owned. -/
theorem honours_link {vertexShader fragmentShader : Handle} (hnew : GivesNew relies)
    (hp : IsUnderway p) (hvertex : ⟨.shader, vertexShader⟩ ∈ p.owned)
    (hfragment : ⟨.shader, fragmentShader⟩ ∈ p.owned) :
    Honours (accounting relies sched) (Balanced sched p) (link vertexShader fragmentShader)
      (fun past program s =>
        Balanced sched { p with owned := ⟨.program, program⟩ :: p.owned } past s)
      (CutShort sched) := by
  rw [link]
  refine Honours.bind (honours_create hnew hp (fun _ => rfl) rfl rfl rfl) fun program => ?_
  refine Honours.bind honours_acquire fun _ => ?_
  have hp' : IsUnderway { p with owned := ⟨.program, program⟩ :: p.owned } := hp
  have hprogram : [⟨.program, program⟩] ⊆ (⟨.program, program⟩ :: p.owned : List Owned) :=
    List.cons_subset_cons _ (List.nil_subset _)
  have hboth : ∀ shader, ⟨.shader, shader⟩ ∈ p.owned →
      [⟨.program, program⟩, ⟨.shader, shader⟩] ⊆ (⟨.program, program⟩ :: p.owned : List Owned) :=
    fun shader h => List.cons_subset_cons _ (List.cons_subset.mpr ⟨h, List.nil_subset _⟩)
  refine Honours.bind (honours_ask hp' rfl rfl (hboth _ hvertex)) fun _ => ?_
  refine Honours.bind (honours_ask hp' rfl rfl (hboth _ hfragment)) fun _ => ?_
  refine Honours.bind (honours_ask hp' rfl rfl hprogram) fun _ => ?_
  refine Honours.bind (honours_ask hp' rfl rfl hprogram) fun linked => ?_
  by_cases hlinked : linked = true
  · rw [if_pos hlinked]
    exact honours_pure fun _ _ h => h
  · rw [if_neg hlinked]
    refine Honours.bind (honours_ask hp' rfl rfl hprogram) fun log => ?_
    exact honours_fail fun _ _ h => h.cutShort hp'

/-- An upload enters the buffer before it is filled. -/
theorem honours_upload {data : List UInt8} (hnew : GivesNew relies) (hp : IsUnderway p) :
    Honours (accounting relies sched) (Balanced sched p) (upload data)
      (fun past buffer s => Balanced sched { p with owned := ⟨.buffer, buffer⟩ :: p.owned } past s)
      (CutShort sched) := by
  rw [upload]
  refine Honours.bind (honours_create hnew hp (fun _ => rfl) rfl rfl rfl) fun buffer => ?_
  refine Honours.bind honours_acquire fun _ => ?_
  have hp' : IsUnderway { p with owned := ⟨.buffer, buffer⟩ :: p.owned } := hp
  have hbuffer : [⟨.buffer, buffer⟩] ⊆ (⟨.buffer, buffer⟩ :: p.owned : List Owned) :=
    List.cons_subset_cons _ (List.nil_subset _)
  refine Honours.bind (honours_ask hp' rfl rfl hbuffer) fun _ => ?_
  exact honours_pure fun _ _ h => h

/-- Feeding an attribute makes no entry: the program and the buffer are owned. -/
theorem honours_feed {program buffer : Handle} {name : String} (hp : IsUnderway p)
    (hprogram : ⟨.program, program⟩ ∈ p.owned) (hbuffer : ⟨.buffer, buffer⟩ ∈ p.owned) :
    Honours (accounting relies sched) (Balanced sched p) (feed program name buffer)
      (fun past _ s => Balanced sched p past s) (CutShort sched) := by
  have hfed : [⟨.program, program⟩, ⟨.buffer, buffer⟩] ⊆ p.owned :=
    List.cons_subset.mpr ⟨hprogram, List.cons_subset.mpr ⟨hbuffer, List.nil_subset _⟩⟩
  rw [feed]
  refine Honours.bind
    (honours_ask hp rfl rfl (List.cons_subset.mpr ⟨hprogram, List.nil_subset _⟩)) fun location => ?_
  by_cases hlocation : (location != absent) = true
  · simp only [hlocation, if_true]
    exact Honours.bind (honours_ask hp rfl rfl hfed) fun _ => honours_pure fun _ _ h => h
  · simp only [hlocation]
    exact honours_pure fun _ _ h => h

/-- Putting a mesh behind a program enters the two buffers, and the books have the five handles of
the program then. -/
theorem honours_bindMesh {vertexShader fragmentShader program : Handle} {shape : Shape}
    (hnew : GivesNew relies) (hp : IsUnderway p)
    (howned : p.owned =
      [⟨.program, program⟩, ⟨.shader, fragmentShader⟩, ⟨.shader, vertexShader⟩]) :
    Honours (accounting relies sched) (Balanced sched p)
      (bindMesh vertexShader fragmentShader program shape)
      (fun past q s => Balanced sched { p with owned := q.owned } past s) (CutShort sched) := by
  rw [bindMesh]
  have hmesh : Honours (accounting relies sched) (Balanced sched p)
      (ofExcept (Mesh.ofShape shape)) (fun past _ s => Balanced sched p past s)
      (CutShort sched) := by
    refine honours_ofExcept fun past s h => ?_
    rcases Mesh.ofShape shape with fault | mesh
    · show CutShort sched past fault s
      exact h.cutShort hp
    · exact h
  refine Honours.bind hmesh fun mesh => ?_
  refine Honours.bind (honours_upload hnew hp) fun positionBuffer => ?_
  have hp₁ : IsUnderway { p with owned := ⟨.buffer, positionBuffer⟩ :: p.owned } := hp
  refine Honours.bind (honours_upload hnew hp₁) fun normalBuffer => ?_
  have hp₂ : IsUnderway
      { p with owned := ⟨.buffer, normalBuffer⟩ :: ⟨.buffer, positionBuffer⟩ :: p.owned } := hp
  refine Honours.bind (honours_feed hp₂ ?_ ?_) fun positionLocation => ?_
  · rw [howned]
    exact .tail _ (.tail _ (.head _))
  · exact .tail _ (.head _)
  refine Honours.bind (honours_feed hp₂ ?_ ?_) fun normalLocation => ?_
  · rw [howned]
    exact .tail _ (.tail _ (.head _))
  · exact .head _
  refine honours_pure fun past s h => ?_
  rw [howned] at h
  exact h

/-- A change of phase makes no entry. -/
theorem honours_enter {phase : Phase} {err : List (Exchange Device) → Fault → Pipeline → Prop} :
    Honours (accounting relies sched) (Balanced sched p) (enter phase)
      (fun past _ s => Balanced sched { p with phase } past s) err :=
  honours_change

/-- Assembling a program from nothing enters its five handles, one after another. -/
theorem honours_assemble {vertex fragment : String} {shape : Shape} {phase : Phase}
    (hnew : GivesNew relies) :
    Honours (accounting relies sched) (Balanced sched { phase }) (assemble vertex fragment shape)
      (fun past q s => Balanced sched { phase := .bound, owned := q.owned } past s)
      (CutShort sched) := by
  rw [assemble]
  refine Honours.bind honours_enter fun _ => ?_
  have hcompiling : ∀ owned, IsUnderway { phase := .compiling, owned } := fun _ => ⟨nofun, rfl⟩
  refine Honours.bind (honours_compile hnew (hcompiling _)) fun vertexShader => ?_
  refine Honours.bind (honours_compile hnew (hcompiling _)) fun fragmentShader => ?_
  refine Honours.bind (honours_link hnew (hcompiling _) (.tail _ (.head _)) (.head _))
    fun program => ?_
  refine Honours.bind honours_enter fun _ => ?_
  have hlinked : ∀ owned, IsUnderway { phase := .linked, owned } := fun _ => ⟨nofun, rfl⟩
  refine Honours.bind (honours_bindMesh hnew (hlinked _) rfl) fun q => ?_
  exact Honours.bind honours_enter fun _ => honours_pure fun _ _ h => h

/-! ### Releasing -/

/-- Some deletion **may be refused**. -/
def DeletionRefusable (relies : List (Exchange Device) → Exchange Device → Prop) : Prop :=
  ∃ past call fault, call.deleted?.isSome ∧ relies past ⟨call, .error fault⟩

/-- A release is **cut short**: a deletion was refused, and what is left is owned as before. -/
def ReleaseCutShort (relies : List (Exchange Device) → Exchange Device → Prop)
    (sched : List (Exchange Device)) (p : Pipeline) (past : List (Exchange Device)) (_ : Fault)
    (s : Pipeline) : Prop :=
  DeletionRefusable relies ∧
    ∃ o rest, o :: rest <:+ p.owned ∧ Balanced sched { p with owned := rest } past s

/-- A call that deletes the handle that was struck out balances the books again, whether it is
carried out or refused. -/
theorem honours_deletion {call : Device.Call} {o : Owned} (hdeleted : call.deleted? = some o)
    (huses : call.uses = [o]) (hsched : call.isScheduling = false) :
    Honours (accounting relies sched) (Books sched (o :: p.owned) p) (Device.ask call)
      (fun past _ s => Balanced sched p past s)
      (fun past _ s => DeletionRefusable relies ∧ Balanced sched p past s) := by
  have hstruck : ∀ past s reply, Books sched (o :: p.owned) p past s →
      Balanced sched p (past ++ [⟨call, reply⟩]) s := by
    rintro past s reply ⟨rfl, hstands, hscheduling⟩
    exact ⟨rfl, hstands.delete hdeleted,
      (scheduling_append_singleton_of_not hsched).trans hscheduling⟩
  refine honours_perform ?_ (fun past s a h _ => hstruck past s _ h) ?_
  · rintro past s ⟨rfl, hstands, hscheduling⟩
    refine ⟨?_, ?_, hscheduling⟩
    · rw [hdeleted]
      exact hstands
    · rw [huses]
      intro o' ho
      rw [List.mem_singleton.mp ho, hstands.mem_live_iff]
      exact List.mem_cons_self
  · intro past s fault h hrelied
    exact ⟨⟨past, call, fault, by rw [hdeleted]; rfl, hrelied⟩, hstruck past s _ h⟩

/-- A deletion of what was struck out balances the books, also when it is refused. -/
theorem honours_delete {o : Owned} :
    Honours (accounting relies sched) (Books sched (o :: p.owned) p) (delete o)
      (fun past _ s => Balanced sched p past s)
      (fun past _ s => DeletionRefusable relies ∧ Balanced sched p past s) := by
  obtain ⟨kind, handle⟩ := o
  cases kind with
  | shader => exact honours_deletion rfl rfl rfl
  | program => exact honours_deletion rfl rfl rfl
  | buffer => exact honours_deletion rfl rfl rfl

/-- Releasing handles one after another leaves none of them. The induction is on what is owned, and
each step strikes a handle out before it deletes it. -/
theorem honours_releaseEach :
    Honours (accounting relies sched) (Balanced sched { p with owned }) (releaseEach owned)
      (fun past _ s => Balanced sched { p with owned := [] } past s)
      (ReleaseCutShort relies sched { p with owned }) := by
  induction owned with
  | nil => exact honours_pure fun _ _ h => h
  | cons o rest ih =>
    have hstrike : Honours (accounting relies sched) (Balanced sched { p with owned := o :: rest })
        (update fun p => { p with owned := rest })
        (fun past _ s => Books sched (o :: rest) { p with owned := rest } past s)
        (ReleaseCutShort relies sched { p with owned := o :: rest }) :=
      honours_change
    refine Honours.bind hstrike fun _ => ?_
    have hdelete : Honours (accounting relies sched)
        (Books sched (o :: rest) { p with owned := rest }) (delete o)
        (fun past _ s => Balanced sched { p with owned := rest } past s)
        (ReleaseCutShort relies sched { p with owned := o :: rest }) := by
      refine (honours_delete (p := { p with owned := rest })).weaken_err ?_
      rintro past _ s ⟨hrefusable, h⟩
      exact ⟨hrefusable, o, rest, List.suffix_refl _, h⟩
    refine Honours.bind hdelete fun _ => ?_
    refine ih.weaken_err ?_
    rintro past fault s ⟨hrefusable, o', rest', hsuffix, h⟩
    exact ⟨hrefusable, o', rest', hsuffix.trans (List.suffix_cons o rest), h⟩

/-- Releasing all leaves the books empty, or balanced where a deletion was refused. -/
theorem honours_releaseAll :
    Honours (accounting relies sched) (Balanced sched p) releaseAll
      (fun past _ s => Balanced sched { p with owned := [] } past s)
      (ReleaseCutShort relies sched p) := by
  rw [releaseAll]
  refine honours_state_bind fun s => ?_
  rintro past _ ⟨rfl, h⟩
  obtain ⟨rfl, -, -⟩ := id h
  exact honours_releaseEach past _ h

/-- A **teardown** that comes to its end leaves nothing. -/
theorem honours_teardown :
    Honours (accounting relies sched) (Balanced sched p) teardown
      (fun past _ s => Balanced sched {} past s) (ReleaseCutShort relies sched p) := by
  have hempty : Honours (accounting relies sched) (Balanced sched { p with owned := [] })
      (update fun p => { p with program := none, phase := .empty })
      (fun past _ s => Balanced sched {} past s) (ReleaseCutShort relies sched p) :=
    honours_change
  have hrelease : Honours (accounting relies sched) (Balanced sched p)
      (do
        releaseAll
        update fun p => { p with program := none, phase := .empty })
      (fun past _ s => Balanced sched {} past s) (ReleaseCutShort relies sched p) :=
    Honours.bind honours_releaseAll fun _ => hempty
  rw [teardown]
  refine honours_state_bind fun s => ?_
  refine Honours.mono ?_ (fun _ _ h => h.2) (fun _ _ _ h => h) (fun _ _ _ h => h)
  by_cases howned : s.owned.isEmpty = true
  · simp only [howned]
    exact hrelease
  · simp only [howned]
    exact Honours.bind (honours_tell fun _ _ h => h) fun _ => hrelease

/-! ### Building from what is left -/

/-- A pipeline is **tidy** if in the empty phase it has nothing. A build relies on this when it goes
without a teardown. -/
def Tidy (p : Pipeline) : Prop := p.phase = .empty → p = {}

/-- A build **failed**: what is left is tidy, and it is nothing unless a deletion was refused. -/
def BuildFailed (relies : List (Exchange Device) → Exchange Device → Prop)
    (sched past : List (Exchange Device)) (_ : Fault) (s : Pipeline) : Prop :=
  Balanced sched s past s ∧ Tidy s ∧ (s = { phase := .failed } ∨ DeletionRefusable relies)

/-- A release that is cut short leaves a tidy pipeline, since it does not touch the phase. -/
theorem ReleaseCutShort.tidy {past : List (Exchange Device)} {fault : Fault} {s : Pipeline}
    (h : ReleaseCutShort relies sched p past fault s) (hp : Tidy p) :
    Balanced sched s past s ∧ Tidy s ∧ DeletionRefusable relies := by
  obtain ⟨hrefusable, o, rest, hsuffix, rfl, hstands, hscheduling⟩ := h
  refine ⟨⟨rfl, hstands, hscheduling⟩, fun hphase => ?_, hrefusable⟩
  rw [hp hphase] at hsuffix
  exact absurd (List.suffix_nil.mp hsuffix) (List.cons_ne_nil o rest)

/-- A step that fails gives back what the build obtained so far. -/
theorem honours_assemble_onFault {vertex fragment : String} {shape : Shape} {phase : Phase}
    (hnew : GivesNew relies) :
    Honours (accounting relies sched) (Balanced sched { phase })
      ((assemble vertex fragment shape).onFault do
        releaseAll
        enter .failed)
      (fun past q s => Balanced sched { phase := .bound, owned := q.owned } past s)
      (BuildFailed relies sched) := by
  refine (honours_assemble hnew).onFault fun fault => ?_
  rintro past s ⟨⟨hphase, hprogram⟩, h⟩
  refine (Honours.bind honours_releaseAll fun _ => honours_enter).mono (fun _ _ h => h)
    ?_ ?_ past s h
  · rintro past _ s' ⟨rfl, hstands, hscheduling⟩
    refine ⟨⟨rfl, hstands, hscheduling⟩, nofun, .inl ?_⟩
    rw [hprogram]
  · rintro past fault s' ⟨hrefusable, o, rest, hsuffix, rfl, hstands, hscheduling⟩
    exact ⟨⟨rfl, hstands, hscheduling⟩, fun h => absurd h hphase, .inr hrefusable⟩

/-- A **build** that comes to its end owns the five handles of its program. -/
theorem honours_build {vertex fragment : String} {shape : Shape} (hnew : GivesNew relies)
    (hp : Tidy p) :
    Honours (accounting relies sched) (Balanced sched p) (build vertex fragment shape)
      (fun past q s =>
        Balanced sched { phase := .active, owned := q.owned, program := some q } past s)
      (BuildFailed relies sched) := by
  have hrest : ∀ phase, Honours (accounting relies sched) (Balanced sched { phase })
      (do
        let program ← (assemble vertex fragment shape).onFault do
          releaseAll
          enter .failed
        update fun p => { p with program := some program, phase := .active }
        tell (.programActive shape program.vertexCount)
        return program)
      (fun past q s =>
        Balanced sched { phase := .active, owned := q.owned, program := some q } past s)
      (BuildFailed relies sched) := by
    intro phase
    refine Honours.bind (honours_assemble_onFault hnew) fun q => ?_
    have hactive : Honours (accounting relies sched)
        (Balanced sched { phase := .bound, owned := q.owned })
        (update fun p => { p with program := some q, phase := .active })
        (fun past _ s =>
          Balanced sched { phase := .active, owned := q.owned, program := some q } past s)
        (BuildFailed relies sched) :=
      honours_change
    refine Honours.bind hactive fun _ => ?_
    exact Honours.bind (honours_tell fun _ _ h => h) fun _ => honours_pure fun _ _ h => h
  rw [build]
  refine honours_state_bind fun s => ?_
  by_cases hphase : (s.phase != .empty) = true
  · simp only [hphase, if_true]
    refine Honours.bind (Honours.mono honours_teardown (fun _ _ h => h.2) (fun _ _ _ h => h) ?_)
      fun _ => hrest _
    rintro past fault s' h
    obtain ⟨hbalanced, htidy, hrefusable⟩ := h.tidy hp
    exact ⟨hbalanced, htidy, .inr hrefusable⟩
  · simp only [hphase]
    have hempty : s.phase = .empty := by simpa using hphase
    refine Honours.mono (hrest .empty) ?_ (fun _ _ _ h => h) (fun _ _ _ h => h)
    rintro past s' ⟨rfl, h⟩
    obtain ⟨rfl, -, -⟩ := id h
    rw [hp hempty] at h ⊢
    exact h

/-! ### One operation after another -/

/-- What can be **asked of a pipeline**. -/
inductive Operation where
  | build (vertex fragment : String) (shape : Shape)
  | teardown

/-- Carries out an operation. -/
def Operation.carryOut : Operation → DeviceProcedure Pipeline Unit
  | build vertex fragment shape => do
    let _ ← Pipeline.build vertex fragment shape
    return ()
  | teardown => Pipeline.teardown

/-- Between operations the books balance and the pipeline is tidy. -/
def Settled (sched past : List (Exchange Device)) (s : Pipeline) : Prop :=
  Balanced sched s past s ∧ Tidy s

/-- An operation leaves the pipeline settled, however it ends. -/
theorem keeps_carryOut (hnew : GivesNew relies) (op : Operation) :
    Keeps (accounting relies sched) (Settled sched) op.carryOut := by
  rintro past p ⟨h, hp⟩
  cases op with
  | build vertex fragment shape =>
    have hbuild : Honours (accounting relies sched) (Balanced sched p)
        (Pipeline.build vertex fragment shape) (fun past _ s => Settled sched past s)
        (fun past _ s => Settled sched past s) := by
      refine (honours_build hnew hp).weaken ?_ ?_
      · rintro past q s ⟨rfl, hstands, hscheduling⟩
        exact ⟨⟨rfl, hstands, hscheduling⟩, nofun⟩
      · rintro past fault s ⟨hbalanced, htidy, -⟩
        exact ⟨hbalanced, htidy⟩
    exact Honours.bind hbuild (fun _ => honours_pure fun _ _ h => h) past p h
  | teardown =>
    refine honours_teardown.weaken ?_ ?_ past p h
    · rintro past _ s ⟨rfl, hstands, hscheduling⟩
      exact ⟨⟨rfl, hstands, hscheduling⟩, fun _ => rfl⟩
    · intro past fault s h
      obtain ⟨hbalanced, htidy, -⟩ := h.tidy hp
      exact ⟨hbalanced, htidy⟩

/-- **The accounts balance** over any operations, whatever the device does, as long as the handles
that it creates are new. No handle is deleted twice, nor as another kind of thing than was created;
a deletion takes the newest handle that is live; what is live in the end is what the pipeline owns,
in the order of creation; and a teardown that then comes to its end leaves the pipeline as it was at
first. -/
theorem accounts_balance {ops : List Operation} {moments : List (Moment Device Pipeline)}
    {results : Except Fault (List (Except Fault Unit))} {p : Pipeline}
    (hpath : Dialogue.Path (attemptAll (ops.map Operation.carryOut) {}) moments results p)
    (hnew : (created (moments.map Moment.exchange)).Nodup) :
    (deleted (moments.map Moment.exchange)).Nodup ∧
      deleted (moments.map Moment.exchange) ⊆ created (moments.map Moment.exchange) ∧
      (∀ before m after o, moments = before ++ m :: after → m.call.deleted? = some o →
        (live (before.map Moment.exchange)).getLast? = some o) ∧
      live (moments.map Moment.exchange) = p.owned.reverse ∧
      ∀ later final, Dialogue.Path (teardown p) later (.ok ()) final → final = {} := by
  have hall : Keeps (accounting Fresh []) (Settled [])
      (attemptAll (ops.map Operation.carryOut)) :=
    keeps_attemptAll (List.forall_mem_map.mpr fun op _ => keeps_carryOut (fun _ _ h => h) op)
  have hstart : Settled [] [] {} := ⟨⟨rfl, stands_nil, rfl⟩, fun _ => rfl⟩
  obtain ⟨hcalls, ⟨-, hstands, -⟩, -⟩ := hall.path_end hstart hpath fun before m after he =>
    fresh_of_nodup hnew he
  refine ⟨hstands.deleted_nodup, hstands.deleted_subset, ?_, hstands.live_eq, ?_⟩
  · intro before m after o he hm
    obtain ⟨hbalanced, -, -⟩ := hcalls before m after he
    rw [hm] at hbalanced
    rw [List.nil_append] at hbalanced
    rw [hbalanced.live_cons]
    exact List.getLast?_concat
  · intro later final hlater
    have hteardown : Honours
        (accounting (fun _ _ => True) (scheduling (moments.map Moment.exchange))) (Balanced _ p)
        teardown (fun past _ s => Balanced _ {} past s) (ReleaseCutShort _ _ p) :=
      honours_teardown
    have hlast := (hteardown _ p ⟨rfl, hstands, rfl⟩).path hlater fun _ _ _ _ => trivial
    exact hlast.2.state_eq

/-- A teardown is cut short where the program is deleted, which leaves the two shaders. -/
theorem accounts_balance_refused :
    let refuses := fun call : Device.Call => call = .deleteProgram 3
    let run := (attemptAll ([.build "" "" .cube, .teardown].map Operation.carryOut) {}).run
      (obliging fun call => refuses call) 0
    (created (run.moments.map Moment.exchange)).Nodup ∧
      live (run.moments.map Moment.exchange) = run.state.owned.reverse ∧
      run.state.owned = [⟨.shader, 2⟩, ⟨.shader, 1⟩] := by
  intro refuses run
  have hnew : (created (run.moments.map Moment.exchange)).Nodup := by decide
  obtain ⟨-, -, -, hlive, -⟩ := accounts_balance (Dialogue.path_run _ _ _) hnew
  exact ⟨hnew, hlive, by decide⟩

end Pipeline

end ShaderPreview
