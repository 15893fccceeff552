import ShaderPreview.Proofs.Pipeline.Verdicts

/-!
# One Build on Top of Nothing

A device may give one handle several times, refuse any call, and keep what it was asked to delete.
Even then there is a count that a pipeline can answer for: what it created and has not passed to a
deletion **since**. These handles are held like a stack. A creation puts one on top, and the
deletion that a pipeline asks for is always that of the top one.

At each call the stack is what the pipeline owns, apart from the handle that is being deleted. From
the bottom up it has two shaders, a program and two buffers, or as many of them as there are so far.
A build puts its first handle on an empty stack, so whenever it creates, all that is held is its
own.

## Main definitions

* `Device.held`: the handles that were created and not passed to a deletion since.
* `Pipeline.InOrder`: handles are held in the order in which a build creates them.
* `Pipeline.stacking`: the contract to hold no more than one build needs.
* `Pipeline.Stacked`: what holds of a pipeline between its operations.

## Main results

* `Pipeline.InOrder.atMostOne`: what is held in order is at most one pipeline.
* `Pipeline.honours_teardown_stacked`, `Pipeline.honours_build_stacked`: a teardown and a build
  leave a pipeline stacked, however they end.
-/

namespace ShaderPreview

/-! ### Handles that are held -/

namespace Device

variable {past : List (Exchange Device)} {x : Exchange Device} {o : Owned} {owned : List Owned}

/-- Whether a call **creates**. -/
def Call.creates : Device.Call → Bool
  | .createShader _ => true
  | .createProgram => true
  | .createBuffer => true
  | _ => false

/-- A call that keeps the handles does not create. -/
theorem creates_of_keepsHandles {call : Device.Call} (h : call.keepsHandles) :
    call.creates = false := by
  cases call <;> first | rfl | exact absurd h Bool.false_ne_true

/-- Nor does one that deletes. -/
theorem creates_of_deleted? {call : Device.Call} (h : call.deleted? = some o) :
    call.creates = false := by
  cases call <;> first | rfl | cases h

/-- What is held **after an exchange**. A deletion counts whether it is carried out or refused. -/
def hold (owned : List Owned) (x : Exchange Device) : List Owned :=
  match x.call.deleted? with
  | some o => owned.erase o
  | none => (obtained? x).toList ++ owned

/-- The handles that were **created and not passed to a deletion since**, the newest first. -/
def held (past : List (Exchange Device)) : List Owned := past.foldl hold []

/-- One more exchange changes what is held by one step. -/
theorem held_append_singleton : held (past ++ [x]) = hold (held past) x := by
  rw [held, List.foldl_append]
  rfl

/-- A call that keeps the handles leaves what is held. -/
theorem hold_keep (hkeep : x.call.keepsHandles) : hold owned x = owned := by
  rw [hold, deleted?_of_keepsHandles hkeep, obtained?_of_keepsHandles hkeep]
  rfl

/-- What is created is held from then on, on top of the rest. -/
theorem hold_create (hc : obtained? x = some o) : hold owned x = o :: owned := by
  rw [hold, deleted?_of_obtained? hc, hc]
  rfl

/-- A refused creation leaves what is held. -/
theorem hold_refused {call : Device.Call} {fault : Fault} (hd : call.deleted? = none) :
    hold owned ⟨call, .error fault⟩ = owned := by
  rw [hold, hd, obtained?_error]
  rfl

/-- The deletion of the top leaves the rest. -/
theorem hold_delete (hd : x.call.deleted? = some o) : hold (o :: owned) x = owned := by
  rw [hold, hd]
  exact List.erase_cons_head o owned

/-- Every creation is still held or was answered by a deletion, one by one. -/
theorem count_created_le (past : List (Exchange Device)) (o : Owned) :
    (created past).count o ≤ (held past).count o + (deleted past).count o := by
  induction past using List.reverseRecOn with
  | nil => exact Nat.le_refl 0
  | append_singleton past x ih =>
    rw [created_append_singleton, deleted_append_singleton, held_append_singleton, hold,
      List.count_append, List.count_append]
    cases hd : x.call.deleted? with
    | some o' =>
      rw [obtained?_of_deleted? hd]
      simp only [Option.toList_none, Option.toList_some, List.count_nil, List.count_erase,
        List.count_singleton]
      omega
    | none =>
      simp only [Option.toList_none, List.count_nil, List.count_append]
      omega

/-- Something may be created **on top of nothing**: everything that was created earlier was passed
to a deletion, one by one, and what is held was all created since. -/
structure Afresh (earlier since : List (Exchange Device)) : Prop where
  held_eq : held (earlier ++ since) = (created since).reverse
  count_le : ∀ o, (created earlier).count o ≤ (deleted (earlier ++ since)).count o

/-- Where what is held is all that was created since, nothing is left from earlier. -/
theorem afresh_of_created_eq {earlier since : List (Exchange Device)}
    (h : created (earlier ++ since) = created earlier ++ (held (earlier ++ since)).reverse) :
    Afresh earlier since := by
  have happend : created (earlier ++ since) = created earlier ++ created since :=
    List.filterMap_append
  have hsince : created since = (held (earlier ++ since)).reverse :=
    List.append_cancel_left (happend.symm.trans h)
  have hheld : held (earlier ++ since) = (created since).reverse := by
    rw [hsince, List.reverse_reverse]
  refine ⟨hheld, fun o => ?_⟩
  have hcount := count_created_le (earlier ++ since) o
  rw [happend, hheld, List.count_append, List.count_reverse] at hcount
  omega

end Device

namespace Pipeline

open Procedure Device

variable {older owned : List Owned} {kinds : List HandleKind} {kind : HandleKind} {handle : Handle}

/-! ### The contract -/

/-- The kinds of the handles of one program, **the newest first**. -/
def order : List HandleKind := [.buffer, .buffer, .program, .shader, .shader]

/-- Handles are held **in the order** in which a build creates them, up to some point of a build. -/
def InOrder (owned : List Owned) : Prop := owned.map (·.kind) <:+ order

/-- No more is held than **one pipeline** needs. -/
structure AtMostOne (owned : List Owned) : Prop where
  shaders : (owned.map (·.kind)).count .shader ≤ 2
  programs : (owned.map (·.kind)).count .program ≤ 1
  buffers : (owned.map (·.kind)).count .buffer ≤ 2

/-- What is held in order is **at most one pipeline**. -/
theorem InOrder.atMostOne (h : InOrder owned) : AtMostOne owned :=
  ⟨h.sublist.count_le _, h.sublist.count_le _, h.sublist.count_le _⟩

/-- A pipeline's **contract** on what is held. At each call it is what the pipeline owns, apart from
the handle that the call deletes, and it is in order. Where something is created, all that is held
was created after the given handles, and nothing that was created after them is gone. -/
def stacking (older : List Owned) : Contract Device Pipeline where
  relies _ _ := True
  guarantees past p call :=
    held past = call.deleted?.toList ++ p.owned ∧ InOrder (held past) ∧
      (call.creates = true → created past = older ++ (held past).reverse)

/-- A build has the given kinds of handles **in hand**, all of them its own. -/
structure InHand (older : List Owned) (kinds : List HandleKind) (past : List (Exchange Device))
    (p : Pipeline) : Prop where
  underway : p.phase ≠ .empty
  held_eq : held past = p.owned
  created_eq : created past = older ++ p.owned.reverse
  kinds_eq : p.owned.map (·.kind) = kinds
  inOrder : kinds <:+ order

/-- A build is cut short **with handles in hand**. -/
def CutShortInHand (older : List Owned) (past : List (Exchange Device)) (_ : Fault)
    (p : Pipeline) : Prop :=
  ∃ kinds, InHand older kinds past p

/-- An exchange that changes nothing about what is owned, and gives nothing, leaves it in hand. -/
theorem InHand.keep {past : List (Exchange Device)} {x : Exchange Device} {p : Pipeline}
    (h : InHand older kinds past p) (hheld : hold p.owned x = p.owned)
    (hc : obtained? x = none) : InHand older kinds (past ++ [x]) p := by
  refine ⟨h.underway, ?_, ?_, h.kinds_eq, h.inOrder⟩
  · rw [held_append_singleton, h.held_eq, hheld]
  · rw [created_append_singleton, hc, Option.toList_none, List.append_nil, h.created_eq]

/-- A call that creates nothing and deletes nothing leaves the handles in hand. -/
theorem inHand_ask {call : Device.Call} (hkeep : call.keepsHandles) :
    Honours (stacking older) (InHand older kinds) (Device.ask call)
      (fun past _ p => InHand older kinds past p) (CutShortInHand older) := by
  have hkept : ∀ past p reply, InHand older kinds past p →
      InHand older kinds (past ++ [⟨call, reply⟩]) p := fun _ _ _ h =>
    h.keep (hold_keep hkeep) (obtained?_of_keepsHandles hkeep)
  refine honours_perform (fun past p h => ⟨?_, ?_, fun hcreates => ?_⟩)
    (fun past p a h _ => hkept past p _ h) fun past p fault h _ => ⟨kinds, hkept past p _ h⟩
  · rw [deleted?_of_keepsHandles hkeep]
    exact h.held_eq
  · rw [InOrder, h.held_eq, h.kinds_eq]
    exact h.inOrder
  · rw [creates_of_keepsHandles hkeep] at hcreates
    cases hcreates

/-- A handle has been **created and not entered** yet. -/
def OnTop (older : List Owned) (kinds : List HandleKind) (o : Owned)
    (past : List (Exchange Device)) (p : Pipeline) : Prop :=
  p.phase ≠ .empty ∧ held past = o :: p.owned ∧ created past = older ++ (o :: p.owned).reverse ∧
    p.owned.map (·.kind) = kinds

/-- What is created comes on top. -/
theorem inHand_create {call : Device.Call} {name : Device.Reply call → Owned}
    (hname : ∀ a, obtained? ⟨call, .ok a⟩ = some (name a)) (hdeleted : call.deleted? = none) :
    Honours (stacking older) (InHand older kinds) (Device.ask call)
      (fun past a p => OnTop older kinds (name a) past p) (CutShortInHand older) := by
  refine honours_perform (fun past p h => ⟨?_, ?_, fun _ => ?_⟩) (fun past p a h _ => ?_)
    fun past p fault h _ => ⟨kinds, h.keep (hold_refused hdeleted) (obtained?_error call fault)⟩
  · rw [hdeleted]
    exact h.held_eq
  · rw [InOrder, h.held_eq, h.kinds_eq]
    exact h.inOrder
  · rw [h.held_eq, h.created_eq]
  · refine ⟨h.underway, ?_, ?_, h.kinds_eq⟩
    · rw [held_append_singleton, hold_create (hname a), h.held_eq]
    · rw [created_append_singleton, hname, h.created_eq, List.reverse_cons, List.append_assoc]
      rfl

/-- Entering the handle on top takes it in hand. -/
theorem inHand_acquire {err : List (Exchange Device) → Fault → Pipeline → Prop}
    (horder : kind :: kinds <:+ order) :
    Honours (stacking older) (OnTop older kinds ⟨kind, handle⟩) (acquire kind handle)
      (fun past _ p => InHand older (kind :: kinds) past p) err := by
  refine honours_update ?_
  rintro past p ⟨hphase, hheld, hcreated, hkinds⟩
  exact ⟨hphase, hheld, hcreated, congrArg (kind :: ·) hkinds, horder⟩

/-! ### Building -/

/-- Compiling puts a shader on top of what is in hand. -/
theorem inHand_compile {stage : Stage} {source : String} (horder : .shader :: kinds <:+ order) :
    Honours (stacking older) (InHand older kinds) (compile stage source)
      (fun past _ p => InHand older (.shader :: kinds) past p) (CutShortInHand older) := by
  rw [compile]
  refine Honours.bind (inHand_create (fun _ => rfl) rfl) fun shader => ?_
  refine Honours.bind (inHand_acquire horder) fun _ => ?_
  refine Honours.bind (inHand_ask rfl) fun _ => Honours.bind (inHand_ask rfl) fun compiled => ?_
  by_cases hcompiled : compiled = true
  · rw [if_pos hcompiled]
    exact honours_pure fun _ _ h => h
  · rw [if_neg hcompiled]
    exact Honours.bind (inHand_ask rfl) fun log => honours_fail fun _ _ h => ⟨_, h⟩

/-- Linking puts a program there. -/
theorem inHand_link {vertexShader fragmentShader : Handle}
    (horder : .program :: kinds <:+ order) :
    Honours (stacking older) (InHand older kinds) (link vertexShader fragmentShader)
      (fun past _ p => InHand older (.program :: kinds) past p) (CutShortInHand older) := by
  rw [link]
  refine Honours.bind (inHand_create (fun _ => rfl) rfl) fun program => ?_
  refine Honours.bind (inHand_acquire horder) fun _ => Honours.bind (inHand_ask rfl) fun _ => ?_
  refine Honours.bind (inHand_ask rfl) fun _ => Honours.bind (inHand_ask rfl) fun _ => ?_
  refine Honours.bind (inHand_ask rfl) fun linked => ?_
  by_cases hlinked : linked = true
  · rw [if_pos hlinked]
    exact honours_pure fun _ _ h => h
  · rw [if_neg hlinked]
    exact Honours.bind (inHand_ask rfl) fun log => honours_fail fun _ _ h => ⟨_, h⟩

/-- An upload puts a buffer there. -/
theorem inHand_upload {data : List UInt8} (horder : .buffer :: kinds <:+ order) :
    Honours (stacking older) (InHand older kinds) (upload data)
      (fun past _ p => InHand older (.buffer :: kinds) past p) (CutShortInHand older) := by
  rw [upload]
  refine Honours.bind (inHand_create (fun _ => rfl) rfl) fun buffer => ?_
  refine Honours.bind (inHand_acquire horder) fun _ => Honours.bind (inHand_ask rfl) fun _ => ?_
  exact honours_pure fun _ _ h => h

/-- Feeding an attribute leaves what is in hand. -/
theorem inHand_feed {program buffer : Handle} {name : String} :
    Honours (stacking older) (InHand older kinds) (feed program name buffer)
      (fun past _ p => InHand older kinds past p) (CutShortInHand older) := by
  rw [feed]
  refine Honours.bind (inHand_ask rfl) fun location => ?_
  by_cases hlocation : (location != absent) = true
  · simp only [hlocation, if_true]
    exact Honours.bind (inHand_ask rfl) fun _ => honours_pure fun _ _ h => h
  · simp only [hlocation]
    exact honours_pure fun _ _ h => h

/-- Putting a mesh behind a program puts two buffers on top. -/
theorem inHand_bindMesh {vertexShader fragmentShader program : Handle} {shape : Shape}
    (horder : .buffer :: .buffer :: kinds <:+ order) :
    Honours (stacking older) (InHand older kinds)
      (bindMesh vertexShader fragmentShader program shape)
      (fun past _ p => InHand older (.buffer :: .buffer :: kinds) past p)
      (CutShortInHand older) := by
  have hmesh : Honours (stacking older) (InHand older kinds) (ofExcept (Mesh.ofShape shape))
      (fun past _ p => InHand older kinds past p) (CutShortInHand older) :=
    keeps_ofExcept.weaken_err fun _ _ _ h => ⟨kinds, h⟩
  rw [bindMesh]
  refine Honours.bind hmesh fun mesh => ?_
  refine Honours.bind (inHand_upload ((List.suffix_cons _ _).trans horder)) fun _ => ?_
  refine Honours.bind (inHand_upload horder) fun _ => Honours.bind inHand_feed fun _ => ?_
  exact Honours.bind inHand_feed fun _ => honours_pure fun _ _ h => h

/-- A pipeline that **holds nothing** after the given handles were created. -/
def Begun (older : List Owned) (past : List (Exchange Device)) (p : Pipeline) : Prop :=
  held past = [] ∧ p.owned = [] ∧ created past = older

/-- Entering a phase leaves what is in hand, unless it is the empty one. -/
theorem inHand_enter {phase : Phase} {err : List (Exchange Device) → Fault → Pipeline → Prop}
    (hphase : phase ≠ .empty) :
    Honours (stacking older) (InHand older kinds) (enter phase)
      (fun past _ p => InHand older kinds past p) err :=
  honours_update fun _ _ h => ⟨hphase, h.held_eq, h.created_eq, h.kinds_eq, h.inOrder⟩

/-- The steps of a build start with nothing in hand and end with all that a program needs. -/
theorem inHand_assemble {vertex fragment : String} {shape : Shape} :
    Honours (stacking older) (Begun older) (assemble vertex fragment shape)
      (fun past _ p => InHand older order past p) (CutShortInHand older) := by
  have hbegin : Honours (stacking older) (Begun older) (enter .compiling)
      (fun past _ p => InHand older [] past p) (CutShortInHand older) := by
    refine honours_update ?_
    rintro past p ⟨hheld, howned, hcreated⟩
    refine ⟨nofun, hheld.trans howned.symm, ?_, ?_, List.nil_suffix⟩
    · rw [howned, hcreated, List.reverse_nil, List.append_nil]
    · rw [howned, List.map_nil]
  rw [assemble]
  refine Honours.bind hbegin fun _ => ?_
  refine Honours.bind (inHand_compile (by decide)) fun vertexShader => ?_
  refine Honours.bind (inHand_compile (by decide)) fun fragmentShader => ?_
  refine Honours.bind (inHand_link (by decide)) fun program => ?_
  refine Honours.bind (inHand_enter (by decide)) fun _ => ?_
  refine Honours.bind (inHand_bindMesh (List.suffix_refl order)) fun program => ?_
  exact Honours.bind (inHand_enter (by decide)) fun _ => honours_pure fun _ _ h => h

/-! ### Releasing -/

/-- **Between its operations** a pipeline owns what is held, in order, and nothing in the empty
phase. -/
structure Stacked (past : List (Exchange Device)) (p : Pipeline) : Prop where
  held_eq : held past = p.owned
  inOrder : InOrder p.owned
  owned_of_empty : p.phase = .empty → p.owned = []

/-- A new pipeline owns nothing. -/
theorem stacked_nil : Stacked [] {} := ⟨rfl, List.nil_suffix, fun _ => rfl⟩

/-- What a build has in hand is held in order. -/
theorem InHand.stacked {past : List (Exchange Device)} {p : Pipeline}
    (h : InHand older kinds past p) : Stacked past p := by
  refine ⟨h.held_eq, ?_, fun hempty => absurd hempty h.underway⟩
  rw [InOrder, h.kinds_eq]
  exact h.inOrder

/-- Nothing is created **while handles are released**. -/
def Releasing (all : List Owned) (past : List (Exchange Device)) (p : Pipeline) : Prop :=
  Stacked past p ∧ created past = all

/-- A call that neither creates nor deletes leaves what is held. -/
theorem Releasing.keep {all : List Owned} {past : List (Exchange Device)} {x : Exchange Device}
    {p : Pipeline} (h : Releasing all past p) (hkeep : x.call.keepsHandles = true) :
    Releasing all (past ++ [x]) p := by
  refine ⟨⟨?_, h.1.inOrder, h.1.owned_of_empty⟩, ?_⟩
  · rw [held_append_singleton, hold_keep hkeep, h.1.held_eq]
  · rw [created_append_singleton, obtained?_of_keepsHandles hkeep, Option.toList_none,
      List.append_nil, h.2]

/-- A handle has been **struck out and not deleted** yet. -/
def StruckOut (all : List Owned) (o : Owned) (past : List (Exchange Device)) (p : Pipeline) :
    Prop :=
  held past = o :: p.owned ∧ InOrder (o :: p.owned) ∧ p.phase ≠ .empty ∧ created past = all

/-- The deletion of the handle that was struck out takes it off the top, whether it is carried out
or refused. -/
theorem stacked_deletion {call : Device.Call} {all : List Owned} {o : Owned}
    (hdeleted : call.deleted? = some o) :
    Honours (stacking older) (fun past p => StruckOut all o past p ∧ p.owned = owned)
      (Device.ask call) (fun past _ p => Releasing all past p ∧ p.owned = owned)
      fun past _ p => Stacked past p := by
  have hgone : ∀ past p reply, StruckOut all o past p →
      Releasing all (past ++ [⟨call, reply⟩]) p := by
    rintro past p reply ⟨hheld, horder, hphase, hcreated⟩
    refine ⟨⟨?_, (List.suffix_cons _ _).trans horder, fun h => absurd h hphase⟩, ?_⟩
    · rw [held_append_singleton, hheld, hold_delete hdeleted]
    · rw [created_append_singleton, obtained?_of_deleted? hdeleted, Option.toList_none,
        List.append_nil, hcreated]
  refine honours_perform ?_ (fun past p a h _ => ⟨hgone past p _ h.1, h.2⟩)
    fun past p fault h _ => (hgone past p _ h.1).1
  rintro past p ⟨⟨hheld, horder, -, -⟩, -⟩
  refine ⟨?_, hheld ▸ horder, fun hcreates => ?_⟩
  · rw [hdeleted, hheld]
    rfl
  · rw [creates_of_deleted? hdeleted] at hcreates
    cases hcreates

/-- A handle of any kind is deleted by one call, which takes it off the top. -/
theorem stacked_delete {all : List Owned} {o : Owned} :
    Honours (stacking older) (fun past p => StruckOut all o past p ∧ p.owned = owned) (delete o)
      (fun past _ p => Releasing all past p ∧ p.owned = owned) fun past _ p => Stacked past p := by
  obtain ⟨kind, handle⟩ := o
  cases kind with
  | shader => exact stacked_deletion rfl
  | program => exact stacked_deletion rfl
  | buffer => exact stacked_deletion rfl

/-- Handles are taken off one after another, from the top. The induction is on what is owned. -/
theorem stacked_releaseEach {all : List Owned} :
    Honours (stacking older) (fun past p => Releasing all past p ∧ p.owned = owned)
      (releaseEach owned) (fun past _ p => Releasing all past p ∧ p.owned = [])
      fun past _ p => Stacked past p := by
  induction owned with
  | nil => exact honours_pure fun _ _ h => h
  | cons o rest ih =>
    have hstrike : Honours (stacking older)
        (fun past p => Releasing all past p ∧ p.owned = o :: rest)
        (update fun p => { p with owned := rest })
        (fun past _ p => StruckOut all o past p ∧ p.owned = rest)
        fun past _ p => Stacked past p := by
      refine honours_update ?_
      rintro past p ⟨⟨⟨hheld, horder, hempty⟩, hcreated⟩, howned⟩
      rw [howned] at hheld horder
      refine ⟨⟨hheld, horder, fun hphase => ?_, hcreated⟩, rfl⟩
      rw [hempty hphase] at howned
      cases howned
    exact Honours.bind hstrike fun _ => Honours.bind stacked_delete fun _ => ih

/-- Releasing all creates nothing and leaves nothing, unless it is cut short. -/
theorem stacked_releaseAll {all : List Owned} :
    Honours (stacking older) (Releasing all) releaseAll
      (fun past _ p => Releasing all past p ∧ p.owned = []) fun past _ p => Stacked past p := by
  refine honours_state_bind fun p => stacked_releaseEach.mono ?_ (fun _ _ _ h => h)
    fun _ _ _ h => h
  rintro past _ ⟨rfl, h⟩
  exact ⟨h, rfl⟩

/-- A **teardown** leaves nothing, or what it could not give back. -/
theorem honours_teardown_stacked {all : List Owned} :
    Honours (stacking older) (Releasing all) teardown
      (fun past _ p => Releasing all past p ∧ p.owned = []) fun past _ p => Stacked past p := by
  have hempty : Honours (stacking older) (fun past p => Releasing all past p ∧ p.owned = [])
      (update fun p => { p with program := none, phase := .empty })
      (fun past _ p => Releasing all past p ∧ p.owned = []) fun past _ p => Stacked past p :=
    honours_update fun _ _ h => ⟨⟨⟨h.1.1.held_eq, h.1.1.inOrder, fun _ => h.2⟩, h.1.2⟩, h.2⟩
  have hrelease : Honours (stacking older) (Releasing all)
      (do
        releaseAll
        update fun p => { p with program := none, phase := .empty })
      (fun past _ p => Releasing all past p ∧ p.owned = []) fun past _ p => Stacked past p :=
    Honours.bind stacked_releaseAll fun _ => hempty
  refine honours_state_bind fun p => ?_
  refine Honours.mono ?_ (fun _ _ h => h.2) (fun _ _ _ h => h) (fun _ _ _ h => h)
  by_cases howned : p.owned.isEmpty = true
  · simp only [howned]
    exact hrelease
  · simp only [howned]
    exact Honours.bind (honours_tell fun _ _ h => h) fun _ => hrelease

/-! ### Building from what is left -/

/-- A **build** leaves what it created, or what could not be given back. -/
theorem honours_build_stacked {vertex fragment : String} {shape : Shape} :
    Honours (stacking older) (Releasing older) (build vertex fragment shape)
      (fun past _ p => Stacked past p) fun past _ p => Stacked past p := by
  have hrelease : ∀ fault, Honours (stacking older)
      (fun past p => CutShortInHand older past fault p)
      (do
        releaseAll
        enter .failed)
      (fun past _ p => Stacked past p) fun past _ p => Stacked past p := by
    rintro fault past p ⟨kinds, h⟩
    refine Honours.bind stacked_releaseAll (fun _ => honours_update fun _ _ h => ?_) past p
      ⟨h.stacked, rfl⟩
    exact ⟨h.1.1.held_eq, h.1.1.inOrder, fun _ => h.2⟩
  have hanew : Honours (stacking older) (Begun older) (buildAnew vertex fragment shape)
      (fun past _ p => Stacked past p) fun past _ p => Stacked past p := by
    refine Honours.bind (inHand_assemble.onFault hrelease) fun q => ?_
    refine Honours.bind (honours_update fun past p h => ?_) fun _ =>
      Honours.bind (honours_tell fun _ _ h => h) fun _ => honours_pure fun _ _ h => h
    exact ⟨h.held_eq, h.stacked.inOrder, nofun⟩
  rw [build_eq]
  refine honours_state_bind fun p => ?_
  by_cases hphase : p.phase = .empty
  · rw [if_pos hphase]
    refine hanew.mono ?_ (fun _ _ _ h => h) fun _ _ _ h => h
    rintro past _ ⟨rfl, h, hcreated⟩
    have howned := h.owned_of_empty hphase
    exact ⟨h.held_eq.trans howned, howned, hcreated⟩
  · rw [if_neg hphase]
    refine Honours.bind (honours_teardown_stacked.mono (fun _ _ h => h.2) (fun _ _ _ h => h)
      fun _ _ _ h => h) fun _ => hanew.mono ?_ (fun _ _ _ h => h) fun _ _ _ h => h
    rintro past p ⟨⟨h, hcreated⟩, howned⟩
    exact ⟨h.held_eq.trans howned, howned, hcreated⟩

/-! ### One operation -/

/-- An operation leaves a pipeline stacked, however it ends. -/
theorem honours_carryOut_stacked (op : Operation) :
    Honours (stacking older) (Releasing older) op.carryOut (fun past _ p => Stacked past p)
      fun past _ p => Stacked past p := by
  cases op with
  | build vertex fragment shape =>
    exact Honours.bind honours_build_stacked fun _ => honours_pure fun _ _ h => h
  | teardown => exact honours_teardown_stacked.weaken_ok fun _ _ _ h => h.1.1

/-- The contract to hold **no more than one pipeline**, whatever part of it makes the call. -/
def holding {σ : Type} : Contract Device σ where
  relies _ _ := True
  guarantees past _ _ := InOrder (held past)

/-- A build or a teardown leaves what is held in order, however it ends. -/
theorem keeps_stacked_carryOut (op : Operation) : Keeps holding Stacked op.carryOut := by
  intro past p h
  have hop : Honours holding (Releasing (created past)) op.carryOut
      (fun past _ p => Stacked past p) fun past _ p => Stacked past p :=
    (honours_carryOut_stacked op).recontract (fun _ _ h => h) fun _ _ _ hcall => hcall.2.1
  exact hop past p ⟨h, rfl⟩

/-- Where what is held is in order at each call and in the end, it is at most one pipeline at every
point of a path. -/
theorem atMostOne_of_guaranteed {σ : Type} {moments before : List (Moment Device σ)} {p : Pipeline}
    (hcalls : holding.Guaranteed [] moments) (hend : Stacked (moments.map Moment.exchange) p)
    (hbefore : before <+: moments) : AtMostOne (held (before.map Moment.exchange)) := by
  obtain ⟨after, rfl⟩ := hbefore
  cases after with
  | nil =>
    rw [List.append_nil] at hend
    rw [hend.held_eq]
    exact hend.inOrder.atMostOne
  | cons m after => exact (hcalls before m after rfl).atMostOne

/-- Whenever an operation creates, nothing is left of what was created before it. -/
theorem afresh_of_path {op : Operation} {past : List (Exchange Device)} {p p' : Pipeline}
    {moments before after : List (Moment Device Pipeline)} {m : Moment Device Pipeline}
    {result : Except Fault Unit} (h : Stacked past p)
    (hpath : Dialogue.Path (op.carryOut p) moments result p') (he : moments = before ++ m :: after)
    (hcreates : m.call.creates = true) : Afresh past (before.map Moment.exchange) := by
  have hop : Honours (stacking (created past)) (Releasing (created past)) op.carryOut
      (fun past _ p => Stacked past p) fun past _ p => Stacked past p :=
    honours_carryOut_stacked op
  obtain ⟨hcalls, -⟩ := hop.path_end ⟨h, rfl⟩ hpath fun _ _ _ _ => trivial
  exact afresh_of_created_eq ((hcalls before m after he).2.2 hcreates)

end Pipeline

end ShaderPreview
