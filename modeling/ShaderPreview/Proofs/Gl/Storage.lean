import ShaderPreview.Proofs.Gl.Tables
import ShaderPreview.Proofs.Platform.Ledger

/-!
# The Storage of a Device

A device on a context keeps each object that it obtains in a **place**: a linked program and a
vertex array beside the program they belong to, the object of a buffer under the buffer's handle,
and a trial program in its hand, until it is given back. The ledger of the context tallies with
these places, whatever the device is asked for, as long as the context gives new objects and does
not refuse a release.

Two calls put an object in a place that another one may have. Linking a program again **replaces**
what the earlier link gave, which is lost. An upload first gives back what was in the buffer, and if
no new buffer is to be had, the device is **spoilt**: what was given back still stands in its place.

## Main definitions

* `GlDevice.Place`, `GlDevice.storage`: where objects are kept.
* `GlDevice.Spares`, `GlDevice.Orderly`: what is relied on, of an exchange and of all that passed.
* `GlDevice.Spared`: besides, no buffer was refused.
* `GlDevice.Stocked`: the ledger tallies with what is stored.
* `GlDevice.replaced`, `GlDevice.Spoilt`: what a second link loses, and what a refused upload
  leaves.

## Main results

* `GlDevice.honours_perform`: a device call leaves the device stocked, or spoilt by an upload.
* `GlDevice.honours_release`: a released device has nothing left.
-/

namespace ShaderPreview

/-- A device call that **takes back**: it deletes something or gives up a frame. -/
def Device.Call.takesBack : Device.Call → Bool
  | .deleteShader _ => true
  | .deleteProgram _ => true
  | .deleteBuffer _ => true
  | .cancelFrame _ => true
  | _ => false

namespace GlDevice

open Procedure Contract Platform

/-! ### Places -/

/-- **Where a device keeps** an object. -/
inductive Place where
  | linked (program : Handle)
  | array (program : Handle)
  | data (buffer : Handle)
  | hand
  deriving DecidableEq

/-- What a device has **stored** between its calls. Its hand is empty then. -/
def storage (d : GlDevice) : Place → Option GpuObject
  | .linked handle => (d.programs.find? handle).bind fun p =>
      p.linkedProgram.map fun l => .program l.number
  | .array handle => (d.programs.find? handle).bind fun p => p.vertexArray.map .vertexArray
  | .data handle => (d.buffers.find? handle).bind fun object => object.map .buffer
  | .hand => none

variable {d : GlDevice} {handle : Handle}

/-- A device with the same programs and buffers has the same storage. -/
theorem storage_congr {d' : GlDevice} (hprograms : d'.programs = d.programs)
    (hbuffers : d'.buffers = d.buffers) : d'.storage = d.storage := by
  funext place
  cases place <;> simp only [storage, hprograms, hbuffers]

/-- The storage where a program is forgotten. -/
theorem storage_erase_program :
    storage { d with programs := d.programs.erase handle } =
      Function.update (Function.update d.storage (.array handle) none) (.linked handle) none := by
  funext place
  cases place <;> grind [storage, Function.update_apply, Registry.find?_erase]

/-- The storage where the object of a buffer is kept. -/
theorem storage_put_buffer {object : Option Nat} :
    storage { d with buffers := d.buffers.put handle object } =
      Function.update d.storage (.data handle) (object.map .buffer) := by
  funext place
  cases place <;> grind [storage, Function.update_apply, Registry.find?_put]

/-- The storage where a buffer is forgotten. -/
theorem storage_erase_buffer :
    storage { d with buffers := d.buffers.erase handle } =
      Function.update d.storage (.data handle) none := by
  funext place
  cases place <;> grind [storage, Function.update_apply, Registry.find?_erase]

/-- Keeping a program with the same objects leaves the storage as it is. -/
theorem storage_amend_program {p p' : GlProgram} (hp : d.programs.find? handle = some p)
    (hlinked : p'.linkedProgram = p.linkedProgram) (harray : p'.vertexArray = p.vertexArray) :
    storage { d with programs := d.programs.put handle p' } = d.storage := by
  funext place
  cases place <;> grind [storage, Registry.find?_put]

/-! ### The tally -/

/-- What is relied on: objects are new, and the context **spares** releases, that is, it refuses
none. -/
def Spares (past : List (Exchange Platform)) (x : Exchange Platform) : Prop :=
  Fresh past x ∧ (x.call.released?.isSome → Answered past x)

/-- A device is **stocked** with what some places hold. Without a context they hold nothing. -/
structure Stocked (lost : List GpuObject) (held : Place → Option GpuObject) (d : GlDevice)
    (past : List (Exchange Platform)) (s : GlDevice) : Prop where
  state_eq : s = d
  tally : Tally lost past held
  context : d.hasContext = false → ∀ place, held place = none

/-- A device is **in stock** between calls: it is stocked with what it has stored. -/
def InStock (lost : List GpuObject) (past : List (Exchange Platform)) (s : GlDevice) : Prop :=
  Stocked lost s.storage s past s

/-- A device is **spoilt** by an upload: what was in the buffer was released, another one was
refused, and the released object stands in its place as before. -/
structure Spoilt (d : GlDevice) (handle : Handle) (past : List (Exchange Platform)) (s : GlDevice) :
    Prop where
  state_eq : s = d
  released : ∃ o, d.storage (.data handle) = some o ∧ o ∈ released past
  refused : ∃ data fault, ⟨.createBuffer data, .error fault⟩ ∈ past

variable {lost : List GpuObject} {held : Place → Option GpuObject} {place : Place}
  {err : List (Exchange Platform) → Fault → GlDevice → Prop}

/-- A device that is stocked with what it stores is in stock. -/
theorem Stocked.inStock {past : List (Exchange Platform)} {s : GlDevice}
    (h : Stocked lost held d past s) (hheld : d.storage = held) : InStock lost past s := by
  obtain ⟨rfl, htally, hcontext⟩ := h
  subst hheld
  exact ⟨rfl, htally, hcontext⟩

/-- A change of the device's own state leaves what is held. -/
theorem honours_change {f : GlDevice → GlDevice} (hcontext : (f d).hasContext = d.hasContext) :
    Honours (lax Spares) (Stocked lost held d) (update f)
      (fun past _ s => Stocked lost held (f d) past s) err := by
  refine honours_update ?_
  rintro past s ⟨rfl, htally, hheld⟩
  exact ⟨rfl, htally, fun h => hheld (hcontext.symm.trans h)⟩

/-- A call that makes nothing and releases nothing leaves what is held. -/
theorem keeps_ask {call : Platform.Call} (hobtained : ∀ reply, obtained? ⟨call, reply⟩ = none)
    (hreleased : call.released? = none) :
    Keeps (lax Spares) (Stocked lost held d) (Platform.ask call) := by
  have hkeep : ∀ past s reply, Stocked lost held d past s →
      Stocked lost held d (past ++ [⟨call, reply⟩]) s := fun past s reply h =>
    ⟨h.state_eq, h.tally.keep (hobtained reply) hreleased, h.context⟩
  exact honours_perform (fun _ _ _ => trivial) (fun past s a h _ => hkeep past s _ h)
    fun past s fault h _ => hkeep past s _ h

/-- A call that makes an object puts it in a place. -/
theorem honours_obtain {call : Platform.Call} (name : Platform.Reply call → GpuObject)
    (place : Place) (hname : ∀ a, obtained? ⟨call, .ok a⟩ = some (name a))
    (hcontext : d.hasContext = true) :
    Honours (lax Spares) (Stocked lost held d) (Platform.ask call)
      (fun past a s => Stocked (lost ++ (held place).toList)
        (Function.update held place (some (name a))) d past s)
      (fun past fault s => Stocked lost held d past s ∧ ⟨call, .error fault⟩ ∈ past) := by
  refine honours_perform (fun _ _ _ => trivial) ?_ ?_
  · rintro past s a ⟨rfl, htally, -⟩ hrelied
    refine ⟨rfl, htally.obtain (hname a) (hrelied.1 _ (hname a)) place, fun h => ?_⟩
    rw [hcontext] at h
    cases h
  · rintro past s fault ⟨rfl, htally, hheld⟩ -
    have hreleased : call.released? = none := by
      cases call <;> first | rfl | exact absurd (hname ()) nofun
    exact ⟨⟨rfl, htally.keep (obtained?_error call fault) hreleased, hheld⟩,
      List.mem_append_right _ (.head _)⟩

/-- What is given back is released from its place. -/
theorem honours_releaseObject {object : Option GpuObject} (hplace : held place = object) :
    Honours (lax Spares) (Stocked lost held d) (releaseObject object)
      (fun past _ s => Stocked lost (Function.update held place none) d past s ∧
        ∀ o, object = some o → o ∈ released past) err := by
  cases object with
  | none =>
    refine honours_pure fun past s h => ⟨?_, nofun⟩
    rwa [← hplace, Function.update_eq_self]
  | some object =>
    refine honours_perform (fun _ _ _ => trivial) ?_ ?_
    · rintro past s a ⟨rfl, htally, hheld⟩ -
      refine ⟨⟨rfl, htally.release rfl hplace, fun h place' => ?_⟩, ?_⟩
      · rw [hheld h place] at hplace
        cases hplace
      · rintro o ⟨⟩
        rw [released_append_singleton]
        exact List.mem_append_right _ (.head _)
    · rintro past s fault - ⟨-, hanswered⟩
      exact absurd (hanswered rfl) not_exists_error_eq_ok

/-! ### Looking things up -/

/-- Asking for the context finds out whether it is there. -/
theorem honours_stocked_requireContext :
    Honours (lax Spares) (Stocked lost held d) requireContext
      (fun past _ s => Stocked lost held d past s ∧ d.hasContext = true)
      (fun past _ s => Stocked lost held d past s ∧ d.hasContext = false) := by
  rw [requireContext]
  refine honours_state_bind fun w => ?_
  rintro past s ⟨rfl, h⟩
  obtain rfl := h.state_eq
  cases hcontext : s.hasContext with
  | true => exact ⟨h, rfl⟩
  | false => exact ⟨h, rfl⟩

/-- Looking something up finds what is there. -/
theorem honours_stocked_require {α : Type} {registry : GlDevice → Registry α} {key : Int} :
    Honours (lax Spares) (Stocked lost held d) (require registry key)
      (fun past a s => Stocked lost held d past s ∧ (registry d).find? key = some a)
      (fun past _ s => Stocked lost held d past s ∧ (registry d).find? key = none) :=
  honours_require fun _ _ h => h.state_eq

/-- A call that begins with an entry of a table goes on with what the table has. -/
theorem honours_stocked_require_bind {α β : Type} {registry : GlDevice → Registry α} {key : Int}
    {f : α → GlProcedure β} {ok : List (Exchange Platform) → β → GlDevice → Prop}
    (hnone : ∀ past fault s, Stocked lost held d past s → (registry d).find? key = none →
      err past fault s)
    (hsome : ∀ a, (registry d).find? key = some a →
      Honours (lax Spares) (Stocked lost held d) (f a) ok err) :
    Honours (lax Spares) (Stocked lost held d) (require registry key >>= f) ok err :=
  Honours.bind (honours_stocked_require.weaken_err fun past fault s h => hnone past fault s h.1 h.2)
    fun a => honours_given (hsome a)

/-- See `honours_stocked_require_bind`. Without the entry the device stays in stock. -/
theorem honours_require_bind {α β : Type} {registry : GlDevice → Registry α} {key : Int}
    {f : α → GlProcedure β} {ok : List (Exchange Platform) → β → GlDevice → Prop}
    (h : ∀ a, (registry d).find? key = some a →
      Honours (lax Spares) (Stocked lost d.storage d) (f a) ok
        fun past _ s => InStock lost past s) :
    Honours (lax Spares) (Stocked lost d.storage d) (require registry key >>= f) ok
      fun past _ s => InStock lost past s :=
  honours_stocked_require_bind (fun _ _ _ h _ => h.inStock rfl) h

/-! ### Shaders -/

/-- A program that the context is asked for is put in a place, if there is one. -/
theorem honours_attempt_link {vertex : String} {fragment : Option String} (place : Place)
    (hcontext : d.hasContext = true) :
    Honours (lax Spares) (Stocked lost held d)
      (Platform.ask (.linkProgram vertex fragment)).attempt
      (fun past r s => match r with
        | .ok linked => Stocked (lost ++ (held place).toList)
            (Function.update held place (some (.program linked.number))) d past s
        | .error _ => Stocked lost held d past s)
      err :=
  Honours.attempt ((honours_obtain (fun linked : LinkedProgram => .program linked.number) place
    (fun _ => rfl) hcontext).weaken (fun _ _ _ h => h) fun _ _ _ h => h.1)

/-- A trial program is given back at once. -/
theorem keeps_trial {s : GlShader} (hhand : held .hand = none) :
    Keeps (lax Spares) (Stocked lost held d) (trial s) := by
  rw [trial]
  refine honours_state_bind fun w => ?_
  refine Honours.mono ?_ (fun _ _ h => h.2) (fun _ _ _ h => h) (fun _ _ _ h => h)
  refine Honours.bind (honours_stocked_requireContext.weaken_err fun _ _ _ h => h.1) fun _ => ?_
  refine honours_given fun hcontext => ?_
  refine Honours.bind (honours_attempt_link .hand hcontext) fun r => ?_
  rcases r with fault | linked
  · cases fault with
    | rejected message =>
      by_cases hcompiler : Text.contains compilerFailed.toList message.toList = true
      · simp only [hcompiler, if_true]
        exact honours_pure fun _ _ h => h
      · simp only [hcompiler]
        exact Honours.bind (honours_tell fun _ _ h => h) fun _ => honours_pure fun _ _ h => h
    | _ => exact honours_fail fun _ _ h => h
  · have hback : Function.update (Function.update held .hand (some (.program linked.number)))
        .hand none = held := by
      rw [Function.update_idem, ← hhand, Function.update_eq_self]
    have hrelease : Honours (lax Spares)
        (Stocked lost (Function.update held .hand (some (.program linked.number))) d)
        (releaseObject (some (.program linked.number)))
        (fun past _ s => Stocked lost held d past s)
        fun past _ s => Stocked lost held d past s := by
      refine (honours_releaseObject (Function.update_self ..)).weaken_ok fun past _ s h => ?_
      rw [hback] at h
      exact h.1
    rw [hhand, Option.toList_none, List.append_nil]
    exact Honours.bind hrelease fun _ => honours_pure fun _ _ h => h

/-- Compiling leaves a device in stock: what a trial obtains it gives back. -/
theorem keeps_compileShader {shader : Handle} {source : String} :
    Honours (lax Spares) (Stocked lost d.storage d) (compileShader shader source)
      (fun past _ s => InStock lost past s) (fun past _ s => InStock lost past s) := by
  rw [compileShader]
  refine honours_require_bind fun s _ => ?_
  refine honours_state_bind fun w => ?_
  refine Honours.mono ?_ (fun _ _ h => h.2) (fun _ _ _ h => h) (fun _ _ _ h => h)
  refine Honours.bind (honours_change rfl) fun _ => ?_
  refine Honours.bind ((keeps_trial rfl).weaken_err
    fun _ _ _ h => h.inStock (storage_congr rfl rfl)) fun diagnostic => ?_
  cases diagnostic with
  | none =>
    exact (honours_change rfl).weaken_ok fun _ _ _ h => h.inStock (storage_congr rfl rfl)
  | some message =>
    exact (honours_change rfl).weaken_ok fun _ _ _ h => h.inStock (storage_congr rfl rfl)

/-! ### Programs -/

/-- Linking some shaders obtains a program for the given place, from which what was there is lost;
or it obtains nothing. -/
theorem honours_linkShaders {shaders : List GlShader} (place : Place) :
    Honours (lax Spares) (Stocked lost held d) (linkShaders shaders)
      (fun past r s => match r with
        | .ok linked => Stocked (lost ++ (held place).toList)
            (Function.update held place (some (.program linked.number))) d past s
        | .error _ => Stocked lost held d past s)
      (fun past _ s => Stocked lost held d past s) := by
  rw [linkShaders]
  refine Honours.bind (honours_stocked_requireContext.weaken_err fun _ _ _ h => h.1) fun _ => ?_
  refine honours_given fun hcontext => ?_
  cases sourceOf .vertex shaders with
  | none => exact honours_pure fun _ _ h => h
  | some vertex =>
    cases sourceOf .fragment shaders with
    | none => exact honours_pure fun _ _ h => h
    | some fragment =>
      refine Honours.bind (honours_attempt_link place hcontext) fun r => ?_
      rcases r with fault | linked
      · cases fault with
        | rejected message => exact honours_pure fun _ _ h => h
        | _ => exact honours_fail fun _ _ h => h
      · exact honours_pure fun _ _ h => h

/-- Keeping a program with the same objects leaves the device in stock. -/
theorem honours_keepProgram {p p' : GlProgram} (hp : d.programs.find? handle = some p)
    (hlinked : p'.linkedProgram = p.linkedProgram) (harray : p'.vertexArray = p.vertexArray) :
    Honours (lax Spares) (Stocked lost d.storage d) (keepProgram handle p')
      (fun past _ s => InStock lost past s) err :=
  (honours_change rfl).weaken_ok fun _ _ _ h => h.inStock (storage_amend_program hp hlinked harray)

/-- Attaching a shader leaves a device in stock. -/
theorem keeps_attachShader {shader : Handle} :
    Honours (lax Spares) (Stocked lost d.storage d) (attachShader handle shader)
      (fun past _ s => InStock lost past s) (fun past _ s => InStock lost past s) := by
  rw [attachShader]
  exact honours_require_bind fun p hp => honours_keepProgram hp rfl rfl

/-- Linking loses what an earlier link gave, if it succeeds, and changes nothing that is stored
otherwise. -/
theorem honours_linkProgram :
    Honours (lax Spares) (Stocked lost d.storage d) (linkProgram handle)
      (fun past _ s => InStock lost past s ∧ s.storage = d.storage ∨
        InStock (lost ++ (d.storage (.linked handle)).toList) past s)
      (fun past _ s => InStock lost past s ∧ s.storage = d.storage) := by
  have hsame : ∀ {past s}, Stocked lost d.storage d past s →
      InStock lost past s ∧ s.storage = d.storage := fun h => ⟨h.inStock rfl, by rw [h.state_eq]⟩
  rw [linkProgram]
  refine honours_stocked_require_bind (fun _ _ _ h _ => hsame h) fun p hp => ?_
  refine Honours.bind (keeps_shadersOf.weaken_err fun _ _ _ h => hsame h) fun shaders => ?_
  refine Honours.bind ((honours_linkShaders (.linked handle)).weaken_err
    fun _ _ _ h => hsame h) fun r => ?_
  rcases r with message | linked
  · refine (honours_change rfl).weaken_ok fun _ _ _ h => .inl ?_
    have hstorage : storage { d with
        programs := d.programs.put handle { p with linked := false, infoLog := message } } =
          d.storage := storage_amend_program hp rfl rfl
    exact ⟨h.inStock hstorage, by rw [h.state_eq, hstorage]⟩
  · refine (honours_change rfl).weaken_ok fun _ _ _ h => .inr (h.inStock ?_)
    funext place
    cases place <;> grind [storage, Function.update_apply, Registry.find?_put]

/-- A deleted program is given back with its vertex array. -/
theorem honours_deleteProgram :
    Honours (lax Spares) (Stocked lost d.storage d) (deleteProgram handle)
      (fun past _ s => InStock lost past s) err := by
  rw [deleteProgram]
  refine honours_state_bind fun w => ?_
  rintro past s ⟨rfl, h⟩
  obtain rfl := h.state_eq
  cases hp : s.programs.find? handle with
  | none => exact h
  | some p =>
    refine Honours.bind (honours_change rfl) (fun _ => ?_) past s h
    have harray : s.storage (.array handle) = p.vertexArray.map .vertexArray := by
      simp only [storage, hp, Option.bind_some]
    have hlinked : Function.update s.storage (.array handle) none (.linked handle) =
        p.linkedProgram.map fun l => .program l.number := by
      simp only [storage, hp, Option.bind_some, ne_eq, reduceCtorEq, not_false_eq_true,
        Function.update_of_ne]
    refine Honours.bind ((honours_releaseObject harray).weaken_ok fun _ _ _ h => h.1) fun _ => ?_
    exact (honours_releaseObject hlinked).weaken_ok fun _ _ _ h => h.1.inStock storage_erase_program

/-! ### Buffers and inputs -/

/-- A buffer whose place was emptied is filled, unless the context is gone or refuses. -/
theorem honours_fillBuffer {data : List UInt8} :
    Honours (lax Spares) (Stocked lost (Function.update d.storage (.data handle) none) d)
      (do
        requireContext
        let object : Nat ← Platform.ask (.createBuffer data)
        keepBuffer handle (some object))
      (fun past _ s => InStock lost past s)
      (fun past _ s => Stocked lost (Function.update d.storage (.data handle) none) d past s ∧
        (d.hasContext = false ∨ ∃ data fault, ⟨.createBuffer data, .error fault⟩ ∈ past)) := by
  refine Honours.bind (honours_stocked_requireContext.weaken_err
    fun _ _ _ h => ⟨h.1, .inl h.2⟩) fun _ => ?_
  refine honours_given fun hcontext => ?_
  refine Honours.bind ((honours_obtain (fun object : Nat => .buffer object) (.data handle)
    (fun _ => rfl) hcontext).weaken_err fun _ fault _ h => ⟨h.1, .inr ⟨data, fault, h.2⟩⟩)
    fun object => ?_
  rw [Function.update_self, Option.toList_none, List.append_nil, Function.update_idem]
  exact (honours_change rfl).weaken_ok fun _ _ _ h => h.inStock storage_put_buffer

/-- An upload puts the new object in the place of the one that it gave back. If there is no new
object the device is spoilt, unless the place was empty. -/
theorem honours_uploadBuffer {data : List UInt8} :
    Honours (lax Spares) (Stocked lost d.storage d) (uploadBuffer handle data)
      (fun past _ s => InStock lost past s)
      (fun past _ s => InStock lost past s ∧ d.storage (.data handle) = none ∨
        Spoilt d handle past s) := by
  rw [uploadBuffer]
  refine honours_stocked_require_bind (fun _ _ _ h hbuffer => .inl ⟨h.inStock rfl, ?_⟩)
    fun previous hbuffer => ?_
  · simp only [storage, hbuffer, Option.bind_none]
  have hplace : d.storage (.data handle) = previous.map .buffer := by
    simp only [storage, hbuffer, Option.bind_some]
  intro past s h
  have hgrow : ∀ past x, (∀ o, previous.map .buffer = some o → o ∈ released past) →
      ∀ o, previous.map .buffer = some o → o ∈ released (past ++ [x]) := fun past x hpast o ho =>
    mem_released_append (hpast o ho)
  refine Honours.bind (honours_releaseObject hplace) (fun _ => ?_) past s h
  refine ((honours_fillBuffer.mono (fun _ _ h => h.1) (fun _ _ _ h => h) fun _ _ _ h => h).and
    (honours_of_past hgrow fun _ _ h => h) (fun _ _ h => h.2) fun _ _ h => h).weaken
      (fun _ _ _ h => h.1) ?_
  rintro past fault s ⟨⟨hstocked, hwhy⟩, hreleased⟩
  cases hprevious : previous.map GpuObject.buffer with
  | none =>
    rw [hprevious] at hplace
    rw [← hplace, Function.update_eq_self] at hstocked
    exact .inl ⟨hstocked.inStock rfl, hplace⟩
  | some o =>
    refine .inr ⟨hstocked.state_eq, ⟨o, hplace.trans hprevious, hreleased o hprevious⟩, ?_⟩
    refine hwhy.resolve_left fun hgone => ?_
    rw [h.context hgone (.data handle), hprevious] at hplace
    cases hplace

/-- A deleted buffer is given back. -/
theorem honours_deleteBuffer :
    Honours (lax Spares) (Stocked lost d.storage d) (deleteBuffer handle)
      (fun past _ s => InStock lost past s) err := by
  rw [deleteBuffer]
  refine honours_state_bind fun w => ?_
  rintro past s ⟨rfl, h⟩
  obtain rfl := h.state_eq
  cases hbuffer : s.buffers.find? handle with
  | none => exact h
  | some object =>
    refine Honours.bind (honours_change rfl) (fun _ => ?_) past s h
    have hplace : s.storage (.data handle) = object.map .buffer := by
      simp only [storage, hbuffer, Option.bind_some]
    exact (honours_releaseObject hplace).weaken_ok fun _ _ _ h => h.1.inStock storage_erase_buffer

/-- Asking for the location of an input does. -/
theorem keeps_attributeLocation {name : String} :
    Honours (lax Spares) (Stocked lost d.storage d) (attributeLocation handle name)
      (fun past _ s => InStock lost past s) (fun past _ s => InStock lost past s) := by
  rw [attributeLocation]
  refine honours_require_bind fun p hp => ?_
  cases member? p name .input with
  | none => exact honours_pure fun _ _ h => h.inStock rfl
  | some m =>
    exact Honours.bind (honours_keepProgram hp rfl rfl) fun _ => honours_pure fun _ _ h => h

/-- A binding gives back the vertex array that was made before it. -/
theorem keeps_bindAttribute {location : Int} {buffer : Handle} {components : Int} :
    Honours (lax Spares) (Stocked lost d.storage d)
      (bindAttribute handle location buffer components)
      (fun past _ s => InStock lost past s) (fun past _ s => InStock lost past s) := by
  rw [bindAttribute]
  by_cases hlocation : (location != Device.absent) = true
  · simp only [hlocation, if_true]
    refine honours_require_bind fun p hp => ?_
    cases formats.lookup components with
    | none => exact honours_fail fun _ _ h => h.inStock rfl
    | some format =>
      cases harray : p.vertexArray with
      | none =>
        exact Honours.bind (honours_keepProgram hp rfl harray.symm) fun _ =>
          honours_pure fun _ _ h => h
      | some number =>
        refine Honours.bind (honours_change rfl) fun _ => ?_
        have hplace : d.storage (.array handle) = some (.vertexArray number) := by
          simp only [storage, hp, Option.bind_some, harray, Option.map_some]
        refine Honours.bind ((honours_releaseObject hplace).weaken_ok fun _ _ _ h => h.1)
          fun _ => ?_
        refine (honours_change rfl).weaken_ok fun _ _ _ h => h.inStock ?_
        funext place
        cases place <;> grind [storage, Function.update_apply, Registry.find?_put]
  · simp only [hlocation]
    exact honours_pure fun _ _ h => h.inStock rfl

/-- Asking for that of a uniform does. -/
theorem keeps_uniformLocation {name : String} :
    Honours (lax Spares) (Stocked lost d.storage d) (uniformLocation handle name)
      (fun past _ s => InStock lost past s) (fun past _ s => InStock lost past s) := by
  rw [uniformLocation]
  refine honours_require_bind fun p hp => ?_
  cases member? p name .uniform with
  | none => exact honours_pure fun _ _ h => h.inStock rfl
  | some m =>
    cases hlinked : p.linkedProgram with
    | none => exact honours_pure fun _ _ h => h.inStock rfl
    | some linked =>
      exact Honours.bind (honours_keepProgram hp hlinked.symm rfl) fun _ =>
        honours_pure fun _ _ h => h

/-- Setting a uniform does, and stores nothing. -/
theorem keeps_setUniform {location : Int} {value : UniformValue} :
    Honours (lax Spares) (Stocked lost d.storage d) (setUniform handle location value)
      (fun past _ s => InStock lost past s) (fun past _ s => InStock lost past s) := by
  rw [setUniform]
  by_cases hlocation : (location != Device.absent) = true
  · simp only [hlocation, if_true]
    refine honours_require_bind fun p _ => ?_
    cases p.uniforms.find? location with
    | none => exact honours_fail fun _ _ h => h.inStock rfl
    | some u =>
      have hask : ∀ call : Platform.Call, (∀ reply, obtained? ⟨call, reply⟩ = none) →
          call.released? = none →
          Honours (lax Spares) (Stocked lost d.storage d) (Platform.ask call)
            (fun past _ s => InStock lost past s) (fun past _ s => InStock lost past s) :=
        fun call hobtained hreleased => (keeps_ask hobtained hreleased).weaken
          (fun _ _ _ h => h.inStock rfl) fun _ _ _ h => h.inStock rfl
      cases value with
      | scalar x => exact hask _ (fun _ => rfl) rfl
      | vector xs => exact hask _ (fun _ => rfl) rfl
      | matrix m => exact hask _ (fun _ => rfl) rfl
      | wideMatrix m => exact hask _ (fun _ => rfl) rfl
  · simp only [hlocation]
    exact honours_pure fun _ _ h => h.inStock rfl

/-! ### Drawing -/

/-- A vertex array that is made is kept. -/
theorem keeps_vertexArray :
    Honours (lax Spares) (Stocked lost d.storage d) (vertexArray handle)
      (fun past _ s => InStock lost past s) (fun past _ s => InStock lost past s) := by
  rw [vertexArray]
  refine honours_require_bind fun p hp => ?_
  cases harray : p.vertexArray with
  | some number => exact honours_pure fun _ _ h => h.inStock rfl
  | none =>
    cases hlinked : p.linkedProgram with
    | none => exact honours_fail fun _ _ h => h.inStock rfl
    | some linked =>
      refine Honours.bind (keeps_vertexInputs.weaken_err
        fun _ _ _ h => h.inStock rfl) fun inputs => ?_
      refine Honours.bind (honours_stocked_requireContext.weaken_err
        fun _ _ _ h => h.1.inStock rfl) fun _ => ?_
      refine honours_given fun hcontext => ?_
      have hempty : d.storage (.array handle) = none := by
        simp only [storage, hp, Option.bind_some, harray, Option.map_none]
      have hcreate : Honours (lax Spares) (Stocked lost d.storage d)
          (Platform.ask (.createVertexArray linked.number inputs))
          (fun past (number : Nat) s => Stocked lost
            (Function.update d.storage (.array handle) (some (.vertexArray number))) d past s)
          (fun past _ s => InStock lost past s) := by
        refine (honours_obtain (fun number : Nat => .vertexArray number) (.array handle)
          (fun _ => rfl) hcontext).weaken (fun past number s h => ?_)
          fun _ _ _ h => h.1.inStock rfl
        rwa [hempty, Option.toList_none, List.append_nil] at h
      refine Honours.bind hcreate fun number => ?_
      refine Honours.bind ((honours_change rfl).weaken_ok fun past _ s h => h.inStock ?_)
        fun _ => honours_pure fun _ _ h => h
      funext place
      cases place <;> grind [storage, Function.update_apply, Registry.find?_put]

/-- A draw does: the vertex array that it makes has a place. -/
theorem keeps_drawTriangles {vertices : Int} :
    Honours (lax Spares) (Stocked lost d.storage d) (drawTriangles handle vertices)
      (fun past _ s => InStock lost past s) (fun past _ s => InStock lost past s) := by
  rw [drawTriangles]
  exact Honours.bind keeps_vertexArray fun number past s h =>
    (keeps_ask (fun _ => rfl) rfl).weaken (fun _ _ _ h => h.inStock rfl)
      (fun _ _ _ h => h.inStock rfl) past s h

/-! ### Calls -/

/-- The object that a call **replaces**, if it comes to its end: what an earlier link gave. -/
def replaced (d : GlDevice) : Device.Call → List GpuObject
  | .linkProgram handle => (d.storage (.linked handle)).toList
  | _ => []

/-- A call **replaced nothing**: if it is a link, all is stored as before. -/
def Retains (d : GlDevice) (call : Device.Call) (s : GlDevice) : Prop :=
  ∀ handle, call = .linkProgram handle → s.storage = d.storage

/-- A call **gives nothing up**: if it is an upload, there was nothing in the buffer. -/
def GivesUpNothing (d : GlDevice) (call : Device.Call) : Prop :=
  ∀ handle data, call = .uploadBuffer handle data → d.storage (.data handle) = none

/-- What a device call comes to when it leaves the device **in stock**. It loses no more than what
it replaces, and it does not fail if it takes back. Only an upload may spoil the device, and it does
so just if it fails after it gave something up. -/
abbrev Stocks (lost : List GpuObject) (d : GlDevice) (call : Device.Call)
    (p : GlProcedure (Device.Reply call)) : Prop :=
  Honours (lax Spares) (Stocked lost d.storage d) p
    (fun past _ s => InStock lost past s ∧ d.Retains call s ∨
      InStock (lost ++ d.replaced call) past s)
    fun past _ s => (InStock lost past s ∧ d.Retains call s ∧ d.GivesUpNothing call ∨
      ∃ handle data, call = .uploadBuffer handle data ∧ Spoilt d handle past s) ∧
        call.takesBack = false

/-- A call that fills no place replaces nothing. -/
theorem retains_of_fills? {call : Device.Call} {s : GlDevice} (h : call.fills? = none) :
    d.Retains call s := by
  rintro handle rfl
  cases h

/-- Nor does it give anything up. -/
theorem givesUpNothing_of_fills? {call : Device.Call} (h : call.fills? = none) :
    d.GivesUpNothing call := by
  rintro handle data rfl
  cases h

/-- A call that fills nothing and leaves the device in stock stocks it. -/
theorem Stocks.of_inStock {call : Device.Call} {p : GlProcedure (Device.Reply call)}
    (hcall : call.takesBack = false) (hfills : call.fills? = none)
    (h : Honours (lax Spares) (Stocked lost d.storage d) p (fun past _ s => InStock lost past s)
      fun past _ s => InStock lost past s) : Stocks lost d call p :=
  h.weaken (fun _ _ _ h => .inl ⟨h, retains_of_fills? hfills⟩) fun _ _ _ h =>
    ⟨.inl ⟨h, retains_of_fills? hfills, givesUpNothing_of_fills? hfills⟩, hcall⟩

/-- What leaves a device as it is leaves it in stock. -/
theorem Stocks.of_keeps {call : Device.Call} {p : GlProcedure (Device.Reply call)}
    (hcall : call.takesBack = false) (hfills : call.fills? = none)
    (h : Keeps (lax Spares) (Stocked lost d.storage d) p) : Stocks lost d call p :=
  .of_inStock hcall hfills
    (h.weaken (fun _ _ _ h => h.inStock rfl) fun _ _ _ h => h.inStock rfl)

/-- A device with the same storage is in stock as well. -/
theorem Stocked.congr {past : List (Exchange Platform)} {s d' : GlDevice}
    (h : Stocked lost d.storage d past s) (hstorage : d'.storage = d.storage)
    (hcontext : d'.hasContext = d.hasContext) : InStock lost past d' :=
  ⟨rfl, hstorage ▸ h.tally, fun hgone => hstorage ▸ h.context (hcontext ▸ hgone)⟩

/-- A new program holds nothing. -/
theorem stocks_createProgram (hd : d.Numbered) : Stocks lost d .createProgram createProgram := by
  have hnone := (hd (d.lastHandle + 1) (Int.lt_succ d.lastHandle)).1
  rintro past s h
  obtain rfl := h.state_eq
  refine .inl ⟨h.congr ?_ rfl, retains_of_fills? rfl⟩
  funext place
  cases place <;> grind [storage, Registry.find?_put]

/-- A new buffer holds nothing. -/
theorem stocks_createBuffer (hd : d.Numbered) : Stocks lost d .createBuffer createBuffer := by
  have hnone := (hd (d.lastHandle + 1) (Int.lt_succ d.lastHandle)).2
  rintro past s h
  obtain rfl := h.state_eq
  refine .inl ⟨h.congr ?_ rfl, retains_of_fills? rfl⟩
  funext place
  cases place <;> grind [storage, Registry.find?_put]

/-- Setting the view leaves the device in stock. -/
theorem honours_stocked_setViewport {size : ViewSize} :
    Honours (lax Spares) (Stocked lost d.storage d) (setViewport size)
      (fun past _ s => InStock lost past s) (fun past _ s => InStock lost past s) := by
  have hstorage : d.storage = storage { d with view := size } := storage_congr rfl rfl
  refine Honours.bind (honours_change rfl) fun _ => ?_
  rw [hstorage]
  refine Honours.bind (honours_stocked_requireContext.weaken (fun _ _ _ h => h.1)
    fun _ _ _ h => h.1.inStock rfl) fun _ => ?_
  exact (keeps_ask (fun _ => rfl) rfl).weaken (fun _ _ _ h => h.inStock rfl)
    fun _ _ _ h => h.inStock rfl

/-- **A device call** leaves the device in stock, or spoilt by an upload. -/
theorem honours_perform (hd : d.Numbered) (call : Device.Call) :
    Stocks lost d call (perform call) := by
  have hstate : ∀ {call : Device.Call} (f : GlDevice → Device.Reply call), call.takesBack = false →
      call.fills? = none → Stocks lost d call (do return f (← state)) := fun f hcall hfills =>
    .of_keeps hcall hfills (honours_state_bind fun _ => honours_pure fun _ _ h => h.2)
  have hrequire : ∀ (call : Device.Call) {α : Type} {registry : GlDevice → Registry α} {key : Int}
      (f : α → Device.Reply call), call.takesBack = false → call.fills? = none →
      Stocks lost d call (do return f (← require registry key)) := fun call _ _ _ f hcall hfills =>
    .of_keeps hcall hfills (Honours.bind (honours_stocked_require.weaken_err fun _ _ _ h => h.1)
      fun _ => honours_pure fun _ _ h => h.1)
  have hcontext : ∀ {call : Device.Call} {p : GlProcedure (Device.Reply call)},
      call.takesBack = false → call.fills? = none →
      Keeps (lax Spares) (Stocked lost d.storage d) p →
      Stocks lost d call (do requireContext; p) := fun hcall hfills hp =>
    .of_keeps hcall hfills (Honours.bind (honours_stocked_requireContext.weaken
      (fun _ _ _ h => h.1) fun _ _ _ h => h.1) fun _ => hp)
  have htakes : ∀ {call : Device.Call} {p : GlProcedure (Device.Reply call)},
      call.fills? = none →
      Honours (lax Spares) (Stocked lost d.storage d) p (fun past _ s => InStock lost past s)
        (fun _ _ _ => False) → Stocks lost d call p := fun hfills hp =>
    hp.weaken (fun _ _ _ h => .inl ⟨h, retains_of_fills? hfills⟩) fun _ _ _ h => h.elim
  cases call with
  | isAvailable => exact hstate _ rfl rfl
  | createShader stage =>
    rintro past s h
    obtain rfl := h.state_eq
    exact .inl ⟨h.congr (storage_congr rfl rfl) rfl, retains_of_fills? rfl⟩
  | compileShader shader source => exact .of_inStock rfl rfl keeps_compileShader
  | shaderCompiled shader => exact hrequire (.shaderCompiled shader) GlShader.compiled rfl rfl
  | shaderInfoLog shader => exact hrequire (.shaderInfoLog shader) GlShader.infoLog rfl rfl
  | deleteShader shader =>
    rintro past s h
    obtain rfl := h.state_eq
    exact .inl ⟨h.congr (storage_congr rfl rfl) rfl, retains_of_fills? rfl⟩
  | createProgram => exact stocks_createProgram hd
  | attachShader program shader => exact .of_inStock rfl rfl keeps_attachShader
  | linkProgram program =>
    exact honours_linkProgram.weaken (fun _ _ _ h => h.imp_left fun h => ⟨h.1, fun _ _ => h.2⟩)
      fun _ _ _ h => ⟨.inl ⟨h.1, fun _ _ => h.2, nofun⟩, rfl⟩
  | programLinked program => exact hrequire (.programLinked program) GlProgram.linked rfl rfl
  | programInfoLog program => exact hrequire (.programInfoLog program) GlProgram.infoLog rfl rfl
  | deleteProgram program => exact htakes rfl honours_deleteProgram
  | useProgram program => exact .of_keeps rfl rfl keeps_useProgram
  | createBuffer => exact stocks_createBuffer hd
  | uploadBuffer buffer data =>
    refine honours_uploadBuffer.weaken (fun _ _ _ h => .inl ⟨h, nofun⟩) fun _ _ _ h => ⟨?_, rfl⟩
    rcases h with ⟨hstock, hnone⟩ | hspoilt
    · refine .inl ⟨hstock, nofun, ?_⟩
      rintro _ _ ⟨⟩
      exact hnone
    · exact .inr ⟨buffer, data, rfl, hspoilt⟩
  | deleteBuffer buffer => exact htakes rfl honours_deleteBuffer
  | attributeLocation program name => exact .of_inStock rfl rfl keeps_attributeLocation
  | bindAttribute program location buffer components =>
    exact .of_inStock rfl rfl keeps_bindAttribute
  | uniformLocation program name => exact .of_inStock rfl rfl keeps_uniformLocation
  | setUniform program location value => exact .of_inStock rfl rfl keeps_setUniform
  | viewportSize => exact hstate _ rfl rfl
  | setViewport size => exact .of_inStock rfl rfl honours_stocked_setViewport
  | clear color => exact hcontext rfl rfl (keeps_ask (fun _ => rfl) rfl)
  | enableDepthTest => exact hcontext rfl rfl (keeps_ask (fun _ => rfl) rfl)
  | drawTriangles program vertices => exact .of_inStock rfl rfl keeps_drawTriangles
  | requestFrame => exact .of_keeps rfl rfl (honours_pure fun _ _ h => h)
  | cancelFrame token => exact htakes rfl (honours_pure fun _ _ h => h.inStock rfl)
  | now => exact .of_keeps rfl rfl (keeps_ask (fun _ => rfl) rfl)

/-! ### Releasing the device -/

/-- Deleting several programs leaves a device in stock. The induction is on their handles. -/
theorem honours_deletePrograms {handles : List Handle} :
    Honours (lax Spares) (InStock lost) (deletePrograms handles)
      (fun past _ s => InStock lost past s) err := by
  induction handles with
  | nil => exact honours_pure fun _ _ h => h
  | cons handle rest ih =>
    exact Honours.bind (fun past s h => honours_deleteProgram past s h) fun _ => ih

/-- So does deleting several buffers. -/
theorem honours_deleteBuffers {handles : List Handle} :
    Honours (lax Spares) (InStock lost) (deleteBuffers handles)
      (fun past _ s => InStock lost past s) err := by
  induction handles with
  | nil => exact honours_pure fun _ _ h => h
  | cons handle rest ih =>
    exact Honours.bind (fun past s h => honours_deleteBuffer past s h) fun _ => ih

/-- A device without programs and buffers has nothing stored. -/
theorem storage_eq_none (hprograms : ∀ handle, d.programs.find? handle = none)
    (hbuffers : ∀ handle, d.buffers.find? handle = none) (place : Place) :
    d.storage place = none := by
  cases place <;> simp only [storage, hprograms, hbuffers, Option.bind_none]

/-- A **released device** has nothing left. -/
theorem honours_release :
    Honours (lax Spares) (Stocked lost d.storage d) release
      (fun past _ s => InStock lost past s ∧ s.hasContext = false) err := by
  have hprograms : ∀ d : GlDevice, Honours (lax Spares) (Stocked lost d.storage d)
      (deletePrograms d.programs.keys)
      (fun past _ s => InStock lost past s ∧ ∃ programs, s = { d with programs } ∧
        d.programs.Without d.programs.keys programs) err := fun d =>
    ((honours_deletePrograms.mono (fun _ _ h => h.inStock rfl) (fun _ _ _ h => h)
      fun _ _ _ h => h).and honours_is_deletePrograms (fun _ _ h => h.state_eq)
      fun _ _ _ => trivial).weaken_err fun _ _ _ h => h.1
  have hbuffers : ∀ d : GlDevice, Honours (lax Spares) (Stocked lost d.storage d)
      (deleteBuffers d.buffers.keys)
      (fun past _ s => InStock lost past s ∧ ∃ buffers, s = { d with buffers } ∧
        d.buffers.Without d.buffers.keys buffers) err := fun d =>
    ((honours_deleteBuffers.mono (fun _ _ h => h.inStock rfl) (fun _ _ _ h => h)
      fun _ _ _ h => h).and honours_is_deleteBuffers (fun _ _ h => h.state_eq)
      fun _ _ _ => trivial).weaken_err fun _ _ _ h => h.1
  rw [release]
  refine honours_state_bind fun w => ?_
  rintro past s ⟨rfl, h⟩
  obtain rfl := h.state_eq
  refine Honours.bind (hprograms s) (fun _ => ?_) past s h
  rintro past _ ⟨h, programs, rfl, hnone⟩
  refine Honours.bind (hbuffers { s with programs }) (fun _ => honours_update ?_) past _ h
  rintro past _ ⟨h, buffers, rfl, hnone'⟩
  have hempty := storage_eq_none (d := { s with programs, buffers }) hnone.find?_eq_none
    hnone'.find?_eq_none
  exact ⟨⟨rfl, h.tally, fun _ => hempty⟩, rfl⟩

/-! ### Without refusals -/

/-- The context was **orderly**: it refused no release, and no object was obtained twice. -/
structure Orderly (past : List (Exchange Platform)) : Prop where
  nodup : (obtained past).Nodup
  answered : ∀ x ∈ past, x.call.released?.isSome → ∃ a, x.reply = .ok a

/-- A result that is no fault has a value. -/
theorem exists_eq_ok_of_isOk {α : Type} {r : Except Fault α} (h : r.isOk = true) :
    ∃ a, r = .ok a := by
  cases r with
  | error fault => cases h
  | ok a => exact ⟨a, rfl⟩

/-- Where each release was answered, none was refused. -/
theorem Orderly.of_all {past : List (Exchange Platform)} (hnodup : (obtained past).Nodup)
    (hok : past.all (fun x => !x.call.released?.isSome || x.reply.isOk) = true) : Orderly past := by
  refine ⟨hnodup, fun x hx hcall => exists_eq_ok_of_isOk ?_⟩
  have hreply := List.all_eq_true.mp hok x hx
  rwa [hcall] at hreply

/-- What was orderly to its end was orderly before. -/
theorem Orderly.left {past now : List (Exchange Platform)} (h : Orderly (past ++ now)) :
    Orderly past := by
  have hnodup := h.nodup
  rw [obtained, List.filterMap_append] at hnodup
  exact ⟨(List.nodup_append.mp hnodup).1, fun x hx => h.answered x (List.mem_append_left _ hx)⟩

/-- Where the context was orderly each exchange is as it is relied on. -/
theorem Orderly.relied {σ : Type} {past : List (Exchange Platform)}
    {moments : List (Moment Platform σ)} (h : Orderly (past ++ moments.map Moment.exchange)) :
    (lax Spares : Contract Platform σ).Relied past moments := by
  intro before m after he
  refine ⟨fresh_of_nodup h.nodup he, h.answered _ (List.mem_append_right _ ?_)⟩
  rw [he, List.map_append]
  exact List.mem_append_right _ (.head _)

/-- **No release and no buffer was refused**, and no object was obtained twice. -/
structure Spared (past : List (Exchange Platform)) : Prop where
  nodup : (obtained past).Nodup
  answered : ∀ x ∈ past, (x.call.released?.isSome ∨ ∃ data, x.call = .createBuffer data) →
    ∃ a, x.reply = .ok a

/-- Where releases and buffers are spared the context is orderly. -/
theorem Spared.orderly {past : List (Exchange Platform)} (h : Spared past) : Orderly past :=
  ⟨h.nodup, fun x hx hcall => h.answered x hx (.inl hcall)⟩

/-- Where everything was answered, nothing was refused. -/
theorem Spared.of_isOk {past : List (Exchange Platform)} (hnodup : (obtained past).Nodup)
    (hok : past.all (·.reply.isOk) = true) : Spared past :=
  ⟨hnodup, fun x hx _ => exists_eq_ok_of_isOk (List.all_eq_true.mp hok x hx)⟩

/-- What was spared to its end was spared before. -/
theorem Spared.left {past now : List (Exchange Platform)} (h : Spared (past ++ now)) :
    Spared past :=
  ⟨h.orderly.left.nodup, fun x hx => h.answered x (List.mem_append_left _ hx)⟩

/-- What is spared is what the contract relies on. -/
theorem Spared.relied {σ : Type} {past : List (Exchange Platform)}
    {moments : List (Moment Platform σ)} (h : Spared (past ++ moments.map Moment.exchange)) :
    (lax Spares : Contract Platform σ).Relied past moments :=
  h.orderly.relied

/-- A new device on an untouched context is in stock. -/
theorem inStock_of_untouched {info : ContextInfo} {glslVersion : Option Int}
    {view : Option ViewSize} {past : List (Exchange Platform)} (h : Untouched past) :
    InStock [] past (onContext info glslVersion view) := by
  have hempty : (onContext info glslVersion view).storage = fun _ => none :=
    funext (storage_eq_none (fun _ => rfl) fun _ => rfl)
  refine ⟨rfl, ?_, nofun⟩
  rw [hempty]
  exact h.tally

/-- A new device is in stock. -/
theorem inStock_onContext {info : ContextInfo} {glslVersion : Option Int}
    {view : Option ViewSize} : InStock [] [] (onContext info glslVersion view) :=
  inStock_of_untouched untouched_nil

end GlDevice

end ShaderPreview
