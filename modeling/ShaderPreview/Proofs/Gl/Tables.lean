import ShaderPreview.Gl.Device
import ShaderPreview.Proofs.Device.Ledger
import ShaderPreview.Proofs.Dialogue.Answered

/-!
# The Tables of a Device

A device on a context keeps its programs and buffers in tables. Each device call **moves** them in a
few ways only, whatever the context answers: it creates, amends or forgets one entry, or leaves them
as they are. Only some of the amendments concern what a vertex array is made from.

## Main definitions

* `GlDevice.Amends`: what becomes of a program.
* `GlDevice.Moves`: what becomes of the tables.
* `GlDevice.Numbered`: no entry is numbered beyond the last handle.
* `GlDevice.Empties`: what a release leaves.

## Main results

* `GlDevice.honours_perform_moves`: a device call moves the tables.
* `GlDevice.Moves.numbered`: handles that are to come are free.
* `GlDevice.honours_release_empties`: a release empties the tables, the programs first.
-/

namespace ShaderPreview

/-- A number that is not in use finds nothing. -/
theorem Registry.find?_eq_none {α : Type} {r : Registry α} {key : Int} (h : key ∉ r.keys) :
    r.find? key = none := by
  obtain ⟨entries⟩ := r
  rw [find?, List.lookup_eq_none_iff]
  intro e he
  simp only [bne_iff_ne, ne_eq]
  rintro rfl
  exact h (List.mem_map_of_mem he)

/-- The last thing that is put under a number counts. -/
theorem Registry.put_put {α : Type} (r : Registry α) (key : Int) (a b : α) :
    (r.put key a).put key b = r.put key b := by
  have hentries : ∀ entries : List (Int × α),
      putIn key b (putIn key a entries) = putIn key b entries := by
    intro entries
    induction entries with
    | nil => simp [putIn]
    | cons e rest ih =>
      by_cases he : e.1 = key
      · simp [putIn, he]
      · simp [putIn, he, ih]
  exact congrArg _ (hentries r.entries)

/-- A registry **without** some numbers, and otherwise like another. -/
def Registry.Without {α : Type} (keys : List Int) (r r' : Registry α) : Prop :=
  ∀ key, r'.find? key = if key ∈ keys then none else r.find? key

/-- A registry **within** another: what it finds, the other finds as well. -/
def Registry.Within {α : Type} (r' r : Registry α) : Prop :=
  ∀ key a, r'.find? key = some a → r.find? key = some a

/-- A registry is within itself. -/
theorem Registry.within_refl {α : Type} {r : Registry α} : r.Within r := fun _ _ h => h

/-- A registry without some numbers is within the whole one. -/
theorem Registry.Without.within {α : Type} {keys : List Int} {r r' : Registry α}
    (h : r.Without keys r') : r'.Within r := by
  intro key a hfind
  rw [h key] at hfind
  split at hfind
  · cases hfind
  · exact hfind

/-- A registry is itself without no numbers. -/
theorem Registry.without_nil {α : Type} {r : Registry α} : r.Without [] r :=
  fun _ => (if_neg List.not_mem_nil).symm

/-- Numbers may be left out one after another. -/
theorem Registry.Without.cons {α : Type} {key : Int} {keys : List Int} {r r' r'' : Registry α}
    (h : r.Without [key] r') (h' : r'.Without keys r'') : r.Without (key :: keys) r'' := by
  intro other
  have hfirst := h other
  have hrest := h' other
  grind

/-- Without the numbers in use nothing is found. -/
theorem Registry.Without.find?_eq_none {α : Type} {r r' : Registry α} (h : r.Without r.keys r')
    (key : Int) : r'.find? key = none := by
  rw [h key]
  split
  case isTrue => rfl
  case isFalse hkey => exact Registry.find?_eq_none hkey

/-- To erase a number is to be without it. -/
theorem Registry.without_erase {α : Type} {r : Registry α} {key : Int} :
    r.Without [key] (r.erase key) := by
  intro other
  rw [Registry.find?_erase]
  simp only [List.mem_singleton]

/-- Where nothing is found, nothing need be left out. -/
theorem Registry.without_of_find?_eq_none {α : Type} {r : Registry α} {key : Int}
    (h : r.find? key = none) : r.Without [key] r := by
  intro other
  split
  case isTrue hother => rw [List.mem_singleton.mp hother, h]
  case isFalse => rfl

namespace GlDevice

open Procedure Contract

/-! ### Moves -/

/-- What an exchange makes **of a program**: it leaves all that a vertex array is made from, or it
links the program anew, learns the name of an input, binds a buffer, or makes a vertex array. A
binding takes the vertex array away, unless the release of the array is refused. -/
inductive Amends : Exchange Device → Handle → GlProgram → GlProgram → Prop
  | aside {x : Exchange Device} {handle : Handle} {p p' : GlProgram}
      (hlinked : p'.linkedProgram = p.linkedProgram) (hinputs : p'.inputs = p.inputs)
      (hbindings : p'.bindings = p.bindings) (harray : p'.vertexArray = p.vertexArray) :
      Amends x handle p p'
  | link {handle : Handle} {reply : Except Fault Unit} {p : GlProgram} (linked : LinkedProgram) :
      Amends ⟨.linkProgram handle, reply⟩ handle p
        { p with linkedProgram := some linked, linked := true, infoLog := "" }
  | learn {handle : Handle} {name : String} {reply : Except Fault Int} {p : GlProgram}
      (inputs : Registry String) :
      Amends ⟨.attributeLocation handle name, reply⟩ handle p { p with inputs }
  | bind {handle : Handle} {location : Int} {buffer : Handle} {components : Int} {p : GlProgram}
      (bindings : Registry GlBinding) :
      Amends ⟨.bindAttribute handle location buffer components, .ok ()⟩ handle p
        { p with bindings, vertexArray := none }
  | bindRefused {handle : Handle} {location : Int} {buffer : Handle} {components : Int}
      {fault : Fault} {p : GlProgram} (bindings : Registry GlBinding) :
      Amends ⟨.bindAttribute handle location buffer components, .error fault⟩ handle p
        { p with bindings }
  | draw {handle : Handle} {vertices : Int} {reply : Except Fault Unit} {p : GlProgram}
      (number : Nat) (hnone : p.vertexArray = none) :
      Amends ⟨.drawTriangles handle vertices, reply⟩ handle p { p with vertexArray := some number }

/-- What an exchange makes **of the tables** of a device. -/
inductive Moves (d : GlDevice) : Exchange Device → GlDevice → Prop
  | aside {x : Exchange Device} {d' : GlDevice}
      (hcall : x.call.keepsHandles ∨ ∃ shader, x.call = .deleteShader shader)
      (hcontext : d'.hasContext = d.hasContext) (hprograms : d'.programs = d.programs)
      (hbuffers : d'.buffers = d.buffers) (hlast : d'.lastHandle = d.lastHandle) : Moves d x d'
  | createShader {stage : Stage} {shaders : Registry GlShader} :
      Moves d ⟨.createShader stage, .ok (d.lastHandle + 1)⟩
        { d with shaders, lastHandle := d.lastHandle + 1 }
  | createProgram :
      Moves d ⟨.createProgram, .ok (d.lastHandle + 1)⟩
        { d with
          programs := d.programs.put (d.lastHandle + 1) {}, lastHandle := d.lastHandle + 1 }
  | createBuffer :
      Moves d ⟨.createBuffer, .ok (d.lastHandle + 1)⟩
        { d with
          buffers := d.buffers.put (d.lastHandle + 1) none, lastHandle := d.lastHandle + 1 }
  | amend {x : Exchange Device} {handle : Handle} {p p' : GlProgram}
      (hcall : x.call.keepsHandles) (hp : d.programs.find? handle = some p)
      (hamends : Amends x handle p p') :
      Moves d x { d with programs := d.programs.put handle p' }
  | upload {handle : Handle} {data : List UInt8} {reply : Except Fault Unit} {object : Option Nat}
      (hbuffer : d.buffers.find? handle = some object) (number : Nat) :
      Moves d ⟨.uploadBuffer handle data, reply⟩
        { d with buffers := d.buffers.put handle (some number) }
  | deleteProgram {handle : Handle} {reply : Except Fault Unit} {programs : Registry GlProgram}
      (hprograms : d.programs.Without [handle] programs) :
      Moves d ⟨.deleteProgram handle, reply⟩ { d with programs }
  | deleteBuffer {handle : Handle} {reply : Except Fault Unit} {buffers : Registry (Option Nat)}
      (hbuffers : d.buffers.Without [handle] buffers) :
      Moves d ⟨.deleteBuffer handle, reply⟩ { d with buffers }

/-- A program may stay as it is. -/
theorem Amends.refl {x : Exchange Device} {handle : Handle} {p : GlProgram} :
    Amends x handle p p :=
  .aside rfl rfl rfl rfl

/-- The tables may stay as they are, unless the call creates something. -/
theorem Moves.refl {d : GlDevice} {x : Exchange Device} (h : x.call.keepsHandles) : Moves d x d :=
  .aside (.inl h) rfl rfl rfl rfl

/-- The context stays. -/
theorem Moves.hasContext_eq {d d' : GlDevice} {x : Exchange Device} (h : Moves d x d') :
    d'.hasContext = d.hasContext := by
  cases h with
  | aside hcall hcontext => exact hcontext
  | _ => rfl

/-! ### Looking things up -/

variable {d : GlDevice} {handle : Handle} {err : List (Exchange Platform) → Fault → GlDevice → Prop}
  {C : Contract Platform GlDevice} {pre : List (Exchange Platform) → GlDevice → Prop}

/-- Asking for the context changes nothing. -/
theorem keeps_requireContext : Keeps C pre requireContext := by
  rw [requireContext]
  refine honours_state_bind fun w => ?_
  rintro past s ⟨rfl, h⟩
  cases s.hasContext with
  | true => exact h
  | false => exact h

/-- Looking something up changes nothing. -/
theorem keeps_require {α : Type} {registry : GlDevice → Registry α} {key : Int} :
    Keeps C pre (require registry key) := by
  rw [require]
  refine honours_state_bind fun w => ?_
  rintro past s ⟨rfl, h⟩
  cases (registry s).find? key with
  | none => exact h
  | some a => exact h

/-- In a device that is known, what is looked up is what is there. -/
theorem honours_require {α : Type} {registry : GlDevice → Registry α} {key : Int}
    (hpre : ∀ past s, pre past s → s = d) :
    Honours C pre (require registry key)
      (fun past a s => pre past s ∧ (registry d).find? key = some a)
      (fun past _ s => pre past s ∧ (registry d).find? key = none) := by
  rw [require]
  refine honours_state_bind fun w => ?_
  rintro past s ⟨rfl, h⟩
  obtain rfl := hpre past s h
  cases (registry s).find? key with
  | none => exact ⟨h, rfl⟩
  | some a => exact ⟨h, rfl⟩

/-- Looking shaders up changes nothing. -/
theorem keeps_shadersOf {handles : List Handle} : Keeps C pre (shadersOf handles) := by
  induction handles with
  | nil => exact honours_pure fun _ _ h => h
  | cons handle rest ih =>
    exact Honours.bind keeps_require fun s => Honours.bind ih fun _ => honours_pure fun _ _ h => h

/-- Looking inputs up changes nothing. -/
theorem keeps_vertexInputs {p : GlProgram} {bindings : List (Int × GlBinding)} :
    Keeps C pre (vertexInputs p bindings) := by
  induction bindings with
  | nil => exact honours_pure fun _ _ h => h
  | cons entry rest ih =>
    obtain ⟨location, binding⟩ := entry
    refine Honours.bind keeps_require fun object => ?_
    cases object with
    | none => exact honours_fail fun _ _ h => h
    | some object =>
      cases p.inputs.find? location with
      | none => exact honours_fail fun _ _ h => h
      | some name => exact Honours.bind ih fun _ => honours_pure fun _ _ h => h

/-- Using a program changes nothing. -/
theorem keeps_useProgram : Keeps C pre (useProgram handle) := by
  rw [useProgram]
  refine honours_state_bind fun w => ?_
  refine Honours.mono ?_ (fun _ _ h => h.2) (fun _ _ _ h => h) (fun _ _ _ h => h)
  cases w.programs.find? handle with
  | none => exact honours_fail fun _ _ h => h
  | some p => exact honours_pure fun _ _ h => h

/-! ### Under no contract -/

/-- A contract that **asks nothing** of the context. -/
abbrev free : Contract Platform GlDevice := lax fun _ _ => True

/-- A device in a given state. -/
abbrev Is (d : GlDevice) (_ : List (Exchange Platform)) (s : GlDevice) : Prop := s = d

/-- A change of the device leads to the device that is changed. -/
theorem honours_is_update {f : GlDevice → GlDevice} :
    Honours free (Is d) (update f) (fun past _ s => Is (f d) past s) err :=
  honours_update fun _ _ h => congrArg f h

/-- A call to the context leaves the device, whatever the answer. -/
theorem keeps_is_ask {call : Platform.Call} : Keeps free (Is d) (Platform.ask call) :=
  honours_perform (fun _ _ _ => trivial) (fun _ _ _ h _ => h) fun _ _ _ h _ => h

/-- So does one whose refusal is caught. -/
theorem honours_is_attempt {call : Platform.Call} :
    Honours free (Is d) (Platform.ask call).attempt (fun past _ s => Is d past s) err :=
  Honours.attempt keeps_is_ask

/-- So does giving something back. -/
theorem keeps_is_releaseObject {object : Option GpuObject} :
    Keeps free (Is d) (releaseObject object) := by
  cases object with
  | none => exact honours_pure fun _ _ h => h
  | some object => exact keeps_is_ask

/-- What is looked up is what is there, and the device stays. -/
theorem honours_is_require {α : Type} {registry : GlDevice → Registry α} {key : Int} :
    Honours free (Is d) (require registry key)
      (fun past a s => Is d past s ∧ (registry d).find? key = some a)
      (fun past _ s => Is d past s) :=
  (honours_require fun _ _ h => h).weaken_err fun _ _ _ h => h.1

/-- A trial leaves the device. -/
theorem keeps_is_trial {s : GlShader} : Keeps free (Is d) (trial s) := by
  rw [trial]
  refine honours_state_bind fun w => ?_
  refine Honours.mono ?_ (fun _ _ h => h.2) (fun _ _ _ h => h) (fun _ _ _ h => h)
  refine Honours.bind keeps_requireContext fun _ => ?_
  refine Honours.bind honours_is_attempt fun r => ?_
  rcases r with fault | linked
  · cases fault with
    | rejected message =>
      by_cases hcompiler : Text.contains compilerFailed.toList message.toList = true
      · simp only [hcompiler, if_true]
        exact honours_pure fun _ _ h => h
      · simp only [hcompiler]
        exact Honours.bind (honours_tell fun _ _ h => h) fun _ => honours_pure fun _ _ h => h
    | _ => exact honours_fail fun _ _ h => h
  · exact Honours.bind keeps_is_releaseObject fun _ => honours_pure fun _ _ h => h

/-- Linking some shaders does, too. -/
theorem keeps_is_linkShaders {shaders : List GlShader} :
    Keeps free (Is d) (linkShaders shaders) := by
  rw [linkShaders]
  refine Honours.bind keeps_requireContext fun _ => ?_
  cases sourceOf .vertex shaders with
  | none => exact honours_pure fun _ _ h => h
  | some vertex =>
    cases sourceOf .fragment shaders with
    | none => exact honours_pure fun _ _ h => h
    | some fragment =>
      refine Honours.bind honours_is_attempt fun r => ?_
      rcases r with fault | linked
      · cases fault with
        | rejected message => exact honours_pure fun _ _ h => h
        | _ => exact honours_fail fun _ _ h => h
      · exact honours_pure fun _ _ h => h

/-! ### Calls -/

/-- What a device call comes to when it **moves** the tables. -/
abbrev MovesBy (d : GlDevice) (call : Device.Call) (p : GlProcedure (Device.Reply call)) : Prop :=
  Honours free (Is d) p (fun _ a s => Moves d ⟨call, .ok a⟩ s)
    fun _ fault s => Moves d ⟨call, .error fault⟩ s

/-- A new shader has the next handle. -/
theorem moves_createShader {stage : Stage} :
    MovesBy d (.createShader stage) (createShader stage) := by
  rintro past s rfl
  exact .createShader

/-- A new program has it. -/
theorem moves_createProgram : MovesBy d .createProgram createProgram := by
  rintro past s rfl
  exact .createProgram

/-- A new buffer has it, and no object. -/
theorem moves_createBuffer : MovesBy d .createBuffer createBuffer := by
  rintro past s rfl
  exact .createBuffer

/-- A device has moved by a call, **whatever** the call was answered. -/
abbrev Moved (d : GlDevice) (call : Device.Call) (_ : List (Exchange Platform)) (s : GlDevice) :
    Prop :=
  ∀ reply, Moves d ⟨call, reply⟩ s

/-- It is enough that the tables move by the call whatever the answer. -/
theorem MovesBy.of_moved {call : Device.Call} {p : GlProcedure (Device.Reply call)}
    (h : Honours free (Is d) p (fun past _ s => Moved d call past s)
      fun past _ s => Moved d call past s) : MovesBy d call p :=
  h.weaken (fun _ _ _ h => h _) fun _ _ _ h => h _

/-- What leaves the device as it is moves nothing. -/
theorem MovesBy.of_keeps {call : Device.Call} {p : GlProcedure (Device.Reply call)}
    (hcall : call.keepsHandles) (h : Keeps free (Is d) p) : MovesBy d call p :=
  h.weaken (fun _ _ _ h => h ▸ .refl hcall) fun _ _ _ h => h ▸ .refl hcall

/-- What looks up an entry first moves nothing if there is none. -/
theorem honours_moved_require {α : Type} {registry : GlDevice → Registry α} {key : Int}
    {call : Device.Call} (hcall : call.keepsHandles) :
    Honours free (Is d) (require registry key)
      (fun past a s => Is d past s ∧ (registry d).find? key = some a)
      (fun past _ s => Moved d call past s) :=
  honours_is_require.weaken_err fun _ _ _ h _ => h ▸ .refl hcall

/-- Keeping what a program has become amends it. -/
theorem honours_moved_keepProgram {call : Device.Call} {p p' : GlProgram}
    (hcall : call.keepsHandles) (hp : d.programs.find? handle = some p)
    (hamends : ∀ reply, Amends ⟨call, reply⟩ handle p p') :
    Honours free (Is d) (keepProgram handle p') (fun past _ s => Moved d call past s) err := by
  refine honours_update ?_
  rintro past s rfl reply
  exact .amend hcall hp (hamends reply)

/-- Compiling amends the shader alone. -/
theorem moves_compileShader {shader : Handle} {source : String} :
    MovesBy d (.compileShader shader source) (compileShader shader source) := by
  have hmoved : ∀ {shaders : Registry GlShader},
      ∀ reply, Moves d ⟨.compileShader shader source, reply⟩ { d with shaders } :=
    fun {_} _ => .aside (.inl rfl) rfl rfl rfl rfl
  have hkeep : ∀ {s : GlShader} {shaders : Registry GlShader},
      Honours free (Is { d with shaders }) (keepShader shader s)
        (fun past _ s => Moved d (.compileShader shader source) past s)
        (fun past _ s => Moved d (.compileShader shader source) past s) :=
    fun {_ _} => honours_update fun _ _ h => h ▸ hmoved
  refine .of_moved ?_
  rw [compileShader]
  refine Honours.bind (honours_moved_require rfl) fun s => honours_given fun _ => ?_
  refine honours_state_bind fun w => ?_
  refine Honours.mono ?_ (fun _ _ h => h.2) (fun _ _ _ h => h) (fun _ _ _ h => h)
  refine Honours.bind honours_is_update fun _ => ?_
  refine Honours.bind (keeps_is_trial.weaken_err fun _ _ _ h => h ▸ hmoved) fun diagnostic => ?_
  cases diagnostic with
  | none => exact hkeep
  | some message => exact hkeep

/-- Attaching amends the program alone. -/
theorem moves_attachShader {shader : Handle} :
    MovesBy d (.attachShader handle shader) (attachShader handle shader) :=
  .of_moved (Honours.bind (honours_moved_require rfl) fun _ => honours_given fun hp =>
    honours_moved_keepProgram rfl hp fun _ => .aside rfl rfl rfl rfl)

/-- Linking puts another linked program in, or fails and leaves what a vertex array is made from. -/
theorem moves_linkProgram : MovesBy d (.linkProgram handle) (linkProgram handle) := by
  refine .of_moved ?_
  rw [linkProgram]
  refine Honours.bind (honours_moved_require rfl) fun p => honours_given fun hp => ?_
  refine Honours.bind (keeps_shadersOf.weaken_err fun _ _ _ h _ => h ▸ .refl rfl) fun shaders => ?_
  refine Honours.bind (keeps_is_linkShaders.weaken_err fun _ _ _ h _ => h ▸ .refl rfl) fun r => ?_
  rcases r with message | linked
  · exact honours_moved_keepProgram rfl hp fun _ => .aside rfl rfl rfl rfl
  · exact honours_moved_keepProgram rfl hp fun _ => .link linked

/-- Deleting a program takes out its entry, also when a release is refused. -/
theorem moves_deleteProgram : MovesBy d (.deleteProgram handle) (deleteProgram handle) := by
  refine .of_moved ?_
  rw [deleteProgram]
  refine honours_state_bind fun w => ?_
  rintro past s ⟨rfl, rfl⟩
  cases hp : s.programs.find? handle with
  | none =>
    exact fun _ => .deleteProgram (Registry.without_of_find?_eq_none hp)
  | some p =>
    have hmoved : ∀ past s', Is { s with programs := s.programs.erase handle } past s' →
        Moved s (.deleteProgram handle) past s' := fun _ _ h _ =>
      h ▸ .deleteProgram Registry.without_erase
    refine Honours.bind honours_is_update (fun _ => ?_) past s rfl
    refine Honours.bind (keeps_is_releaseObject.weaken_err fun _ _ _ h => hmoved _ _ h) fun _ => ?_
    exact keeps_is_releaseObject.weaken (fun _ _ _ h => hmoved _ _ h) fun _ _ _ h => hmoved _ _ h

/-- An upload puts another object into the buffer, or fails and leaves the tables. -/
theorem moves_uploadBuffer {data : List UInt8} :
    MovesBy d (.uploadBuffer handle data) (uploadBuffer handle data) := by
  have hsame : ∀ past s, Is d past s → Moved d (.uploadBuffer handle data) past s :=
    fun _ _ h _ => h ▸ .refl rfl
  refine .of_moved ?_
  rw [uploadBuffer]
  refine Honours.bind (honours_moved_require rfl) fun previous => honours_given fun hbuffer => ?_
  refine Honours.bind (keeps_is_releaseObject.weaken_err fun _ _ _ h => hsame _ _ h) fun _ => ?_
  refine Honours.bind (keeps_requireContext.weaken_err fun _ _ _ h => hsame _ _ h) fun _ => ?_
  refine Honours.bind (keeps_is_ask.weaken_err fun _ _ _ h => hsame _ _ h) fun number => ?_
  exact honours_update fun _ _ h _ => h ▸ .upload hbuffer number

/-- Deleting a buffer takes out its entry. -/
theorem moves_deleteBuffer : MovesBy d (.deleteBuffer handle) (deleteBuffer handle) := by
  refine .of_moved ?_
  rw [deleteBuffer]
  refine honours_state_bind fun w => ?_
  rintro past s ⟨rfl, rfl⟩
  cases hbuffer : s.buffers.find? handle with
  | none =>
    exact fun _ => .deleteBuffer (Registry.without_of_find?_eq_none hbuffer)
  | some object =>
    have hmoved : ∀ past s', Is { s with buffers := s.buffers.erase handle } past s' →
        Moved s (.deleteBuffer handle) past s' := fun _ _ h _ =>
      h ▸ .deleteBuffer Registry.without_erase
    refine Honours.bind honours_is_update (fun _ => ?_) past s rfl
    exact keeps_is_releaseObject.weaken (fun _ _ _ h => hmoved _ _ h) fun _ _ _ h => hmoved _ _ h

/-- Asking for the location of an input adds its name to the program. -/
theorem moves_attributeLocation {name : String} :
    MovesBy d (.attributeLocation handle name) (attributeLocation handle name) := by
  refine .of_moved ?_
  rw [attributeLocation]
  refine Honours.bind (honours_moved_require rfl) fun p => honours_given fun hp => ?_
  cases member? p name .input with
  | none => exact honours_pure fun _ _ h _ => h ▸ .refl rfl
  | some m =>
    exact Honours.bind (honours_moved_keepProgram rfl hp fun _ => .learn _) fun _ =>
      honours_pure fun _ _ h => h

/-- A binding is put in first, and then the vertex array is taken away, unless its release is
refused. -/
theorem moves_bindAttribute {location : Int} {buffer : Handle} {components : Int} :
    MovesBy d (.bindAttribute handle location buffer components)
      (bindAttribute handle location buffer components) := by
  have hsame : ∀ past s fault, Is d past s →
      Moves d ⟨.bindAttribute handle location buffer components, .error fault⟩ s :=
    fun _ _ _ h => h ▸ .refl rfl
  rw [MovesBy, bindAttribute]
  by_cases hlocation : (location != Device.absent) = true
  · simp only [hlocation, if_true]
    refine Honours.bind (honours_is_require.weaken_err
      fun _ _ _ h => hsame _ _ _ h) fun p => honours_given fun hp => ?_
    cases formats.lookup components with
    | none => exact honours_fail fun _ _ h => hsame _ _ _ h
    | some format =>
      refine Honours.bind honours_is_update fun _ => ?_
      cases harray : p.vertexArray with
      | none =>
        refine honours_pure ?_
        rintro past s rfl
        exact .amend rfl hp (.bind _)
      | some number =>
        refine Honours.bind (keeps_is_releaseObject.weaken_err ?_) fun _ => ?_
        · rintro past fault s rfl
          exact .amend rfl hp (harray ▸ .bindRefused _)
        · refine honours_update ?_
          rintro past s rfl
          dsimp only
          rw [Registry.put_put]
          exact .amend rfl hp (.bind _)
  · simp only [hlocation]
    exact honours_pure fun _ _ h => h ▸ .refl rfl

/-- Asking for the location of a uniform amends the program in its uniforms only. -/
theorem moves_uniformLocation {name : String} :
    MovesBy d (.uniformLocation handle name) (uniformLocation handle name) := by
  refine .of_moved ?_
  rw [uniformLocation]
  refine Honours.bind (honours_moved_require rfl) fun p => honours_given fun hp => ?_
  cases member? p name .uniform with
  | none => exact honours_pure fun _ _ h _ => h ▸ .refl rfl
  | some m =>
    cases hlinked : p.linkedProgram with
    | none => exact honours_pure fun _ _ h _ => h ▸ .refl rfl
    | some linked =>
      exact Honours.bind (honours_moved_keepProgram rfl hp fun _ => .aside hlinked.symm rfl rfl rfl)
        fun _ => honours_pure fun _ _ h => h

/-- Setting a uniform leaves the tables. -/
theorem moves_setUniform {location : Int} {value : UniformValue} :
    MovesBy d (.setUniform handle location value) (setUniform handle location value) := by
  refine .of_keeps rfl ?_
  rw [setUniform]
  by_cases hlocation : (location != Device.absent) = true
  · simp only [hlocation, if_true]
    refine Honours.bind honours_is_require fun p => honours_given fun _ => ?_
    cases p.uniforms.find? location with
    | none => exact honours_fail fun _ _ h => h
    | some u =>
      cases value with
      | scalar x => exact keeps_is_ask
      | vector xs => exact keeps_is_ask
      | matrix m => exact keeps_is_ask
      | wideMatrix m => exact keeps_is_ask
  · simp only [hlocation]
    exact honours_pure fun _ _ h => h

/-- Using a program leaves them. -/
theorem moves_useProgram : MovesBy d (.useProgram handle) (useProgram handle) :=
  .of_keeps rfl keeps_useProgram

/-- A draw amends the program in its vertex array only, if there was none. -/
theorem moves_drawTriangles {vertices : Int} :
    MovesBy d (.drawTriangles handle vertices) (drawTriangles handle vertices) := by
  have hsame : ∀ past s, Is d past s → Moved d (.drawTriangles handle vertices) past s :=
    fun _ _ h _ => h ▸ .refl rfl
  have hask : ∀ {call : Platform.Call}, Honours free
      (fun past s => Moved d (.drawTriangles handle vertices) past s) (Platform.ask call)
      (fun past _ s => Moved d (.drawTriangles handle vertices) past s)
      (fun past _ s => Moved d (.drawTriangles handle vertices) past s) :=
    fun {_} => honours_perform (fun _ _ _ => trivial) (fun _ _ _ h _ => h) fun _ _ _ h _ => h
  refine .of_moved ?_
  rw [drawTriangles]
  refine Honours.bind ?_ fun number => hask
  rw [vertexArray]
  refine Honours.bind (honours_moved_require rfl) fun p => honours_given fun hp => ?_
  cases harray : p.vertexArray with
  | some number => exact honours_pure fun _ _ h => hsame _ _ h
  | none =>
    cases hlinked : p.linkedProgram with
    | none => exact honours_fail fun _ _ h => hsame _ _ h
    | some linked =>
      refine Honours.bind (keeps_vertexInputs.weaken_err
        fun _ _ _ h => hsame _ _ h) fun inputs => ?_
      refine Honours.bind (keeps_requireContext.weaken_err fun _ _ _ h => hsame _ _ h) fun _ => ?_
      refine Honours.bind (keeps_is_ask.weaken_err fun _ _ _ h => hsame _ _ h) fun number => ?_
      have hkeep : Honours free (Is d) (keepProgram handle { p with vertexArray := some number })
          (fun past _ s => Moved d (.drawTriangles handle vertices) past s)
          (fun past _ s => Moved d (.drawTriangles handle vertices) past s) :=
        honours_moved_keepProgram rfl hp fun _ => .draw number harray
      rw [hlinked] at hkeep
      exact Honours.bind hkeep fun _ => honours_pure fun _ _ h => h

/-- **A device call** moves the tables, whatever the context does. -/
theorem honours_perform_moves (call : Device.Call) : MovesBy d call (perform call) := by
  have hstate : ∀ {call : Device.Call} (f : GlDevice → Device.Reply call), call.keepsHandles →
      MovesBy d call (do return f (← state)) := fun f hcall =>
    .of_keeps hcall (honours_state_bind fun _ => honours_pure fun _ _ h => h.2)
  have hrequire : ∀ (call : Device.Call) {α : Type} {registry : GlDevice → Registry α} {key : Int}
      (f : α → Device.Reply call), call.keepsHandles →
      MovesBy d call (do return f (← require registry key)) := fun call _ _ _ f hcall =>
    .of_keeps hcall (Honours.bind honours_is_require fun _ =>
      honours_given fun _ => honours_pure fun _ _ h => h)
  have hcontext : ∀ {call : Device.Call} {p : GlProcedure (Device.Reply call)}, call.keepsHandles →
      Keeps free (Is d) p → MovesBy d call (do requireContext; p) := fun hcall hp =>
    .of_keeps hcall (Honours.bind keeps_requireContext fun _ => hp)
  cases call with
  | isAvailable => exact hstate _ rfl
  | createShader stage => exact moves_createShader
  | compileShader shader source => exact moves_compileShader
  | shaderCompiled shader => exact hrequire (.shaderCompiled shader) GlShader.compiled rfl
  | shaderInfoLog shader => exact hrequire (.shaderInfoLog shader) GlShader.infoLog rfl
  | deleteShader shader =>
    refine honours_update ?_
    rintro past s rfl
    exact .aside (.inr ⟨shader, rfl⟩) rfl rfl rfl rfl
  | createProgram => exact moves_createProgram
  | attachShader program shader => exact moves_attachShader
  | linkProgram program => exact moves_linkProgram
  | programLinked program => exact hrequire (.programLinked program) GlProgram.linked rfl
  | programInfoLog program => exact hrequire (.programInfoLog program) GlProgram.infoLog rfl
  | deleteProgram program => exact moves_deleteProgram
  | useProgram program => exact moves_useProgram
  | createBuffer => exact moves_createBuffer
  | uploadBuffer buffer data => exact moves_uploadBuffer
  | deleteBuffer buffer => exact moves_deleteBuffer
  | attributeLocation program name => exact moves_attributeLocation
  | bindAttribute program location buffer components => exact moves_bindAttribute
  | uniformLocation program name => exact moves_uniformLocation
  | setUniform program location value => exact moves_setUniform
  | viewportSize => exact hstate _ rfl
  | setViewport size =>
    refine .of_moved (Honours.bind honours_is_update fun _ => ?_)
    have hmoved : ∀ past s, Is { d with view := size } past s →
        Moved d (.setViewport size) past s := fun _ _ h _ => h ▸ .aside (.inl rfl) rfl rfl rfl rfl
    refine Honours.bind (keeps_requireContext.weaken_err fun _ _ _ h => hmoved _ _ h) fun _ => ?_
    exact keeps_is_ask.weaken (fun _ _ _ h => hmoved _ _ h) fun _ _ _ h => hmoved _ _ h
  | clear color => exact hcontext rfl keeps_is_ask
  | enableDepthTest => exact hcontext rfl keeps_is_ask
  | drawTriangles program vertices => exact moves_drawTriangles
  | requestFrame => exact .of_keeps rfl (honours_pure fun _ _ h => h)
  | cancelFrame token => exact .of_keeps rfl (honours_pure fun _ _ h => h)
  | now => exact .of_keeps rfl keeps_is_ask

/-! ### Numbers -/

/-- No entry is **numbered** beyond the last handle. -/
def Numbered (d : GlDevice) : Prop :=
  ∀ handle, d.lastHandle < handle →
    d.programs.find? handle = none ∧ d.buffers.find? handle = none

/-- Handles that are **to come** are free. -/
theorem Moves.numbered {d' : GlDevice} {x : Exchange Device} (h : Moves d x d')
    (hd : d.Numbered) : d'.Numbered := by
  intro handle hhandle
  -- An entry that is there is put under its old number again.
  have hthere : ∀ {other : Handle}, d.programs.find? other ≠ none ∨ d.buffers.find? other ≠ none →
      d.lastHandle < handle → handle ≠ other := by
    rintro other hother hlast rfl
    obtain ⟨hprogram, hbuffer⟩ := hd handle hlast
    rcases hother with hother | hother
    · exact hother hprogram
    · exact hother hbuffer
  have hlater : d.lastHandle + 1 < handle → d.lastHandle < handle := fun h =>
    Int.lt_trans (Int.lt_succ d.lastHandle) h
  cases h with
  | aside hcall hcontext hprograms hbuffers hlast =>
    rw [hprograms, hbuffers]
    exact hd handle (hlast ▸ hhandle)
  | createShader => exact hd handle (hlater hhandle)
  | createProgram =>
    rw [Registry.find?_put, if_neg (Int.ne_of_gt hhandle)]
    exact hd handle (hlater hhandle)
  | createBuffer =>
    rw [Registry.find?_put, if_neg (Int.ne_of_gt hhandle)]
    exact hd handle (hlater hhandle)
  | amend hcall hp hamends =>
    rw [Registry.find?_put, if_neg (hthere (.inl (by rw [hp]; exact nofun)) hhandle)]
    exact hd handle hhandle
  | upload hbuffer number =>
    rw [Registry.find?_put, if_neg (hthere (.inr (by rw [hbuffer]; exact nofun)) hhandle)]
    exact hd handle hhandle
  | deleteProgram hprograms =>
    rw [hprograms, (hd handle hhandle).1, (hd handle hhandle).2]
    exact ⟨ite_self none, rfl⟩
  | deleteBuffer hbuffers =>
    rw [hbuffers, (hd handle hhandle).1, (hd handle hhandle).2]
    exact ⟨rfl, ite_self none⟩

/-! ### Releasing the device -/

/-- After a program was deleted, whatever the answer, the device is the same without it. -/
theorem Moves.without_program {reply : Except Fault Unit} {s : GlDevice}
    (h : Moves d ⟨.deleteProgram handle, reply⟩ s) :
    ∃ programs, s = { d with programs } ∧ d.programs.Without [handle] programs := by
  cases h with
  | aside hcall => exact hcall.elim nofun nofun
  | amend hcall => exact nomatch hcall
  | deleteProgram hprograms => exact ⟨_, rfl, hprograms⟩

/-- After a buffer was deleted it is the same without the buffer. -/
theorem Moves.without_buffer {reply : Except Fault Unit} {s : GlDevice}
    (h : Moves d ⟨.deleteBuffer handle, reply⟩ s) :
    ∃ buffers, s = { d with buffers } ∧ d.buffers.Without [handle] buffers := by
  cases h with
  | aside hcall => exact hcall.elim nofun nofun
  | amend hcall => exact nomatch hcall
  | deleteBuffer hbuffers => exact ⟨_, rfl, hbuffers⟩

/-- Programs go one after another. -/
theorem honours_is_deletePrograms {handles : List Handle} :
    Honours free (Is d) (deletePrograms handles)
      (fun _ _ s => ∃ programs, s = { d with programs } ∧ d.programs.Without handles programs)
      (fun _ _ s => ∃ programs, s = { d with programs } ∧ programs.Within d.programs) := by
  induction handles generalizing d with
  | nil => exact honours_pure fun _ _ h => ⟨d.programs, h, Registry.without_nil⟩
  | cons handle rest ih =>
    have hdelete : Honours free (Is d) (deleteProgram handle)
        (fun _ _ s => ∃ programs, s = { d with programs } ∧ d.programs.Without [handle] programs)
        (fun _ _ s => ∃ programs, s = { d with programs } ∧ programs.Within d.programs) :=
      moves_deleteProgram.weaken (fun _ _ _ h => h.without_program) fun _ _ _ h =>
        have ⟨programs, hs, hwithout⟩ := h.without_program
        ⟨programs, hs, hwithout.within⟩
    refine Honours.bind hdelete fun _ => ?_
    rintro past _ ⟨programs, rfl, hwithout⟩
    refine (ih (d := { d with programs })).weaken ?_ ?_ past _ rfl
    · rintro past _ s ⟨programs', rfl, hrest⟩
      exact ⟨programs', rfl, hwithout.cons hrest⟩
    · rintro past _ s ⟨programs', rfl, hrest⟩
      exact ⟨programs', rfl, fun key a h => hwithout.within key a (hrest key a h)⟩

/-- Buffers go one after another. -/
theorem honours_is_deleteBuffers {handles : List Handle} :
    Honours free (Is d) (deleteBuffers handles)
      (fun _ _ s => ∃ buffers, s = { d with buffers } ∧ d.buffers.Without handles buffers)
      (fun _ _ s => ∃ buffers, s = { d with buffers } ∧ buffers.Within d.buffers) := by
  induction handles generalizing d with
  | nil => exact honours_pure fun _ _ h => ⟨d.buffers, h, Registry.without_nil⟩
  | cons handle rest ih =>
    have hdelete : Honours free (Is d) (deleteBuffer handle)
        (fun _ _ s => ∃ buffers, s = { d with buffers } ∧ d.buffers.Without [handle] buffers)
        (fun _ _ s => ∃ buffers, s = { d with buffers } ∧ buffers.Within d.buffers) :=
      moves_deleteBuffer.weaken (fun _ _ _ h => h.without_buffer) fun _ _ _ h =>
        have ⟨buffers, hs, hwithout⟩ := h.without_buffer
        ⟨buffers, hs, hwithout.within⟩
    refine Honours.bind hdelete fun _ => ?_
    rintro past _ ⟨buffers, rfl, hwithout⟩
    refine (ih (d := { d with buffers })).weaken ?_ ?_ past _ rfl
    · rintro past _ s ⟨buffers', rfl, hrest⟩
      exact ⟨buffers', rfl, hwithout.cons hrest⟩
    · rintro past _ s ⟨buffers', rfl, hrest⟩
      exact ⟨buffers', rfl, fun key a h => hwithout.within key a (hrest key a h)⟩

/-- A device that **gives everything back**, wherever it was cut short: the programs go first, and
as long as there are any, all else is there. -/
structure Empties (d s : GlDevice) : Prop where
  lastHandle_eq : s.lastHandle = d.lastHandle
  programs_within : s.programs.Within d.programs
  buffers_within : s.buffers.Within d.buffers
  whole : ∀ handle p, s.programs.find? handle = some p →
    s.buffers = d.buffers ∧ s.hasContext = d.hasContext

/-- A device that is emptied **creates nothing**. -/
theorem Empties.numbered {s : GlDevice} (h : Empties d s) (hd : d.Numbered) : s.Numbered := by
  intro handle hhandle
  obtain ⟨hprogram, hbuffer⟩ := hd handle (h.lastHandle_eq ▸ hhandle)
  refine ⟨?_, ?_⟩
  · by_contra hnone
    obtain ⟨p, hp⟩ := Option.ne_none_iff_exists'.mp hnone
    rw [h.programs_within handle p hp] at hprogram
    cases hprogram
  · by_contra hnone
    obtain ⟨object, hobject⟩ := Option.ne_none_iff_exists'.mp hnone
    rw [h.buffers_within handle object hobject] at hbuffer
    cases hbuffer

/-- A **release** empties the device, whatever the context does. -/
theorem honours_release_empties :
    Honours free (Is d) release
      (fun _ _ s => Empties d s ∧ s.hasContext = false ∧
        (∀ handle, s.programs.find? handle = none) ∧ ∀ handle, s.buffers.find? handle = none)
      (fun _ _ s => Empties d s) := by
  rw [release]
  refine honours_state_bind fun w => ?_
  rintro past s ⟨rfl, rfl⟩
  refine Honours.bind (honours_is_deletePrograms.weaken_err ?_) (fun _ => ?_)
    past s rfl
  · rintro past _ s' ⟨programs, rfl, hwithin⟩
    exact ⟨rfl, hwithin, Registry.within_refl, fun _ _ _ => ⟨rfl, rfl⟩⟩
  rintro past _ ⟨programs, rfl, hprograms⟩
  have hnone : ∀ handle, programs.find? handle = none := hprograms.find?_eq_none
  refine Honours.bind (honours_is_deleteBuffers.weaken_err ?_) (fun _ => ?_)
    past { s with programs } rfl
  · rintro past _ s' ⟨buffers, rfl, hwithin⟩
    exact ⟨rfl, hprograms.within, hwithin, fun handle p hp =>
      absurd ((hnone handle).symm.trans hp) nofun⟩
  · refine honours_update ?_
    rintro past _ ⟨buffers, rfl, hbuffers⟩
    exact ⟨⟨rfl, hprograms.within, hbuffers.within, fun handle p hp =>
      absurd ((hnone handle).symm.trans hp) nofun⟩, rfl, hnone, hbuffers.find?_eq_none⟩

end GlDevice

end ShaderPreview
