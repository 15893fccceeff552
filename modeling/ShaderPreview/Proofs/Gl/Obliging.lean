import ShaderPreview.Proofs.Gl.Plan
import ShaderPreview.Proofs.Platform.Obliging

/-!
# A Device on a Context That Obliges

A device on a context that obliges carries out what it is asked, as long as it is asked in order: a
shader that is compiled is there, a program that is drawn was linked, and its buffers were filled
and its inputs named. The only thing that may go wrong is that a program is turned down.

## Main definitions

* `GlDevice.Grows`: a device to which only new entries were added.
* `GlDevice.HasShader`, `GlDevice.Filled`, `GlDevice.Drawable`: what is there for later calls.

## Main results

* `GlDevice.leads_compileShader`, `GlDevice.leads_linkProgram`: the calls that have a verdict.
* `GlDevice.leads_bindAttribute`: a binding leaves a program that may be drawn.
* `GlDevice.leads_drawTriangles`: a draw renders once.
-/

namespace ShaderPreview

/-- What is in a list of entries after one was put in. -/
theorem Registry.mem_putIn {α : Type} {key : Int} {a : α} {entries : List (Int × α)}
    {e : Int × α} (h : e ∈ putIn key a entries) : e = (key, a) ∨ e ∈ entries := by
  induction entries with
  | nil => exact .inl (List.mem_singleton.mp h)
  | cons first rest ih =>
    rw [putIn] at h
    split at h
    · exact (List.mem_cons.mp h).imp id fun h => .tail _ h
    · rcases List.mem_cons.mp h with rfl | h
      · exact .inr (.head _)
      · exact (ih h).imp id fun h => .tail _ h

/-- What was put under a number is found there. -/
theorem Registry.find?_put_self {α : Type} {r : Registry α} {key : Int} {a : α} :
    (r.put key a).find? key = some a := by
  rw [find?_put, if_pos rfl]

/-- What is found is still found after something was put in. -/
theorem Registry.isSome_find?_put {α : Type} {r : Registry α} {key other : Int} {a : α}
    (h : (r.find? other).isSome = true) : ((r.put key a).find? other).isSome = true := by
  rw [find?_put]
  split
  · rfl
  · exact h

namespace Platform

/-- Nothing was **timed or rendered** since. -/
def Work.Quiet (w w' : Work) : Prop := w'.readings = w.readings ∧ w'.renders = w.renders

/-- Since now nothing has passed. -/
theorem Work.Quiet.refl {w : Work} : w.Quiet w := ⟨rfl, rfl⟩

/-- Two quiet stretches make one. -/
theorem Work.Quiet.trans {w w' w'' : Work} (h : w.Quiet w') (h' : w'.Quiet w'') : w.Quiet w'' :=
  ⟨h'.1.trans h.1, h'.2.trans h.2⟩

end Platform

namespace GlDevice

open Procedure Platform

/-! ### What is there -/

/-- A device that **stays**: on its context, with its view, and no handle is given out again. -/
structure Stays (d d' : GlDevice) : Prop where
  view_eq : d'.view = d.view
  hasContext_eq : d'.hasContext = d.hasContext
  lastHandle_le : d.lastHandle ≤ d'.lastHandle

/-- A device to which **only new entries** were added. -/
structure Grows (d d' : GlDevice) : Prop extends Stays d d' where
  shaders_eq : ∀ handle ≤ d.lastHandle, d'.shaders.find? handle = d.shaders.find? handle
  programs_eq : ∀ handle ≤ d.lastHandle, d'.programs.find? handle = d.programs.find? handle
  buffers_eq : ∀ handle ≤ d.lastHandle, d'.buffers.find? handle = d.buffers.find? handle

/-- A shader of a stage **is there**. -/
def HasShader (d : GlDevice) (stage : Stage) (handle : Handle) : Prop :=
  handle ≤ d.lastHandle ∧ ∃ s, d.shaders.find? handle = some s ∧ s.stage = stage

/-- A buffer is there **and was filled**. -/
def Filled (d : GlDevice) (handle : Handle) : Prop :=
  handle ≤ d.lastHandle ∧ ∃ object, d.buffers.find? handle = some (some object)

/-- A program **may be drawn**: it was linked, the buffers that it binds were filled, and the inputs
that they are bound to were named. -/
def Drawable (d : GlDevice) (handle : Handle) : Prop :=
  handle ≤ d.lastHandle ∧ ∃ p linked, d.programs.find? handle = some p ∧
    p.linkedProgram = some linked ∧
    ∀ e ∈ p.bindings.entries, d.Filled e.2.buffer ∧ (p.inputs.find? e.1).isSome = true

variable {d d' d'' : GlDevice} {handle : Handle} {stage : Stage}

/-- A device stays as it is. -/
theorem Stays.refl : Stays d d := ⟨rfl, rfl, Int.le_refl _⟩

/-- A device that stays twice stays. -/
theorem Stays.trans (h : Stays d d') (h' : Stays d' d'') : Stays d d'' :=
  ⟨h'.view_eq.trans h.view_eq, h'.hasContext_eq.trans h.hasContext_eq,
    Int.le_trans h.lastHandle_le h'.lastHandle_le⟩

/-- To add nothing is to grow as well. -/
theorem Grows.refl : Grows d d := ⟨Stays.refl, fun _ _ => rfl, fun _ _ => rfl, fun _ _ => rfl⟩

/-- What is added in two steps is new to the first device. -/
theorem Grows.trans (h : Grows d d') (h' : Grows d' d'') : Grows d d'' := by
  refine ⟨h.toStays.trans h'.toStays, fun handle hle => ?_, fun handle hle => ?_,
    fun handle hle => ?_⟩
  · rw [h'.shaders_eq handle (Int.le_trans hle h.lastHandle_le), h.shaders_eq handle hle]
  · rw [h'.programs_eq handle (Int.le_trans hle h.lastHandle_le), h.programs_eq handle hle]
  · rw [h'.buffers_eq handle (Int.le_trans hle h.lastHandle_le), h.buffers_eq handle hle]

/-- A shader stays there when others are added. -/
theorem HasShader.grow (h : d.HasShader stage handle) (hgrows : Grows d d') :
    d'.HasShader stage handle := by
  obtain ⟨hle, s, hs, hstage⟩ := h
  exact ⟨Int.le_trans hle hgrows.lastHandle_le, s, (hgrows.shaders_eq handle hle).trans hs, hstage⟩

/-- A buffer stays filled. -/
theorem Filled.grow (h : d.Filled handle) (hgrows : Grows d d') : d'.Filled handle := by
  obtain ⟨hle, object, hobject⟩ := h
  exact ⟨Int.le_trans hle hgrows.lastHandle_le, object,
    (hgrows.buffers_eq handle hle).trans hobject⟩

/-- A program that may be drawn may be drawn still. -/
theorem Drawable.grow (h : d.Drawable handle) (hgrows : Grows d d') : d'.Drawable handle := by
  obtain ⟨hle, p, linked, hp, hlinked, hbindings⟩ := h
  exact ⟨Int.le_trans hle hgrows.lastHandle_le, p, linked,
    (hgrows.programs_eq handle hle).trans hp, hlinked,
    fun e he => ⟨(hbindings e he).1.grow hgrows, (hbindings e he).2⟩⟩

/-- An entry beyond the old handles is a new one. -/
theorem ne_of_le_of_lt {old new last : Handle} (hle : old ≤ last) (hlt : last < new) : old ≠ new :=
  fun he => absurd (he ▸ hle) (Int.not_le.mpr hlt)

/-! ### Looking things up -/

variable {w : Work} {err : Work → Fault → GlDevice → Prop} {α : Type}

/-- What is there is found. -/
theorem leads_require {registry : GlDevice → Registry α} {key : Int} {a : α}
    (h : (registry d).find? key = some a) {ok : Work → α → GlDevice → Prop} (hok : ok w a d) :
    Leads w d (require registry key) ok err := by
  refine Leads.state_bind ?_
  simp only [h]
  exact Leads.pure hok

/-- A device on its context has it. -/
theorem leads_requireContext (hd : d.hasContext = true) {ok : Work → PUnit → GlDevice → Prop}
    (hok : ok w ⟨⟩ d) : Leads w d requireContext ok err := by
  refine Leads.state_bind ?_
  simp only [hd]
  exact Leads.pure hok

/-- Giving an object back is not refused, and leaves the device. -/
theorem leads_releaseObject {object : Option GpuObject} {ok : Work → Unit → GlDevice → Prop}
    (hok : ok w () d) : Leads w d (releaseObject object) ok err := by
  cases object with
  | none => exact Leads.pure hok
  | some object => exact Leads.ask_plain rfl fun _ => hok

/-! ### Entering -/

/-- A handle is given out. -/
theorem Grows.count (h : Grows d d') :
    Grows d { d' with lastHandle := d'.lastHandle + 1 } :=
  ⟨⟨h.view_eq, h.hasContext_eq, Int.le_of_lt (Int.lt_add_one_of_le h.lastHandle_le)⟩,
    h.shaders_eq, h.programs_eq, h.buffers_eq⟩

/-- A new shader is kept. -/
theorem Grows.putShader {s : GlShader} (h : Grows d d') (hnew : d.lastHandle < handle) :
    Grows d { d' with shaders := d'.shaders.put handle s } := by
  refine ⟨⟨h.view_eq, h.hasContext_eq, h.lastHandle_le⟩, fun other hle => ?_, h.programs_eq,
    h.buffers_eq⟩
  rw [Registry.find?_put, if_neg (ne_of_le_of_lt hle hnew), h.shaders_eq other hle]

/-- A new program is kept. -/
theorem Grows.putProgram {p : GlProgram} (h : Grows d d') (hnew : d.lastHandle < handle) :
    Grows d { d' with programs := d'.programs.put handle p } := by
  refine ⟨⟨h.view_eq, h.hasContext_eq, h.lastHandle_le⟩, h.shaders_eq, fun other hle => ?_,
    h.buffers_eq⟩
  rw [Registry.find?_put, if_neg (ne_of_le_of_lt hle hnew), h.programs_eq other hle]

/-- A new buffer is kept. -/
theorem Grows.putBuffer {object : Option Nat} (h : Grows d d') (hnew : d.lastHandle < handle) :
    Grows d { d' with buffers := d'.buffers.put handle object } := by
  refine ⟨⟨h.view_eq, h.hasContext_eq, h.lastHandle_le⟩, h.shaders_eq, h.programs_eq,
    fun other hle => ?_⟩
  rw [Registry.find?_put, if_neg (ne_of_le_of_lt hle hnew), h.buffers_eq other hle]

/-- The handle that is given out next is a new one. -/
theorem lt_next : d.lastHandle < d.lastHandle + 1 := Int.lt_add_one_of_le (Int.le_refl _)

/-- The next handle is the number after the last one. -/
theorem leads_newHandle {f : Handle → GlProcedure α} {ok : Work → α → GlDevice → Prop}
    (h : Leads w { d with lastHandle := d.lastHandle + 1 } (f (d.lastHandle + 1)) ok err) :
    Leads w d (newHandle >>= f) ok err :=
  Leads.bind (Leads.bind (Leads.update (Leads.state_bind (Leads.pure h))))

/-- A new shader has the next handle. -/
theorem leads_createShader {ok : Work → Handle → GlDevice → Prop}
    (hok : ok w (d.lastHandle + 1) { d with
      lastHandle := d.lastHandle + 1, shaders := d.shaders.put (d.lastHandle + 1) { stage } }) :
    Leads w d (createShader stage) ok err :=
  leads_newHandle (Leads.bind (Leads.update (Leads.pure hok)))

/-- So has a new program, to which nothing is attached. -/
theorem leads_createProgram {ok : Work → Handle → GlDevice → Prop}
    (hok : ok w (d.lastHandle + 1) { d with
      lastHandle := d.lastHandle + 1, programs := d.programs.put (d.lastHandle + 1) {} }) :
    Leads w d createProgram ok err :=
  leads_newHandle (Leads.bind (Leads.update (Leads.pure hok)))

/-- So has a new buffer, which is empty. -/
theorem leads_createBuffer {ok : Work → Handle → GlDevice → Prop}
    (hok : ok w (d.lastHandle + 1) { d with
      lastHandle := d.lastHandle + 1, buffers := d.buffers.put (d.lastHandle + 1) none }) :
    Leads w d createBuffer ok err :=
  leads_newHandle (Leads.bind (Leads.update (Leads.pure hok)))

/-! ### Shaders -/

/-- A trial leaves the device as it is. If it finds the shader at fault, it was turned down. -/
theorem leads_trial (hd : d.hasContext = true) {s : GlShader}
    {ok : Work → Option String → GlDevice → Prop}
    (hok : ∀ w' r, w.Quiet w' → (r ≠ none → w'.verdict = some false) → ok w' r d) :
    Leads w d (trial s) ok err := by
  rw [trial]
  refine Leads.state_bind (Leads.bind (leads_requireContext hd ?_))
  refine Leads.bind (Leads.attempt (Leads.ask_link (fun linked => ?_) fun message => ?_))
  · refine Leads.bind (leads_releaseObject (Leads.pure (hok _ _ ⟨rfl, rfl⟩ fun h => absurd rfl h)))
  · by_cases hcompiler : Text.contains compilerFailed.toList message.toList = true
    · simp only [hcompiler, if_true]
      exact Leads.pure (hok _ _ ⟨rfl, rfl⟩ fun _ => rfl)
    · simp only [hcompiler]
      exact Leads.bind (Leads.tell (Leads.pure (hok _ _ ⟨rfl, rfl⟩ fun h => absurd rfl h)))

/-- A shader that is there **is compiled**, and stays what it is. If it does not compile, it was
turned down. -/
theorem leads_compileShader (hd : d.hasContext = true) {s : GlShader}
    (hs : d.shaders.find? handle = some s) {source : String} {ok : Work → Unit → GlDevice → Prop}
    (hok : ∀ w' s', w.Quiet w' → s'.stage = s.stage →
      (s'.compiled = false → w'.verdict = some false) →
        ok w' () { d with shaders := d.shaders.put handle s' }) :
    Leads w d (compileShader handle source) ok err := by
  rw [compileShader]
  refine Leads.bind (leads_require hs ?_)
  refine Leads.state_bind (Leads.bind (Leads.update (Leads.bind (leads_trial ?_ ?_))))
  · exact hd
  · intro w' r hquiet hverdict
    cases r with
    | none =>
      refine Leads.update ?_
      rw [Registry.put_put]
      exact hok w' _ hquiet rfl fun h => Bool.noConfusion h
    | some message =>
      refine Leads.update ?_
      rw [Registry.put_put]
      exact hok w' _ hquiet rfl fun _ => hverdict (Option.some_ne_none message)

/-! ### Programs -/

/-- A shader is attached behind those that are attached already. -/
theorem leads_attachShader {p : GlProgram} {shader : Handle} (hp : d.programs.find? handle = some p)
    {ok : Work → Unit → GlDevice → Prop}
    (hok : ok w () { d with
      programs := d.programs.put handle { p with shaders := p.shaders ++ [shader] } }) :
    Leads w d (attachShader handle shader) ok err := by
  rw [attachShader]
  exact Leads.bind (leads_require hp (Leads.update hok))

/-- A program over a vertex and a fragment shader **is linked**, or it was turned down. -/
theorem leads_linkProgram (hd : d.hasContext = true) {p : GlProgram} {vertex fragment : Handle}
    (hp : d.programs.find? handle = some p) (hshaders : p.shaders = [vertex, fragment])
    (hvertex : d.HasShader .vertex vertex) (hfragment : d.HasShader .fragment fragment)
    {ok : Work → Unit → GlDevice → Prop}
    (hlinked : ∀ w' linked, w.Quiet w' → w'.verdict = some true → ok w' () { d with
      programs := d.programs.put handle
        { p with linkedProgram := some linked, linked := true, infoLog := "" } })
    (hrejected : ∀ w' message, w.Quiet w' → w'.verdict = some false → ok w' () { d with
      programs := d.programs.put handle { p with linked := false, infoLog := message } }) :
    Leads w d (linkProgram handle) ok err := by
  obtain ⟨-, v, hv, hvstage⟩ := hvertex
  obtain ⟨-, f, hf, hfstage⟩ := hfragment
  obtain ⟨shaders, linkedProgram, linked, infoLog, inputs, uniforms, bindings, vertexArray⟩ := p
  obtain rfl : shaders = [vertex, fragment] := hshaders
  rw [linkProgram]
  refine Leads.bind (leads_require hp ?_)
  refine Leads.bind (Leads.bind (leads_require hv ?_))
  refine Leads.bind (Leads.bind (leads_require hf ?_))
  refine Leads.bind (Leads.pure (Leads.pure (Leads.pure ?_)))
  have hsource : sourceOf .vertex [v, f] = some v.source ∧
      sourceOf .fragment [v, f] = some f.source := by
    simp [sourceOf, hvstage, hfstage]
  refine Leads.bind ?_
  rw [linkShaders, hsource.1, hsource.2]
  refine Leads.bind (leads_requireContext hd ?_)
  refine Leads.bind (Leads.attempt (Leads.ask_link (fun linked => ?_) fun message => ?_))
  · exact Leads.pure (Leads.update (hlinked _ linked ⟨rfl, rfl⟩ rfl))
  · exact Leads.pure (Leads.update (hrejected _ message ⟨rfl, rfl⟩ rfl))

/-- Deleting a program leaves the device on its context. -/
theorem leads_deleteProgram {ok : Work → Unit → GlDevice → Prop}
    (hok : ∀ d', Stays d d' → ok w () d') : Leads w d (deleteProgram handle) ok err := by
  rw [deleteProgram]
  refine Leads.state_bind ?_
  cases d.programs.find? handle with
  | none => exact Leads.pure (hok d Stays.refl)
  | some p =>
    refine Leads.bind (Leads.update (Leads.bind (leads_releaseObject (leads_releaseObject ?_))))
    exact hok _ ⟨rfl, rfl, Int.le_refl _⟩

/-! ### Buffers and inputs -/

/-- An upload fills a buffer that is there, under whatever number the context gives. -/
theorem leads_uploadBuffer (hd : d.hasContext = true) {object : Option Nat}
    (hbuffer : d.buffers.find? handle = some object) {data : List UInt8}
    {ok : Work → Unit → GlDevice → Prop}
    (hok : ∀ number, ok w () { d with buffers := d.buffers.put handle (some number) }) :
    Leads w d (uploadBuffer handle data) ok err := by
  rw [uploadBuffer]
  refine Leads.bind (leads_require hbuffer (Leads.bind (leads_releaseObject ?_)))
  refine Leads.bind (leads_requireContext hd (Leads.bind (Leads.ask_plain rfl fun number => ?_)))
  exact Leads.update (hok number)

/-- Deleting a buffer leaves the device on its context. -/
theorem leads_deleteBuffer {ok : Work → Unit → GlDevice → Prop}
    (hok : ∀ d', Stays d d' → ok w () d') : Leads w d (deleteBuffer handle) ok err := by
  rw [deleteBuffer]
  refine Leads.state_bind ?_
  cases d.buffers.find? handle with
  | none => exact Leads.pure (hok d Stays.refl)
  | some object =>
    exact Leads.bind (Leads.update (leads_releaseObject (hok _ ⟨rfl, rfl, Int.le_refl _⟩)))

/-- An input is named when it is asked for, unless it is not there. -/
theorem leads_attributeLocation {p : GlProgram} (hp : d.programs.find? handle = some p)
    {name : String} {ok : Work → Int → GlDevice → Prop} (hnone : ok w Device.absent d)
    (hsome : ∀ location name, ok w location { d with
      programs := d.programs.put handle { p with inputs := p.inputs.put location name } }) :
    Leads w d (attributeLocation handle name) ok err := by
  rw [attributeLocation]
  refine Leads.bind (leads_require hp ?_)
  cases member? p name .input with
  | none => exact Leads.pure hnone
  | some m => exact Leads.bind (Leads.update (Leads.pure (hsome m.location m.name)))

/-- A buffer **is bound** to a location, and a vertex array over what was bound before is gone. -/
theorem leads_bindAttribute {p : GlProgram} (hp : d.programs.find? handle = some p)
    {location components : Int} {buffer : Handle} {format : String}
    (hlocation : location ≠ Device.absent) (hformat : formats.lookup components = some format)
    {ok : Work → Unit → GlDevice → Prop}
    (hok : ok w () { d with
      programs := d.programs.put handle
        { p with bindings := p.bindings.put location ⟨buffer, format⟩, vertexArray := none } }) :
    Leads w d (bindAttribute handle location buffer components) ok err := by
  have hbound : (location != Device.absent) = true := bne_iff_ne.mpr hlocation
  rw [bindAttribute]
  simp only [hbound, if_true, hformat]
  refine Leads.bind (leads_require hp (Leads.bind (Leads.update ?_)))
  obtain ⟨shaders, linkedProgram, linked, infoLog, inputs, uniforms, bindings, array⟩ := p
  cases array with
  | none => exact Leads.pure hok
  | some number =>
    refine Leads.bind (leads_releaseObject (Leads.update ?_))
    rw [Registry.put_put]
    exact hok

/-! ### Drawing -/

/-- Setting the view keeps it. -/
theorem leads_setViewport (hd : d.hasContext = true) {view : ViewSize}
    {ok : Work → Unit → GlDevice → Prop} (hok : ok w () { d with view }) :
    Leads w d (setViewport view) ok err := by
  refine Leads.bind (Leads.update (Leads.bind (leads_requireContext ?_ ?_)))
  · exact hd
  · exact Leads.ask_plain rfl fun _ => hok

/-- A program that may be drawn may be used. -/
theorem leads_useProgram (h : d.Drawable handle) {ok : Work → PUnit → GlDevice → Prop}
    (hok : ok w ⟨⟩ d) : Leads w d (useProgram handle) ok err := by
  obtain ⟨-, p, linked, hp, -⟩ := h
  refine Leads.state_bind ?_
  simp only [hp, Option.isNone_some, Bool.false_eq_true, if_false]
  exact Leads.pure hok

/-- A changed program may be drawn if it is linked, and what it binds is there. -/
theorem drawable_put {p : GlProgram} {linked : LinkedProgram} (hle : handle ≤ d.lastHandle)
    (hlinked : p.linkedProgram = some linked)
    (hbindings : ∀ e ∈ p.bindings.entries,
      d.Filled e.2.buffer ∧ (p.inputs.find? e.1).isSome = true) :
    Drawable { d with programs := d.programs.put handle p } handle :=
  ⟨hle, p, linked, Registry.find?_put_self, hlinked, hbindings⟩

/-- What is known of a program that may be drawn holds of a changed program that is linked as before
and binds and names the same. -/
theorem Drawable.amend {p p' : GlProgram} (h : d.Drawable handle)
    (hp : d.programs.find? handle = some p) (hlinked : p'.linkedProgram = p.linkedProgram)
    (hinputs : p'.inputs = p.inputs) (hbindings : p'.bindings = p.bindings) :
    Drawable { d with programs := d.programs.put handle p' } handle := by
  obtain ⟨hle, q, linked, hq, hqlinked, hfilled⟩ := h
  obtain rfl : q = p := Option.some.inj (hq.symm.trans hp)
  refine drawable_put hle (hlinked.trans hqlinked) ?_
  rw [hbindings, hinputs]
  exact hfilled

/-- A uniform that is there can be set once it was asked for. -/
theorem leads_uniformLocation (h : d.Drawable handle) {name : String}
    {ok : Work → Int → GlDevice → Prop} (hnone : ok w Device.absent d)
    (hsome : ∀ location d', Stays d d' → d'.Drawable handle →
      (∃ p u, d'.programs.find? handle = some p ∧ p.uniforms.find? location = some u) →
        ok w location d') :
    Leads w d (uniformLocation handle name) ok err := by
  obtain ⟨-, p, linked, hp, hlinked, -⟩ := id h
  rw [uniformLocation]
  refine Leads.bind (leads_require hp ?_)
  rw [hlinked]
  cases member? p name .uniform with
  | none => exact Leads.pure hnone
  | some m =>
    refine Leads.bind (Leads.update (Leads.pure (hsome _ _ ⟨rfl, rfl, Int.le_refl _⟩ ?_ ?_)))
    · exact h.amend hp hlinked.symm rfl rfl
    · exact ⟨_, _, Registry.find?_put_self, Registry.find?_put_self⟩

/-- Setting a uniform whose location was asked for leaves the device. -/
theorem leads_setUniform {p : GlProgram} {u : GlUniform} {location : Int}
    (hp : d.programs.find? handle = some p) (hu : p.uniforms.find? location = some u)
    {value : UniformValue} {ok : Work → Unit → GlDevice → Prop} (hok : ok w () d) :
    Leads w d (setUniform handle location value) ok err := by
  rw [setUniform]
  by_cases hlocation : (location != Device.absent) = true
  · simp only [hlocation, if_true]
    refine Leads.bind (leads_require hp ?_)
    rw [hu]
    cases value with
    | scalar x => exact Leads.ask_plain rfl fun _ => hok
    | vector xs => exact Leads.ask_plain rfl fun _ => hok
    | matrix m => exact Leads.ask_plain rfl fun _ => hok
    | wideMatrix m => exact Leads.ask_plain rfl fun _ => hok
  · simp only [hlocation]
    exact Leads.pure hok

/-- Where the buffers were filled and the inputs named, there are inputs for all bindings. -/
theorem exists_inputsFor {p : GlProgram} {bindings : List (Int × GlBinding)}
    (h : ∀ e ∈ bindings, d.Filled e.2.buffer ∧ (p.inputs.find? e.1).isSome = true) :
    ∃ inputs, d.inputsFor p bindings = .ok inputs := by
  induction bindings with
  | nil => exact ⟨[], rfl⟩
  | cons e rest ih =>
    obtain ⟨⟨⟨-, object, hobject⟩, hname⟩, hrest⟩ := List.forall_mem_cons.mp h
    obtain ⟨name, hname⟩ := Option.isSome_iff_exists.mp hname
    obtain ⟨inputs, hinputs⟩ := ih hrest
    refine ⟨⟨object, e.2.format, name⟩ :: inputs, ?_⟩
    obtain ⟨location, binding⟩ := e
    simp only [inputsFor, hobject, hname, hinputs, Except.map]

/-- A program that may be drawn has a plan. -/
theorem Drawable.exists_plan (h : d.Drawable handle) (hd : d.hasContext = true) :
    ∃ plan, d.plan handle = .ok plan := by
  obtain ⟨-, p, linked, hp, hlinked, hbindings⟩ := h
  have hsorted : ∀ e ∈ sortedBindings p,
      d.Filled e.2.buffer ∧ (p.inputs.find? e.1).isSome = true :=
    fun e he => hbindings e (List.mem_mergeSort.mp he)
  obtain ⟨inputs, hinputs⟩ := exists_inputsFor hsorted
  exact ⟨⟨linked.number, inputs⟩, by simp only [plan, hp, hlinked, hinputs, hd, if_true]⟩

/-- A program that may be drawn **is drawn**, once. -/
theorem leads_drawTriangles (hd : d.hasContext = true) (h : d.Drawable handle) {vertices : Int}
    {ok : Work → Unit → GlDevice → Prop}
    (hok : ∀ d', Stays d d' → d'.Drawable handle →
      ok { w with renders := w.renders + 1 } () d') :
    Leads w d (drawTriangles handle vertices) ok err := by
  obtain ⟨-, p, linked, hp, hlinked, -⟩ := id h
  rw [drawTriangles]
  refine Leads.bind ?_
  cases harray : p.vertexArray with
  | some number =>
    refine Leads.congr (vertexArray_apply_some hp harray) (Leads.pure ?_)
    exact Leads.ask_render (hok d Stays.refl h)
  | none =>
    obtain ⟨plan, hplan⟩ := h.exists_plan hd
    refine Leads.congr (vertexArray_apply_plan hp harray hplan) ?_
    refine Leads.bind (Leads.ask_plain rfl fun number => ?_)
    refine Leads.bind (Leads.update (Leads.pure (Leads.ask_render ?_)))
    exact hok _ ⟨rfl, rfl, Int.le_refl _⟩ (h.amend hp rfl rfl rfl)

/-! ### The end of the device -/

/-- However many programs are deleted, nothing is refused. -/
theorem leads_deletePrograms {handles : List Handle} {ok : Work → Unit → GlDevice → Prop}
    (hok : ∀ d', ok w () d') : Leads w d (deletePrograms handles) ok err := by
  induction handles generalizing d with
  | nil => exact Leads.pure (hok d)
  | cons handle rest ih => exact Leads.bind (leads_deleteProgram fun _ _ => ih)

/-- Nor is it for buffers. -/
theorem leads_deleteBuffers {handles : List Handle} {ok : Work → Unit → GlDevice → Prop}
    (hok : ∀ d', ok w () d') : Leads w d (deleteBuffers handles) ok err := by
  induction handles generalizing d with
  | nil => exact Leads.pure (hok d)
  | cons handle rest ih => exact Leads.bind (leads_deleteBuffer fun _ _ => ih)

/-- A release adds nothing. -/
theorem leads_release {ok : Work → Unit → GlDevice → Prop} (hok : ∀ d', ok w () d') :
    Leads w d release ok err := by
  refine Leads.state_bind (Leads.bind (leads_deletePrograms fun d₁ => ?_))
  refine Leads.state_bind (Leads.bind (leads_deleteBuffers fun d₂ => ?_))
  exact Leads.update (hok _)

end GlDevice

end ShaderPreview
