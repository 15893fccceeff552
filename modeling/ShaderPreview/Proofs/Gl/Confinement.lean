import ShaderPreview.Proofs.Dialogue.Confined
import ShaderPreview.Proofs.Gl.Tables

/-!
# What a Device Asks For

A device on a context asks nothing of the platform but what concerns the context, and the time. So
whatever a session does, it leaves the display, the events and the files alone.

## Main definitions

* `Platform.Call.isGraphics`: a call that concerns a context, or asks for the time.

## Main results

* `GlDevice.confined_perform`: a device call makes only such calls.
* `GlDevice.confined_release`: so does a release.
-/

namespace ShaderPreview

/-- Whether a call concerns a **graphics context**, or asks for the time. -/
def Platform.Call.isGraphics : Platform.Call → Bool
  | .linkProgram .. => true
  | .createBuffer _ => true
  | .createVertexArray .. => true
  | .release _ => true
  | .render .. => true
  | .setContextViewport _ => true
  | .clear _ => true
  | .enableDepthTest => true
  | .writeMatrix .. => true
  | .writeScalar .. => true
  | .writeVector .. => true
  | .now => true
  | _ => false

namespace GlDevice

open Procedure Platform

/-- A procedure that asks only for **graphics**. -/
abbrev Graphic {σ α : Type} (p : PlatformProcedure σ α) : Prop :=
  Confined (fun call : Platform.Call => call.isGraphics = true) p

variable {handle : Handle}

/-- A call for graphics may be made. -/
theorem graphic_ask {σ : Type} {call : Platform.Call} (h : call.isGraphics = true) :
    Graphic (Platform.ask call : PlatformProcedure σ (Platform.Reply call)) :=
  confined_perform h

/-- Giving an object back is a matter of graphics, if there is one. -/
theorem graphic_releaseObject {object : Option GpuObject} : Graphic (releaseObject object) := by
  cases object with
  | none => exact confined_pure
  | some object => exact graphic_ask rfl

/-- Numbering asks for nothing. -/
theorem graphic_newHandle : Graphic newHandle :=
  Confined.bind confined_update fun _ => confined_state_bind fun _ => confined_pure

/-! ### Shaders -/

/-- A trial links a program and gives it back. -/
theorem graphic_trial {s : GlShader} : Graphic (trial s) := by
  rw [trial]
  refine confined_state_bind fun w => Confined.bind keeps_requireContext fun _ => ?_
  refine (graphic_ask rfl).attempt.bind fun r => ?_
  rcases r with fault | linked
  · cases fault with
    | rejected message =>
      by_cases hcompiler : Text.contains compilerFailed.toList message.toList = true
      · simp only [hcompiler, if_true]
        exact confined_pure
      · simp only [hcompiler]
        exact confined_tell.bind fun _ => confined_pure
    | _ => exact confined_fail
  · exact graphic_releaseObject.bind fun _ => confined_pure

/-- Compiling asks for nothing but the trial. -/
theorem graphic_compileShader {source : String} : Graphic (compileShader handle source) := by
  rw [compileShader]
  refine Confined.bind keeps_require fun s => confined_state_bind fun w => ?_
  refine Confined.bind confined_update fun _ => graphic_trial.bind fun diagnostic => ?_
  cases diagnostic with
  | none => exact confined_update
  | some message => exact confined_update

/-! ### Programs -/

/-- Linking some shaders is one call, if there are both stages. -/
theorem graphic_linkShaders {shaders : List GlShader} : Graphic (linkShaders shaders) := by
  rw [linkShaders]
  refine Confined.bind keeps_requireContext fun _ => ?_
  cases sourceOf .vertex shaders with
  | none => exact confined_pure
  | some vertex =>
    cases sourceOf .fragment shaders with
    | none => exact confined_pure
    | some fragment =>
      refine (graphic_ask rfl).attempt.bind fun r => ?_
      rcases r with fault | linked
      · cases fault with
        | rejected message => exact confined_pure
        | _ => exact confined_fail
      · exact confined_pure

/-- Linking a program asks for nothing else: its shaders are looked up. -/
theorem graphic_linkProgram : Graphic (linkProgram handle) := by
  rw [linkProgram]
  refine Confined.bind keeps_require fun p => Confined.bind keeps_shadersOf fun shaders => ?_
  refine graphic_linkShaders.bind fun r => ?_
  cases r with
  | ok linked => exact confined_update
  | error message => exact confined_update

/-- Deleting a program gives its two objects back. -/
theorem graphic_deleteProgram : Graphic (deleteProgram handle) := by
  rw [deleteProgram]
  refine confined_state_bind fun w => ?_
  cases w.programs.find? handle with
  | none => exact confined_pure
  | some p =>
    exact Confined.bind confined_update fun _ => graphic_releaseObject.bind fun _ =>
      graphic_releaseObject

/-! ### Buffers and inputs -/

/-- An upload gives the previous object back and creates another. -/
theorem graphic_uploadBuffer {data : List UInt8} : Graphic (uploadBuffer handle data) := by
  rw [uploadBuffer]
  refine Confined.bind keeps_require fun previous => graphic_releaseObject.bind fun _ => ?_
  exact Confined.bind keeps_requireContext fun _ => (graphic_ask rfl).bind fun object =>
    confined_update

/-- Deleting a buffer gives its object back. -/
theorem graphic_deleteBuffer : Graphic (deleteBuffer handle) := by
  rw [deleteBuffer]
  refine confined_state_bind fun w => ?_
  cases w.buffers.find? handle with
  | none => exact confined_pure
  | some object => exact Confined.bind confined_update fun _ => graphic_releaseObject

/-- The location of an input is looked up. -/
theorem graphic_attributeLocation {name : String} : Graphic (attributeLocation handle name) := by
  rw [attributeLocation]
  refine Confined.bind keeps_require fun p => ?_
  cases member? p name .input with
  | none => exact confined_pure
  | some m => exact Confined.bind confined_update fun _ => confined_pure

/-- A binding gives back the vertex array, if there is one. -/
theorem graphic_bindAttribute {location : Int} {buffer : Handle} {components : Int} :
    Graphic (bindAttribute handle location buffer components) := by
  rw [bindAttribute]
  by_cases hlocation : (location != Device.absent) = true
  · simp only [hlocation, if_true]
    refine Confined.bind keeps_require fun p => ?_
    cases formats.lookup components with
    | none => exact confined_fail
    | some format =>
      refine Confined.bind confined_update fun _ => ?_
      cases p.vertexArray with
      | none => exact confined_pure
      | some number => exact graphic_releaseObject.bind fun _ => confined_update
  · simp only [hlocation]
    exact confined_pure

/-! ### Uniforms -/

/-- The location of a uniform is looked up. -/
theorem graphic_uniformLocation {name : String} : Graphic (uniformLocation handle name) := by
  rw [uniformLocation]
  refine Confined.bind keeps_require fun p => ?_
  cases member? p name .uniform with
  | none => exact confined_pure
  | some m =>
    cases p.linkedProgram with
    | none => exact confined_pure
    | some linked => exact Confined.bind confined_update fun _ => confined_pure

/-- Setting a uniform writes one value, if its location was asked for. -/
theorem graphic_setUniform {location : Int} {value : UniformValue} :
    Graphic (setUniform handle location value) := by
  rw [setUniform]
  by_cases hlocation : (location != Device.absent) = true
  · simp only [hlocation, if_true]
    refine Confined.bind keeps_require fun p => ?_
    cases p.uniforms.find? location with
    | none => exact confined_fail
    | some u => cases value <;> exact graphic_ask rfl
  · simp only [hlocation]
    exact confined_pure

/-! ### Drawing -/

/-- A draw creates a vertex array, if there is none, and renders it. -/
theorem graphic_drawTriangles {vertices : Int} : Graphic (drawTriangles handle vertices) := by
  refine Confined.bind (Confined.bind keeps_require fun p => ?_) fun number => graphic_ask rfl
  cases p.vertexArray with
  | some number => exact confined_pure
  | none =>
    cases p.linkedProgram with
    | none => exact confined_fail
    | some linked =>
      exact Confined.bind keeps_vertexInputs fun inputs =>
        Confined.bind keeps_requireContext fun _ => (graphic_ask rfl).bind fun number =>
          Confined.bind confined_update fun _ => confined_pure

/-- Setting the view is one call. -/
theorem graphic_setViewport {view : ViewSize} : Graphic (setViewport view) :=
  Confined.bind confined_update fun _ => Confined.bind keeps_requireContext fun _ => graphic_ask rfl

/-! ### Calls -/

/-- **A device call** asks only for graphics. -/
theorem confined_perform (call : Device.Call) : Graphic (perform call) := by
  have hlookUp : ∀ {α β : Type} {registry : GlDevice → Registry α} {key : Int} (f : α → β),
      Graphic (do return f (← require registry key)) := fun _ =>
    Confined.bind keeps_require fun _ => confined_pure
  cases call with
  | isAvailable => exact confined_state_bind fun _ => confined_pure
  | createShader stage =>
    exact graphic_newHandle.bind fun _ => Confined.bind confined_update fun _ => confined_pure
  | compileShader shader source => exact graphic_compileShader
  | shaderCompiled shader => exact hlookUp GlShader.compiled
  | shaderInfoLog shader => exact hlookUp GlShader.infoLog
  | deleteShader shader => exact confined_update
  | createProgram =>
    exact graphic_newHandle.bind fun _ => Confined.bind confined_update fun _ => confined_pure
  | attachShader program shader => exact Confined.bind keeps_require fun _ => confined_update
  | linkProgram program => exact graphic_linkProgram
  | programLinked program => exact hlookUp GlProgram.linked
  | programInfoLog program => exact hlookUp GlProgram.infoLog
  | deleteProgram program => exact graphic_deleteProgram
  | useProgram program => exact keeps_useProgram
  | createBuffer =>
    exact graphic_newHandle.bind fun _ => Confined.bind confined_update fun _ => confined_pure
  | uploadBuffer buffer data => exact graphic_uploadBuffer
  | deleteBuffer buffer => exact graphic_deleteBuffer
  | attributeLocation program name => exact graphic_attributeLocation
  | bindAttribute program location buffer components => exact graphic_bindAttribute
  | uniformLocation program name => exact graphic_uniformLocation
  | setUniform program location value => exact graphic_setUniform
  | viewportSize => exact confined_state_bind fun _ => confined_pure
  | setViewport size => exact graphic_setViewport
  | clear color => exact Confined.bind keeps_requireContext fun _ => graphic_ask rfl
  | enableDepthTest => exact Confined.bind keeps_requireContext fun _ => graphic_ask rfl
  | drawTriangles program vertices => exact graphic_drawTriangles
  | requestFrame => exact confined_pure
  | cancelFrame token => exact confined_pure
  | now => exact graphic_ask rfl

/-- Deleting several programs gives all their objects back. -/
theorem graphic_deletePrograms {handles : List Handle} : Graphic (deletePrograms handles) := by
  induction handles with
  | nil => exact confined_pure
  | cons handle rest ih => exact graphic_deleteProgram.bind fun _ => ih

/-- Deleting several buffers does as well. -/
theorem graphic_deleteBuffers {handles : List Handle} : Graphic (deleteBuffers handles) := by
  induction handles with
  | nil => exact confined_pure
  | cons handle rest ih => exact graphic_deleteBuffer.bind fun _ => ih

/-- **A release** asks only for graphics. -/
theorem confined_release : Graphic release :=
  confined_state_bind fun _ => graphic_deletePrograms.bind fun _ =>
    confined_state_bind fun _ => graphic_deleteBuffers.bind fun _ => confined_update

end GlDevice

end ShaderPreview
