import ShaderPreview.Device.Interface
import ShaderPreview.Gl.Version
import ShaderPreview.Platform.Interface
import ShaderPreview.Registry

/-!
# A Device on a Graphics Context

A graphics device made of a context that compiles and links a whole program in one step. So a shader
is compiled by linking a **trial program** around it, which is thrown away; a trial that only fails
to link says nothing about the shader. The real program is made when its device program is linked.

The context also wants all inputs of a program in one **vertex array**. It is made at the first draw
after a binding has changed, from the bindings in the order of their locations.

Once the device is released the context is gone, and every call that needs it is refused.

## Main definitions

* `GlDevice`: the shaders, programs and buffers under their handles.
* `GlDevice.perform`: how a device call is carried out on the platform.
* `GlDevice.release`: gives back every object and lets go of the context.
-/

namespace ShaderPreview

/-- A **shader**: its stage, the source it was last compiled from, and the outcome. -/
structure GlShader where
  stage : Stage
  source : String := ""
  compiled : Bool := false
  infoLog : String := ""
  deriving DecidableEq, Repr

/-- A **uniform** of a linked program. -/
structure GlUniform where
  program : Nat
  name : String
  deriving DecidableEq, Repr

/-- A buffer **bound to a location**, and the format of its entries. -/
structure GlBinding where
  buffer : Handle
  format : String
  deriving DecidableEq, Repr

/-- A **program**: its shaders, what linking them gave, the names that were asked for under their
locations, the bindings, and the vertex array made from them. -/
structure GlProgram where
  shaders : List Handle := []
  linkedProgram : Option LinkedProgram := none
  linked : Bool := false
  infoLog : String := ""
  inputs : Registry String := {}
  uniforms : Registry GlUniform := {}
  bindings : Registry GlBinding := {}
  vertexArray : Option Nat := none
  deriving DecidableEq, Repr

/-- A **device on a context**. A buffer has no object until something is uploaded. -/
structure GlDevice where
  glslVersion : Option Int := some 130
  view : ViewSize
  hasContext : Bool := true
  shaders : Registry GlShader := {}
  programs : Registry GlProgram := {}
  buffers : Registry (Option Nat) := {}
  lastHandle : Handle := 0
  deriving DecidableEq, Repr

/-- A procedure of the device. -/
abbrev GlProcedure (α : Type) := PlatformProcedure GlDevice α

namespace GlDevice

open Procedure

/-- The device on a new context. Without a view of its own it takes the screen's. -/
def onContext (info : ContextInfo) (glslVersion : Option Int) (view : Option ViewSize) : GlDevice :=
  { glslVersion, view := view.getD info.screen }

/-! ### Looking things up -/

/-- Refuses when the context is gone. -/
def requireContext : GlProcedure Unit := do
  if !(← state).hasContext then
    fail (.pipeline (.deviceUnavailable "Graphics context has been released"))

/-- What a registry keeps under a number. -/
def require {α : Type} (registry : GlDevice → Registry α) (key : Int) : GlProcedure α := do
  match (registry (← state)).find? key with
  | some a => return a
  | none => fail (.unknownEntry key)

/-- The shader with a handle. -/
def shader (handle : Handle) : GlProcedure GlShader := require (·.shaders) handle

/-- The program with a handle. -/
def program (handle : Handle) : GlProcedure GlProgram := require (·.programs) handle

/-- The object of the buffer with a handle. -/
def buffer (handle : Handle) : GlProcedure (Option Nat) := require (·.buffers) handle

/-- Keeps a shader. -/
def keepShader (handle : Handle) (s : GlShader) : GlProcedure Unit :=
  update fun d => { d with shaders := d.shaders.put handle s }

/-- Keeps a program. -/
def keepProgram (handle : Handle) (p : GlProgram) : GlProcedure Unit :=
  update fun d => { d with programs := d.programs.put handle p }

/-- Keeps the object of a buffer. -/
def keepBuffer (handle : Handle) (object : Option Nat) : GlProcedure Unit :=
  update fun d => { d with buffers := d.buffers.put handle object }

/-- A new handle. -/
def newHandle : GlProcedure Handle := do
  update fun d => { d with lastHandle := d.lastHandle + 1 }
  return (← state).lastHandle

/-- Gives back an object, if there is one. -/
def releaseObject (object : Option GpuObject) : GlProcedure Unit := do
  match object with
  | some object => Platform.ask (.release object)
  | none => pure ()

/-! ### Shaders -/

/-- What a compiler's message holds, and a linker's does not. -/
def compilerFailed : String := "GLSL Compiler failed"

/-- The program that a shader is **tried out** in. -/
def trialProgram (glslVersion : Option Int) (s : GlShader) : String × Option String :=
  match s.stage with
  | .vertex => (s.source, none)
  | .fragment =>
    (String.ofList (Version.trialVertex glslVersion s.source.toList), some s.source)

/-- The **diagnostic** of a trial, if the shader itself is at fault. -/
def trial (s : GlShader) : GlProcedure (Option String) := do
  let (vertex, fragment) := trialProgram (← state).glslVersion s
  requireContext
  match ← (Platform.ask (.linkProgram vertex fragment)).attempt with
  | .ok linked =>
    releaseObject (some (.program linked.number))
    return none
  | .error (.rejected message) =>
    if Text.contains compilerFailed.toList message.toList then return some message
    tell (.trialLinkIgnored s.stage message)
    return none
  | .error fault => fail fault

/-- A new shader. -/
def createShader (stage : Stage) : GlProcedure Handle := do
  let handle ← newHandle
  keepShader handle { stage }
  return handle

/-- **Compiles** a source: the source is kept first, then it is tried out. -/
def compileShader (handle : Handle) (source : String) : GlProcedure Unit := do
  let s ← shader handle
  let source := String.ofList (Version.complete (← state).glslVersion source.toList)
  let s := { s with source }
  keepShader handle s
  match ← trial s with
  | none => keepShader handle { s with compiled := true, infoLog := "" }
  | some message => keepShader handle { s with compiled := false, infoLog := message }

/-! ### Programs -/

/-- A new program. -/
def createProgram : GlProcedure Handle := do
  let handle ← newHandle
  keepProgram handle {}
  return handle

/-- Attaches a shader, which need not be there. -/
def attachShader (handle shader : Handle) : GlProcedure Unit := do
  let p ← program handle
  keepProgram handle { p with shaders := p.shaders ++ [shader] }

/-- The shaders with some handles. -/
def shadersOf : List Handle → GlProcedure (List GlShader)
  | [] => return []
  | handle :: rest => do
    let s ← shader handle
    return s :: (← shadersOf rest)

/-- The source of a stage: of several shaders of one stage the last one counts. -/
def sourceOf (stage : Stage) (shaders : List GlShader) : Option String :=
  (shaders.reverse.find? (·.stage == stage)).map (·.source)

/-- What the info log holds when a stage is missing. -/
def missingStage (stage : Stage) : String :=
  let label := String.ofList (stage.name.toList.map Char.toUpper)
  "<ShaderStage." ++ label ++ ": " ++ Text.quote stage.name ++ ">"

/-- The linked program of some shaders, or the diagnostic if they do not make one. -/
def linkShaders (shaders : List GlShader) : GlProcedure (Except String LinkedProgram) := do
  requireContext
  match sourceOf .vertex shaders, sourceOf .fragment shaders with
  | none, _ => return .error (missingStage .vertex)
  | some _, none => return .error (missingStage .fragment)
  | some vertex, some fragment =>
    match ← (Platform.ask (.linkProgram vertex (some fragment))).attempt with
    | .ok linked => return .ok linked
    | .error (.rejected message) => return .error message
    | .error fault => fail fault

/-- **Links** a program. What an earlier link gave stays until this one succeeds. -/
def linkProgram (handle : Handle) : GlProcedure Unit := do
  let p ← program handle
  let shaders ← shadersOf p.shaders
  match ← linkShaders shaders with
  | .ok linked =>
    keepProgram handle { p with linkedProgram := some linked, linked := true, infoLog := "" }
  | .error message => keepProgram handle { p with linked := false, infoLog := message }

/-- Forgets a program and gives back its objects. -/
def deleteProgram (handle : Handle) : GlProcedure Unit := do
  match (← state).programs.find? handle with
  | none => pure ()
  | some p =>
    update fun d => { d with programs := d.programs.erase handle }
    releaseObject (p.vertexArray.map .vertexArray)
    releaseObject (p.linkedProgram.map fun l => .program l.number)

/-- Refuses a program that is not there. The context takes a program only when it draws. -/
def useProgram (handle : Handle) : GlProcedure Unit := do
  if ((← state).programs.find? handle).isNone then fail (.unknownProgram handle)

/-- The member of a program with a name, if it is of the given kind. -/
def member? (p : GlProgram) (name : String) (kind : MemberKind) : Option Member :=
  match p.linkedProgram with
  | none => none
  | some linked =>
    match linked.members.find? (·.name == name) with
    | some m => if m.kind = kind then some m else none
    | none => none

/-! ### Buffers and inputs -/

/-- A new buffer. -/
def createBuffer : GlProcedure Handle := do
  let handle ← newHandle
  keepBuffer handle none
  return handle

/-- **Uploads** bytes into a buffer; what was in it is given back first. -/
def uploadBuffer (handle : Handle) (data : List UInt8) : GlProcedure Unit := do
  let previous ← buffer handle
  releaseObject (previous.map .buffer)
  requireContext
  let object : Nat ← Platform.ask (.createBuffer data)
  keepBuffer handle (some object)

/-- Forgets a buffer and gives back its object. -/
def deleteBuffer (handle : Handle) : GlProcedure Unit := do
  match (← state).buffers.find? handle with
  | none => pure ()
  | some object =>
    update fun d => { d with buffers := d.buffers.erase handle }
    releaseObject (object.map .buffer)

/-- The location of an input. -/
def attributeLocation (handle : Handle) (name : String) : GlProcedure Int := do
  let p ← program handle
  match member? p name .input with
  | none => return Device.absent
  | some m =>
    keepProgram handle { p with inputs := p.inputs.put m.location m.name }
    return m.location

/-- The **formats of entries**, by their number of components. -/
def formats : List (Int × String) := [(1, "f"), (2, "2f"), (3, "3f"), (4, "4f")]

/-- **Binds** a buffer to a location. A vertex array made from the old bindings is given back. -/
def bindAttribute (handle : Handle) (location : Int) (buffer : Handle) (components : Int) :
    GlProcedure Unit := do
  if location != Device.absent then
    let p ← program handle
    match formats.lookup components with
    | none => fail (.unknownEntry components)
    | some format =>
      let p := { p with bindings := p.bindings.put location ⟨buffer, format⟩ }
      keepProgram handle p
      match p.vertexArray with
      | none => pure ()
      | some number =>
        releaseObject (some (.vertexArray number))
        keepProgram handle { p with vertexArray := none }

/-! ### Uniforms -/

/-- The location of a uniform. -/
def uniformLocation (handle : Handle) (name : String) : GlProcedure Int := do
  let p ← program handle
  match member? p name .uniform, p.linkedProgram with
  | some m, some linked =>
    let u : GlUniform := ⟨linked.number, m.name⟩
    keepProgram handle { p with uniforms := p.uniforms.put m.location u }
    return m.location
  | _, _ => return Device.absent

/-- **Sets** a uniform that was asked for. A matrix goes to the context column by column. -/
def setUniform (handle : Handle) (location : Int) (value : UniformValue) : GlProcedure Unit := do
  if location != Device.absent then
    let p ← program handle
    match p.uniforms.find? location with
    | none => fail (.unknownEntry location)
    | some u =>
      match value with
      | .scalar x => Platform.ask (.writeScalar u.program u.name x)
      | .vector xs => Platform.ask (.writeVector u.program u.name xs)
      | .matrix m => Platform.ask (.writeMatrix u.program u.name m.transpose.toList)
      | .wideMatrix m => Platform.ask (.writeMatrix u.program u.name m.narrow.transpose.toList)

/-! ### Drawing -/

/-- The bindings in the order of their locations. -/
def sortedBindings (p : GlProgram) : List (Int × GlBinding) :=
  p.bindings.entries.mergeSort fun a b => a.1 ≤ b.1

/-- The inputs of a vertex array for some bindings. -/
def vertexInputs (p : GlProgram) : List (Int × GlBinding) → GlProcedure (List VertexInput)
  | [] => return []
  | (location, binding) :: rest => do
    match ← buffer binding.buffer with
    | none =>
      fail (.broken ("Buffer " ++ Numeral.ofInt binding.buffer ++ " bound before upload"))
    | some object =>
      match p.inputs.find? location with
      | none => fail (.unknownEntry location)
      | some name => return ⟨object, binding.format, name⟩ :: (← vertexInputs p rest)

/-- The **vertex array** of a program, made anew if there is none. -/
def vertexArray (handle : Handle) : GlProcedure Nat := do
  let p ← program handle
  match p.vertexArray, p.linkedProgram with
  | some number, _ => return number
  | none, none => fail .notLinked
  | none, some linked =>
    let inputs ← vertexInputs p (sortedBindings p)
    requireContext
    let number : Nat ← Platform.ask (.createVertexArray linked.number inputs)
    keepProgram handle { p with vertexArray := some number }
    return number

/-- **Draws** triangles. -/
def drawTriangles (handle : Handle) (vertices : Int) : GlProcedure Unit := do
  let number ← vertexArray handle
  Platform.ask (.render number vertices)

/-- Sets the view. Its size is kept even if the context is gone. -/
def setViewport (view : ViewSize) : GlProcedure Unit := do
  update fun d => { d with view }
  requireContext
  Platform.ask (.setContextViewport view)

/-! ### The device as a whole -/

/-- How a **device call is carried out**. Frames are up to the display's table, so that asking for
them and giving them up needs nothing of the context. -/
def perform : (call : Device.Call) → GlProcedure (Device.Reply call)
  | .isAvailable => return (← state).hasContext
  | .createShader stage => createShader stage
  | .compileShader handle source => compileShader handle source
  | .shaderCompiled handle => return (← shader handle).compiled
  | .shaderInfoLog handle => return (← shader handle).infoLog
  | .deleteShader handle => update fun d => { d with shaders := d.shaders.erase handle }
  | .createProgram => createProgram
  | .attachShader handle shader => attachShader handle shader
  | .linkProgram handle => linkProgram handle
  | .programLinked handle => return (← program handle).linked
  | .programInfoLog handle => return (← program handle).infoLog
  | .deleteProgram handle => deleteProgram handle
  | .useProgram handle => useProgram handle
  | .createBuffer => createBuffer
  | .uploadBuffer handle data => uploadBuffer handle data
  | .deleteBuffer handle => deleteBuffer handle
  | .attributeLocation handle name => attributeLocation handle name
  | .bindAttribute handle location buffer components =>
    bindAttribute handle location buffer components
  | .uniformLocation handle name => uniformLocation handle name
  | .setUniform handle location value => setUniform handle location value
  | .viewportSize => return (← state).view
  | .setViewport size => setViewport size
  | .clear color => do
    requireContext
    Platform.ask (.clear color)
  | .enableDepthTest => do
    requireContext
    Platform.ask .enableDepthTest
  | .drawTriangles handle vertices => drawTriangles handle vertices
  | .requestFrame => return ()
  | .cancelFrame _ => return ()
  | .now => Platform.ask .now

/-- Deletes the given programs. -/
def deletePrograms : List Handle → GlProcedure Unit
  | [] => pure ()
  | handle :: rest => do
    deleteProgram handle
    deletePrograms rest

/-- Deletes the given buffers. -/
def deleteBuffers : List Handle → GlProcedure Unit
  | [] => pure ()
  | handle :: rest => do
    deleteBuffer handle
    deleteBuffers rest

/-- **Gives back every object** and lets go of the context. -/
def release : GlProcedure Unit := do
  deletePrograms (← state).programs.keys
  deleteBuffers (← state).buffers.keys
  update fun d => { d with shaders := {}, hasContext := false }

/-- Opens a device **without a display**, which draws into a picture of the given size. -/
def openStandalone {σ : Type} (glslVersion : Option Int) (view : ViewSize) :
    PlatformProcedure σ GlDevice := do
  match ← (Platform.ask .createStandaloneContext).attempt with
  | .error fault =>
    fail (.pipeline (.deviceUnavailable ("No OpenGL context available: " ++ fault.message)))
  | .ok info =>
    Platform.ask (.createFramebuffer view)
    Platform.ask .useFramebuffer
    return onContext info glslVersion (some view)

end GlDevice

end ShaderPreview
