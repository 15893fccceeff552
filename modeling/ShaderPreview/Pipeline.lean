import ShaderPreview.Device.Interface
import ShaderPreview.Geometry.Mesh

/-!
# Pipelines

A **pipeline** holds what one program needs on the device: two shaders, the linked program, and the
buffers of its mesh. It is built in one go: the sources are compiled, the program is linked, the
mesh is uploaded and bound. Every handle is entered among the owned ones the moment it is obtained,
the newest first, so that whatever cuts a build short, all that was obtained can be given back in
the reverse order.

A handle leaves the owned ones just before its deletion is asked for. So no handle is ever deleted
twice, also where a deletion itself is refused.

## Main definitions

* `Phase`: how far a pipeline has come.
* `Program`: a program that is ready to be drawn.
* `Pipeline`: the holder, with `Pipeline.build` and `Pipeline.teardown`.
-/

namespace ShaderPreview

/-- **How far** a pipeline has come. -/
inductive Phase where
  | empty
  | compiling
  | linked
  | bound
  | active
  | failed
  deriving DecidableEq, Repr

/-- The name of a phase. -/
def Phase.name : Phase → String
  | .empty => "EMPTY"
  | .compiling => "COMPILING"
  | .linked => "LINKED"
  | .bound => "BOUND"
  | .active => "ACTIVE"
  | .failed => "FAILED"

/-- The three kinds of things that have handles. -/
inductive HandleKind where
  | shader
  | program
  | buffer
  deriving DecidableEq, Repr

/-- A handle that is **owned**, with the kind of thing it stands for. -/
structure Owned where
  kind : HandleKind
  handle : Handle
  deriving DecidableEq, Repr

/-- A **program that is ready to be drawn**: its five handles, the shape and size of its mesh, and
where the mesh enters the vertex shader. -/
structure Program where
  vertexShader : Handle
  fragmentShader : Handle
  program : Handle
  positionBuffer : Handle
  normalBuffer : Handle
  shape : Shape
  vertexCount : Nat
  positionLocation : Int := Device.absent
  normalLocation : Int := Device.absent
  deriving DecidableEq, Repr

/-- The handles of a program, in the order in which they were obtained. -/
def Program.handles (p : Program) : List Handle :=
  [p.vertexShader, p.fragmentShader, p.program, p.positionBuffer, p.normalBuffer]

/-- The **holder** of what one program needs: how far it has come, what it owns, the newest first,
and the program once it is ready. -/
structure Pipeline where
  phase : Phase := .empty
  owned : List Owned := []
  program : Option Program := none
  deriving DecidableEq, Repr

namespace Pipeline

open Procedure

/-- The number of components of a position and of a normal. -/
def components : Int := 3

/-- The vertex shader's name for a position. -/
def positionAttribute : String := "position"

/-- The vertex shader's name for a normal. -/
def normalAttribute : String := "normal"

/-! ### Owning and releasing -/

/-- Enters a handle among the owned ones. -/
def acquire (kind : HandleKind) (handle : Handle) : DeviceProcedure Pipeline Unit :=
  update fun p => { p with owned := ⟨kind, handle⟩ :: p.owned }

/-- Moves on to a phase. -/
def enter (phase : Phase) : DeviceProcedure Pipeline Unit := update fun p => { p with phase }

/-- Deletes what a handle stands for. -/
def delete (o : Owned) : DeviceProcedure Pipeline Unit :=
  match o.kind with
  | .shader => Device.ask (.deleteShader o.handle)
  | .program => Device.ask (.deleteProgram o.handle)
  | .buffer => Device.ask (.deleteBuffer o.handle)

/-- Gives back the given handles, which are all that is owned, one after another. -/
def releaseEach : List Owned → DeviceProcedure Pipeline Unit
  | [] => pure ()
  | o :: rest => do
    update fun p => { p with owned := rest }
    delete o
    releaseEach rest

/-- **Gives back** everything, the newest first. -/
def releaseAll : DeviceProcedure Pipeline Unit := do
  releaseEach (← state).owned

/-- Gives everything back and is **empty** again, whatever the phase was. -/
def teardown : DeviceProcedure Pipeline Unit := do
  let owned := (← state).owned
  if !owned.isEmpty then tell (.releasing owned.length)
  releaseAll
  update fun p => { p with program := none, phase := .empty }

/-! ### Building -/

/-- The handle of a new shader with the given source, if it **compiles**. -/
def compile (stage : Stage) (source : String) : DeviceProcedure Pipeline Handle := do
  let shader ← Device.ask (.createShader stage)
  acquire .shader shader
  Device.ask (.compileShader shader source)
  if ← Device.ask (.shaderCompiled shader) then return shader
  let log ← Device.ask (.shaderInfoLog shader)
  fail (.pipeline (.compile stage log none))

/-- The handle of a new program with the given shaders, if it **links**. -/
def link (vertexShader fragmentShader : Handle) : DeviceProcedure Pipeline Handle := do
  let program ← Device.ask .createProgram
  acquire .program program
  Device.ask (.attachShader program vertexShader)
  Device.ask (.attachShader program fragmentShader)
  Device.ask (.linkProgram program)
  if ← Device.ask (.programLinked program) then return program
  let log ← Device.ask (.programInfoLog program)
  fail (.pipeline (.link log none))

/-- The handle of a new buffer with the given bytes. -/
def upload (data : List UInt8) : DeviceProcedure Pipeline Handle := do
  let buffer ← Device.ask .createBuffer
  acquire .buffer buffer
  Device.ask (.uploadBuffer buffer data)
  return buffer

/-- Feeds an attribute from a buffer, unless the program does without it, and gives its location. -/
def feed (program : Handle) (name : String) (buffer : Handle) :
    DeviceProcedure Pipeline Int := do
  let location : Int ← Device.ask (.attributeLocation program name)
  if location != Device.absent then Device.ask (.bindAttribute program location buffer components)
  return location

/-- Puts the mesh of a shape behind a linked program. The mesh is computed first. -/
def bindMesh (vertexShader fragmentShader program : Handle) (shape : Shape) :
    DeviceProcedure Pipeline Program := do
  let mesh ← ofExcept (Mesh.ofShape shape)
  let positionBuffer ← upload mesh.positionBytes
  let normalBuffer ← upload mesh.normalBytes
  let positionLocation ← feed program positionAttribute positionBuffer
  let normalLocation ← feed program normalAttribute normalBuffer
  return {
    vertexShader, fragmentShader, program, positionBuffer, normalBuffer, shape
    vertexCount := mesh.vertexCount, positionLocation, normalLocation }

/-- All the steps of a build, which any fault cuts short. -/
def assemble (vertex fragment : String) (shape : Shape) : DeviceProcedure Pipeline Program := do
  enter .compiling
  let vertexShader ← compile .vertex vertex
  let fragmentShader ← compile .fragment fragment
  let program ← link vertexShader fragmentShader
  enter .linked
  let program ← bindMesh vertexShader fragmentShader program shape
  enter .bound
  return program

/-- **Builds a program**, after giving back what an earlier build left. If a step fails, what this
build obtained is given back before the fault passes on, and the phase says that it failed. -/
def build (vertex fragment : String) (shape : Shape) : DeviceProcedure Pipeline Program := do
  if (← state).phase != .empty then teardown
  let program ← (assemble vertex fragment shape).onFault do
    releaseAll
    enter .failed
  update fun p => { p with program := some program, phase := .active }
  tell (.programActive shape program.vertexCount)
  return program

end Pipeline

end ShaderPreview
