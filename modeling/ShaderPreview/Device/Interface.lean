import ShaderPreview.Dialogue.Procedure
import ShaderPreview.Settings

/-!
# The Graphics Device

What the renderer asks of a graphics device. Shaders, programs and buffers are known by handles; a
name that a linked program does not have is at the absent location. Every call may be refused.

Three calls only read: whether the device is there, how large the view is, and what time it is. The
others are the **traced** calls.

## Main definitions

* `Device.Call`, `Device.Reply`: the calls and their answers.
* `Device`: the interface.
* `Device.absent`: the location of a name that is not there.
-/

namespace ShaderPreview

/-- The **handle** of a shader, a program or a buffer. -/
abbrev Handle := Int

/-- What a **uniform** can be set to. A matrix of doubles is narrowed on its way to the device. -/
inductive UniformValue where
  | scalar (x : Float)
  | vector (xs : List Float)
  | matrix (m : Matrix4 Float32)
  | wideMatrix (m : Matrix4 Float)
  deriving DecidableEq, Repr

namespace Device

/-- The location of a name that a linked program does not have. -/
def absent : Int := -1

/-- A **call** of the device. -/
inductive Call where
  | isAvailable
  | createShader (stage : Stage)
  | compileShader (shader : Handle) (source : String)
  | shaderCompiled (shader : Handle)
  | shaderInfoLog (shader : Handle)
  | deleteShader (shader : Handle)
  | createProgram
  | attachShader (program shader : Handle)
  | linkProgram (program : Handle)
  | programLinked (program : Handle)
  | programInfoLog (program : Handle)
  | deleteProgram (program : Handle)
  | useProgram (program : Handle)
  | createBuffer
  | uploadBuffer (buffer : Handle) (data : List UInt8)
  | deleteBuffer (buffer : Handle)
  | attributeLocation (program : Handle) (name : String)
  | bindAttribute (program : Handle) (location : Int) (buffer : Handle) (components : Int)
  | uniformLocation (program : Handle) (name : String)
  | setUniform (program : Handle) (location : Int) (value : UniformValue)
  | viewportSize
  | setViewport (size : ViewSize)
  | clear (color : Color)
  | enableDepthTest
  | drawTriangles (program : Handle) (vertices : Int)
  | requestFrame
  | cancelFrame (token : Nat)
  | now
  deriving DecidableEq, Repr

/-- What a call **answers**. -/
@[reducible] def Reply : Call → Type
  | .isAvailable => Bool
  | .createShader _ => Handle
  | .compileShader .. => Unit
  | .shaderCompiled _ => Bool
  | .shaderInfoLog _ => String
  | .deleteShader _ => Unit
  | .createProgram => Handle
  | .attachShader .. => Unit
  | .linkProgram _ => Unit
  | .programLinked _ => Bool
  | .programInfoLog _ => String
  | .deleteProgram _ => Unit
  | .useProgram _ => Unit
  | .createBuffer => Handle
  | .uploadBuffer .. => Unit
  | .deleteBuffer _ => Unit
  | .attributeLocation .. => Int
  | .bindAttribute .. => Unit
  | .uniformLocation .. => Int
  | .setUniform .. => Unit
  | .viewportSize => ViewSize
  | .setViewport .. => Unit
  | .clear _ => Unit
  | .enableDepthTest => Unit
  | .drawTriangles .. => Unit
  | .requestFrame => Unit
  | .cancelFrame _ => Unit
  | .now => Float

/-- Whether a call only reads, and leaves no trace. -/
def Call.isRead : Call → Bool
  | .isAvailable => true
  | .viewportSize => true
  | .now => true
  | _ => false

end Device

/-- The interface of a **graphics device**. -/
abbrev Device : Interface := ⟨Device.Call, Device.Reply⟩

/-- A procedure that makes calls of a device. -/
abbrev DeviceProcedure (σ α : Type) := Procedure Device σ α

/-- **Asks the device** for something. -/
abbrev Device.ask {σ : Type} (call : Device.Call) : DeviceProcedure σ (Device.Reply call) :=
  Procedure.perform (I := Device) call

end ShaderPreview
