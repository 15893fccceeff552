import ShaderPreview.Dialogue.Procedure
import ShaderPreview.Files.Path
import ShaderPreview.Settings

/-!
# The Platform

What the program asks of the system it runs on: a graphics context, which makes objects and draws
with them; a display with a window and its events; files and standard input; and a clock. Objects of
a context are known by numbers, one series for each kind.

Some calls only read: whether the display is ready, what a file holds, what time it is. The others
are the **traced** calls.

## Main definitions

* `Platform.Call`, `Platform.Reply`: the calls and their answers.
* `Platform`: the interface.
* `GpuObject`: the objects of a context.
* `WindowEvent`, `EventBatch`: what happens to a window.
-/

namespace ShaderPreview

/-! ### Graphics contexts -/

/-- An **object that a context has made**. -/
inductive GpuObject where
  | program (number : Nat)
  | buffer (number : Nat)
  | vertexArray (number : Nat)
  deriving DecidableEq, Repr

/-- What kind of name a linked program has. -/
inductive MemberKind where
  | input
  | uniform
  | block
  deriving DecidableEq, Repr

/-- A **name of a linked program**, with its location. -/
structure Member where
  name : String
  kind : MemberKind
  location : Int
  deriving DecidableEq, Repr

/-- A **linked program**: its number and its names. -/
structure LinkedProgram where
  number : Nat
  members : List Member := []
  deriving DecidableEq, Repr

/-- One **input of a vertex array**: the buffer it is read from, the format of its entries, and the
name in the vertex shader. -/
structure VertexInput where
  buffer : Nat
  format : String
  name : String
  deriving DecidableEq, Repr

/-- What is known of a **new context**: the size of its screen and its version. -/
structure ContextInfo where
  screen : ViewSize
  version : Int
  deriving DecidableEq, Repr

/-! ### Windows -/

/-- A **key**. -/
inductive Key where
  | letter (c : Char)
  | escape
  | space
  deriving DecidableEq, Repr

/-- Something that **happens to a window**. -/
inductive WindowEvent where
  | quit
  | resize (width height : Int)
  | keyDown (key : Key)
  | keyUp (key : Key)
  deriving DecidableEq, Repr

/-- The events since the last time, and whether the context has gone in the meantime. -/
structure EventBatch where
  contextLost : Bool := false
  events : List WindowEvent := []
  deriving DecidableEq, Repr

/-- A property of a display that is asked for before it is opened. -/
inductive DisplayAttribute where
  | depthSize
  | doubleBuffer
  deriving DecidableEq, Repr

/-! ### The interface -/

namespace Platform

/-- A **call** of the platform. A mark asks for nothing; it only shows in a trace that some point
was reached. -/
inductive Call where
  | linkProgram (vertex : String) (fragment : Option String)
  | createBuffer (data : List UInt8)
  | createVertexArray (program : Nat) (inputs : List VertexInput)
  | release (object : GpuObject)
  | render (vertexArray : Nat) (vertices : Int)
  | setContextViewport (size : ViewSize)
  | clear (color : Color)
  | enableDepthTest
  | writeMatrix (program : Nat) (name : String) (columns : List Float32)
  | writeScalar (program : Nat) (name : String) (x : Float)
  | writeVector (program : Nat) (name : String) (xs : List Float)
  | createStandaloneContext
  | createFramebuffer (size : ViewSize)
  | useFramebuffer
  | isReady
  | prepare
  | quit
  | setAttribute (which : DisplayAttribute) (value : Nat)
  | openDisplay (size : ViewSize) (vsync : Bool)
  | setCaption (title : String)
  | createContext
  | pollEvents
  | flip
  | tick (fps : Int)
  | readFile (path : Path)
  | readInput
  | now
  | mark (topic name : String)
  deriving DecidableEq, Repr

/-- What a call **answers**. -/
@[reducible] def Reply : Call → Type
  | .linkProgram .. => LinkedProgram
  | .createBuffer _ => Nat
  | .createVertexArray .. => Nat
  | .release _ => Unit
  | .render .. => Unit
  | .setContextViewport .. => Unit
  | .clear _ => Unit
  | .enableDepthTest => Unit
  | .writeMatrix .. => Unit
  | .writeScalar .. => Unit
  | .writeVector .. => Unit
  | .createStandaloneContext => ContextInfo
  | .createFramebuffer .. => Unit
  | .useFramebuffer => Unit
  | .isReady => Bool
  | .prepare => Unit
  | .quit => Unit
  | .setAttribute .. => Unit
  | .openDisplay .. => Unit
  | .setCaption _ => Unit
  | .createContext => ContextInfo
  | .pollEvents => EventBatch
  | .flip => Unit
  | .tick _ => Unit
  | .readFile _ => List UInt8
  | .readInput => List UInt8
  | .now => Float
  | .mark .. => Unit

/-- Whether a call only reads, and leaves no trace. -/
def Call.isRead : Call → Bool
  | .createStandaloneContext => true
  | .isReady => true
  | .readFile _ => true
  | .readInput => true
  | .now => true
  | _ => false

end Platform

/-- The interface of a **platform**. -/
abbrev Platform : Interface := ⟨Platform.Call, Platform.Reply⟩

/-- A procedure that makes calls of a platform. -/
abbrev PlatformProcedure (σ α : Type) := Procedure Platform σ α

/-- **Asks the platform** for something. -/
abbrev Platform.ask {σ : Type} (call : Platform.Call) : PlatformProcedure σ (Platform.Reply call) :=
  Procedure.perform (I := Platform) call

end ShaderPreview
