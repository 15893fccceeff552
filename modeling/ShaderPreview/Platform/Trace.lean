import ShaderPreview.Dialogue.Run
import ShaderPreview.Platform.Interface
import ShaderPreview.Trace.Value

/-!
# Traces of Platform Calls

How the calls of a platform are written in a trace. Objects of a context have names made of a letter
for their kind and their number; a call that gave an object ends with its name.

## Main definitions

* `Platform.traceLine`: the line of a call.
* `Platform.trace`: the trace of a run.
-/

namespace ShaderPreview

/-- The **name of an object** in a trace. -/
def GpuObject.trace : GpuObject → TraceValue
  | .program number => .word ("p" ++ toString number)
  | .buffer number => .word ("b" ++ toString number)
  | .vertexArray number => .word ("v" ++ toString number)

/-- A vertex array's input in a trace. -/
def VertexInput.trace (i : VertexInput) : TraceValue :=
  .row [GpuObject.trace (.buffer i.buffer), .word i.format, .word i.name]

/-- The word for a property of a display. -/
def DisplayAttribute.name : DisplayAttribute → String
  | .depthSize => "depth"
  | .doubleBuffer => "doublebuffer"

namespace Platform

/-- The object that a call gave, unless it was refused. -/
def given {α : Type} (object : α → GpuObject) : Except Fault α → List TraceValue
  | .ok a => [(object a).trace]
  | .error _ => []

/-- The size of a buffer, and its sums if it can hold single-precision numbers. -/
def bufferContent (data : List UInt8) : List TraceValue :=
  if data.length % 4 = 0 then TraceValue.ofBuffer data else [.whole data.length]

/-- The number that the context knows triangles by. -/
def trianglesMode : Int := 4

/-- The number that the context knows the depth test by. -/
def depthTest : Int := 2

/-- The **line of a call**. -/
def traceLine : (call : Call) → Except Fault (Reply call) → TraceLine
  | .linkProgram vertex fragment, reply =>
    [.word "ctx.program", .word vertex, (fragment.map .word).getD .nothing]
      ++ given (fun l : LinkedProgram => .program l.number) reply
  | .createBuffer data, reply =>
    .word "ctx.buffer" :: bufferContent data ++ given .buffer reply
  | .createVertexArray program inputs, reply =>
    [.word "ctx.vertex_array", GpuObject.trace (.program program), .rowOf VertexInput.trace inputs]
      ++ given .vertexArray reply
  | .release object, _ => [.word "release", object.trace]
  | .render number vertices, _ =>
    [.word "render", GpuObject.trace (.vertexArray number), .whole trianglesMode, .whole vertices]
  | .setContextViewport size, _ =>
    [.word "ctx.viewport", .row ([.whole 0, .whole 0] ++ size.toList.map .measure)]
  | .clear color, _ => .word "ctx.clear" :: color.toList.map .double
  | .enableDepthTest, _ => [.word "ctx.enable", .whole depthTest]
  | .writeMatrix _ name columns, _ =>
    [.word "uniform.write", .word name, .rowOf .single columns]
  | .writeScalar _ name x, _ => [.word "uniform.value", .word name, .double x]
  | .writeVector _ name xs, _ => [.word "uniform.value", .word name, .rowOf .double xs]
  | .createStandaloneContext, _ => [.word "create_standalone_context"]
  | .createFramebuffer size, _ =>
    [.word "ctx.simple_framebuffer", .rowOf .measure size.toList]
  | .useFramebuffer, _ => [.word "fbo.use"]
  | .isReady, _ => [.word "get_init"]
  | .prepare, _ => [.word "init"]
  | .quit, _ => [.word "quit"]
  | .setAttribute which value, _ =>
    [.word "gl_set_attribute", .word which.name, .whole value]
  | .openDisplay size vsync, _ =>
    [.word "set_mode", .rowOf .measure size.toList, .truth true, .whole (if vsync then 1 else 0)]
  | .setCaption title, _ => [.word "set_caption", .word title]
  | .createContext, _ => [.word "create_context"]
  | .pollEvents, _ => [.word "events"]
  | .flip, _ => [.word "flip"]
  | .tick fps, _ => [.word "tick", .whole fps]
  | .readFile path, _ => [.word "read", .word path.toString]
  | .readInput, _ => [.word "read"]
  | .now, _ => [.word "now"]
  | .mark topic name, _ => [.word topic, .word name]

/-- The **trace of a run**: a line for every call that does more than read. -/
def trace {σ : Type} (moments : List (Moment Platform σ)) : List TraceLine :=
  (moments.filter fun m => !m.call.isRead).map fun m => traceLine m.call m.reply

end Platform

end ShaderPreview
