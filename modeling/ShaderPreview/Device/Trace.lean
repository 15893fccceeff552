import ShaderPreview.Device.Interface
import ShaderPreview.Dialogue.Run
import ShaderPreview.Trace.Value

/-!
# Traces of Device Calls

How the calls of a graphics device are written in a trace.

## Main definitions

* `Device.Call.name`: the word for a call.
* `Device.Call.traceLine`: the line of a call.
* `Device.trace`: the trace of a run.
-/

namespace ShaderPreview

/-- The name of a kind of **call**. -/
def Device.Call.name : Device.Call → String
  | .isAvailable => "is_available"
  | .createShader _ => "create_shader"
  | .compileShader .. => "compile_shader"
  | .shaderCompiled _ => "shader_compiled"
  | .shaderInfoLog _ => "shader_info_log"
  | .deleteShader _ => "delete_shader"
  | .createProgram => "create_program"
  | .attachShader .. => "attach_shader"
  | .linkProgram _ => "link_program"
  | .programLinked _ => "program_linked"
  | .programInfoLog _ => "program_info_log"
  | .deleteProgram _ => "delete_program"
  | .useProgram _ => "use_program"
  | .createBuffer => "create_buffer"
  | .uploadBuffer .. => "upload_buffer"
  | .deleteBuffer _ => "delete_buffer"
  | .attributeLocation .. => "attribute_location"
  | .bindAttribute .. => "bind_attribute"
  | .uniformLocation .. => "uniform_location"
  | .setUniform .. => "set_uniform"
  | .viewportSize => "viewport_size"
  | .setViewport .. => "set_viewport"
  | .clear _ => "clear"
  | .enableDepthTest => "enable_depth_test"
  | .drawTriangles .. => "draw_triangles"
  | .requestFrame => "request_frame"
  | .cancelFrame _ => "cancel_frame"
  | .now => "now"

/-- A uniform's value in a trace. -/
def UniformValue.trace : UniformValue → TraceValue
  | .scalar x => .double x
  | .vector xs => .rowOf .double xs
  | .matrix m => .matrix m.toList
  | .wideMatrix m => .matrix m.narrow.toList

namespace Device

/-- What was passed with a call. -/
def Call.arguments : Call → List TraceValue
  | .createShader stage => [.word stage.name]
  | .compileShader shader source => [.whole shader, .word source]
  | .shaderCompiled shader => [.whole shader]
  | .shaderInfoLog shader => [.whole shader]
  | .deleteShader shader => [.whole shader]
  | .attachShader program shader => [.whole program, .whole shader]
  | .linkProgram program => [.whole program]
  | .programLinked program => [.whole program]
  | .programInfoLog program => [.whole program]
  | .deleteProgram program => [.whole program]
  | .useProgram program => [.whole program]
  | .uploadBuffer buffer data => .whole buffer :: TraceValue.ofBuffer data
  | .deleteBuffer buffer => [.whole buffer]
  | .attributeLocation program name => [.whole program, .word name]
  | .bindAttribute program location buffer components =>
    [.whole program, .whole location, .whole buffer, .whole components]
  | .uniformLocation program name => [.whole program, .word name]
  | .setUniform program location value => [.whole program, .whole location, value.trace]
  | .setViewport size => size.toList.map .measure
  | .clear color => color.toList.map .double
  | .drawTriangles program vertices => [.whole program, .whole vertices]
  | .cancelFrame token => [.whole token]
  | .isAvailable | .createProgram | .createBuffer | .viewportSize | .enableDepthTest
  | .requestFrame | .now => []

/-- The **line of a call**. -/
def Call.traceLine (call : Call) : TraceLine := .word call.name :: call.arguments

/-- The **trace of a run**: a line for every call that does more than read. -/
def trace {σ : Type} (moments : List (Moment Device σ)) : List TraceLine :=
  ((moments.map (·.call)).filter (!·.isRead)).map Call.traceLine

end Device

end ShaderPreview
