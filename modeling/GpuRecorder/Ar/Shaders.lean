/-!
# Background shaders

The sources of the shaders that draw the camera image, one pair per shading language generation.
The uniform block sits in the material set at binding zero, the camera sampler at binding one.
-/

namespace GpuRecorder.Ar

/-- The graphics interfaces that shaders are written for. -/
inductive GraphicsApi where
  | gles2
  | gles3
  | metal
  | vulkan
  deriving DecidableEq, Repr, Inhabited

/-- The sources of one shader. -/
structure ShaderSource where
  vertex : String
  fragment : String
  deriving DecidableEq, Repr

/-- Lines as one text that begins and ends with a line break. -/
def text (lines : List String) : String := lines.foldl (fun s line => s ++ line ++ "\n") "\n"

/-- The vertex stage for Vulkan and Metal. -/
def modernVertex : String := text [
  "precision highp float;",
  "layout(location = 0) in vec2 a_position;",
  "layout(location = 1) in vec2 a_texCoord;",
  "layout(set = 1, binding = 0) uniform Mats \x7b",
  "    mat4 u_MVP;",
  "    mat4 u_CoordMatrix;",
  "\x7d;",
  "layout(location = 0) out vec2 v_texCoord;",
  "void main() \x7b",
  "    v_texCoord = (u_CoordMatrix * vec4(a_texCoord, 0, 1)).xy;",
  "    gl_Position = u_MVP * vec4(a_position, 0, 1);",
  "\x7d"]

/-- The fragment stage for Vulkan and Metal. -/
def modernFragment : String := text [
  "precision highp float;",
  "layout(location = 0) in vec2 v_texCoord;",
  "layout(set = 1, binding = 1) uniform sampler2D u_texture;",
  "layout(location = 0) out vec4 o_color;",
  "void main() \x7b",
  "    o_color = texture(u_texture, v_texCoord);",
  "\x7d"]

/-- The vertex stage for the third embedded generation. -/
def es3Vertex : String := text [
  "in vec2 a_position;",
  "in vec2 a_texCoord;",
  "layout(std140) uniform Mats \x7b",
  "    mat4 u_MVP;",
  "    mat4 u_CoordMatrix;",
  "\x7d;",
  "out vec2 v_texCoord;",
  "void main() \x7b",
  "    v_texCoord = (u_CoordMatrix * vec4(a_texCoord, 0, 1)).xy;",
  "    gl_Position = u_MVP * vec4(a_position, 0, 1);",
  "\x7d"]

/-- The fragment stage for the third embedded generation. -/
def es3Fragment : String := text [
  "#extension GL_OES_EGL_image_external_essl3 : require",
  "precision mediump float;",
  "in vec2 v_texCoord;",
  "uniform samplerExternalOES u_texture;",
  "out vec4 o_color;",
  "void main() \x7b",
  "    o_color = texture(u_texture, v_texCoord);",
  "\x7d"]

/-- The vertex stage for the second embedded generation. -/
def es2Vertex : String := text [
  "attribute vec2 a_position;",
  "attribute vec2 a_texCoord;",
  "uniform mat4 u_MVP;",
  "uniform mat4 u_CoordMatrix;",
  "varying vec2 v_texCoord;",
  "void main() \x7b",
  "    v_texCoord = (u_CoordMatrix * vec4(a_texCoord, 0, 1)).xy;",
  "    gl_Position = u_MVP * vec4(a_position, 0, 1);",
  "\x7d"]

/-- The fragment stage for the second embedded generation. -/
def es2Fragment : String := text [
  "#extension GL_OES_EGL_image_external : require",
  "precision mediump float;",
  "varying vec2 v_texCoord;",
  "uniform samplerExternalOES u_texture;",
  "void main() \x7b",
  "    gl_FragColor = texture2D(u_texture, v_texCoord);",
  "\x7d"]

/-- The shader for a graphics interface. -/
def backgroundShader : GraphicsApi → ShaderSource
  | .gles2 => ⟨es2Vertex, es2Fragment⟩
  | .gles3 => ⟨es3Vertex, es3Fragment⟩
  | .metal | .vulkan => ⟨modernVertex, modernFragment⟩

end GpuRecorder.Ar
