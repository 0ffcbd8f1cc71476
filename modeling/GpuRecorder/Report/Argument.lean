import GpuRecorder.Native.Command
import GpuRecorder.Native.Error
import GpuRecorder.Native.Message
import GpuRecorder.Report.Datum

/-!
# Arguments in reports

How the arguments of native calls are shown.
-/

namespace GpuRecorder.Report

open Binary Draw Native

def rect (r : Rect) : Datum := .list [r.x, r.y, r.width, r.height]

def viewport (v : NativeViewport) : Datum :=
  .singles [v.x, v.y, v.width, v.height, v.minDepth, v.maxDepth]

def clear : ClearValue → Datum
  | .color c => .record [("color", .singles c.components)]
  | .depthStencil depth stencil => .record [("depth", depth), ("stencil", stencil)]

def info (i : DescriptorInfo) : Datum :=
  .list [i.buffer.buffer, i.buffer.offset, i.buffer.range, i.image.sampler, i.image.view,
    i.image.layout.code, i.texelView]

def payload : Payload → Datum
  | .buffer b => .list [.text "buffer", b.buffer, b.offset, b.range]
  | .image i => .list [.text "image", i.sampler, i.view, i.layout.code]
  | .texel view => .list [.text "texel", view]

def type (t : DescriptorType) : Datum := t.code

def descriptorClass : DescriptorClass → Datum
  | .buffer => .text "Buffer"
  | .image => .text "Image"
  | .texelBuffer => .text "TexelBuffer"

def write (w : DescriptorWrite) : Datum :=
  .record [("set", w.set), ("binding", w.binding), ("element", w.element), ("type", w.type.code),
    ("payload", payload w.payload)]

def passFields (p : RenderPassBegin) : Fields :=
  [("pass", p.pass), ("fb", p.framebuffer), ("area", rect p.area),
    ("clears", .listOf clear p.clears)]

def inheritance (i : Inheritance) : Datum := .list [i.pass, i.subpass, i.framebuffer]

def beginFields (b : RecordingBegin) : Fields :=
  [("flags", b.flags), ("inheritance", .option inheritance b.inheritance)]

def transitionFields (t : ImageTransition) : Fields :=
  [("image", t.image), ("aspect", t.aspect),
    ("layouts", .list [t.oldLayout.code, t.newLayout.code]),
    ("access", .naturals [t.srcAccess.bits, t.dstAccess.bits]),
    ("range", .naturals [t.range.baseMip, t.range.mipCount, t.range.baseLayer,
      t.range.layerCount])]

def copy (r : BufferImageCopy) : Datum :=
  .record [("offset", r.bufferOffset), ("row", r.rowLength), ("height", r.imageHeight),
    ("sub", .naturals [r.aspect, r.mipLevel, r.baseLayer, r.layerCount]),
    ("at", .list [r.offset.x, r.offset.y, r.offset.z]),
    ("extent", .naturals [r.extent.width, r.extent.height, r.extent.depth])]

/-! ## Messages and errors -/

def severityName : Severity → String
  | .error => "ERROR"
  | .warn => "WARN"
  | .info => "INFO"
  | .debug => "DEBUG"
  | .trace => "TRACE"

def message (m : Message) : Datum := .text (severityName m.severity ++ ": " ++ m.text)

def errorName : DeviceError → String
  | .api _ => "Api"
  | .invalidOperation _ => "InvalidOperation"
  | .outOfPoolMemory _ => "OutOfPoolMemory"
  | .initializationFailed _ => "InitializationFailed"
  | .missingExtension _ => "MissingExtension"

def errorFields (e : DeviceError) : Fields :=
  [("error", .text (errorName e)), ("message", .text e.message)]

def resultCode (c : ResultCode) : Datum :=
  .record [("error", .text "VkResult"), ("code", c.number)]

end GpuRecorder.Report
