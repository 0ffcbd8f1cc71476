import GpuRecorder.Ar.Plane
import GpuRecorder.Ar.Tracker
import GpuRecorder.Recording.Buffer
import GpuRecorder.Report.Argument

/-!
# Objects in reports

How the objects of a session are shown, with the state they have now.
-/

namespace GpuRecorder.Report

open Binary Draw Native Resource Recording Device

def identity (id : ResourceId) : Datum := id.number

def capabilities (c : Capabilities) : Datum :=
  .list [.flag c.pushDescriptor, .flag c.descriptorUpdateTemplate, .flag c.multiDrawIndirect]

def stats (s : Stats) : List Nat := [s.drawCalls, s.instances, s.triangles]

/-! ## 1. Resources -/

def buffer (s : Store) (id : ResourceId) : Datum :=
  let b := s.buffers.get id
  .record [("id", identity id), ("usage", b.usage), ("stride", b.stride),
    ("handle", b.backing.handle), ("offset", b.backing.offset), ("size", b.backing.size),
    ("view", b.backing.texelView), ("count", b.count)]

def texture (s : Store) (id : ResourceId) : Datum :=
  let t := s.textures.get id
  .record [("id", identity id), ("format", t.format), ("aspect", t.aspect),
    ("external", .option .natural t.externalId), ("image", t.backing.image),
    ("view", t.backing.view), ("extent", .naturals [t.width, t.height]),
    ("layout", t.backing.layout.code)]

def sampler (s : Sampler) : Datum := .record [("id", identity s.id), ("handle", s.handle)]

def slot (s : Slot) : Datum := .list [s.binding, s.element, s.type.code]

def binding (b : Binding) : Datum := .list [b.binding, b.type.code, b.count, b.stages]

def setLayout (l : SetLayout) : Datum :=
  .record [("handle", l.handle), ("bindings", .listOf binding l.bindings)]

def template (t : UpdateTemplate) : Datum := .list [t.handle, .listOf type t.entryTypes]

/-- A shader; its sets are followed by one that is not declared. -/
def shader (s : Shader) : Datum :=
  let sets := List.range (s.sets.length + 1)
  .record [("id", identity s.id), ("name", .text s.name), ("layout", s.layout),
    ("native", .handles (s.nativeLayouts s.sets.length)), ("sets", .listOf setLayout s.sets),
    ("entries", .listOf (fun n => .listOf slot (s.slots n)) sets),
    ("templates", .listOf (fun n => .option template (s.template? n)) sets)]

/-- The topologies by name. -/
def primitives : List (String × Primitive) :=
  [("PointList", .pointList), ("LineList", .lineList), ("LineStrip", .lineStrip),
    ("TriangleList", .triangleList), ("TriangleStrip", .triangleStrip),
    ("TriangleFan", .triangleFan), ("PatchList", .patchList)]

def primitiveName (p : Primitive) : String := ((primitives.find? (·.2 = p)).map (·.1)).getD ""

def pipeline (p : Pipeline) : Datum :=
  .record [("id", identity p.id), ("handle", p.handle), ("point", p.point.code),
    ("primitive", .text (primitiveName p.primitive)), ("shader", .text p.shader.name)]

def renderPass (p : RenderPass) : Datum :=
  .record [("id", identity p.id), ("handle", p.handle), ("colors", p.colorAttachments),
    ("attachments", p.attachments)]

def swapchain (s : Store) (id : ResourceId) : Datum :=
  let c := s.swapchains.get id
  .record [("id", identity id), ("images", c.images), ("current", c.current)]

def target : Target → Datum
  | .offscreen handle => .list [.text "offscreen", handle]
  | .swapchain id perImage => .list [.text "swapchain", identity id, .handles perImage]

def framebuffer (s : Store) (f : Framebuffer) : Datum :=
  .record [("id", identity f.id), ("target", target f.target),
    ("resolve", .option .handle (s.resolve f))]

def parameters (p : Parameters) : Datum :=
  .list [p.vertexCount, p.firstVertex, p.indexCount, p.firstIndex, p.vertexOffset,
    p.instanceCount, p.firstInstance]

def indexStart : BufferPoint × IndexType → Datum
  | (start, type) => .list [start.buffer, start.offset, type.code]

def indirect (s : Store) (i : Indirect) : Datum :=
  .list [(s.backing i.buffer).handle, i.count, .flag i.indexed, i.stride]

def assembler (s : Store) (id : ResourceId) : Datum :=
  let a := s.assemblers.get id
  .record [("id", identity id), ("info", parameters a.parameters),
    ("extract", parameters (s.drawParameters a)),
    ("vertex", .handles ((s.vertexStreams a).map (·.buffer))),
    ("index", .option (fun id => .handle (s.backing id).handle) a.index),
    ("index_binding", .option indexStart (s.indexBinding a)),
    ("indirect", .option (indirect s) a.indirect)]

/-- A binding layout; its sets are followed by one that is not declared. -/
def layout (s : Store) (id : ResourceId) : Datum :=
  let l := s.layouts.get id
  let sets := List.range (l.setCount + 1)
  .record [("id", identity id), ("sets", l.setCount), ("native", .handles l.nativeSets),
    ("slots", .listOf (fun n => .listOf slot (l.slots n)) sets),
    ("infos", .listOf (fun n => .listOf info (l.infos n)) sets)]

/-! ## 2. Command buffers -/

def kindName : BufferKind → String
  | .primary => "Primary"
  | .secondary => "Secondary"

def queue (q : Queue) : Datum := .list [q.handle, q.family]

/-- A command buffer, which always belongs to the device of its session. -/
def commandBuffer (c : CommandBuffer) : Datum :=
  .record [("kind", .text (kindName c.kind)), ("queue", .option queue c.queue),
    ("native", .option .handle c.handle?), ("stats", .naturals (stats c.stats)),
    ("same_device", .flag true)]

/-- What changes most often about a command buffer. -/
def commandBufferState (c : CommandBuffer) : Datum :=
  .list ([.flag c.isReady, .flag c.inPass] ++ (stats c.stats).map .natural)

/-! ## 3. Tracking -/

def isometry (i : Ar.Isometry) : Datum :=
  .record [("t", .singles i.shift), ("q", .singles i.rotation.toList)]

def plane (p : Ar.Plane) : Datum :=
  .record [("index", p.index), ("type", p.type), ("tracking", p.tracking),
    ("extent", .singles [p.extentX, p.extentZ]), ("pose", .singles p.center.toList),
    ("center", isometry p.center.isometry)]

/-- What a tracking platform was told. -/
def notice : Ar.Notice → Datum
  | .start => .text "start"
  | .resume => .text "resume"
  | .pause => .text "pause"
  | .update => .text "update"
  | .cameraTexture id => .text (s!"texture {id}")
  | .updatePlanes => .text "update_planes_info"

end GpuRecorder.Report
