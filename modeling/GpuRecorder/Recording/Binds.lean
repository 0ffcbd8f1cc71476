import GpuRecorder.Recording.Buffer

/-!
# Binding and setting

Pipelines and input assemblers are bound by identity: binding the one that is bound already
records nothing.  Dynamic settings are recorded when they change something.
-/

namespace GpuRecorder.Recording

open Native Resource

namespace CommandBuffer

/-- The identity of the bound pipeline. -/
def boundPipeline (c : CommandBuffer) : Option ResourceId := c.bindings.pipeline.map (·.id)

def bindPipeline (c : CommandBuffer) (p : Pipeline) : CommandBuffer × Script :=
  c.withNative "bind_pipeline_state" fun handle =>
    if c.boundPipeline = some p.id then (c, [])
    else
      ({ c with bindings := { c.bindings with pipeline := some p } },
        .record handle [.bindPipeline p.point p.handle])

/-- The commands that bind some streams and an index buffer. -/
def assemblerCommands (streams : List BufferPoint) (index : Option (BufferPoint × IndexType)) :
    List Command :=
  (if streams.isEmpty then [] else [.bindVertexBuffers 0 streams]) ++
    match index with
    | none => []
    | some (start, type) => [.bindIndexBuffer start type]

/-- Bind an assembler as it is now; its vertex arrays are brought up to date. -/
def bindAssembler (c : CommandBuffer) (s : Store) (a : ResourceId) :
    Store × CommandBuffer × Script :=
  match c.handle? with
  | none => (s, c, [.report (notReady "bind_input_assembler")])
  | some handle =>
    if c.bindings.assembler = some a then (s, c, [])
    else
      let (streams, s) := s.refreshArrays a
      (s, { c with bindings := { c.bindings with assembler := some a } },
        .record handle (assemblerCommands streams (s.indexBinding (s.assemblers.get a))))

def set (c : CommandBuffer) (x : Setting) : CommandBuffer × Script :=
  c.withNative x.name fun handle =>
    if c.bindings.dynamic.holds x then (c, [])
    else
      ({ c with bindings := { c.bindings with dynamic := c.bindings.dynamic.remember x } },
        .record handle x.commands)

/-- An assembler that is bound anew is bound as it is now. -/
theorem bindAssembler_of_ready {c : CommandBuffer} {n : NativeBuffer} (h : c.native = some n)
    (s : Store) (a : ResourceId) :
    c.bindAssembler s a =
      if c.bindings.assembler = some a then (s, c, [])
      else
        ((s.refreshArrays a).2, { c with bindings := { c.bindings with assembler := some a } },
          Script.record n.handle (assemblerCommands (s.vertexStreams (s.assemblers.get a))
            (s.indexBinding (s.assemblers.get a)))) := by
  simp only [bindAssembler, handle?, h, Option.map_some, Store.streams_refreshArrays,
    Store.indexBinding_refreshArrays]

theorem set_of_holds {c : CommandBuffer} {x : Setting} (h : c.isReady)
    (hx : c.bindings.dynamic.holds x = true) : c.set x = (c, []) := by
  obtain ⟨n, hn⟩ := Option.isSome_iff_exists.1 h
  rw [set, withNative_of_ready hn, if_pos hx]

end CommandBuffer

end GpuRecorder.Recording
