import GpuRecorder.Recording.Buffer

/-!
# Draws

A draw takes everything from an input assembler.  Indirect draws go out in one call where the
device takes several records at once, else in one call per record; only direct draws are counted.
Executing secondary buffers adds what they have drawn.
-/

namespace GpuRecorder.Recording

open Draw Native Resource

namespace CommandBuffer

/-- The calls that draw the records of an indirect buffer starting at `start`. -/
def indirectCommands (multiDraw : Bool) (start : BufferPoint) (i : Indirect) : List Command :=
  let draw (records : BufferPoint) (count : Nat) : Command :=
    if i.indexed then .drawIndexedIndirect records count i.stride
    else .drawIndirect records count i.stride
  if multiDraw then [draw start i.count]
  else
    (List.range i.count).map fun record =>
      draw { start with offset := start.offset + record * i.stride } 1

/-- The call that draws an assembler with resolved parameters. -/
def directCommand (indexed : Bool) (p : Parameters) : Command :=
  let instances := max 1 p.instanceCount
  if indexed then
    .drawIndexed p.indexCount instances p.firstIndex p.vertexOffset p.firstInstance
  else .draw p.vertexCount instances p.firstVertex p.firstInstance

/-- What a direct draw adds to the statistics. -/
def directStats (primitive : Option Primitive) (indexed : Bool) (p : Parameters) : Stats :=
  .ofDraw primitive (if indexed then p.indexCount else p.vertexCount) (max 1 p.instanceCount)

def draw (c : CommandBuffer) (multiDraw : Bool) (s : Store) (a : ResourceId) :
    CommandBuffer × Script :=
  c.withNative "draw" fun handle =>
    if c.passIsMissing then c.refuse "Command 'draw' must be recorded inside a render pass"
    else
      let assembler := s.assemblers.get a
      match assembler.indirect with
      | some i => (c, .record handle (indirectCommands multiDraw (s.start i.buffer) i))
      | none =>
        let indexed := assembler.index.isSome
        let p := s.drawParameters assembler
        let drawn := directStats (c.bindings.pipeline.map (·.primitive)) indexed p
        ({ c with stats := c.stats.accumulate drawn }, .record handle [directCommand indexed p])

/-! ## Secondary buffers -/

/-- The native buffers of the ready children. -/
def readyHandles (children : List CommandBuffer) : List (Handle .commandBuffer) :=
  children.filterMap handle?

/-- The children that cannot be executed, as they are reported. -/
def skipped (children : List CommandBuffer) : Script :=
  (children.filter fun child => !child.isReady).map fun _ =>
    .report (.warn "Skipping an uninitialized secondary command buffer")

/-- Execute the ready children and add what they have drawn. -/
def execute (c : CommandBuffer) (children : List CommandBuffer) : CommandBuffer × Script :=
  if children.isEmpty then (c, [])
  else
    c.withNative "execute" fun handle =>
      let ready := children.filter isReady
      let stats := ready.foldl (fun total child => total.accumulate child.stats) c.stats
      let commands :=
        if ready.isEmpty then [] else [.executeCommands (readyHandles children)]
      ({ c with stats }, skipped children ++ .record handle commands)

@[simp] theorem requests_skipped (children : List CommandBuffer) :
    (skipped children).requests = [] := by
  unfold skipped
  induction children.filter fun child => !child.isReady with
  | nil => rfl
  | cons _ _ ih => exact ih

theorem length_indirectCommands_single (start : BufferPoint) (i : Indirect) :
    (indirectCommands false start i).length = i.count := by
  simp [indirectCommands]

end CommandBuffer

end GpuRecorder.Recording
