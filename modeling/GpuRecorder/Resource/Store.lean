import GpuRecorder.Resource.Assembler
import GpuRecorder.Resource.Layout
import GpuRecorder.Resource.Pipeline

/-!
# The store of shared objects

Buffers, textures, swapchains, input assemblers and binding layouts are shared: several objects
refer to one of them and its owner may change it between two uses.  The store holds their current
state by identity and hands out new identities.  Shaders, pipelines, render passes, framebuffers
and samplers never change, so they are passed around as values, but their identities come from
the same count.
-/

namespace GpuRecorder.Resource

open Native

structure Store where
  /-- The next identity. -/
  next : Nat := 1
  buffers : Table Buffer := {}
  textures : Table Texture := {}
  swapchains : Table Swapchain := {}
  assemblers : Table Assembler := {}
  layouts : Table Layout := {}
  deriving Repr, Inhabited

namespace Store

/-! ## 1. New objects -/

/-- An identity nothing else has. -/
def fresh (s : Store) : ResourceId × Store := (⟨s.next⟩, { s with next := s.next + 1 })

def addBuffer (s : Store) (b : Buffer) : ResourceId × Store :=
  let (id, s) := s.fresh
  (id, { s with buffers := s.buffers.set id b })

def addTexture (s : Store) (t : Texture) : ResourceId × Store :=
  let (id, s) := s.fresh
  (id, { s with textures := s.textures.set id t })

def addSwapchain (s : Store) (c : Swapchain) : ResourceId × Store :=
  let (id, s) := s.fresh
  (id, { s with swapchains := s.swapchains.set id c })

def addAssembler (s : Store) (a : Assembler) : ResourceId × Store :=
  let (id, s) := s.fresh
  (id, { s with assemblers := s.assemblers.set id a })

def addLayout (s : Store) (l : Layout) : ResourceId × Store :=
  let (id, s) := s.fresh
  (id, { s with layouts := s.layouts.set id l })

/-! ## 2. Changes by the owner -/

def modifyBuffer (s : Store) (id : ResourceId) (f : Buffer → Buffer) : Store :=
  { s with buffers := s.buffers.modify id f }

def modifyTexture (s : Store) (id : ResourceId) (f : Texture → Texture) : Store :=
  { s with textures := s.textures.modify id f }

def modifySwapchain (s : Store) (id : ResourceId) (f : Swapchain → Swapchain) : Store :=
  { s with swapchains := s.swapchains.modify id f }

def modifyAssembler (s : Store) (id : ResourceId) (f : Assembler → Assembler) : Store :=
  { s with assemblers := s.assemblers.modify id f }

def setLayout (s : Store) (id : ResourceId) (l : Layout) : Store :=
  { s with layouts := s.layouts.set id l }

/-- Bind a resource in a layout; a refused binding changes nothing. -/
def bindSlot (s : Store) (layout : ResourceId) (r : Bindable) (set binding element : Nat) :
    Except DeviceError Unit × Store :=
  match (s.layouts.get layout).bind r set binding element with
  | .error e => (.error e, s)
  | .ok l => (.ok (), s.setLayout layout l)

/-! ## 3. Current state -/

/-- The current storage behind a buffer. -/
def backing (s : Store) (buffer : ResourceId) : BufferBacking := (s.buffers.get buffer).backing

/-- Where a buffer's range starts now. -/
def start (s : Store) (buffer : ResourceId) : BufferPoint :=
  ⟨(s.backing buffer).handle, (s.backing buffer).offset⟩

/-- The native framebuffer to render into now; none when the swapchain's cursor points past the
framebuffers. -/
def resolve (s : Store) (f : Framebuffer) : Option (Handle .framebuffer) :=
  match f.target with
  | .offscreen handle => some handle
  | .swapchain swapchain perImage => perImage[(s.swapchains.get swapchain).current]?

/-- A layout with its data taken from the current backings. -/
def refreshed (s : Store) (l : Layout) : Layout := l.refresh s.buffers s.textures

/-! ## 4. Input assemblers -/

/-- Where every stream starts now, from binding zero on. -/
def vertexStreams (s : Store) (a : Assembler) : List BufferPoint := a.streams.map s.start

/-- Bring the vertex arrays of an assembler up to date and read the streams from them. -/
def refreshArrays (s : Store) (id : ResourceId) : List BufferPoint × Store :=
  let a := s.assemblers.get id
  let starts := s.vertexStreams a
  let arrays := (a.arrays.grow starts.length).write 0 starts
  (arrays.firsts starts.length, { s with assemblers := s.assemblers.set id { a with arrays } })

/-- The index buffer's current start, with the index width that its stride tells. -/
def indexBinding (s : Store) (a : Assembler) : Option (BufferPoint × IndexType) :=
  a.index.map fun id =>
    (s.start id, if (s.buffers.get id).stride = 4 then .uint32 else .uint16)

/-- The parameters of a direct draw, zero counts taken from the buffers. -/
def drawParameters (s : Store) (a : Assembler) : Draw.Parameters :=
  let p := a.parameters
  let countOf := fun id => (s.buffers.get id).count
  { p with
    vertexCount :=
      if p.vertexCount = 0 then (a.streams.head?.map countOf).getD 0 else p.vertexCount
    indexCount := if p.indexCount = 0 then (a.index.map countOf).getD 0 else p.indexCount }

@[simp] theorem length_vertexStreams (s : Store) (a : Assembler) :
    (s.vertexStreams a).length = a.streams.length := by
  simp [vertexStreams]

/-- The streams are bound as they are now. -/
@[simp] theorem streams_refreshArrays (s : Store) (id : ResourceId) :
    (s.refreshArrays id).1 = s.vertexStreams (s.assemblers.get id) :=
  VertexArrays.firsts_write_grow _ _

@[simp] theorem indexBinding_refreshArrays (s : Store) (id : ResourceId) :
    (s.refreshArrays id).2.indexBinding ((s.refreshArrays id).2.assemblers.get id) =
      s.indexBinding (s.assemblers.get id) := by
  simp only [refreshArrays, Table.get_set_self]
  rfl

@[simp] theorem vertexStreams_addStream (s : Store) (a : Assembler) (b : ResourceId) :
    s.vertexStreams (a.addStream b) = s.vertexStreams a ++ [s.start b] := by
  simp [vertexStreams, Assembler.addStream]

end Store

end GpuRecorder.Resource
