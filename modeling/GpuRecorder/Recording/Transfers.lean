import GpuRecorder.Recording.Buffer

/-!
# Transfers

Data written into a buffer goes out in aligned pieces that one call can carry.  A copy into a
texture moves the touched mip levels and layers to the transfer layout and back, so that the
texels outside the regions stay.  A primary buffer transfers outside of render passes only.
-/

namespace GpuRecorder.Recording

open Draw Native Resource

/-- The most bytes that one update call carries. -/
def maxUpdateBytes : Nat := 65536

/-- The largest offset in bytes. -/
def maxOffset : Nat := 18446744073709551615

/-- Cut data into pieces of `size` bytes, the last one being what is left. -/
def chunks (size : Nat) (data : List UInt8) : List (List UInt8) :=
  if _h : size = 0 ∨ data = [] then []
  else data.take size :: chunks size (data.drop size)
termination_by data.length
decreasing_by
  rw [not_or] at _h
  have hdata := List.length_pos_iff.2 _h.2
  simp only [List.length_drop]
  omega

/-- The calls that write pieces one after the other from a point on. -/
def updateCommands (start : BufferPoint) : List (List UInt8) → List Command
  | [] => []
  | piece :: rest =>
    .updateBuffer start piece ::
      updateCommands { start with offset := start.offset + piece.length } rest

theorem flatten_chunks {size : Nat} (h : size ≠ 0) (data : List UInt8) :
    (chunks size data).flatten = data := by
  induction data using chunks.induct size with
  | case1 data hd =>
    rw [chunks, dif_pos hd]
    rcases hd with hd | hd
    · exact absurd hd h
    · exact hd.symm
  | case2 data hd ih =>
    rw [chunks, dif_neg hd, List.flatten_cons, ih, List.take_append_drop]

namespace CommandBuffer

def refuseInPass (c : CommandBuffer) (command : String) : CommandBuffer × Script :=
  c.refuse s!"Command '{command}' must be recorded outside of a render pass"

/-! ## 1. Buffers -/

/-- Whether data may be written at an offset of a buffer, and if not, why. -/
def updateFault (size offset length : Nat) : Option String :=
  if offset % 4 ≠ 0 ∨ length % 4 ≠ 0 then
    some s!"Command 'update_buffer' needs 4-byte aligned offset and size, got {offset} and {length}"
  else if size < offset + length then
    some s!"Command 'update_buffer' writes {length} bytes at {offset} past the {size} byte buffer"
  else none

/-- Write data at an offset of a buffer's range.  Answers whether it was recorded; no data is
nothing to record. -/
def updateBuffer (c : CommandBuffer) (s : Store) (buffer : ResourceId) (offset : Nat)
    (data : List UInt8) : Bool × CommandBuffer × Script :=
  match c.handle? with
  | none => (false, c, [.report (notReady "update_buffer")])
  | some handle =>
    if c.passIsOpen then (false, c.refuseInPass "update_buffer")
    else if data.isEmpty then (false, c, [])
    else
      let backing := s.backing buffer
      match updateFault backing.size offset data.length with
      | some text => (false, c.refuse text)
      | none =>
        let start : BufferPoint := ⟨backing.handle, backing.offset + offset⟩
        (true, c, .record handle (updateCommands start (chunks maxUpdateBytes data)))

/-! ## 2. Textures -/

/-- The smallest box of mip levels and layers around some regions. -/
def boxOf (regions : List CopyRegion) : SubresourceRange :=
  let least (f : CopyRegion → Nat) : Nat := ((regions.map f).min?).getD 0
  let most (f : CopyRegion → Nat) : Nat := ((regions.map f).max?).getD 0
  let baseMip := least (·.mipLevel)
  let baseLayer := least (·.baseLayer)
  { baseMip
    mipCount := most (·.mipLevel) - baseMip + 1
    baseLayer
    layerCount := most (fun r => r.baseLayer + r.layers) - baseLayer }

/-- The native copy of one region out of a buffer's range. -/
def regionCopy (start : BufferPoint) (aspect : Nat) (r : CopyRegion) : BufferImageCopy where
  bufferOffset := start.offset + r.bufferOffset
  rowLength := r.rowLength
  imageHeight := r.imageHeight
  aspect := aspect
  mipLevel := r.mipLevel
  baseLayer := r.baseLayer
  layerCount := r.layers
  offset := r.offset
  extent := { r.extent with depth := max 1 r.extent.depth }

/-- The calls that copy regions into a texture: to the transfer layout, one copy per region, and
back to the layout the texture has. -/
def copyCommands (s : Store) (sources : List ResourceId) (t : Texture)
    (regions : List CopyRegion) : List Command :=
  let range := boxOf regions
  let image := t.backing.image
  let there : ImageTransition :=
    ⟨image, t.aspect, t.backing.layout, .transferDestination, .shaderRead, .transferWrite, range⟩
  let back : ImageTransition :=
    ⟨image, t.aspect, .transferDestination, t.backing.layout, .transferWrite, .shaderRead, range⟩
  let copies := (regions.zip sources).map fun (region, source) =>
    let start := s.start source
    .copyBufferToImage start.buffer image .transferDestination [regionCopy start t.aspect region]
  .pipelineBarrier .fragmentShader .transfer [there] :: copies ++
    [.pipelineBarrier .transfer .fragmentShader [back]]

/-- The ends of the layers and the number of mip levels are sums in 32 bits. -/
def boxOverflows (regions : List CopyRegion) : Bool :=
  regions.any (fun r => maxCount < r.baseLayer + r.layers) || maxCount < (boxOf regions).mipCount

/-- Where a region starts in its source is a sum in 64 bits. -/
def startOverflows (s : Store) (region : CopyRegion) (source : ResourceId) : Bool :=
  maxOffset < (s.start source).offset + region.bufferOffset

/-- The number of calls a copy has recorded when one of its sums passes its width; none if no sum
does.  The box is worked out before the first barrier, and a start right before its region. -/
def copyStop? (s : Store) (sources : List ResourceId) (regions : List CopyRegion) : Option Nat :=
  if boxOverflows regions then some 0
  else
    ((regions.zip sources).findIdx? fun (region, source) => startOverflows s region source).map
      (· + 1)

/-- The calls of a copy up to where it stops. -/
def copiedCommands (s : Store) (sources : List ResourceId) (t : Texture)
    (regions : List CopyRegion) : List Command :=
  let commands := copyCommands s sources t regions
  match copyStop? s sources regions with
  | none => commands
  | some stop => commands.take stop

/-- Copy regions into a texture, each from the source at its place.  A sum that passes its width
stops the copy, and what was recorded until then stays. -/
def copyToTexture (c : CommandBuffer) (s : Store) (sources : List ResourceId)
    (texture : ResourceId) (regions : List CopyRegion) :
    Except Failure Unit × CommandBuffer × Script :=
  match c.handle? with
  | none => (.ok (), c, [.report (notReady "copy_buffers_to_texture")])
  | some handle =>
    if c.passIsOpen then (.ok (), c.refuseInPass "copy_buffers_to_texture")
    else if regions.isEmpty then (.ok (), c, [])
    else if sources.length < regions.length then
      (.ok (), c.refuse (s!"Command 'copy_buffers_to_texture' got {sources.length} source " ++
        s!"buffers for {regions.length} regions"))
    else
      (if (copyStop? s sources regions).isSome then .error .overflow else .ok (), c,
        .record handle (copiedCommands s sources (s.textures.get texture) regions))

theorem copiedCommands_subset (s : Store) (sources : List ResourceId) (t : Texture)
    (regions : List CopyRegion) :
    copiedCommands s sources t regions ⊆ copyCommands s sources t regions := by
  unfold copiedCommands
  simp only
  split
  · exact List.Subset.refl _
  · exact List.take_subset _ _

theorem updateFault_eq_none_iff {size offset length : Nat} :
    updateFault size offset length = none ↔
      offset % 4 = 0 ∧ length % 4 = 0 ∧ offset + length ≤ size := by
  unfold updateFault
  split
  · simp
    omega
  · split
    · simp
      omega
    · simp
      omega

end CommandBuffer

end GpuRecorder.Recording
