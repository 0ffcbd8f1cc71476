import GpuRecorder.Binary.Bytes
import GpuRecorder.Native.Descriptor

/-!
# Packed descriptors

An update template reads its data from a block of memory: one packed descriptor per entry, all of
one size, each read according to the entry's type.  `block` packs descriptors in that form and
`read` takes one out again.
-/

namespace GpuRecorder.Vulkan

open Binary Native

/-! ## 1. Packing -/

/-- The bytes from one packed descriptor to the next. -/
def descriptorStride : Nat := 24

/-- How a packed descriptor of a type is laid out; a type without a class is laid out as an
image. -/
def packedClass (t : DescriptorType) : DescriptorClass := t.class?.getD .image

def pack : Payload → List UInt8
  | .buffer i => littleEndian 8 i.buffer.number ++ littleEndian 8 i.offset ++ littleEndian 8 i.range
  | .image i =>
    littleEndian 8 i.sampler.number ++ littleEndian 8 i.view.number ++
      littleEndian 4 (toUnsigned 4 i.layout.code) ++ List.replicate 4 0
  | .texel view => littleEndian 8 view.number ++ List.replicate 16 0

/-- The packed descriptors of a template's entries; an entry without data is all null. -/
def block (entryTypes : List DescriptorType) (infos : List DescriptorInfo) : List UInt8 :=
  (entryTypes.zipIdx.map fun (type, i) =>
    pack (.ofClass (infos[i]?.getD {}) (packedClass type))).flatten

/-! ## 2. Entries of a template -/

/-- One entry of an update template: where it writes and where it reads. -/
structure TemplateEntry where
  binding : Nat
  element : Nat
  count : Nat
  type : DescriptorType
  offset : Nat
  stride : Nat
  deriving DecidableEq, Repr

/-- One entry per slot; each reads the packed descriptor at its own place. -/
def TemplateEntry.ofSlots (slots : List Slot) : List TemplateEntry :=
  slots.zipIdx.map fun (slot, i) =>
    { binding := slot.binding
      element := slot.element
      count := 1
      type := slot.type
      offset := i * descriptorStride
      stride := descriptorStride }

/-! ## 3. Reading -/

/-- The number in `width` bytes of a block. -/
def field (block : List UInt8) (start width : Nat) : Nat :=
  ofLittleEndian ((block.drop start).take width)

/-- The packed descriptor that starts at a byte. -/
def unpack (block : List UInt8) (start : Nat) : DescriptorClass → Payload
  | .buffer =>
    .buffer ⟨⟨field block start 8⟩, field block (start + 8) 8, field block (start + 16) 8⟩
  | .image =>
    .image ⟨⟨field block start 8⟩, ⟨field block (start + 8) 8⟩,
      ⟨ofUnsigned 4 (field block (start + 16) 4)⟩⟩
  | .texelBuffer => .texel ⟨field block start 8⟩

/-- What an entry reads out of a block. -/
def TemplateEntry.read (e : TemplateEntry) (block : List UInt8) : Payload :=
  unpack block e.offset (packedClass e.type)

@[simp] theorem length_pack (p : Payload) : (pack p).length = descriptorStride := by
  cases p <;> simp [pack, descriptorStride]

@[simp] theorem length_ofSlots (slots : List Slot) :
    (TemplateEntry.ofSlots slots).length = slots.length := by
  simp [TemplateEntry.ofSlots]

example : unpack (block [.uniformBuffer, .sampledImage]
    [{ buffer := ⟨⟨5⟩, 16, 64⟩ }, { image := ⟨⟨7⟩, ⟨8⟩, ⟨-1⟩⟩ }]) 24 .image =
    .image ⟨⟨7⟩, ⟨8⟩, ⟨-1⟩⟩ := by decide +kernel

end GpuRecorder.Vulkan
