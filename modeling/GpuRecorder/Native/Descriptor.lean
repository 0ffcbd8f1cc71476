import GpuRecorder.Native.Handle

/-!
# Descriptors

A descriptor type says which part of a `DescriptorInfo` is read: a buffer range, an image with
its sampler, or a texel view.  `Payload.select` takes that part out; a type outside the eleven
written here has none.
-/

namespace GpuRecorder.Native

/-! ## 1. Types and classes -/

/-- The declared type of a descriptor, by its number. -/
structure DescriptorType where
  code : Int
  deriving DecidableEq, Repr, Inhabited

/-- The part of a descriptor's data that its type reads. -/
inductive DescriptorClass where
  | buffer
  | image
  | texelBuffer
  deriving DecidableEq, Repr

namespace DescriptorType

def sampler : DescriptorType := ⟨0⟩
def combinedImageSampler : DescriptorType := ⟨1⟩
def sampledImage : DescriptorType := ⟨2⟩
def storageImage : DescriptorType := ⟨3⟩
def uniformTexelBuffer : DescriptorType := ⟨4⟩
def storageTexelBuffer : DescriptorType := ⟨5⟩
def uniformBuffer : DescriptorType := ⟨6⟩
def storageBuffer : DescriptorType := ⟨7⟩
def uniformBufferDynamic : DescriptorType := ⟨8⟩
def storageBufferDynamic : DescriptorType := ⟨9⟩
def inputAttachment : DescriptorType := ⟨10⟩

/-- Every type that descriptor pools make room for. -/
def pooled : List DescriptorType :=
  [sampler, combinedImageSampler, sampledImage, storageImage, uniformTexelBuffer,
    storageTexelBuffer, uniformBuffer, storageBuffer, uniformBufferDynamic, storageBufferDynamic,
    inputAttachment]

/-- The class of a type, for the types that can be written. -/
def class? (t : DescriptorType) : Option DescriptorClass :=
  match t.code with
  | 6 | 7 | 8 | 9 => some .buffer
  | 0 | 1 | 2 | 3 | 10 => some .image
  | 4 | 5 => some .texelBuffer
  | _ => none

end DescriptorType

/-! ## 2. Data -/

/-- The layout an image is in, by its number. -/
structure ImageLayout where
  code : Int
  deriving DecidableEq, Repr, Inhabited

namespace ImageLayout

def undefined : ImageLayout := ⟨0⟩
def shaderReadOnly : ImageLayout := ⟨5⟩
def transferDestination : ImageLayout := ⟨7⟩

end ImageLayout

/-- A range of a buffer. -/
structure BufferInfo where
  buffer : Handle .buffer := .null
  offset : Nat := 0
  range : Nat := 0
  deriving DecidableEq, Repr, Inhabited

/-- A view of an image, the layout it is in, and the sampler it is read with. -/
structure ImageInfo where
  sampler : Handle .sampler := .null
  view : Handle .imageView := .null
  layout : ImageLayout := .undefined
  deriving DecidableEq, Repr, Inhabited

/-- The data of one descriptor; only the part of its type's class is ever read. -/
structure DescriptorInfo where
  buffer : BufferInfo := {}
  image : ImageInfo := {}
  texelView : Handle .bufferView := .null
  deriving DecidableEq, Repr, Inhabited

/-- The part of a descriptor's data that is written. -/
inductive Payload where
  | buffer (info : BufferInfo)
  | image (info : ImageInfo)
  | texel (view : Handle .bufferView)
  deriving DecidableEq, Repr

namespace Payload

def ofClass (info : DescriptorInfo) : DescriptorClass → Payload
  | .buffer => .buffer info.buffer
  | .image => .image info.image
  | .texelBuffer => .texel info.texelView

/-- What a descriptor of type `t` takes out of `info`. -/
def select (t : DescriptorType) (info : DescriptorInfo) : Option Payload :=
  t.class?.map (ofClass info)

end Payload

/-! ## 3. Slots, writes, templates -/

/-- One descriptor of a set: one array element of a binding. -/
structure Slot where
  binding : Nat
  element : Nat
  type : DescriptorType
  deriving DecidableEq, Repr, Inhabited

/-- One descriptor written by itself. -/
structure DescriptorWrite where
  set : Handle .descriptorSet
  binding : Nat
  element : Nat
  type : DescriptorType
  payload : Payload
  deriving DecidableEq, Repr

/-- The writes that put `infos` into the slots of a set, in slot order; slots whose type has no
payload are left out. -/
def DescriptorWrite.ofSlots (set : Handle .descriptorSet) (slots : List Slot)
    (infos : List DescriptorInfo) : List DescriptorWrite :=
  (slots.zip infos).filterMap fun (slot, info) =>
    (Payload.select slot.type info).map fun payload =>
      { set, binding := slot.binding, element := slot.element, type := slot.type, payload }

/-- A native update template with the types of its entries, one per slot in slot order. -/
structure UpdateTemplate where
  handle : Handle .updateTemplate
  entryTypes : List DescriptorType
  deriving DecidableEq, Repr

/-- The number of descriptors of one type that a pool makes room for. -/
structure PoolSize where
  type : DescriptorType
  count : Nat
  deriving DecidableEq, Repr

end GpuRecorder.Native
