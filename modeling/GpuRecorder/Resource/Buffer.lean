import GpuRecorder.Draw.Counter
import GpuRecorder.Native.Handle

/-!
# Buffers

A buffer is a range of a native buffer.  The range can be moved to other storage while the buffer
stays the same object, so whoever uses a buffer reads its backing at the moment of use.
-/

namespace GpuRecorder.Resource

open Native

/-- The native storage behind a buffer. -/
structure BufferBacking where
  handle : Handle .buffer := .null
  /-- Where the range starts inside the native buffer. -/
  offset : Nat := 0
  size : Nat := 0
  /-- A view over the range; null unless it is used as a texel buffer. -/
  texelView : Handle .bufferView := .null
  deriving DecidableEq, Repr, Inhabited

structure Buffer where
  usage : Nat := 0
  /-- The bytes of one element; zero when the contents have no elements. -/
  stride : Nat := 0
  backing : BufferBacking := {}
  deriving DecidableEq, Repr, Inhabited

namespace Buffer

/-- A range of a native buffer, not yet viewed as texels. -/
def ofRange (handle : Handle .buffer) (usage offset size stride : Nat) : Buffer where
  usage := usage
  stride := stride
  backing := { handle, offset, size }

/-- The whole elements in the range, as a 32-bit count. -/
def count (b : Buffer) : Nat :=
  if b.stride = 0 then 0 else Draw.saturate (b.backing.size / b.stride)

/-- Move the range to other storage; a texel view stays. -/
def rebuild (b : Buffer) (handle : Handle .buffer) (offset size : Nat) : Buffer :=
  { b with backing := { b.backing with handle, offset, size } }

def setTexelView (b : Buffer) (view : Handle .bufferView) : Buffer :=
  { b with backing := { b.backing with texelView := view } }

end Buffer

end GpuRecorder.Resource
