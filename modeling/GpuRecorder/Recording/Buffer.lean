import GpuRecorder.Device.Basic
import GpuRecorder.Draw.Stats
import GpuRecorder.Recording.Dynamic
import GpuRecorder.Resource.Store

/-!
# Command buffers

A command buffer borrows one native buffer from its device and remembers what the recording in it
has bound.  Everything that is recorded goes through `withNative`: without a native buffer a
command is reported and dropped.  `setUp` borrows the native buffer and `release` gives it back.
-/

namespace GpuRecorder.Recording

open Draw Native Resource

/-! ## 1. Types -/

/-- A primary buffer is submitted; a secondary one is executed by a primary one. -/
inductive BufferKind where
  | primary
  | secondary
  deriving DecidableEq, Repr, Inhabited

def BufferKind.level : BufferKind → Level
  | .primary => .primary
  | .secondary => .secondary

/-- A queue and the family its command buffers come from. -/
structure Queue where
  handle : Handle .queue
  family : Nat
  deriving DecidableEq, Repr

/-- A borrowed native buffer, with the level and family it has to go back to. -/
structure NativeBuffer where
  handle : Handle .commandBuffer
  level : Level
  family : Nat
  deriving DecidableEq, Repr

/-- What a recording has bound. -/
structure Bindings where
  pipeline : Option Pipeline := none
  layout : Option ResourceId := none
  assembler : Option ResourceId := none
  /-- The framebuffer of the open render pass. -/
  framebuffer : Option (Handle .framebuffer) := none
  dynamic : DynamicState := {}
  deriving DecidableEq, Repr, Inhabited

structure CommandBuffer where
  kind : BufferKind := .primary
  queue : Option Queue := none
  native : Option NativeBuffer := none
  bindings : Bindings := {}
  /-- What has been drawn since recording was last opened. -/
  stats : Stats := {}
  deriving DecidableEq, Repr, Inhabited

namespace CommandBuffer

/-! ## 2. Views -/

def handle? (c : CommandBuffer) : Option (Handle .commandBuffer) := c.native.map (·.handle)

def isReady (c : CommandBuffer) : Bool := c.native.isSome

/-- A render pass is open. -/
def inPass (c : CommandBuffer) : Bool := c.bindings.framebuffer.isSome

/-- A primary buffer with an open render pass, where transfers have no place. -/
def passIsOpen (c : CommandBuffer) : Bool := c.kind = .primary && c.inPass

/-- A primary buffer without one, where draws have no place. -/
def passIsMissing (c : CommandBuffer) : Bool := c.kind = .primary && !c.inPass

/-! ## 3. Recording -/

def notReady (command : String) : Message :=
  .error s!"Command '{command}' recorded into an uninitialized command buffer"

/-- Record on the native buffer; without one the command is reported and dropped. -/
def withNative (c : CommandBuffer) (command : String)
    (f : Handle .commandBuffer → CommandBuffer × Script) : CommandBuffer × Script :=
  match c.handle? with
  | none => (c, [.report (notReady command)])
  | some handle => f handle

/-- Leave the command buffer as it is and report why. -/
def refuse (c : CommandBuffer) (text : String) : CommandBuffer × Script :=
  (c, [.report (.error text)])

theorem withNative_of_not_ready {c : CommandBuffer} (h : c.native = none) (command : String)
    (f : Handle .commandBuffer → CommandBuffer × Script) :
    c.withNative command f = (c, [.report (notReady command)]) := by
  simp [withNative, handle?, h]

theorem withNative_of_ready {c : CommandBuffer} {n : NativeBuffer} (h : c.native = some n)
    (command : String) (f : Handle .commandBuffer → CommandBuffer × Script) :
    c.withNative command f = f n.handle := by
  simp [withNative, handle?, h]

/-! ## 4. Borrowing and giving back -/

variable {σ : Type}

/-- A command buffer and the outcome of what it asked of the device. -/
structure Result (σ α : Type) where
  buffer : CommandBuffer
  outcome : Device.Outcome σ α

/-- Give the native buffer back and forget what was bound; statistics stay. -/
def release (c : CommandBuffer) (d : Device σ) : Result σ Unit :=
  let outcome :=
    match c.native with
    | none => { answer := (), device := d }
    | some n => d.giveBackBuffer n.level n.family n.handle
  ⟨{ c with native := none, bindings := {} }, outcome⟩

def reused : Message :=
  .warn "Re-initializing a command buffer; the previous native buffer is released"

/-- Borrow a native buffer for a queue, after giving back the one that is held.  The kind and the
queue change even when the device has no buffer to lend. -/
def setUp [Driver σ] (c : CommandBuffer) (d : Device σ) (kind : BufferKind) (queue : Queue) :
    Result σ (Except DeviceError Unit) :=
  let (given, before) : Result σ Unit × List Message :=
    if c.isReady then (c.release d, [reused]) else (⟨c, { answer := (), device := d }⟩, [])
  let c := { given.buffer with kind, queue := some queue }
  let lent := given.outcome.device.requestBuffer kind.level queue.family
  let messages := before ++ given.outcome.messages ++ lent.messages
  match lent.answer with
  | .error e =>
    let report : Message := .error s!"Failed to acquire a command buffer: {e.message}"
    ⟨c, { answer := .error e, device := lent.device, messages := messages ++ [report] }⟩
  | .ok handle =>
    let native : NativeBuffer := ⟨handle, kind.level, queue.family⟩
    ⟨{ c with native := some native }, { answer := .ok (), device := lent.device, messages }⟩

@[simp] theorem native_release (c : CommandBuffer) (d : Device σ) :
    (c.release d).buffer.native = none := rfl

/-- Without a native buffer there is nothing to give back. -/
theorem release_of_not_ready {c : CommandBuffer} (h : c.native = none) (d : Device σ) :
    (c.release d).outcome = { answer := (), device := d } := by
  simp [release, h]

end CommandBuffer

end GpuRecorder.Recording
