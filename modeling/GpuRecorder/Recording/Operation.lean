import GpuRecorder.Recording.Binds
import GpuRecorder.Recording.Descriptors
import GpuRecorder.Recording.Draws
import GpuRecorder.Recording.Passes
import GpuRecorder.Recording.Transfers

/-!
# Operations

All that can be asked of a command buffer, as data, and `perform`, which does it.  An operation
that is out of place is reported and changes nothing, so only what the driver refuses comes out
as a failure, and a copy whose sums pass their widths.
-/

namespace GpuRecorder.Recording

open Draw Native Resource

/-- What can be asked of a command buffer. -/
inductive Operation where
  | setUp (kind : BufferKind) (queue : Queue)
  | release
  | begin (pass : Option RenderPass) (subpass : Nat) (framebuffer : Option Framebuffer)
  | finish
  | beginPass (p : PassOpening)
  | endPass
  | bindPipeline (p : Pipeline)
  | bindLayout (layout : ResourceId)
  | bindAssembler (assembler : ResourceId)
  | set (x : Setting)
  | draw (assembler : ResourceId)
  | execute (children : List CommandBuffer)
  | updateBuffer (buffer : ResourceId) (offset : Nat) (data : List UInt8)
  | copyToTexture (sources : List ResourceId) (texture : ResourceId) (regions : List CopyRegion)
  deriving Repr

/-- How an operation ends. -/
inductive Answer where
  | done
  /-- Whether an update of a buffer was recorded. -/
  | updated (recorded : Bool)
  | failed (f : Failure)
  deriving DecidableEq, Repr

def Answer.ofExcept : Except DeviceError Unit → Answer
  | .ok () => .done
  | .error e => .failed (.error e)

def Answer.ofAttempt : Except Failure Unit → Answer
  | .ok () => .done
  | .error f => .failed f

/-- A command buffer, the store, and the outcome of an operation. -/
structure Performed (σ : Type) where
  buffer : CommandBuffer
  store : Store
  outcome : Device.Outcome σ Answer

namespace CommandBuffer

variable {σ : Type} [Driver σ]

/-- Send what was recorded to the driver. -/
def send (d : Device σ) (s : Store) (answer : Answer) (recorded : CommandBuffer × Script) :
    Performed σ :=
  let played := d.play recorded.2
  ⟨recorded.1, s, { answer, device := played.device, messages := played.messages }⟩

/-- An operation that asked the device itself. -/
def asked {α : Type} (s : Store) (answer : α → Answer) (r : Result σ α) : Performed σ :=
  ⟨r.buffer, s,
    { answer := answer r.outcome.answer
      device := r.outcome.device
      messages := r.outcome.messages }⟩

def perform (c : CommandBuffer) (d : Device σ) (s : Store) : Operation → Performed σ
  | .setUp kind queue => asked s .ofExcept (c.setUp d kind queue)
  | .release => asked s (fun _ => .done) (c.release d)
  | .begin pass subpass framebuffer => asked s .ofExcept (c.begin d s pass subpass framebuffer)
  | .finish => asked s .ofExcept (c.finish d)
  | .beginPass p => send d s .done (c.beginPass s p)
  | .endPass => send d s .done c.endPass
  | .bindPipeline p => send d s .done (c.bindPipeline p)
  | .bindLayout id =>
    let b := c.bindLayout d s id
    ⟨b.buffer, b.store,
      { answer := .ofAttempt b.outcome.answer
        device := b.outcome.device
        messages := b.outcome.messages }⟩
  | .bindAssembler id =>
    let (s, c, script) := c.bindAssembler s id
    send d s .done (c, script)
  | .set x => send d s .done (c.set x)
  | .draw id => send d s .done (c.draw d.capabilities.multiDrawIndirect s id)
  | .execute children => send d s .done (c.execute children)
  | .updateBuffer buffer offset data =>
    let (recorded, c, script) := c.updateBuffer s buffer offset data
    send d s (.updated recorded) (c, script)
  | .copyToTexture sources texture regions =>
    let (answer, c, script) := c.copyToTexture s sources texture regions
    send d s (.ofAttempt answer) (c, script)

end CommandBuffer

end GpuRecorder.Recording
