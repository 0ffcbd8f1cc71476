import GpuRecorder.Native.Command
import GpuRecorder.Native.ResultCode
import GpuRecorder.Vulkan.Packed

/-!
# Vulkan calls

The functions of the device that the recorder uses, at the level of their arguments.  `Api σ` has
those that answer, each with a result code and an output that counts when the code is success;
`Call` lists those that do not answer.
-/

namespace GpuRecorder.Vulkan

open Binary Draw Native

/-! ## 1. Answers -/

def success : ResultCode := ⟨0⟩

/-- A result code and what was written to the output. -/
structure Returned (α : Type) where
  code : ResultCode
  output : α
  deriving Repr

/-- The output, if the call succeeded. -/
def Returned.toExcept {α : Type} (r : Returned α) : Except ResultCode α :=
  if r.code = success then .ok r.output else .error r.code

/-! ## 2. Arguments -/

/-- How an update template is made. -/
structure TemplateCreation where
  entries : List TemplateEntry
  /-- `0` updates allocated sets, `1` is for pushing. -/
  kind : Nat
  setLayout : Handle .setLayout
  point : BindPoint
  layout : Handle .pipelineLayout
  set : Nat
  deriving DecidableEq, Repr

/-- One write of descriptors; the payload's kind tells which array it came in. -/
structure WriteSet where
  set : Handle .descriptorSet
  binding : Nat
  element : Nat
  count : Nat
  type : DescriptorType
  payload : List Payload
  deriving DecidableEq, Repr

/-- An image barrier as the driver takes it. -/
structure ImageBarrier where
  transition : ImageTransition
  srcFamily : Nat
  dstFamily : Nat
  deriving DecidableEq, Repr

/-- A pipeline barrier as the driver takes it. -/
structure Barrier where
  src : Nat
  dst : Nat
  flags : Nat
  /-- How many barriers on memory and on buffers come with it. -/
  memory : Nat
  buffers : Nat
  images : List ImageBarrier
  deriving DecidableEq, Repr

/-! ## 3. Calls without an answer -/

inductive Call where
  | destroyCommandPool (pool : Handle .commandPool)
  | freeCommandBuffers (pool : Handle .commandPool) (buffers : List (Handle .commandBuffer))
  | destroyDescriptorPool (pool : Handle .descriptorPool)
  | updateDescriptorSetWithTemplate (set : Handle .descriptorSet)
      (template : Handle .updateTemplate) (data : List UInt8)
  | updateDescriptorSets (writes : List WriteSet) (copies : Nat)
  | cmdBeginRenderPass (buffer : Handle .commandBuffer) (args : RenderPassBegin) (contents : Nat)
  | cmdEndRenderPass (buffer : Handle .commandBuffer)
  | cmdBindPipeline (buffer : Handle .commandBuffer) (point : BindPoint)
      (pipeline : Handle .pipeline)
  | cmdBindVertexBuffers (buffer : Handle .commandBuffer) (first : Nat)
      (buffers : List (Handle .buffer)) (offsets : List Nat)
  | cmdBindIndexBuffer (buffer : Handle .commandBuffer) (index : Handle .buffer) (offset : Nat)
      (type : Nat)
  | cmdBindDescriptorSets (buffer : Handle .commandBuffer) (point : BindPoint)
      (layout : Handle .pipelineLayout) (first : Nat) (sets : List (Handle .descriptorSet))
      (dynamicOffsets : List Nat)
  | cmdPushDescriptorSetWithTemplate (buffer : Handle .commandBuffer)
      (template : Handle .updateTemplate) (layout : Handle .pipelineLayout) (set : Nat)
      (data : List UInt8)
  | cmdSetViewport (buffer : Handle .commandBuffer) (first : Nat)
      (viewports : List NativeViewport)
  | cmdSetScissor (buffer : Handle .commandBuffer) (first : Nat) (scissors : List Rect)
  | cmdSetLineWidth (buffer : Handle .commandBuffer) (width : Single)
  | cmdSetDepthBias (buffer : Handle .commandBuffer) (constant clamp slope : Single)
  | cmdSetBlendConstants (buffer : Handle .commandBuffer) (constants : List Single)
  | cmdSetDepthBounds (buffer : Handle .commandBuffer) (lower upper : Single)
  | cmdSetStencilWriteMask (buffer : Handle .commandBuffer) (face mask : Nat)
  | cmdSetStencilCompareMask (buffer : Handle .commandBuffer) (face mask : Nat)
  | cmdSetStencilReference (buffer : Handle .commandBuffer) (face reference : Nat)
  | cmdDraw (buffer : Handle .commandBuffer)
      (vertexCount instanceCount firstVertex firstInstance : Nat)
  | cmdDrawIndexed (buffer : Handle .commandBuffer) (indexCount instanceCount firstIndex : Nat)
      (vertexOffset : Int) (firstInstance : Nat)
  | cmdDrawIndirect (buffer : Handle .commandBuffer) (records : Handle .buffer)
      (offset count stride : Nat)
  | cmdDrawIndexedIndirect (buffer : Handle .commandBuffer) (records : Handle .buffer)
      (offset count stride : Nat)
  | cmdExecuteCommands (buffer : Handle .commandBuffer) (children : List (Handle .commandBuffer))
  | cmdUpdateBuffer (buffer : Handle .commandBuffer) (destination : Handle .buffer) (offset : Nat)
      (data : List UInt8)
  | cmdPipelineBarrier (buffer : Handle .commandBuffer) (barrier : Barrier)
  | cmdCopyBufferToImage (buffer : Handle .commandBuffer) (src : Handle .buffer)
      (dst : Handle .image) (layout : ImageLayout) (regions : List BufferImageCopy)
  deriving DecidableEq, Repr

/-! ## 4. Calls with an answer -/

/-- The functions of a device whose state is `σ`. -/
class Api (σ : Type) where
  device : σ → Handle .device
  createCommandPool : σ → (flags family : Nat) → Returned (Handle .commandPool) × σ
  allocateCommandBuffers : σ → Handle .commandPool → Level → (count : Nat) →
    Returned (List (Handle .commandBuffer)) × σ
  createDescriptorPool : σ → (flags maxSets : Nat) → List PoolSize →
    Returned (Handle .descriptorPool) × σ
  resetDescriptorPool : σ → Handle .descriptorPool → (flags : Nat) → Returned Unit × σ
  allocateDescriptorSets : σ → Handle .descriptorPool → List (Handle .setLayout) →
    Returned (List (Handle .descriptorSet)) × σ
  createDescriptorUpdateTemplate : σ → TemplateCreation → Returned (Handle .updateTemplate) × σ
  queueSubmit : σ → Handle .queue → (submits : List (List (Handle .commandBuffer))) →
    Handle .fence → Returned Unit × σ
  beginCommandBuffer : σ → Handle .commandBuffer → RecordingBegin → Returned Unit × σ
  endCommandBuffer : σ → Handle .commandBuffer → Returned Unit × σ
  call : σ → Call → σ

end GpuRecorder.Vulkan
