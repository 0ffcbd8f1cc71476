import GpuRecorder.Draw.Color
import GpuRecorder.Draw.Geometry
import GpuRecorder.Draw.Parameters
import GpuRecorder.Native.Descriptor

/-!
# Commands

`Command` is what can be recorded into a native command buffer between its begin and its end.
Everything in it is plain data, so two command streams can be compared.
-/

namespace GpuRecorder.Native

open Binary Draw

/-! ## 1. Arguments -/

/-- The level of a command buffer, by its number. -/
structure Level where
  code : Int
  deriving DecidableEq, Repr, Inhabited

def Level.primary : Level := ⟨0⟩

def Level.secondary : Level := ⟨1⟩

/-- What a pipeline is bound for, by its number. -/
structure BindPoint where
  code : Int
  deriving DecidableEq, Repr, Inhabited

def BindPoint.graphics : BindPoint := ⟨0⟩

/-- The width of an index. -/
inductive IndexType where
  | uint16
  | uint32
  deriving DecidableEq, Repr

def IndexType.code : IndexType → Nat
  | .uint16 => 0
  | .uint32 => 1

/-- The render pass that a secondary buffer continues. -/
structure Inheritance where
  pass : Handle .renderPass
  subpass : Nat
  framebuffer : Handle .framebuffer
  deriving DecidableEq, Repr

/-- How recording is opened. -/
structure RecordingBegin where
  flags : Nat
  inheritance : Option Inheritance := none
  deriving DecidableEq, Repr

/-- The recording is submitted once. -/
def oneTimeSubmit : Nat := 1

/-- The recording runs inside an inherited render pass. -/
def renderPassContinue : Nat := 2

/-- How a render pass is opened: one clear value per attachment. -/
structure RenderPassBegin where
  pass : Handle .renderPass
  framebuffer : Handle .framebuffer
  area : Rect
  clears : List ClearValue
  deriving DecidableEq, Repr

/-- A point inside a native buffer. -/
structure BufferPoint where
  buffer : Handle .buffer
  offset : Nat
  deriving DecidableEq, Repr

/-- A stage that a barrier orders. -/
inductive Stage where
  | fragmentShader
  | transfer
  deriving DecidableEq, Repr

def Stage.bits : Stage → Nat
  | .fragmentShader => 128
  | .transfer => 4096

/-- A kind of access that a barrier orders. -/
inductive Access where
  | shaderRead
  | transferWrite
  deriving DecidableEq, Repr

def Access.bits : Access → Nat
  | .shaderRead => 32
  | .transferWrite => 4096

/-- A box of mip levels and array layers. -/
structure SubresourceRange where
  baseMip : Nat
  mipCount : Nat
  baseLayer : Nat
  layerCount : Nat
  deriving DecidableEq, Repr

/-- One image's change of layout. -/
structure ImageTransition where
  image : Handle .image
  aspect : Nat
  oldLayout : ImageLayout
  newLayout : ImageLayout
  srcAccess : Access
  dstAccess : Access
  range : SubresourceRange
  deriving DecidableEq, Repr

/-- One region of a copy from a native buffer to a native image. -/
structure BufferImageCopy where
  bufferOffset : Nat
  rowLength : Nat
  imageHeight : Nat
  aspect : Nat
  mipLevel : Nat
  baseLayer : Nat
  layerCount : Nat
  offset : Offset3
  extent : Extent3
  deriving DecidableEq, Repr

/-! ## 2. The command -/

/-- A command recorded into a command buffer. -/
inductive Command where
  | beginRenderPass (args : RenderPassBegin)
  | endRenderPass
  | bindPipeline (point : BindPoint) (pipeline : Handle .pipeline)
  | bindVertexBuffers (first : Nat) (streams : List BufferPoint)
  | bindIndexBuffer (start : BufferPoint) (type : IndexType)
  | bindDescriptorSets (point : BindPoint) (layout : Handle .pipelineLayout) (first : Nat)
      (sets : List (Handle .descriptorSet)) (dynamicOffsets : List Nat)
  | pushDescriptors (template : UpdateTemplate) (layout : Handle .pipelineLayout) (set : Nat)
      (infos : List DescriptorInfo)
  | setViewports (first : Nat) (viewports : List NativeViewport)
  | setScissors (first : Nat) (scissors : List Rect)
  | setLineWidth (width : Single)
  | setDepthBias (constant clamp slope : Single)
  | setBlendConstants (constants : Color)
  | setDepthBounds (lower upper : Single)
  | setStencilWriteMask (face : Face) (mask : Nat)
  | setStencilCompareMask (face : Face) (mask : Nat)
  | setStencilReference (face : Face) (reference : Nat)
  | draw (vertexCount instanceCount firstVertex firstInstance : Nat)
  | drawIndexed (indexCount instanceCount firstIndex : Nat) (vertexOffset : Int)
      (firstInstance : Nat)
  | drawIndirect (records : BufferPoint) (count stride : Nat)
  | drawIndexedIndirect (records : BufferPoint) (count stride : Nat)
  | executeCommands (buffers : List (Handle .commandBuffer))
  | updateBuffer (destination : BufferPoint) (data : List UInt8)
  | pipelineBarrier (src dst : Stage) (transitions : List ImageTransition)
  | copyBufferToImage (src : Handle .buffer) (dst : Handle .image) (layout : ImageLayout)
      (regions : List BufferImageCopy)
  deriving DecidableEq, Repr

end GpuRecorder.Native
