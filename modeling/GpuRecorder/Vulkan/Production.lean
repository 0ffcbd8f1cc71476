import GpuRecorder.Native.Driver
import GpuRecorder.Vulkan.Call

/-!
# The production driver

`Production σ` forwards every driver call to the functions of a Vulkan device.  Descriptor data is
packed into the blocks that templates read, writes are batched, and a push needs the entry point
of its extension: where that is not loaded the push is reported and dropped.
-/

namespace GpuRecorder.Vulkan

open Draw Native

/-- A device, and whether the entry point for pushing descriptors is loaded. -/
structure Production (σ : Type) where
  api : σ
  pushLoaded : Bool

/-! ## 1. Fixed arguments -/

/-- Buffers of a pool can be begun again. -/
def resetCommandBuffer : Nat := 2

/-- Only inline contents are recorded. -/
def inlineContents : Nat := 0

/-- A barrier that hands nothing over between queue families. -/
def ignoredFamily : Nat := 4294967295

/-! ## 2. Conversions -/

def WriteSet.ofWrite (w : DescriptorWrite) : WriteSet where
  set := w.set
  binding := w.binding
  element := w.element
  count := 1
  type := w.type
  payload := [w.payload]

def ImageBarrier.ofTransition (t : ImageTransition) : ImageBarrier :=
  ⟨t, ignoredFamily, ignoredFamily⟩

/-- The data that a template reads for some descriptors. -/
def dataOf (template : UpdateTemplate) (infos : List DescriptorInfo) : List UInt8 :=
  block template.entryTypes infos

/-- The native call of a command; none for a push whose entry point is not loaded. -/
def Call.ofCommand (pushLoaded : Bool) (buffer : Handle .commandBuffer) : Command → Option Call
  | .beginRenderPass args => some (.cmdBeginRenderPass buffer args inlineContents)
  | .endRenderPass => some (.cmdEndRenderPass buffer)
  | .bindPipeline point pipeline => some (.cmdBindPipeline buffer point pipeline)
  | .bindVertexBuffers first streams =>
    some (.cmdBindVertexBuffers buffer first (streams.map (·.buffer)) (streams.map (·.offset)))
  | .bindIndexBuffer start type =>
    some (.cmdBindIndexBuffer buffer start.buffer start.offset type.code)
  | .bindDescriptorSets point layout first sets dynamicOffsets =>
    some (.cmdBindDescriptorSets buffer point layout first sets dynamicOffsets)
  | .pushDescriptors template layout set infos =>
    if pushLoaded then
      some (.cmdPushDescriptorSetWithTemplate buffer template.handle layout set
        (dataOf template infos))
    else none
  | .setViewports first viewports => some (.cmdSetViewport buffer first viewports)
  | .setScissors first scissors => some (.cmdSetScissor buffer first scissors)
  | .setLineWidth width => some (.cmdSetLineWidth buffer width)
  | .setDepthBias constant clamp slope => some (.cmdSetDepthBias buffer constant clamp slope)
  | .setBlendConstants c => some (.cmdSetBlendConstants buffer c.components)
  | .setDepthBounds lower upper => some (.cmdSetDepthBounds buffer lower upper)
  | .setStencilWriteMask face mask => some (.cmdSetStencilWriteMask buffer face.bit mask)
  | .setStencilCompareMask face mask => some (.cmdSetStencilCompareMask buffer face.bit mask)
  | .setStencilReference face reference =>
    some (.cmdSetStencilReference buffer face.bit reference)
  | .draw vertexCount instanceCount firstVertex firstInstance =>
    some (.cmdDraw buffer vertexCount instanceCount firstVertex firstInstance)
  | .drawIndexed indexCount instanceCount firstIndex vertexOffset firstInstance =>
    some (.cmdDrawIndexed buffer indexCount instanceCount firstIndex vertexOffset firstInstance)
  | .drawIndirect records count stride =>
    some (.cmdDrawIndirect buffer records.buffer records.offset count stride)
  | .drawIndexedIndirect records count stride =>
    some (.cmdDrawIndexedIndirect buffer records.buffer records.offset count stride)
  | .executeCommands buffers => some (.cmdExecuteCommands buffer buffers)
  | .updateBuffer destination data =>
    some (.cmdUpdateBuffer buffer destination.buffer destination.offset data)
  | .pipelineBarrier src dst transitions =>
    some (.cmdPipelineBarrier buffer
      { src := src.bits
        dst := dst.bits
        flags := 0
        memory := 0
        buffers := 0
        images := transitions.map .ofTransition })
  | .copyBufferToImage src dst layout regions =>
    some (.cmdCopyBufferToImage buffer src dst layout regions)

/-- The native call of a request, if it has one. -/
def Call.ofRequest (pushLoaded : Bool) : Request → Option Call
  | .updateSet set template infos =>
    some (.updateDescriptorSetWithTemplate set template.handle (dataOf template infos))
  | .writeDescriptors writes => some (.updateDescriptorSets (writes.map .ofWrite) 0)
  | .record buffer command => Call.ofCommand pushLoaded buffer command

namespace Production

variable {σ : Type} [Api σ]

/-! ## 3. The driver -/

/-- The output of a call that answered, and the device after it. -/
def answered {α : Type} (p : Production σ) (r : Returned α × σ) :
    Except ResultCode α × Production σ :=
  (r.1.toExcept, { p with api := r.2 })

/-- Make a call that does not answer. -/
def tell (p : Production σ) (c : Call) : Production σ := { p with api := Api.call p.api c }

/-- The one call that can be dropped is a push. -/
def pushDropped : Message :=
  .error "VK_KHR_push_descriptor is not loaded; descriptor push dropped"

def request (p : Production σ) (r : Request) : List Message × Production σ :=
  match Call.ofRequest p.pushLoaded r with
  | some c => ([], p.tell c)
  | none => ([pushDropped], p)

instance : Driver (Production σ) where
  deviceHandle p := Api.device p.api
  createCommandPool p family := p.answered (Api.createCommandPool p.api resetCommandBuffer family)
  destroyCommandPool p pool := p.tell (.destroyCommandPool pool)
  allocateCommandBuffers p pool level count :=
    p.answered (Api.allocateCommandBuffers p.api pool level count)
  freeCommandBuffers p pool buffers :=
    if buffers.isEmpty then p else p.tell (.freeCommandBuffers pool buffers)
  createDescriptorPool p maxSets sizes :=
    p.answered (Api.createDescriptorPool p.api 0 maxSets sizes)
  destroyDescriptorPool p pool := p.tell (.destroyDescriptorPool pool)
  resetDescriptorPool p pool := p.answered (Api.resetDescriptorPool p.api pool 0)
  allocateDescriptorSets p pool layouts :=
    p.answered (Api.allocateDescriptorSets p.api pool layouts)
  submit p queue buffers fence := p.answered (Api.queueSubmit p.api queue [buffers] fence)
  beginRecording p buffer args := p.answered (Api.beginCommandBuffer p.api buffer args)
  endRecording p buffer := p.answered (Api.endCommandBuffer p.api buffer)
  request := request

/-! ## 4. Templates -/

/-- How a template for the slots of a set is made: for pushing set `pushSet`, or for allocated
sets of the layout. -/
def templateCreation (slots : List Slot) (setLayout : Handle .setLayout)
    (layout : Handle .pipelineLayout) (pushSet : Option Nat) : TemplateCreation where
  entries := TemplateEntry.ofSlots slots
  kind := if pushSet.isSome then 1 else 0
  setLayout := setLayout
  point := .graphics
  layout := layout
  set := pushSet.getD 0

def createTemplate (p : Production σ) (slots : List Slot) (setLayout : Handle .setLayout)
    (layout : Handle .pipelineLayout) (pushSet : Option Nat) :
    Except ResultCode (Handle .updateTemplate) × Production σ :=
  p.answered (Api.createDescriptorUpdateTemplate p.api
    (templateCreation slots setLayout layout pushSet))

/-- Only a push is ever dropped, and only where it is not loaded. -/
theorem ofRequest_eq_none_iff {pushLoaded : Bool} {r : Request} :
    Call.ofRequest pushLoaded r = none ↔
      pushLoaded = false ∧ ∃ buffer template layout set infos,
        r = .record buffer (.pushDescriptors template layout set infos) := by
  cases r with
  | updateSet set template infos => simp [Call.ofRequest]
  | writeDescriptors writes => simp [Call.ofRequest]
  | record buffer command =>
    cases command <;> cases pushLoaded <;> simp [Call.ofRequest, Call.ofCommand]

end Production

end GpuRecorder.Vulkan
