import GpuRecorder.Report.Argument
import GpuRecorder.Vulkan.Simulator

/-!
# The log of a simulated device in reports
-/

namespace GpuRecorder.Report

open Native Vulkan

def barrier (b : ImageBarrier) : Datum :=
  .record (("families", .naturals [b.srcFamily, b.dstFamily]) :: transitionFields b.transition)

def writeSet (w : WriteSet) : Datum :=
  .record [("set", w.set), ("binding", w.binding), ("element", w.element), ("count", w.count),
    ("type", w.type.code), ("payload", .listOf payload w.payload)]

def poolSize (s : PoolSize) : Datum := .list [s.type.code, s.count]

def templateEntry (e : TemplateEntry) : Datum :=
  .list [e.binding, e.element, e.count, e.type.code, e.offset, e.stride]

/-- A call without an answer, with the descriptors read through its template, and the command
buffer it is recorded into. -/
def vulkanCall (read : List Payload) :
    Vulkan.Call → Description × Option (Handle .commandBuffer)
  | .destroyCommandPool pool => (⟨"vkDestroyCommandPool", [("pool", pool)]⟩, none)
  | .freeCommandBuffers pool buffers =>
    (⟨"vkFreeCommandBuffers", [("pool", pool), ("buffers", .handles buffers)]⟩, none)
  | .destroyDescriptorPool pool => (⟨"vkDestroyDescriptorPool", [("pool", pool)]⟩, none)
  | .updateDescriptorSetWithTemplate set template _ =>
    (⟨"vkUpdateDescriptorSetWithTemplate", [("set", set), ("template", template),
      ("data", .listOf payload read)]⟩, none)
  | .updateDescriptorSets writes copies =>
    (⟨"vkUpdateDescriptorSets", [("writes", .listOf writeSet writes), ("copies", copies)]⟩, none)
  | .cmdBeginRenderPass buffer args contents =>
    (⟨"vkCmdBeginRenderPass", ("contents", contents) :: passFields args⟩, some buffer)
  | .cmdEndRenderPass buffer => (⟨"vkCmdEndRenderPass", []⟩, some buffer)
  | .cmdBindPipeline buffer point pipeline =>
    (⟨"vkCmdBindPipeline", [("point", point.code), ("pipeline", pipeline)]⟩, some buffer)
  | .cmdBindVertexBuffers buffer first buffers offsets =>
    (⟨"vkCmdBindVertexBuffers", [("first", first), ("buffers", .handles buffers),
      ("offsets", .naturals offsets)]⟩, some buffer)
  | .cmdBindIndexBuffer buffer index offset type =>
    (⟨"vkCmdBindIndexBuffer", [("buffer", index), ("offset", offset), ("type", type)]⟩, some buffer)
  | .cmdBindDescriptorSets buffer point layout first sets dynamicOffsets =>
    (⟨"vkCmdBindDescriptorSets", [("point", point.code), ("layout", layout), ("first", first),
      ("sets", .handles sets), ("dynamic", .naturals dynamicOffsets)]⟩, some buffer)
  | .cmdPushDescriptorSetWithTemplate buffer template layout set _ =>
    (⟨"vkCmdPushDescriptorSetWithTemplateKHR", [("template", template), ("layout", layout),
      ("set", set), ("data", .listOf payload read)]⟩, some buffer)
  | .cmdSetViewport buffer first viewports =>
    (⟨"vkCmdSetViewport", [("first", first), ("v", .listOf viewport viewports)]⟩, some buffer)
  | .cmdSetScissor buffer first scissors =>
    (⟨"vkCmdSetScissor", [("first", first), ("r", .listOf rect scissors)]⟩, some buffer)
  | .cmdSetLineWidth buffer width => (⟨"vkCmdSetLineWidth", [("width", width)]⟩, some buffer)
  | .cmdSetDepthBias buffer constant clamp slope =>
    (⟨"vkCmdSetDepthBias", [("v", .singles [constant, clamp, slope])]⟩, some buffer)
  | .cmdSetBlendConstants buffer constants =>
    (⟨"vkCmdSetBlendConstants", [("v", .singles constants)]⟩, some buffer)
  | .cmdSetDepthBounds buffer lower upper =>
    (⟨"vkCmdSetDepthBounds", [("v", .singles [lower, upper])]⟩, some buffer)
  | .cmdSetStencilWriteMask buffer face mask =>
    (⟨"vkCmdSetStencilWriteMask", [("face", face), ("mask", mask)]⟩, some buffer)
  | .cmdSetStencilCompareMask buffer face mask =>
    (⟨"vkCmdSetStencilCompareMask", [("face", face), ("mask", mask)]⟩, some buffer)
  | .cmdSetStencilReference buffer face reference =>
    (⟨"vkCmdSetStencilReference", [("face", face), ("ref", reference)]⟩, some buffer)
  | .cmdDraw buffer vertexCount instanceCount firstVertex firstInstance =>
    (⟨"vkCmdDraw",
      [("a", .naturals [vertexCount, instanceCount, firstVertex, firstInstance])]⟩, some buffer)
  | .cmdDrawIndexed buffer indexCount instanceCount firstIndex vertexOffset firstInstance =>
    (⟨"vkCmdDrawIndexed",
      [("a", .list [indexCount, instanceCount, firstIndex, vertexOffset, firstInstance])]⟩,
      some buffer)
  | .cmdDrawIndirect buffer records offset count stride =>
    (⟨"vkCmdDrawIndirect", [("buffer", records), ("offset", offset), ("count", count),
      ("stride", stride)]⟩, some buffer)
  | .cmdDrawIndexedIndirect buffer records offset count stride =>
    (⟨"vkCmdDrawIndexedIndirect", [("buffer", records), ("offset", offset), ("count", count),
      ("stride", stride)]⟩, some buffer)
  | .cmdExecuteCommands buffer children =>
    (⟨"vkCmdExecuteCommands", [("buffers", .handles children)]⟩, some buffer)
  | .cmdUpdateBuffer buffer destination offset data =>
    (⟨"vkCmdUpdateBuffer", [("buffer", destination), ("offset", offset), ("data", .bytes data)]⟩,
      some buffer)
  | .cmdPipelineBarrier buffer b =>
    (⟨"vkCmdPipelineBarrier", [("stages", .naturals [b.src, b.dst]), ("flags", b.flags),
      ("others", .naturals [b.memory, b.buffers]), ("transitions", .listOf barrier b.images)]⟩,
      some buffer)
  | .cmdCopyBufferToImage buffer src dst layout regions =>
    (⟨"vkCmdCopyBufferToImage", [("src", src), ("dst", dst), ("layout", layout.code),
      ("regions", .listOf copy regions)]⟩, some buffer)

/-- An entry of the log, and the command buffer it is recorded into. -/
def entry : Entry → Description × Option (Handle .commandBuffer)
  | .createCommandPool flags family pool =>
    (⟨"vkCreateCommandPool", [("flags", flags), ("family", family), ("pool", pool)]⟩, none)
  | .allocateCommandBuffers pool level buffers =>
    (⟨"vkAllocateCommandBuffers", [("pool", pool), ("level", level.code),
      ("buffers", .handles buffers)]⟩, none)
  | .createDescriptorPool flags maxSets sizes pool =>
    (⟨"vkCreateDescriptorPool", [("flags", flags), ("max_sets", maxSets),
      ("sizes", .listOf poolSize sizes), ("pool", pool)]⟩, none)
  | .resetDescriptorPool pool flags =>
    (⟨"vkResetDescriptorPool", [("pool", pool), ("flags", flags)]⟩, none)
  | .allocateDescriptorSets pool layouts sets =>
    (⟨"vkAllocateDescriptorSets", [("pool", pool), ("layouts", .handles layouts),
      ("sets", .handles sets)]⟩, none)
  | .createDescriptorUpdateTemplate args template =>
    (⟨"vkCreateDescriptorUpdateTemplate", [("template", template),
      ("entries", .listOf templateEntry args.entries), ("type", args.kind),
      ("set_layout", args.setLayout), ("point", args.point.code), ("layout", args.layout),
      ("set", args.set)]⟩, none)
  | .queueSubmit queue submits fence =>
    (⟨"vkQueueSubmit", [("queue", queue), ("submits", .listOf .handles submits),
      ("fence", fence)]⟩, none)
  | .beginCommandBuffer buffer args => (⟨"vkBeginCommandBuffer", beginFields args⟩, some buffer)
  | .endCommandBuffer buffer => (⟨"vkEndCommandBuffer", []⟩, some buffer)
  | .call c read => vulkanCall read c

end GpuRecorder.Report
