import GpuRecorder.Native.Trace
import GpuRecorder.Report.Argument

/-!
# The trace log in reports
-/

namespace GpuRecorder.Report

open Draw Native

/-- A recorded command. -/
def command : Command → Description
  | .beginRenderPass args => ⟨"BeginRenderPass", passFields args⟩
  | .endRenderPass => ⟨"EndRenderPass", []⟩
  | .bindPipeline point pipeline =>
    ⟨"BindPipeline", [("point", point.code), ("pipeline", pipeline)]⟩
  | .bindVertexBuffers first streams =>
    ⟨"BindVertexBuffers", [("first", first), ("buffers", .handles (streams.map (·.buffer))),
      ("offsets", .naturals (streams.map (·.offset)))]⟩
  | .bindIndexBuffer start type =>
    ⟨"BindIndexBuffer", [("buffer", start.buffer), ("offset", start.offset), ("type", type.code)]⟩
  | .bindDescriptorSets _ layout first sets dynamicOffsets =>
    ⟨"BindDescriptorSets", [("layout", layout), ("first", first), ("sets", .handles sets),
      ("dynamic", .naturals dynamicOffsets)]⟩
  | .pushDescriptors template layout set infos =>
    ⟨"PushDescriptorSetWithTemplate", [("template", template.handle), ("layout", layout),
      ("set", set), ("infos", .listOf info infos)]⟩
  | .setViewports _ viewports => ⟨"SetViewport", [("v", .option viewport viewports.head?)]⟩
  | .setScissors _ scissors => ⟨"SetScissor", [("r", .option rect scissors.head?)]⟩
  | .setLineWidth width => ⟨"SetLineWidth", [("width", width)]⟩
  | .setDepthBias constant clamp slope =>
    ⟨"SetDepthBias", [("v", .singles [constant, clamp, slope])]⟩
  | .setBlendConstants c => ⟨"SetBlendConstants", [("v", .singles c.components)]⟩
  | .setDepthBounds lower upper => ⟨"SetDepthBounds", [("v", .singles [lower, upper])]⟩
  | .setStencilWriteMask face mask => ⟨"SetStencilWriteMask", [("face", face.bit), ("mask", mask)]⟩
  | .setStencilCompareMask face mask =>
    ⟨"SetStencilCompareMask", [("face", face.bit), ("mask", mask)]⟩
  | .setStencilReference face reference =>
    ⟨"SetStencilReference", [("face", face.bit), ("ref", reference)]⟩
  | .draw vertexCount instanceCount firstVertex firstInstance =>
    ⟨"Draw", [("a", .naturals [vertexCount, instanceCount, firstVertex, firstInstance])]⟩
  | .drawIndexed indexCount instanceCount firstIndex vertexOffset firstInstance =>
    ⟨"DrawIndexed",
      [("a", .list [indexCount, instanceCount, firstIndex, vertexOffset, firstInstance])]⟩
  | .drawIndirect records count stride =>
    ⟨"DrawIndirect", [("buffer", records.buffer), ("offset", records.offset), ("count", count),
      ("stride", stride)]⟩
  | .drawIndexedIndirect records count stride =>
    ⟨"DrawIndexedIndirect", [("buffer", records.buffer), ("offset", records.offset),
      ("count", count), ("stride", stride)]⟩
  | .executeCommands buffers => ⟨"ExecuteCommands", [("buffers", .handles buffers)]⟩
  | .updateBuffer destination data =>
    ⟨"UpdateBuffer", [("buffer", destination.buffer), ("offset", destination.offset),
      ("data", .bytes data)]⟩
  | .pipelineBarrier src dst transitions =>
    ⟨"PipelineBarrier", [("stages", .naturals [src.bits, dst.bits]),
      ("transitions", .listOf (fun t => .record (transitionFields t)) transitions)]⟩
  | .copyBufferToImage src dst layout regions =>
    ⟨"CopyBufferToImage", [("src", src), ("dst", dst), ("layout", layout.code),
      ("regions", .listOf copy regions)]⟩

/-- An entry of the log. -/
def call : Call → Description
  | .createCommandPool family pool => ⟨"CreateCommandPool", [("family", family), ("pool", pool)]⟩
  | .destroyCommandPool pool => ⟨"DestroyCommandPool", [("pool", pool)]⟩
  | .allocateCommandBuffers pool level buffers =>
    ⟨"AllocateCommandBuffers", [("pool", pool), ("level", level.code),
      ("buffers", .handles buffers)]⟩
  | .freeCommandBuffers pool buffers =>
    ⟨"FreeCommandBuffers", [("pool", pool), ("buffers", .handles buffers)]⟩
  | .createDescriptorPool pool maxSets =>
    ⟨"CreateDescriptorPool", [("pool", pool), ("max_sets", maxSets)]⟩
  | .destroyDescriptorPool pool => ⟨"DestroyDescriptorPool", [("pool", pool)]⟩
  | .resetDescriptorPool pool => ⟨"ResetDescriptorPool", [("pool", pool)]⟩
  | .allocateDescriptorSets pool layouts sets =>
    ⟨"AllocateDescriptorSets", [("pool", pool), ("layouts", .handles layouts),
      ("sets", .handles sets)]⟩
  | .submit queue buffers fence =>
    ⟨"Submit", [("queue", queue), ("buffers", .handles buffers), ("fence", fence)]⟩
  | .begin _ args => ⟨"Begin", beginFields args⟩
  | .finish _ => ⟨"End", []⟩
  | .request (.updateSet set template infos) =>
    ⟨"UpdateDescriptorSetWithTemplate", [("set", set), ("template", template.handle),
      ("infos", .listOf info infos)]⟩
  | .request (.writeDescriptors writes) =>
    ⟨"UpdateDescriptorSets", [("writes", .listOf write writes)]⟩
  | .request (.record _ c) => command c

end GpuRecorder.Report
