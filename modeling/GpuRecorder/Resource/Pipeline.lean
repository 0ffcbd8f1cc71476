import GpuRecorder.Draw.Primitive
import GpuRecorder.Native.Command
import GpuRecorder.Resource.Shader

/-!
# Pipelines, render passes and framebuffers

A framebuffer is one native framebuffer or one per image of a swapchain; the swapchain's cursor
picks among them when a pass is opened.
-/

namespace GpuRecorder.Resource

open Native

structure Pipeline where
  id : ResourceId
  handle : Handle .pipeline
  point : BindPoint := .graphics
  primitive : Draw.Primitive
  shader : Shader
  deriving DecidableEq, Repr, Inhabited

/-- A render pass; after its colour attachments comes one for depth and stencil. -/
structure RenderPass where
  id : ResourceId
  handle : Handle .renderPass
  colorAttachments : Nat
  deriving DecidableEq, Repr, Inhabited

def RenderPass.attachments (p : RenderPass) : Nat := p.colorAttachments + 1

/-- The images of a presentation surface and the one to render into. -/
structure Swapchain where
  images : Nat := 0
  current : Nat := 0
  deriving DecidableEq, Repr, Inhabited

/-- What a framebuffer renders into. -/
inductive Target where
  | offscreen (handle : Handle .framebuffer)
  | swapchain (swapchain : ResourceId) (perImage : List (Handle .framebuffer))
  deriving DecidableEq, Repr

structure Framebuffer where
  id : ResourceId
  target : Target
  deriving DecidableEq, Repr

end GpuRecorder.Resource
