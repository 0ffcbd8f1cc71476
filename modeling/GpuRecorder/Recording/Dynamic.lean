import GpuRecorder.Native.Command

/-!
# Dynamic state

The values last sent to the driver for the state that can change between draws.  A setting is sent
only when it differs from the value remembered here; integers are compared exactly, floating
numbers up to rounding noise.  What is remembered is always what was sent, never a request that
was left out.
-/

namespace GpuRecorder.Recording

open Binary Draw Native

structure DepthBias where
  constant : Single
  clamp : Single
  slope : Single
  deriving DecidableEq, Repr

def DepthBias.components (b : DepthBias) : List Single := [b.constant, b.clamp, b.slope]

structure DepthBounds where
  lower : Single
  upper : Single
  deriving DecidableEq, Repr

def DepthBounds.components (b : DepthBounds) : List Single := [b.lower, b.upper]

/-- What stencil values are compared with, and under which mask. -/
structure StencilCompare where
  reference : Nat
  mask : Nat
  deriving DecidableEq, Repr

/-- The values last sent; none before the first. -/
structure DynamicState where
  viewport : Option Viewport := none
  scissor : Option Rect := none
  lineWidth : Option Single := none
  depthBias : Option DepthBias := none
  blendConstants : Option Color := none
  depthBounds : Option DepthBounds := none
  stencilWriteMask : PerFace (Option Nat) := ⟨none, none⟩
  stencilCompare : PerFace (Option StencilCompare) := ⟨none, none⟩
  deriving DecidableEq, Repr, Inhabited

/-- One dynamic setting. -/
inductive Setting where
  | viewport (v : Viewport)
  | scissor (r : Rect)
  | lineWidth (width : Single)
  | depthBias (b : DepthBias)
  | blendConstants (c : Color)
  | depthBounds (b : DepthBounds)
  | stencilWriteMask (face : Face) (mask : Nat)
  | stencilCompare (face : Face) (c : StencilCompare)
  deriving DecidableEq, Repr

/-- The value last sent exists and the new one does not differ from it. -/
def unchanged {α : Type} (differs : α → α → Bool) (last : Option α) (new : α) : Bool :=
  match last with
  | some old => !differs old new
  | none => false

namespace Setting

/-- The name of the call that makes the setting. -/
def name : Setting → String
  | .viewport _ => "set_viewport"
  | .scissor _ => "set_scissor"
  | .lineWidth _ => "set_line_width"
  | .depthBias _ => "set_depth_bias"
  | .blendConstants _ => "set_blend_constants"
  | .depthBounds _ => "set_depth_bound"
  | .stencilWriteMask _ _ => "set_stencil_write_mask"
  | .stencilCompare _ _ => "set_stencil_compare_mask"

/-- The commands that send a setting. -/
def commands : Setting → List Command
  | .viewport v => [.setViewports 0 [v.toNative]]
  | .scissor r => [.setScissors 0 [r]]
  | .lineWidth width => [.setLineWidth width]
  | .depthBias b => [.setDepthBias b.constant b.clamp b.slope]
  | .blendConstants c => [.setBlendConstants c]
  | .depthBounds b => [.setDepthBounds b.lower b.upper]
  | .stencilWriteMask face mask => [.setStencilWriteMask face mask]
  | .stencilCompare face c =>
    [.setStencilReference face c.reference, .setStencilCompareMask face c.mask]

end Setting

namespace DynamicState

/-- The setting would not change what was last sent. -/
def holds (s : DynamicState) : Setting → Bool
  | .viewport v => unchanged Viewport.differs s.viewport v
  | .scissor r => s.scissor = some r
  | .lineWidth width => unchanged Single.differs s.lineWidth width
  | .depthBias b =>
    unchanged (fun x y => Single.anyDiffers x.components y.components) s.depthBias b
  | .blendConstants c =>
    unchanged (fun x y => Single.anyDiffers x.components y.components) s.blendConstants c
  | .depthBounds b =>
    unchanged (fun x y => Single.anyDiffers x.components y.components) s.depthBounds b
  | .stencilWriteMask face mask => s.stencilWriteMask.get face = some mask
  | .stencilCompare face c => s.stencilCompare.get face = some c

/-- Remember a setting as sent. -/
def remember (s : DynamicState) : Setting → DynamicState
  | .viewport v => { s with viewport := some v }
  | .scissor r => { s with scissor := some r }
  | .lineWidth width => { s with lineWidth := some width }
  | .depthBias b => { s with depthBias := some b }
  | .blendConstants c => { s with blendConstants := some c }
  | .depthBounds b => { s with depthBounds := some b }
  | .stencilWriteMask face mask =>
    { s with stencilWriteMask := s.stencilWriteMask.set face (some mask) }
  | .stencilCompare face c => { s with stencilCompare := s.stencilCompare.set face (some c) }

/-- Nothing has been sent yet, so nothing is left out. -/
theorem holds_empty (x : Setting) : holds {} x = false := by
  cases x with
  | stencilWriteMask face mask => cases face <;> rfl
  | stencilCompare face c => cases face <;> rfl
  | _ => rfl

theorem holds_remember_scissor (s : DynamicState) (r : Rect) :
    (s.remember (.scissor r)).holds (.scissor r) = true := by
  simp [holds, remember]

theorem holds_remember_viewport_ofRect (s : DynamicState) (r : Rect) :
    (s.remember (.viewport (.ofRect r))).holds (.viewport (.ofRect r)) = true := by
  simp [holds, remember, unchanged, Viewport.differs_ofRect_self]

end DynamicState

end GpuRecorder.Recording
