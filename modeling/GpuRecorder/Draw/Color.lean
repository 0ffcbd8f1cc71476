import GpuRecorder.Binary.Single

/-!
# Colours and clear values
-/

namespace GpuRecorder.Draw

open Binary

/-- Red, green, blue and alpha. -/
structure Color where
  r : Single
  g : Single
  b : Single
  a : Single
  deriving DecidableEq, Repr

instance : Inhabited Color := ⟨⟨.zero, .zero, .zero, .zero⟩⟩

def Color.components (c : Color) : List Single := [c.r, c.g, c.b, c.a]

/-- What one attachment of a render pass is cleared to. -/
inductive ClearValue where
  | color (c : Color)
  | depthStencil (depth : Single) (stencil : Nat)
  deriving DecidableEq, Repr

/-- One clear value per attachment: a colour for each of the `attachments` colour attachments,
zero where the list is short, then depth and stencil. -/
def clearValues (attachments : Nat) (colors : List Color) (depth : Single) (stencil : Nat) :
    List ClearValue :=
  (List.range attachments).map (fun i => .color (colors[i]?.getD default)) ++
    [.depthStencil depth stencil]

@[simp] theorem length_clearValues (attachments : Nat) (colors : List Color) (depth : Single)
    (stencil : Nat) :
    (clearValues attachments colors depth stencil).length = attachments + 1 := by
  simp [clearValues]

end GpuRecorder.Draw
