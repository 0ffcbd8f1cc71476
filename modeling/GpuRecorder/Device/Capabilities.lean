import GpuRecorder.Settings.Basic

/-!
# Capabilities

The optional features that choose how things are recorded.
-/

namespace GpuRecorder.Device

/-- The optional features of a device. -/
structure Capabilities where
  /-- Descriptors can be pushed into a command buffer without a set. -/
  pushDescriptor : Bool := false
  /-- Sets can be written through update templates. -/
  descriptorUpdateTemplate : Bool := false
  /-- One indirect call may cover several records. -/
  multiDrawIndirect : Bool := false
  deriving DecidableEq, Repr, Inhabited

namespace Capabilities

def all : Capabilities := ⟨true, true, true⟩

/-- Leave out what the settings disable. -/
def withOverrides (c : Capabilities) (o : CapabilityOverrides) : Capabilities where
  pushDescriptor := c.pushDescriptor && !o.disablePushDescriptor
  descriptorUpdateTemplate := c.descriptorUpdateTemplate && !o.disableDescriptorUpdateTemplate
  multiDrawIndirect := c.multiDrawIndirect && !o.disableMultiDrawIndirect

@[simp] theorem withOverrides_default (c : Capabilities) : c.withOverrides {} = c := by
  simp [withOverrides]

end Capabilities

end GpuRecorder.Device
