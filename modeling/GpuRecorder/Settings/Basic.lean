/-!
# Settings

What a user can configure.  Every setting has a default that leaves the device as it is found.
-/

namespace GpuRecorder

/-- Features to leave unused although the device has them. -/
structure CapabilityOverrides where
  disablePushDescriptor : Bool := false
  disableDescriptorUpdateTemplate : Bool := false
  disableMultiDrawIndirect : Bool := false
  deriving DecidableEq, Repr, Inhabited

/-- The size of each native descriptor pool. -/
structure PoolSizing where
  maxSetsPerPool : UInt32 := 128
  /-- Descriptors of each type, per set. -/
  descriptorsPerType : UInt32 := 8
  deriving DecidableEq, Repr, Inhabited

structure Settings where
  capabilities : CapabilityOverrides := {}
  descriptorPool : PoolSizing := {}
  /-- A filter for messages, if one is set. -/
  logLevel : Option String := none
  deriving DecidableEq, Repr, Inhabited

end GpuRecorder
