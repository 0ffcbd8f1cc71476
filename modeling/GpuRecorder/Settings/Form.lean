import GpuRecorder.Document.Shape
import GpuRecorder.Settings.Basic

/-!
# The form of settings in a document

Settings are a record of two records and a text.  Each field may be left out and is then as in the
default settings.
-/

namespace GpuRecorder

open Document (Shape Value)

/-! ## 1. Settings -/

namespace CapabilityOverrides

def toValue (o : CapabilityOverrides) : Value :=
  .record
    [("disable_push_descriptor", .flag o.disablePushDescriptor),
     ("disable_descriptor_update_template", .flag o.disableDescriptorUpdateTemplate),
     ("disable_multi_draw_indirect", .flag o.disableMultiDrawIndirect)]

def ofValue? : Value → Option CapabilityOverrides
  | .record [(_, .flag push), (_, .flag template), (_, .flag draw)] => some ⟨push, template, draw⟩
  | _ => none

def shape : Shape :=
  .record "CapabilityOverrides"
    [("disable_push_descriptor", .flag, some (.flag false)),
     ("disable_descriptor_update_template", .flag, some (.flag false)),
     ("disable_multi_draw_indirect", .flag, some (.flag false))]

@[simp] theorem ofValue?_toValue (o : CapabilityOverrides) : ofValue? o.toValue = some o := rfl

end CapabilityOverrides

namespace PoolSizing

def toValue (p : PoolSizing) : Value :=
  .record
    [("max_sets_per_pool", .word p.maxSetsPerPool),
     ("descriptors_per_type", .word p.descriptorsPerType)]

def ofValue? : Value → Option PoolSizing
  | .record [(_, .word sets), (_, .word perType)] => some ⟨sets, perType⟩
  | _ => none

def shape : Shape :=
  .record "DescriptorPoolConfig"
    [("max_sets_per_pool", .word, some (.word 128)),
     ("descriptors_per_type", .word, some (.word 8))]

@[simp] theorem ofValue?_toValue (p : PoolSizing) : ofValue? p.toValue = some p := rfl

end PoolSizing

namespace Settings

def toValue (s : Settings) : Value :=
  .record
    [("capabilities", s.capabilities.toValue),
     ("descriptor_pool", s.descriptorPool.toValue),
     ("log_level", .text s.logLevel)]

def ofValue? : Value → Option Settings
  | .record [(_, capabilities), (_, descriptorPool), (_, .text logLevel)] => do
    return ⟨← CapabilityOverrides.ofValue? capabilities, ← PoolSizing.ofValue? descriptorPool,
      logLevel⟩
  | _ => none

def shape : Shape :=
  .record "GfxConfig"
    [("capabilities", CapabilityOverrides.shape, some (CapabilityOverrides.toValue {})),
     ("descriptor_pool", PoolSizing.shape, some (PoolSizing.toValue {})),
     ("log_level", .text, some (.text none))]

@[simp] theorem ofValue?_toValue (s : Settings) : ofValue? s.toValue = some s := rfl

end Settings

/-! ## 2. Other things kept in documents -/

/-- The shapes of everything that documents are asked for, by name. -/
def shapeOf? : String → Option Shape
  | "CommandBufferType" => some (.choice ["Primary", "Secondary"])
  | "GfxApi" => some (.choice ["Gles2", "Gles3", "Metal", "Vulkan"])
  | "Color" =>
    some (.record "Color"
      [("r", .single, none), ("g", .single, none), ("b", .single, none), ("a", .single, none)])
  | "DeviceCaps" =>
    some (.record "DeviceCaps"
      [("push_descriptor", .flag, none), ("descriptor_update_template", .flag, none),
       ("multi_draw_indirect", .flag, none)])
  | "CapabilityOverrides" => some CapabilityOverrides.shape
  | "DescriptorPoolConfig" => some PoolSizing.shape
  | "GfxConfig" => some Settings.shape
  | _ => none

end GpuRecorder
