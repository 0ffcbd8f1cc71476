import GpuRecorder.Native.Descriptor
import GpuRecorder.Native.Message
import GpuRecorder.Resource.Table

/-!
# Shaders

What a linked shader declares: its descriptor sets, each a list of bindings, and the update
templates made for them.  A binding of `count` elements declares `count` slots; the slots of a set
follow declaration order, then the element, and every way of delivering descriptors goes through
them in that order.
-/

namespace GpuRecorder.Resource

open Native

/-! ## 1. Declarations -/

/-- A declared binding of `count` descriptors of one type. -/
structure Binding where
  binding : Nat
  type : DescriptorType
  count : Nat
  stages : Nat := 0
  deriving DecidableEq, Repr

/-- The slots a binding declares. -/
def Binding.slots (b : Binding) : List Slot :=
  (List.range b.count).map fun element => ⟨b.binding, element, b.type⟩

/-- A declared descriptor set. -/
structure SetLayout where
  handle : Handle .setLayout
  bindings : List Binding
  deriving DecidableEq, Repr

/-- The slots of a set in declaration order. -/
def SetLayout.slots (l : SetLayout) : List Slot := l.bindings.flatMap Binding.slots

theorem Binding.mem_slots {b : Binding} {s : Slot} :
    s ∈ b.slots ↔ s.binding = b.binding ∧ s.element < b.count ∧ s.type = b.type := by
  obtain ⟨binding, element, type⟩ := s
  simp only [slots, List.mem_map, List.mem_range, Slot.mk.injEq]
  constructor
  · rintro ⟨e, he, rfl, rfl, rfl⟩
    exact ⟨rfl, he, rfl⟩
  · rintro ⟨rfl, he, rfl⟩
    exact ⟨element, he, rfl, rfl, rfl⟩

theorem SetLayout.mem_slots {l : SetLayout} {s : Slot} :
    s ∈ l.slots ↔ ∃ b ∈ l.bindings, s ∈ b.slots := by
  simp [slots]

/-! ## 2. Shaders -/

structure Shader where
  id : ResourceId
  name : String
  layout : Handle .pipelineLayout
  sets : List SetLayout
  templates : List UpdateTemplate := []
  deriving DecidableEq, Repr

instance : Inhabited Shader := ⟨⟨default, "", .null, [], []⟩⟩

namespace Shader

/-- The slots of a set; a set that is not declared has none. -/
def slots (s : Shader) (set : Nat) : List Slot := (s.sets[set]?.map SetLayout.slots).getD []

def template? (s : Shader) (set : Nat) : Option UpdateTemplate := s.templates[set]?

/-- The native layouts of the first `count` sets. -/
def nativeLayouts (s : Shader) (count : Nat) : List (Handle .setLayout) :=
  (s.sets.take count).map (·.handle)

/-- Attach one template per set, in set order.  Too many or too few are reported; the rest of
the longer list is left out. -/
def attachTemplates (s : Shader) (templates : List (Handle .updateTemplate)) :
    List Message × Shader :=
  let messages :=
    if templates.length = s.sets.length then []
    else
      [.warn (s!"Shader '{s.name}': {templates.length} update templates for {s.sets.length} " ++
        "descriptor sets")]
  let attached := (templates.zip s.sets).map fun (handle, set) =>
    { handle, entryTypes := set.slots.map (·.type) }
  (messages, { s with templates := attached })

end Shader

end GpuRecorder.Resource
