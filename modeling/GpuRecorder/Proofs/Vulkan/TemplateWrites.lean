import GpuRecorder.Proofs.Vulkan.Packing
import GpuRecorder.Resource.Shader
import GpuRecorder.Vulkan.Production
import Mathlib.Data.List.Basic

/-!
# Templates and single writes

A set is written through a template or descriptor by descriptor.  What a device writes in either
case is a list of descriptors, each with its place.  The entries of a template, which are made from
the slots of a set, and the blocks they read, which are packed for the types that the shader
remembers, lead to the same list as the writes of the same data one by one.
-/

namespace GpuRecorder.Vulkan

open Binary Native Resource

/-! ## 1. What a device writes -/

/-- The descriptors that an entry writes into a set: those after the first stand a stride apart in
the block, and go to the elements that follow. -/
def TemplateEntry.descriptors (e : TemplateEntry) (set : Handle .descriptorSet)
    (block : List UInt8) : List DescriptorWrite :=
  (List.range e.count).map fun k =>
    { set, binding := e.binding, element := e.element + k, type := e.type
      payload := unpack block (e.offset + k * e.stride) (packedClass e.type) }

/-- The descriptors that a write of a device writes, into elements that follow each other. -/
def WriteSet.descriptors (w : WriteSet) : List DescriptorWrite :=
  (w.payload.take w.count).zipIdx.map fun (payload, k) =>
    { set := w.set, binding := w.binding, element := w.element + k, type := w.type, payload }

theorem WriteSet.descriptors_ofWrite (w : DescriptorWrite) : (ofWrite w).descriptors = [w] := rfl

/-- An entry of one descriptor writes what it reads. -/
theorem TemplateEntry.descriptors_of_count {e : TemplateEntry} (h : e.count = 1)
    (set : Handle .descriptorSet) (block : List UInt8) :
    e.descriptors set block = [⟨set, e.binding, e.element, e.type, e.read block⟩] := by
  simp [descriptors, read, h]

/-! ## 2. Through the template -/

variable {slots : List Slot} {infos : List DescriptorInfo}

/-- An entry of a template against the slot it was made for. -/
structure TemplateEntry.Serves (e : TemplateEntry) (slot : Slot) (info : DescriptorInfo)
    (block : List UInt8) : Prop where
  binding : e.binding = slot.binding
  element : e.element = slot.element
  type : e.type = slot.type
  single : e.count = 1
  /-- What it reads lies within the block. -/
  inside : e.offset + e.stride ≤ block.length
  /-- It reads what the slot's type picks, whatever stands behind the block. -/
  reads : ∀ beyond, some (e.read (block ++ beyond)) = Payload.select slot.type info

theorem serves_ofSlots (hrange : ∀ info ∈ infos, info.InRange)
    (hclasses : ∀ slot ∈ slots, slot.type.class?.isSome) {i : Nat} (hi : i < slots.length)
    (hentry : i < (TemplateEntry.ofSlots slots).length) :
    (TemplateEntry.ofSlots slots)[i].Serves slots[i] (infos[i]?.getD {})
      (block (slots.map (·.type)) infos) where
  binding := by simp [TemplateEntry.ofSlots]
  element := by simp [TemplateEntry.ofSlots]
  type := by simp [TemplateEntry.ofSlots]
  single := by simp [TemplateEntry.ofSlots]
  inside := by
    obtain ⟨before, after, hsplit, hbefore⟩ := block_split slots infos hi
    rw [hsplit, List.length_append, List.length_append, length_pack, hbefore]
    simp only [TemplateEntry.ofSlots, List.getElem_map, List.getElem_zipIdx, Nat.zero_add]
    omega
  reads beyond := by
    rw [read_block_append hrange hi hentry, select_of_isSome (hclasses _ (List.getElem_mem hi))]

/-! ## 3. One by one -/

/-- With types that all have a class, every slot with data is written. -/
theorem ofSlots_of_classes (hclasses : ∀ slot ∈ slots, slot.type.class?.isSome)
    (set : Handle .descriptorSet) :
    DescriptorWrite.ofSlots set slots infos = List.zipWith (fun slot info =>
      ⟨set, slot.binding, slot.element, slot.type, .ofClass info (packedClass slot.type)⟩)
      slots infos := by
  induction slots generalizing infos with
  | nil => rfl
  | cons slot slots ih =>
    cases infos with
    | nil => rfl
    | cons info infos =>
      have hrest := @ih infos fun s hs => hclasses s (List.mem_cons_of_mem _ hs)
      have hfirst := select_of_isSome (hclasses slot List.mem_cons_self) info
      rw [DescriptorWrite.ofSlots] at hrest ⊢
      simp only [List.zip_cons_cons, List.filterMap_cons, hfirst, Option.map_some, hrest,
        List.zipWith_cons_cons]

/-- Where there is data for every slot, the template writes what single writes do, in their
order. -/
theorem descriptors_ofSlots (hlength : infos.length = slots.length)
    (hrange : ∀ info ∈ infos, info.InRange)
    (hclasses : ∀ slot ∈ slots, slot.type.class?.isSome) (set : Handle .descriptorSet) :
    (TemplateEntry.ofSlots slots).flatMap
        (·.descriptors set (block (slots.map (·.type)) infos)) =
      DescriptorWrite.ofSlots set slots infos := by
  let data := block (slots.map (·.type)) infos
  have hsingle : ∀ e ∈ TemplateEntry.ofSlots slots,
      e.descriptors set data = [⟨set, e.binding, e.element, e.type, e.read data⟩] := by
    intro e he
    obtain ⟨i, hentry, rfl⟩ := List.mem_iff_getElem.1 he
    have hslot : i < slots.length := by rwa [length_ofSlots] at hentry
    have hserves := serves_ofSlots hrange hclasses hslot hentry
    exact TemplateEntry.descriptors_of_count hserves.single _ _
  rw [List.flatMap_congr hsingle, ← List.map_eq_flatMap, ofSlots_of_classes hclasses]
  refine List.ext_getElem (by simp [hlength]) fun i hi hi' => ?_
  have hslot : i < slots.length := by simpa using hi
  have hinfo : i < infos.length := by rwa [hlength]
  have hentry : i < (TemplateEntry.ofSlots slots).length := by rwa [length_ofSlots]
  have hserves := serves_ofSlots hrange hclasses hslot hentry
  have hread := read_block_append hrange hslot hentry []
  rw [List.append_nil, List.getElem?_eq_getElem hinfo, Option.getD_some] at hread
  rw [List.getElem_map, List.getElem_zipWith, hserves.binding, hserves.element, hserves.type, hread]

/-! ## 4. Shaders -/

/-- A template that a shader remembers for a set and the native one that was made for it agree:
every entry reads, within the packed block, what the type of its slot picks out of the data at its
place, or out of nothing but nulls where there is none.  Where there is data for every slot, what
is written through the template is what is written one by one. -/
theorem templates_agree_with_writes {s : Shader} {set : Nat} {declared : SetLayout}
    {handles : List (Handle .updateTemplate)} {template : UpdateTemplate}
    (hset : s.sets[set]? = some declared)
    (htemplate : (s.attachTemplates handles).2.template? set = some template)
    (classes : ∀ slot ∈ declared.slots, slot.type.class?.isSome)
    (infos : List DescriptorInfo) (inRange : ∀ info ∈ infos, info.InRange)
    (layout : Handle .pipelineLayout) (pushSet : Option Nat) :
    let slots := declared.slots
    let entries := (Production.templateCreation slots declared.handle layout pushSet).entries
    let data := dataOf template infos
    entries.length = slots.length ∧
      (∀ (i : Nat) (slot : Slot), slots[i]? = some slot →
        ∃ e, entries[i]? = some e ∧ e.Serves slot (infos[i]?.getD {}) data) ∧
      (infos.length = slots.length → ∀ native : Handle .descriptorSet,
        entries.flatMap (·.descriptors native data) =
          ((DescriptorWrite.ofSlots native slots infos).map WriteSet.ofWrite).flatMap
            WriteSet.descriptors) := by
  intro slots entries data
  obtain ⟨⟨handle, declared'⟩, hpair, rfl⟩ := Option.map_eq_some_iff.1
    ((List.getElem?_map).symm.trans htemplate)
  obtain ⟨-, hdeclared⟩ := List.getElem?_zip_eq_some.1 hpair
  obtain rfl : declared' = declared := Option.some.inj (hdeclared.symm.trans hset)
  refine ⟨length_ofSlots slots, fun i slot hslot => ?_, fun hlength native => ?_⟩
  · obtain ⟨hi, rfl⟩ := List.getElem?_eq_some_iff.1 hslot
    have hentry : i < (TemplateEntry.ofSlots slots).length := by rwa [length_ofSlots]
    exact ⟨_, List.getElem?_eq_getElem hentry, serves_ofSlots inRange classes hi hentry⟩
  · rw [List.flatMap_map]
    simp only [WriteSet.descriptors_ofWrite, List.flatMap_singleton']
    exact descriptors_ofSlots hlength inRange classes native

/-- Two buffers in one binding, an image with its sampler, an empty binding and a texel view. -/
def mixedSet : SetLayout where
  handle := ⟨510⟩
  bindings := [⟨0, .uniformBuffer, 2, 1⟩, ⟨3, .combinedImageSampler, 1, 16⟩,
    ⟨4, .storageBuffer, 0, 1⟩, ⟨5, .uniformTexelBuffer, 1, 1⟩]

def mixedShader : Shader := ⟨⟨20⟩, "mixed", ⟨500⟩, [mixedSet], []⟩

def mixedInfos : List DescriptorInfo := [
  { buffer := ⟨⟨700⟩, 0, 64⟩ },
  { buffer := ⟨⟨701⟩, 256, 0xffffffffffffffff⟩ },
  { image := ⟨⟨710⟩, ⟨711⟩, .shaderReadOnly⟩ },
  { texelView := ⟨720⟩ }]

/-- With data for all four slots, and with data for the first two only. -/
theorem mixed_template_agrees_with_writes :
    let template : UpdateTemplate := ⟨⟨4096⟩, mixedSet.slots.map (·.type)⟩
    let entries := (Production.templateCreation mixedSet.slots mixedSet.handle ⟨500⟩ none).entries
    mixedShader.sets[0]? = some mixedSet ∧
      (mixedShader.attachTemplates [⟨4096⟩]).2.template? 0 = some template ∧
      (∀ slot ∈ mixedSet.slots, slot.type.class?.isSome) ∧
      (∀ info ∈ mixedInfos, info.InRange) ∧
      entries.length = 4 ∧
      (∀ (i : Nat) (slot : Slot), mixedSet.slots[i]? = some slot →
        ∃ e, entries[i]? = some e ∧
          e.Serves slot ((mixedInfos.take 2)[i]?.getD {}) (dataOf template (mixedInfos.take 2))) ∧
      ∀ native : Handle .descriptorSet,
        entries.flatMap (·.descriptors native (dataOf template mixedInfos)) =
          ((DescriptorWrite.ofSlots native mixedSet.slots mixedInfos).map WriteSet.ofWrite).flatMap
            WriteSet.descriptors := by
  intro template entries
  have hset : mixedShader.sets[0]? = some mixedSet := rfl
  have htemplate : (mixedShader.attachTemplates [⟨4096⟩]).2.template? 0 = some template := rfl
  have classes : ∀ slot ∈ mixedSet.slots, slot.type.class?.isSome := by decide
  have inRange : ∀ info ∈ mixedInfos, info.InRange := by
    intro info hinfo
    simp only [mixedInfos, List.mem_cons, List.not_mem_nil, or_false] at hinfo
    rcases hinfo with rfl | rfl | rfl | rfl <;> constructor <;> decide
  obtain ⟨hlength, -, hwrites⟩ :=
    templates_agree_with_writes hset htemplate classes mixedInfos inRange ⟨500⟩ none
  obtain ⟨-, hreads, -⟩ := templates_agree_with_writes hset htemplate classes (mixedInfos.take 2)
    (fun info hinfo => inRange info (List.mem_of_mem_take hinfo)) ⟨500⟩ none
  exact ⟨hset, htemplate, classes, inRange, hlength, hreads, hwrites rfl⟩

end GpuRecorder.Vulkan
