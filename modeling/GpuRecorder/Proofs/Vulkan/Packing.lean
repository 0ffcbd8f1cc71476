import GpuRecorder.Vulkan.Packed

/-!
# Packed descriptors read back

Entries that were made for the slots of a set read out of a packed block what the type of each slot
takes out of its data, as long as every number fits the field that it is packed into.
-/

namespace GpuRecorder.Native

/-- Every number fits its field: handles, offsets and ranges have 64 bits, a layout has 32 and a
sign. -/
structure DescriptorInfo.InRange (i : DescriptorInfo) : Prop where
  buffer : i.buffer.buffer.number < UInt64.size
  offset : i.buffer.offset < UInt64.size
  range : i.buffer.range < UInt64.size
  sampler : i.image.sampler.number < UInt64.size
  view : i.image.view.number < UInt64.size
  layout : -0x80000000 ≤ i.image.layout.code ∧ i.image.layout.code < 0x80000000
  texelView : i.texelView.number < UInt64.size

namespace DescriptorInfo

/-- Nothing but null handles and zeros fits as well. -/
theorem inRange_default : InRange {} := by
  constructor <;> decide

theorem inRange_getD {infos : List DescriptorInfo} (h : ∀ info ∈ infos, info.InRange) (i : Nat) :
    (infos[i]?.getD {}).InRange := by
  cases hinfo : infos[i]? with
  | none => exact inRange_default
  | some info => exact h info (List.mem_of_getElem? hinfo)

end DescriptorInfo

end GpuRecorder.Native

namespace GpuRecorder.Vulkan

open Binary Native

/-! ## 1. One packed descriptor -/

theorem field_littleEndian {before : List UInt8} {start width n : Nat}
    (hstart : start = before.length) (hn : n < Nat.pow 256 width) (after : List UInt8) :
    field (before ++ (littleEndian width n ++ after)) start width = n := by
  rw [field, hstart, List.drop_left, List.take_left' (length_littleEndian width n),
    ofLittleEndian_littleEndian, Nat.mod_eq_of_lt hn]

/-- A packed descriptor read with its own class. -/
theorem unpack_pack {info : DescriptorInfo} (h : info.InRange) (c : DescriptorClass)
    (before after : List UInt8) :
    unpack (before ++ (pack (.ofClass info c) ++ after)) before.length c = .ofClass info c := by
  have h64 {n : Nat} (hn : n < UInt64.size) : n < Nat.pow 256 8 := hn
  cases c with
  | buffer =>
    simp only [Payload.ofClass, pack, unpack, List.append_assoc]
    rw [field_littleEndian rfl (h64 h.buffer)]
    simp only [← List.append_assoc before]
    rw [field_littleEndian (by simp) (h64 h.offset)]
    simp only [← List.append_assoc (before ++ _)]
    rw [field_littleEndian (by simp) (h64 h.range)]
  | image =>
    have hpow : Nat.pow 256 4 = 2 ^ 32 := rfl
    have hlayout : toUnsigned 4 info.image.layout.code < Nat.pow 256 4 := by
      rw [toUnsigned, hpow]
      omega
    obtain ⟨hlow, hhigh⟩ := h.layout
    simp only [Payload.ofClass, pack, unpack, List.append_assoc]
    rw [field_littleEndian rfl (h64 h.sampler)]
    simp only [← List.append_assoc before]
    rw [field_littleEndian (by simp) (h64 h.view)]
    simp only [← List.append_assoc (before ++ _)]
    rw [field_littleEndian (by simp) hlayout,
      ofUnsigned_toUnsigned (by rw [hpow]; omega) (by rw [hpow]; omega)]
  | texelBuffer =>
    simp only [Payload.ofClass, pack, unpack, List.append_assoc]
    rw [field_littleEndian rfl (h64 h.texelView)]

/-! ## 2. A block of them -/

/-- Parts of one length stand at multiples of it. -/
theorem flatten_split {parts : List (List UInt8)} {width : Nat}
    (hwidth : ∀ p ∈ parts, p.length = width) {i : Nat} (hi : i < parts.length) :
    ∃ before after, parts.flatten = before ++ (parts[i] ++ after) ∧ before.length = i * width := by
  refine ⟨(parts.take i).flatten, (parts.drop (i + 1)).flatten, ?_, ?_⟩
  · rw [← List.flatten_cons, ← List.drop_eq_getElem_cons hi, ← List.flatten_append,
      List.take_append_drop]
  · have hlengths : (parts.take i).map List.length = List.replicate i width := by
      rw [List.eq_replicate_iff, List.length_map, List.length_take]
      refine ⟨Nat.min_eq_left (Nat.le_of_lt hi), fun n hn => ?_⟩
      obtain ⟨p, hp, rfl⟩ := List.mem_map.1 hn
      exact hwidth p (List.mem_of_mem_take hp)
    rw [List.length_flatten, hlengths, List.sum_replicate_nat]

/-- The packed descriptor of each entry stands at the entry's place. -/
theorem block_split (slots : List Slot) (infos : List DescriptorInfo) {i : Nat}
    (hi : i < slots.length) :
    ∃ before after, block (slots.map (·.type)) infos =
        before ++ (pack (.ofClass (infos[i]?.getD {}) (packedClass slots[i].type)) ++ after) ∧
      before.length = i * descriptorStride := by
  let parts := (slots.map (·.type)).zipIdx.map fun x =>
    pack (.ofClass (infos[x.2]?.getD {}) (packedClass x.1))
  have hparts : i < parts.length := by simpa [parts] using hi
  have hwidth : ∀ p ∈ parts, p.length = descriptorStride := by
    intro p hp
    obtain ⟨x, _, rfl⟩ := List.mem_map.1 hp
    exact length_pack _
  have hpart : parts[i] = pack (.ofClass (infos[i]?.getD {}) (packedClass slots[i].type)) := by
    simp [parts]
  rw [← hpart]
  exact flatten_split hwidth hparts

/-- An entry made for a slot reads its data with the class of its type, and nothing that stands
behind the block. -/
theorem read_block_append {slots : List Slot} {infos : List DescriptorInfo}
    (hrange : ∀ info ∈ infos, info.InRange) {i : Nat} (hi : i < slots.length)
    (hentry : i < (TemplateEntry.ofSlots slots).length) (beyond : List UInt8) :
    (TemplateEntry.ofSlots slots)[i].read (block (slots.map (·.type)) infos ++ beyond) =
      .ofClass (infos[i]?.getD {}) (packedClass slots[i].type) := by
  obtain ⟨before, after, hsplit, hbefore⟩ := block_split slots infos hi
  have hread := unpack_pack (DescriptorInfo.inRange_getD hrange i) (packedClass slots[i].type)
    before (after ++ beyond)
  rw [← List.append_assoc (pack _), ← List.append_assoc before, ← hsplit, hbefore] at hread
  simpa [TemplateEntry.ofSlots, TemplateEntry.read] using hread

/-- Entries made for some slots read the data of each with the class of its type. -/
theorem read_block {slots : List Slot} {infos : List DescriptorInfo}
    (hlength : infos.length = slots.length) (hrange : ∀ info ∈ infos, info.InRange) :
    (TemplateEntry.ofSlots slots).map (·.read (block (slots.map (·.type)) infos)) =
      List.zipWith (fun slot info => .ofClass info (packedClass slot.type)) slots infos := by
  refine List.ext_getElem (by simp [hlength]) fun i hi hi' => ?_
  have hslot : i < slots.length := by simpa using hi
  have hinfo : i < infos.length := by rwa [hlength]
  have hread := read_block_append hrange hslot (by rwa [length_ofSlots]) []
  rw [List.append_nil, List.getElem?_eq_getElem hinfo, Option.getD_some] at hread
  rw [List.getElem_map, List.getElem_zipWith]
  exact hread

theorem select_of_isSome {t : DescriptorType} (h : t.class?.isSome) (info : DescriptorInfo) :
    Payload.select t info = some (.ofClass info (packedClass t)) := by
  obtain ⟨c, hc⟩ := Option.isSome_iff_exists.1 h
  simp [Payload.select, packedClass, hc]

/-- With types that all have a class, these are the payloads that are picked out of the data. -/
theorem read_block_select {slots : List Slot} {infos : List DescriptorInfo}
    (hlength : infos.length = slots.length) (hrange : ∀ info ∈ infos, info.InRange)
    (hclasses : ∀ slot ∈ slots, slot.type.class?.isSome) :
    ((TemplateEntry.ofSlots slots).map (·.read (block (slots.map (·.type)) infos))).map some =
      List.zipWith (fun slot info => Payload.select slot.type info) slots infos := by
  rw [read_block hlength hrange, List.map_zipWith]
  refine List.ext_getElem (by simp) fun i hi hi' => ?_
  rw [List.length_zipWith] at hi
  have hslot : i < slots.length := Nat.lt_of_lt_of_le hi (Nat.min_le_left _ _)
  rw [List.getElem_zipWith, List.getElem_zipWith,
    select_of_isSome (hclasses slots[i] (List.getElem_mem hslot))]

end GpuRecorder.Vulkan
