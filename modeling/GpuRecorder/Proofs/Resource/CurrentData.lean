import GpuRecorder.Proofs.Resource.LayoutShape
import Mathlib.Data.List.Nodup

/-!
# Current data of slots

The payload of a slot computed from scratch: from the current backings of what is bound to it, and
from null handles where nothing is bound.  A refreshed layout holds exactly this.  The slots of a
set are told apart by binding and element, if its binding numbers differ.
-/

namespace GpuRecorder.Resource

open Native

/-! ## 1. From the current backings -/

namespace Store

def currentRange (s : Store) : Option ResourceId → BufferInfo
  | none => {}
  | some id => ⟨(s.backing id).handle, (s.backing id).offset, (s.backing id).size⟩

def currentTexels (s : Store) : Option ResourceId → Handle .bufferView
  | none => .null
  | some id => (s.backing id).texelView

def currentImage (s : Store) (texture : Option ResourceId) (sampler : Option Sampler) :
    ImageInfo where
  sampler := (sampler.map (·.handle)).getD .null
  view := (texture.map fun id => (s.textures.get id).backing.view).getD .null
  layout := (texture.map fun id => (s.textures.get id).backing.layout).getD .undefined

/-- What a slot reads now from what is bound to it; a type without a class reads nothing. -/
def currentPayload? (s : Store) (slot : Slot) (bound : SlotBinding) : Option Payload :=
  slot.type.class?.map fun
    | .buffer => .buffer (s.currentRange bound.buffer)
    | .texelBuffer => .texel (s.currentTexels bound.buffer)
    | .image => .image (s.currentImage bound.texture bound.sampler)

end Store

/-- Refreshing takes the current data: a part that nothing is bound for was never written. -/
theorem select_refreshInfo (s : Store) {x : BoundSlot} (h : x.Untouched) :
    Payload.select x.slot.type (Layout.refreshInfo s.buffers s.textures x) =
      s.currentPayload? x.slot x.bound := by
  unfold Payload.select Layout.refreshInfo Store.currentPayload?
  cases hclass : x.slot.type.class? with
  | none => rfl
  | some sort =>
    cases sort with
    | buffer =>
      cases hbuffer : x.bound.buffer with
      | none => simp [Payload.ofClass, Store.currentRange, (h.buffer hbuffer).1]
      | some id => rfl
    | texelBuffer =>
      cases hbuffer : x.bound.buffer with
      | none => simp [Payload.ofClass, Store.currentTexels, (h.buffer hbuffer).2]
      | some id => rfl
    | image =>
      have htextures := h.texture
      have hsamplers := h.sampler
      simp only [Option.map_some, Payload.ofClass, Store.currentImage]
      -- View and layout follow the texture, the sampler follows the sampler.
      generalize x.info.image = image at htextures hsamplers ⊢
      obtain ⟨sampler, view, layout⟩ := image
      cases htexture : x.bound.texture with
      | none =>
        obtain ⟨rfl, rfl⟩ := htextures htexture
        cases hsampler : x.bound.sampler with
        | none =>
          obtain rfl := hsamplers hsampler
          rfl
        | some bound => rfl
      | some id =>
        cases hsampler : x.bound.sampler with
        | none =>
          obtain rfl := hsamplers hsampler
          rfl
        | some bound => rfl

/-! ## 2. Slots told apart -/

theorem Binding.nodup_places (b : Binding) :
    (b.slots.map fun s => (s.binding, s.element)).Nodup := by
  rw [slots, List.map_map]
  refine List.nodup_range.map fun e e' h => ?_
  exact (Prod.mk.inj h).2

/-- Different binding numbers and different elements make different slots. -/
theorem SetLayout.nodup_places {l : SetLayout} (h : (l.bindings.map (·.binding)).Nodup) :
    (l.slots.map fun s => (s.binding, s.element)).Nodup := by
  rw [slots, List.map_flatMap, List.nodup_flatMap]
  refine ⟨fun b _ => b.nodup_places, (List.pairwise_map.1 h).imp fun hne => ?_⟩
  rintro ⟨binding, element⟩ hb hb'
  obtain ⟨x, hx, hplace⟩ := List.mem_map.1 hb
  obtain ⟨x', hx', hplace'⟩ := List.mem_map.1 hb'
  rw [← (Binding.mem_slots.1 hx).1, ← (Binding.mem_slots.1 hx').1] at hne
  exact hne ((Prod.mk.inj hplace).1.trans (Prod.mk.inj hplace').1.symm)

end GpuRecorder.Resource
