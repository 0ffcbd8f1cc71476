import GpuRecorder.Native.Error
import GpuRecorder.Resource.Buffer
import GpuRecorder.Resource.Shader
import GpuRecorder.Resource.Texture

/-!
# Binding layouts

A binding layout pairs every slot a shader declares with the resources bound to it.  The data of
the descriptors is taken from the current backings by `refresh`; between two refreshes it may
be stale.  Slots never change: binding finds the first slot with the given binding and element.
-/

namespace GpuRecorder.Resource

open Native

/-! ## 1. The layout -/

/-- The resources bound to one slot. -/
structure SlotBinding where
  buffer : Option ResourceId := none
  texture : Option ResourceId := none
  sampler : Option Sampler := none
  deriving DecidableEq, Repr, Inhabited

/-- A slot, what is bound to it, and its data as of the last refresh. -/
structure BoundSlot where
  slot : Slot
  bound : SlotBinding := {}
  info : DescriptorInfo := {}
  deriving DecidableEq, Repr

/-- One resource to bind to a slot. -/
inductive Bindable where
  | buffer (id : ResourceId)
  | texture (id : ResourceId)
  | sampler (s : Sampler)
  deriving DecidableEq, Repr

def SlotBinding.put (b : SlotBinding) : Bindable → SlotBinding
  | .buffer id => { b with buffer := some id }
  | .texture id => { b with texture := some id }
  | .sampler s => { b with sampler := some s }

/-- The bindings of a shader's sets, and the native sets last allocated for them. -/
structure Layout where
  sets : List (List BoundSlot) := []
  nativeSets : List (Handle .descriptorSet) := []
  deriving DecidableEq, Repr, Inhabited

namespace Layout

/-- Nothing bound to any slot of a shader. -/
def ofShader (s : Shader) : Layout where
  sets := s.sets.map fun set => set.slots.map fun slot => { slot }
  nativeSets := s.sets.map fun _ => .null

def setCount (l : Layout) : Nat := l.sets.length

/-- The slots of a set, in declaration order. -/
def slots (l : Layout) (set : Nat) : List Slot := (l.sets[set]?.getD []).map (·.slot)

/-- The data of a set's descriptors, in slot order. -/
def infos (l : Layout) (set : Nat) : List DescriptorInfo := (l.sets[set]?.getD []).map (·.info)

/-! ## 2. Binding -/

/-- Bind to the first slot with the given binding and element, if there is one. -/
def bindInSet (r : Bindable) (binding element : Nat) :
    List BoundSlot → Option (List BoundSlot)
  | [] => none
  | s :: rest =>
    if s.slot.binding = binding ∧ s.slot.element = element then
      some ({ s with bound := s.bound.put r } :: rest)
    else (bindInSet r binding element rest).map (s :: ·)

/-- Bind a resource to one element of a binding. -/
def bind (l : Layout) (r : Bindable) (set binding element : Nat) :
    Except DeviceError Layout :=
  match l.sets[set]? with
  | none => .error (.invalidOperation (.setNotDeclared set))
  | some slots =>
    match bindInSet r binding element slots with
    | none => .error (.invalidOperation (.bindingNotDeclared binding element set))
    | some slots => .ok { l with sets := l.sets.set set slots }

/-! ## 3. Refreshing -/

/-- The data of a slot from what is bound to it now.  Where nothing is bound the data stays. -/
def refreshInfo (buffers : Table Buffer) (textures : Table Texture) (s : BoundSlot) :
    DescriptorInfo :=
  match s.slot.type.class? with
  | some .buffer =>
    match s.bound.buffer with
    | none => s.info
    | some id =>
      let b := (buffers.get id).backing
      { s.info with buffer := ⟨b.handle, b.offset, b.size⟩ }
  | some .texelBuffer =>
    match s.bound.buffer with
    | none => s.info
    | some id => { s.info with texelView := (buffers.get id).backing.texelView }
  | some .image =>
    let image := s.info.image
    let image :=
      match s.bound.texture with
      | none => image
      | some id =>
        let t := (textures.get id).backing
        { image with view := t.view, layout := t.layout }
    let image :=
      match s.bound.sampler with
      | none => image
      | some sampler => { image with sampler := sampler.handle }
    { s.info with image }
  | none => s.info

/-- Take the data of every descriptor from the current backings. -/
def refresh (l : Layout) (buffers : Table Buffer) (textures : Table Texture) : Layout :=
  { l with
    sets := l.sets.map fun set =>
      set.map fun s => { s with info := refreshInfo buffers textures s } }

/-- Store the native sets allocated for the first sets of the layout. -/
def storeSets (l : Layout) (sets : List (Handle .descriptorSet)) : Layout :=
  { l with nativeSets := sets.take l.nativeSets.length ++ l.nativeSets.drop sets.length }

/-! ## 4. What stays -/

@[simp] theorem setCount_refresh (l : Layout) (buffers : Table Buffer) (textures : Table Texture) :
    (l.refresh buffers textures).setCount = l.setCount := by
  simp [refresh, setCount]

@[simp] theorem slots_refresh (l : Layout) (buffers : Table Buffer) (textures : Table Texture)
    (set : Nat) : (l.refresh buffers textures).slots set = l.slots set := by
  simp only [refresh, slots, List.getElem?_map]
  cases l.sets[set]? <;> simp

theorem slots_ofShader (s : Shader) (set : Nat) : (ofShader s).slots set = s.slots set := by
  simp only [ofShader, slots, Shader.slots, List.getElem?_map]
  cases s.sets[set]? <;> simp [Function.comp_def]

theorem bindInSet_slots {r : Bindable} {binding element : Nat} {slots slots' : List BoundSlot}
    (h : bindInSet r binding element slots = some slots') :
    slots'.map (·.slot) = slots.map (·.slot) := by
  induction slots generalizing slots' with
  | nil => simp [bindInSet] at h
  | cons s rest ih =>
    unfold bindInSet at h
    split at h
    · obtain rfl := Option.some.inj h
      rfl
    · obtain ⟨rest', hrest, rfl⟩ := Option.map_eq_some_iff.1 h
      simp [ih hrest]

/-- Binding succeeds exactly where the slot is declared. -/
theorem bindInSet_isSome_iff {r : Bindable} {binding element : Nat}
    {slots : List BoundSlot} :
    (bindInSet r binding element slots).isSome ↔
      ∃ s ∈ slots, s.slot.binding = binding ∧ s.slot.element = element := by
  induction slots with
  | nil => simp [bindInSet]
  | cons s rest ih =>
    unfold bindInSet
    split
    · simp_all
    · simp_all

end Layout

end GpuRecorder.Resource
