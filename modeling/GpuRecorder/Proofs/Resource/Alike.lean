import GpuRecorder.Proofs.Resource.CurrentData

/-!
# Stores with the same contents

A store keeps more than its owner put there: data of descriptors as of the last refresh, native sets
as of the last allocation, and vertex arrays as of the last binding.  Two stores are alike when they
differ in nothing else.  A slot's data has only the part that its type reads, so what is taken from
alike stores is the same.
-/

namespace GpuRecorder.Resource

open Native

/-- Lists with the same keys, entry by entry, have the same values if the key decides the value. -/
theorem map_eq_map_of_keys {α κ β : Type} {key : α → κ} {value value' : α → β} {xs xs' : List α}
    (hkeys : xs'.map key = xs.map key)
    (hvalue : ∀ x ∈ xs, ∀ x' ∈ xs', key x' = key x → value' x' = value x) :
    xs'.map value' = xs.map value := by
  induction xs generalizing xs' with
  | nil =>
    obtain rfl := List.map_eq_nil_iff.1 hkeys
    rfl
  | cons x xs ih =>
    obtain ⟨x', xs', rfl, hkey, hrest⟩ := List.map_eq_cons_iff.1 hkeys
    rw [List.map_cons, List.map_cons, hvalue x List.mem_cons_self x' List.mem_cons_self hkey,
      ih hrest fun y hy y' hy' =>
        hvalue y (List.mem_cons_of_mem _ hy) y' (List.mem_cons_of_mem _ hy')]

/-! ## 1. Data of one type -/

/-- Only the part that a type reads was ever written. -/
structure OnlyFor (t : DescriptorType) (info : DescriptorInfo) : Prop where
  buffer : t.class? ≠ some .buffer → info.buffer = {}
  image : t.class? ≠ some .image → info.image = {}
  texels : t.class? ≠ some .texelBuffer → info.texelView = .null

theorem onlyFor_new (t : DescriptorType) : OnlyFor t {} :=
  ⟨fun _ => rfl, fun _ => rfl, fun _ => rfl⟩

/-- The part that is read is all there is. -/
theorem OnlyFor.eq_of_select {t : DescriptorType} {info info' : DescriptorInfo}
    (h : OnlyFor t info) (h' : OnlyFor t info')
    (hselect : Payload.select t info = Payload.select t info') : info = info' := by
  obtain ⟨hbuffer, himage, htexels⟩ := h
  obtain ⟨hbuffer', himage', htexels'⟩ := h'
  obtain ⟨buffer, image, texels⟩ := info
  obtain ⟨buffer', image', texels'⟩ := info'
  -- One part is equal because it is read, the others because they are empty.
  unfold Payload.select at hselect
  cases hclass : t.class? with
  | none => simp_all
  | some sort => cases sort <;> simp_all [Payload.ofClass]

theorem OnlyFor.refreshed {x : BoundSlot} (h : OnlyFor x.slot.type x.info)
    (buffers : Table Buffer) (textures : Table Texture) :
    OnlyFor x.slot.type (Layout.refreshInfo buffers textures x) := by
  unfold Layout.refreshInfo
  split
  · rename_i hclass
    split
    · exact h
    · exact ⟨fun hne => absurd hclass hne, h.image, h.texels⟩
  · rename_i hclass
    split
    · exact h
    · exact ⟨h.buffer, h.image, fun hne => absurd hclass hne⟩
  · rename_i hclass
    exact ⟨h.buffer, fun hne => absurd hclass hne, h.texels⟩
  · exact h

/-! ## 2. Layouts -/

namespace Layout

/-- A sound layout that holds no data but what its slots read. -/
structure Settled (l : Layout) : Prop where
  sound : l.Sound
  only : ∀ slots ∈ l.sets, ∀ x ∈ slots, OnlyFor x.slot.type x.info

/-- The slots and what is bound to them. -/
def contents (l : Layout) : List (List (Slot × SlotBinding)) :=
  l.sets.map fun slots => slots.map fun x => (x.slot, x.bound)

theorem settled_default : (default : Layout).Settled :=
  ⟨sound_default, fun _ h => absurd h List.not_mem_nil⟩

theorem settled_ofShader (s : Shader) : (ofShader s).Settled where
  sound := sound_ofShader s
  only := by
    intro slots hslots x hx
    obtain ⟨declared, _, rfl⟩ := List.mem_map.1 hslots
    obtain ⟨slot, _, rfl⟩ := List.mem_map.1 hx
    exact onlyFor_new slot.type

theorem Settled.bind {l l' : Layout} (h : l.Settled) {r : Bindable} {set binding element : Nat}
    (hbind : l.bind r set binding element = .ok l') : l'.Settled where
  sound := (bind_spec hbind).2 h.sound
  only := forall_bind (fun _ hs => hs) h.only hbind

theorem Settled.refresh {l : Layout} (h : l.Settled) (buffers : Table Buffer)
    (textures : Table Texture) : (l.refresh buffers textures).Settled where
  sound := h.sound.refresh buffers textures
  only := by
    intro slots hslots x hx
    obtain ⟨old, hold, rfl⟩ := List.mem_map.1 hslots
    obtain ⟨s, hs, rfl⟩ := List.mem_map.1 hx
    exact (h.only old hold s hs).refreshed buffers textures

theorem Settled.storeSets {l : Layout} (h : l.Settled) (sets : List (Handle .descriptorSet)) :
    (l.storeSets sets).Settled :=
  ⟨h.sound.storeSets sets, h.only⟩

@[simp] theorem contents_refresh (l : Layout) (buffers : Table Buffer) (textures : Table Texture) :
    (l.refresh buffers textures).contents = l.contents := by
  simp [refresh, contents, Function.comp_def]

theorem shape_eq_contents (l : Layout) :
    l.shape = l.contents.map fun slots => slots.map (·.1) := by
  simp [shape, contents, Function.comp_def]

end Layout

/-! ## 3. Stores -/

/-- An assembler without the arrays it keeps. -/
def Assembler.contents (a : Assembler) : Assembler := { a with arrays := default }

namespace Store

/-- The second store has the current contents of the first. -/
structure Alike (s s' : Store) : Prop where
  buffers : ∀ id, s'.buffers.get id = s.buffers.get id
  textures : ∀ id, s'.textures.get id = s.textures.get id
  swapchains : ∀ id, s'.swapchains.get id = s.swapchains.get id
  assemblers : ∀ id, (s'.assemblers.get id).contents = (s.assemblers.get id).contents
  layouts : ∀ id, (s'.layouts.get id).contents = (s.layouts.get id).contents

namespace Alike

variable {s s' s'' : Store}

theorem refl (s : Store) : s.Alike s :=
  ⟨fun _ => rfl, fun _ => rfl, fun _ => rfl, fun _ => rfl, fun _ => rfl⟩

theorem symm (h : s.Alike s') : s'.Alike s where
  buffers := fun id => (h.buffers id).symm
  textures := fun id => (h.textures id).symm
  swapchains := fun id => (h.swapchains id).symm
  assemblers := fun id => (h.assemblers id).symm
  layouts := fun id => (h.layouts id).symm

theorem trans (h : s.Alike s') (h' : s'.Alike s'') : s.Alike s'' where
  buffers := fun id => (h'.buffers id).trans (h.buffers id)
  textures := fun id => (h'.textures id).trans (h.textures id)
  swapchains := fun id => (h'.swapchains id).trans (h.swapchains id)
  assemblers := fun id => (h'.assemblers id).trans (h.assemblers id)
  layouts := fun id => (h'.layouts id).trans (h.layouts id)

/-- A layout is exchanged for one with the same slots and the same bound to them. -/
theorem setLayout {id : ResourceId} {l : Layout} (h : l.contents = (s.layouts.get id).contents) :
    s.Alike (s.setLayout id l) where
  buffers := fun _ => rfl
  textures := fun _ => rfl
  swapchains := fun _ => rfl
  assemblers := fun _ => rfl
  layouts := by
    intro other
    by_cases hid : other = id
    · rw [hid, Store.setLayout, Table.get_set_self, h]
    · rw [Store.setLayout, Table.get_set_of_ne _ hid]

theorem refreshArrays (s : Store) (id : ResourceId) : s.Alike (s.refreshArrays id).2 where
  buffers := fun _ => rfl
  textures := fun _ => rfl
  swapchains := fun _ => rfl
  assemblers := by
    intro other
    by_cases hid : other = id
    · rw [hid, Store.refreshArrays, Table.get_set_self]
      rfl
    · rw [Store.refreshArrays, Table.get_set_of_ne _ hid]
  layouts := fun _ => rfl

/-! ## 4. What is taken from alike stores -/

variable (h : s.Alike s')

include h

theorem backing (id : ResourceId) : s'.backing id = s.backing id :=
  congrArg Buffer.backing (h.buffers id)

theorem start (id : ResourceId) : s'.start id = s.start id := by
  rw [Store.start, h.backing, Store.start]

theorem resolve (f : Framebuffer) : s'.resolve f = s.resolve f := by
  unfold Store.resolve
  split
  · rfl
  · rw [h.swapchains]

theorem streams (id : ResourceId) :
    (s'.assemblers.get id).streams = (s.assemblers.get id).streams :=
  congrArg (·.streams) (h.assemblers id)

theorem index (id : ResourceId) : (s'.assemblers.get id).index = (s.assemblers.get id).index :=
  congrArg (·.index) (h.assemblers id)

theorem indirect (id : ResourceId) :
    (s'.assemblers.get id).indirect = (s.assemblers.get id).indirect :=
  congrArg (·.indirect) (h.assemblers id)

theorem vertexStreams (id : ResourceId) :
    s'.vertexStreams (s'.assemblers.get id) = s.vertexStreams (s.assemblers.get id) := by
  rw [Store.vertexStreams, h.streams, Store.vertexStreams]
  exact List.map_congr_left fun buffer _ => h.start buffer

theorem indexBinding (id : ResourceId) :
    s'.indexBinding (s'.assemblers.get id) = s.indexBinding (s.assemblers.get id) := by
  simp only [Store.indexBinding, h.index, h.start, h.buffers]

theorem drawParameters (id : ResourceId) :
    s'.drawParameters (s'.assemblers.get id) = s.drawParameters (s.assemblers.get id) := by
  have hparameters : (s'.assemblers.get id).parameters = (s.assemblers.get id).parameters :=
    congrArg (·.parameters) (h.assemblers id)
  simp only [Store.drawParameters, hparameters, h.streams, h.index, h.buffers]

theorem currentPayload? (slot : Slot) (bound : SlotBinding) :
    s'.currentPayload? slot bound = s.currentPayload? slot bound := by
  have hrange : s'.currentRange bound.buffer = s.currentRange bound.buffer := by
    cases bound.buffer <;> simp only [currentRange, h.backing]
  have htexels : s'.currentTexels bound.buffer = s.currentTexels bound.buffer := by
    cases bound.buffer <;> simp only [currentTexels, h.backing]
  simp only [Store.currentPayload?, hrange, htexels, currentImage, h.textures]

/-- Whatever data the layouts held before, refreshed they hold the same. -/
theorem sets_refreshed {l l' : Layout} (hl : l.Settled) (hl' : l'.Settled)
    (hcontents : l'.contents = l.contents) : (s'.refreshed l').sets = (s.refreshed l).sets := by
  have slot {x x' : BoundSlot} (hx : x.Untouched) (hx' : x'.Untouched)
      (honly : OnlyFor x.slot.type x.info) (honly' : OnlyFor x'.slot.type x'.info)
      (heq : (x'.slot, x'.bound) = (x.slot, x.bound)) :
      ({ x' with info := Layout.refreshInfo s'.buffers s'.textures x' } : BoundSlot) =
        { x with info := Layout.refreshInfo s.buffers s.textures x } := by
    obtain ⟨hslot, hbound⟩ := Prod.mk.inj heq
    -- What is read is current data, so nothing of the old data is left in it.
    have hselect : Payload.select x.slot.type (Layout.refreshInfo s'.buffers s'.textures x') =
        Payload.select x.slot.type (Layout.refreshInfo s.buffers s.textures x) := by
      rw [select_refreshInfo s hx, ← hslot, select_refreshInfo s' hx', hslot, hbound,
        h.currentPayload?]
    have hinfo := OnlyFor.eq_of_select (hslot ▸ honly'.refreshed s'.buffers s'.textures)
      (honly.refreshed s.buffers s.textures) hselect
    rw [hinfo, hslot, hbound]
  refine map_eq_map_of_keys hcontents fun slots hslots slots' hslots' hkeys => ?_
  refine map_eq_map_of_keys hkeys fun x hx x' hx' heq => ?_
  exact slot (hl.sound.untouched slots hslots x hx) (hl'.sound.untouched slots' hslots' x' hx')
    (hl.only slots hslots x hx) (hl'.only slots' hslots' x' hx') heq

end Alike

/-! ## 5. Settled layouts -/

theorem settled_setLayout {s : Store} (h : ∀ id, (s.layouts.get id).Settled) (id : ResourceId)
    {l : Layout} (hl : l.Settled) : ∀ other, ((s.setLayout id l).layouts.get other).Settled := by
  intro other
  by_cases hid : other = id
  · rw [hid, setLayout, Table.get_set_self]
    exact hl
  · rw [setLayout, Table.get_set_of_ne _ hid]
    exact h other

theorem settled_apply {s : Store} (h : ∀ id, (s.layouts.get id).Settled) (c : Change) :
    ∀ id, ((s.apply c).2.layouts.get id).Settled := by
  cases c with
  | addLayout shader => exact settled_setLayout h ⟨s.next⟩ (Layout.settled_ofShader shader)
  | bind layout r set binding element =>
    show ∀ id, ((s.bindSlot layout r set binding element).2.layouts.get id).Settled
    unfold bindSlot
    split
    · exact h
    · rename_i l hbind
      exact settled_setLayout h layout ((h layout).bind hbind)
  | _ => exact h

end Store

end GpuRecorder.Resource
