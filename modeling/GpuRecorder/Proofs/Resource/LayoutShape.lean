import GpuRecorder.Resource.Change

/-!
# What stays of a layout

The slots of a layout are those of the shader it was made for, whatever is bound and refreshed
later: its `shape`.  A part of a descriptor's data that nothing is bound for is never written.
Both hold of every layout of a store, and no change of the store touches the shape of a layout
that has been made.
-/

namespace GpuRecorder.Resource

open Native

/-! ## 1. One layout -/

namespace BoundSlot

/-- Where nothing is bound the data is as it was made. -/
structure Untouched (s : BoundSlot) : Prop where
  buffer : s.bound.buffer = none → s.info.buffer = {} ∧ s.info.texelView = .null
  texture : s.bound.texture = none → s.info.image.view = .null ∧ s.info.image.layout = .undefined
  sampler : s.bound.sampler = none → s.info.image.sampler = .null

theorem untouched_new (slot : Slot) : Untouched { slot } :=
  ⟨fun _ => ⟨rfl, rfl⟩, fun _ => ⟨rfl, rfl⟩, fun _ => rfl⟩

theorem Untouched.put {s : BoundSlot} (h : s.Untouched) (r : Bindable) :
    Untouched { s with bound := s.bound.put r } := by
  cases r with
  | buffer id => exact ⟨nofun, h.texture, h.sampler⟩
  | texture id => exact ⟨h.buffer, nofun, h.sampler⟩
  | sampler x => exact ⟨h.buffer, h.texture, nofun⟩

theorem Untouched.refreshed {s : BoundSlot} (h : s.Untouched) (buffers : Table Buffer)
    (textures : Table Texture) :
    Untouched { s with info := Layout.refreshInfo buffers textures s } := by
  unfold Layout.refreshInfo
  split
  · split
    · exact h
    · rename_i id hid
      exact ⟨fun hnone => (nomatch hid.symm.trans hnone), h.texture, h.sampler⟩
  · split
    · exact h
    · rename_i id hid
      exact ⟨fun hnone => (nomatch hid.symm.trans hnone), h.texture, h.sampler⟩
  · refine ⟨h.buffer, fun hnone => ?_, fun hnone => ?_⟩
    · simp only [show s.bound.texture = none from hnone]
      split
      · exact h.texture hnone
      · exact h.texture hnone
    · simp only [show s.bound.sampler = none from hnone]
      split
      · exact h.sampler hnone
      · exact h.sampler hnone
  · exact h

end BoundSlot

namespace Layout

def shape (l : Layout) : List (List Slot) := l.sets.map fun set => set.map (·.slot)

/-- Every set has a place for its native set, and unbound data is as it was made. -/
structure Sound (l : Layout) : Prop where
  natives : l.nativeSets.length = l.sets.length
  untouched : ∀ set ∈ l.sets, ∀ s ∈ set, s.Untouched

theorem setCount_eq_length_shape (l : Layout) : l.setCount = l.shape.length := by
  simp [setCount, shape]

theorem slots_eq_shape (l : Layout) (set : Nat) : l.slots set = l.shape[set]?.getD [] := by
  rw [slots, shape, List.getElem?_map]
  cases l.sets[set]? <;> rfl

theorem setCount_of_shape_eq {l l' : Layout} (h : l'.shape = l.shape) :
    l'.setCount = l.setCount := by
  rw [setCount_eq_length_shape, h, ← setCount_eq_length_shape]

theorem slots_of_shape_eq {l l' : Layout} (h : l'.shape = l.shape) (set : Nat) :
    l'.slots set = l.slots set := by
  rw [slots_eq_shape, h, ← slots_eq_shape]

theorem shape_ofShader (s : Shader) : (ofShader s).shape = s.sets.map SetLayout.slots := by
  simp [ofShader, shape, Function.comp_def]

theorem sound_ofShader (s : Shader) : (ofShader s).Sound where
  natives := by simp [ofShader]
  untouched := by
    intro set hset b hb
    obtain ⟨declared, _, rfl⟩ := List.mem_map.1 hset
    obtain ⟨slot, _, rfl⟩ := List.mem_map.1 hb
    exact BoundSlot.untouched_new slot

theorem sound_default : (default : Layout).Sound :=
  ⟨rfl, fun _ hset => absurd hset List.not_mem_nil⟩

theorem shape_refresh (l : Layout) (buffers : Table Buffer) (textures : Table Texture) :
    (l.refresh buffers textures).shape = l.shape := by
  simp [refresh, shape, Function.comp_def]

theorem Sound.refresh {l : Layout} (h : l.Sound) (buffers : Table Buffer)
    (textures : Table Texture) : (l.refresh buffers textures).Sound where
  natives := by simpa [Layout.refresh] using h.natives
  untouched := by
    intro set hset b hb
    obtain ⟨old, hold, rfl⟩ := List.mem_map.1 hset
    obtain ⟨s, hs, rfl⟩ := List.mem_map.1 hb
    exact (h.untouched old hold s hs).refreshed buffers textures

theorem Sound.storeSets {l : Layout} (h : l.Sound) (sets : List (Handle .descriptorSet)) :
    (l.storeSets sets).Sound where
  natives := by
    show (sets.take l.nativeSets.length ++ l.nativeSets.drop sets.length).length = l.sets.length
    rw [List.length_append, List.length_take, List.length_drop, ← h.natives]
    omega
  untouched := h.untouched

/-- The native sets that were stored are the first ones, if there is a place for each. -/
theorem take_nativeSets_storeSets {l : Layout} {sets : List (Handle .descriptorSet)}
    (h : sets.length ≤ l.nativeSets.length) :
    (l.storeSets sets).nativeSets.take sets.length = sets := by
  rw [storeSets, List.take_of_length_le h, List.take_left]

/-- Binding a resource touches what is bound to slots and nothing else of them. -/
theorem forall_bindInSet {P : BoundSlot → Prop} {r : Bindable}
    (put : ∀ s : BoundSlot, P s → P { s with bound := s.bound.put r }) {binding element : Nat}
    {slots slots' : List BoundSlot} (h : ∀ s ∈ slots, P s)
    (hbind : bindInSet r binding element slots = some slots') : ∀ s ∈ slots', P s := by
  induction slots generalizing slots' with
  | nil => cases hbind
  | cons s rest ih =>
    unfold bindInSet at hbind
    have hrest : ∀ x ∈ rest, P x := fun x hx => h x (List.mem_cons_of_mem _ hx)
    split at hbind
    · obtain rfl := Option.some.inj hbind
      intro x hx
      rcases List.mem_cons.1 hx with rfl | hx
      · exact put s (h s List.mem_cons_self)
      · exact hrest x hx
    · obtain ⟨rest', hrest', rfl⟩ := Option.map_eq_some_iff.1 hbind
      intro x hx
      rcases List.mem_cons.1 hx with rfl | hx
      · exact h x List.mem_cons_self
      · exact ih hrest hrest' x hx

/-- What holds of every slot and survives a change of what is bound holds after a binding. -/
theorem forall_bind {P : BoundSlot → Prop} {r : Bindable}
    (put : ∀ s : BoundSlot, P s → P { s with bound := s.bound.put r }) {l l' : Layout}
    {set binding element : Nat} (h : ∀ slots ∈ l.sets, ∀ s ∈ slots, P s)
    (hbind : l.bind r set binding element = .ok l') : ∀ slots ∈ l'.sets, ∀ s ∈ slots, P s := by
  unfold bind at hbind
  split at hbind
  · cases hbind
  · rename_i slots hslots
    split at hbind
    · cases hbind
    · rename_i slots' hput
      cases hbind
      intro x hx
      rcases List.mem_or_eq_of_mem_set hx with hx | rfl
      · exact h x hx
      · exact forall_bindInSet put (h slots (List.mem_of_getElem? hslots)) hput

theorem bind_spec {l l' : Layout} {r : Bindable} {set binding element : Nat}
    (h : l.bind r set binding element = .ok l') : l'.shape = l.shape ∧ (l.Sound → l'.Sound) := by
  have huntouched (hsound : l.Sound) : ∀ slots ∈ l'.sets, ∀ s ∈ slots, s.Untouched :=
    forall_bind (fun _ hs => hs.put r) hsound.untouched h
  unfold bind at h
  split at h
  · cases h
  · rename_i slots hslots
    split at h
    · cases h
    · rename_i slots' hbind
      cases h
      obtain ⟨hlt, rfl⟩ := List.getElem?_eq_some_iff.1 hslots
      refine ⟨?_, fun hsound => ⟨?_, huntouched hsound⟩⟩
      · have hlen : set < (l.sets.map fun set => set.map (·.slot)).length := by
          rwa [List.length_map]
        have hsame := List.set_getElem_self hlen
        rw [List.getElem_map] at hsame
        rw [shape, List.map_set, bindInSet_slots hbind, hsame, shape]
      · rw [hsound.natives, List.length_set]

end Layout

/-! ## 2. The layouts of a store -/

namespace Store

/-- Layouts that have been made keep their shape, and all layouts stay sound. -/
structure Keeps (s s' : Store) : Prop where
  next_le : s.next ≤ s'.next
  shape : ∀ id : ResourceId, id.number < s.next →
    (s'.layouts.get id).shape = (s.layouts.get id).shape
  sound : (∀ id, (s.layouts.get id).Sound) → ∀ id, (s'.layouts.get id).Sound

theorem Keeps.refl (s : Store) : Keeps s s := ⟨Nat.le_refl _, fun _ _ => rfl, fun h => h⟩

theorem Keeps.trans {s s' s'' : Store} (h : Keeps s s') (h' : Keeps s' s'') : Keeps s s'' where
  next_le := Nat.le_trans h.next_le h'.next_le
  shape := fun id hid => (h'.shape id (Nat.lt_of_lt_of_le hid h.next_le)).trans (h.shape id hid)
  sound := fun hs => h'.sound (h.sound hs)

theorem Keeps.of_layouts_eq {s s' : Store} (hnext : s.next ≤ s'.next)
    (h : s'.layouts = s.layouts) : Keeps s s' := by
  refine ⟨hnext, fun id _ => ?_, fun hs id => ?_⟩
  · rw [h]
  · rw [h]
    exact hs id

theorem keeps_setLayout {s : Store} {id : ResourceId} {l : Layout}
    (hshape : l.shape = (s.layouts.get id).shape)
    (hsound : (∀ other, (s.layouts.get other).Sound) → l.Sound) : Keeps s (s.setLayout id l) := by
  refine ⟨Nat.le_refl _, fun other _ => ?_, fun hs other => ?_⟩
  · by_cases h : other = id
    · rw [h, setLayout, Table.get_set_self, hshape]
    · rw [setLayout, Table.get_set_of_ne _ h]
  · by_cases h : other = id
    · rw [h, setLayout, Table.get_set_self]
      exact hsound hs
    · rw [setLayout, Table.get_set_of_ne _ h]
      exact hs other

theorem keeps_addLayout (s : Store) (shader : Shader) :
    Keeps s (s.addLayout (.ofShader shader)).2 := by
  refine ⟨Nat.le_succ _, fun id hid => ?_, fun hs id => ?_⟩
  · have hne : id ≠ ⟨s.next⟩ := by
      rintro rfl
      exact Nat.lt_irrefl _ hid
    rw [addLayout, fresh, Table.get_set_of_ne _ hne]
  · by_cases h : id = ⟨s.next⟩
    · rw [h, addLayout, fresh, Table.get_set_self]
      exact Layout.sound_ofShader shader
    · rw [addLayout, fresh, Table.get_set_of_ne _ h]
      exact hs id

theorem keeps_bindSlot (s : Store) (layout : ResourceId) (r : Bindable)
    (set binding element : Nat) : Keeps s (s.bindSlot layout r set binding element).2 := by
  unfold bindSlot
  split
  · exact .refl s
  · rename_i l hbind
    obtain ⟨hshape, hsound⟩ := Layout.bind_spec hbind
    exact keeps_setLayout hshape fun hs => hsound (hs layout)

theorem keeps_apply (s : Store) (c : Change) : Keeps s (s.apply c).2 := by
  cases c with
  | addLayout shader => exact keeps_addLayout s shader
  | bind layout r set binding element => exact keeps_bindSlot s layout r set binding element
  | _ => exact .of_layouts_eq (s.next_le_next_apply _) rfl

end Store

end GpuRecorder.Resource
