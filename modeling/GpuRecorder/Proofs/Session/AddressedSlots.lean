import GpuRecorder.Proofs.Resource.CurrentData
import GpuRecorder.Proofs.Session.RefreshedLayouts
import Mathlib.Algebra.Order.Ring.Nat

/-!
# How slots are addressed

The bindings of a set are enumerated in declaration order, and the elements of each in ascending
order; a binding of no elements has no slots.  A resource is bound by a search in the opposite
direction, from a binding and an element to the first slot that has both.  So exactly the declared
elements are found, and where binding numbers are not repeated there is only one slot to find.
-/

namespace GpuRecorder

open Native Resource Recording

namespace Resource

/-! ## 1. The enumeration -/

/-- Some slots are those of some bindings, in declaration order and then by element. -/
structure Enumerates (bindings : List Binding) (slots : List Slot) : Prop where
  length_eq : slots.length = (bindings.map (·.count)).sum
  /-- An element stands after the elements of all earlier bindings. -/
  position : ∀ k b, bindings[k]? = some b → ∀ element < b.count,
    slots[((bindings.take k).map (·.count)).sum + element]? = some ⟨b.binding, element, b.type⟩
  named : ∀ binding element,
    (∃ slot ∈ slots, slot.binding = binding ∧ slot.element = element) ↔
      ∃ b ∈ bindings, b.binding = binding ∧ element < b.count
  distinct : (bindings.map (·.binding)).Nodup →
    (slots.map fun slot => (slot.binding, slot.element)).Nodup

namespace Binding

theorem length_slots (b : Binding) : b.slots.length = b.count := by
  simp [slots]

theorem getElem?_slots {b : Binding} {element : Nat} (h : element < b.count) :
    b.slots[element]? = some ⟨b.binding, element, b.type⟩ := by
  rw [slots, List.getElem?_map, List.getElem?_range h, Option.map_some]

theorem length_flatMap_slots (bindings : List Binding) :
    (bindings.flatMap slots).length = (bindings.map (·.count)).sum := by
  simp only [List.length_flatMap, length_slots]

/-- The slots before those of a binding are those of the bindings before it. -/
theorem getElem?_flatMap_slots {bindings : List Binding} {k : Nat} {b : Binding}
    (hb : bindings[k]? = some b) {element : Nat} (helement : element < b.count) :
    (bindings.flatMap slots)[((bindings.take k).map (·.count)).sum + element]? =
      some ⟨b.binding, element, b.type⟩ := by
  obtain ⟨hk, rfl⟩ := List.getElem?_eq_some_iff.1 hb
  -- The slots of the binding stand between those of the bindings before and after it.
  have hsplit : bindings.flatMap slots =
      (bindings.take k).flatMap slots ++
        (bindings[k].slots ++ (bindings.drop (k + 1)).flatMap slots) := by
    rw [← List.flatMap_cons, ← List.drop_eq_getElem_cons hk, ← List.flatMap_append,
      List.take_append_drop]
  rw [hsplit, List.getElem?_append_right (by rw [length_flatMap_slots]; omega),
    length_flatMap_slots, Nat.add_sub_cancel_left,
    List.getElem?_append_left (by rwa [length_slots]), getElem?_slots helement]

end Binding

theorem SetLayout.enumerates (l : SetLayout) : Enumerates l.bindings l.slots where
  length_eq := Binding.length_flatMap_slots l.bindings
  position _ _ hb _ helement := Binding.getElem?_flatMap_slots hb helement
  named binding element := by
    constructor
    · rintro ⟨slot, hslot, rfl, rfl⟩
      obtain ⟨b, hb, hmem⟩ := SetLayout.mem_slots.1 hslot
      obtain ⟨hbinding, helement, _⟩ := Binding.mem_slots.1 hmem
      exact ⟨b, hb, hbinding.symm, helement⟩
    · rintro ⟨b, hb, rfl, helement⟩
      refine ⟨⟨b.binding, element, b.type⟩, SetLayout.mem_slots.2 ⟨b, hb, ?_⟩, rfl, rfl⟩
      exact Binding.mem_slots.2 ⟨rfl, helement, rfl⟩
  distinct := SetLayout.nodup_places

/-! ## 2. The search -/

theorem slotIndex?_eq_some_iff {slots : List Slot} {binding element i : Nat} :
    slotIndex? slots binding element = some i ↔
      ∃ h : i < slots.length, (slots[i].binding = binding ∧ slots[i].element = element) ∧
        ∀ j (hj : j < i), ¬ (slots[j].binding = binding ∧ slots[j].element = element) := by
  simp only [slotIndex?, List.findIdx?_eq_some_iff_getElem, decide_eq_true_eq]

theorem slotIndex?_eq_none_iff {slots : List Slot} {binding element : Nat} :
    slotIndex? slots binding element = none ↔
      ¬ ∃ slot ∈ slots, slot.binding = binding ∧ slot.element = element := by
  simp only [slotIndex?, List.findIdx?_eq_none_iff, decide_eq_false_iff_not, not_exists, not_and]

theorem SlotBinding.put_eq (b : SlotBinding) (r : Bindable) :
    b.put r = ⟨r.buffer?.or b.buffer, r.texture?.or b.texture, r.sampler?.or b.sampler⟩ := by
  cases r <;> rfl

namespace Layout

variable {l : Layout} {set binding element : Nat}

/-- What has no slot is refused. -/
theorem bind_of_unnamed (h : slotIndex? (l.slots set) binding element = none) (r : Bindable) :
    ∃ e, l.bind r set binding element = .error e := by
  unfold bind
  cases hslots : l.sets[set]? with
  | none => exact ⟨_, rfl⟩
  | some slots =>
    rw [Layout.slots, hslots, Option.getD_some] at h
    simp only [bindInSet_eq, h, Option.map_none]
    exact ⟨_, rfl⟩

/-- The slot that is found takes the resource, and all others stay. -/
theorem bind_of_named {i : Nat} (h : slotIndex? (l.slots set) binding element = some i)
    (r : Bindable) :
    ∃ slots x, l.sets[set]? = some slots ∧ slots[i]? = some x ∧
      (x.slot.binding = binding ∧ x.slot.element = element) ∧
      (∀ j < i, ∀ y, slots[j]? = some y →
        ¬ (y.slot.binding = binding ∧ y.slot.element = element)) ∧
      l.bind r set binding element =
        .ok { l with
          sets := l.sets.set set (slots.set i { x with bound := x.bound.put r }) } := by
  cases hslots : l.sets[set]? with
  | none =>
    rw [Layout.slots, hslots] at h
    cases h
  | some slots =>
    have hindex : slotIndex? (slots.map (·.slot)) binding element = some i := by
      rwa [Layout.slots, hslots, Option.getD_some] at h
    obtain ⟨hi, hfound, hfirst⟩ := slotIndex?_eq_some_iff.1 hindex
    simp only [List.length_map] at hi
    simp only [List.getElem_map] at hfound hfirst
    refine ⟨slots, slots[i], rfl, List.getElem?_eq_getElem hi, hfound, fun j hj y hy => ?_, ?_⟩
    · obtain ⟨_, rfl⟩ := List.getElem?_eq_some_iff.1 hy
      exact hfirst j hj
    · have hmodify : slots.modify i (fun x => { x with bound := x.bound.put r }) =
          slots.set i { slots[i] with bound := slots[i].bound.put r } := by
        rw [List.modify_eq_set_getElem?, List.getElem?_eq_getElem hi]
        rfl
      simp only [bind, hslots, bindInSet_eq, hindex, Option.map_some, hmodify]

end Layout

theorem Store.bindSlot_of_ok {s : Store} {id : ResourceId} {r : Bindable}
    {set binding element : Nat} {l : Layout}
    (h : (s.layouts.get id).bind r set binding element = .ok l) :
    s.bindSlot id r set binding element = (.ok (), s.setLayout id l) := by
  rw [bindSlot, h]

theorem Store.bindSlot_of_error {s : Store} {id : ResourceId} {r : Bindable}
    {set binding element : Nat} {e : DeviceError}
    (h : (s.layouts.get id).bind r set binding element = .error e) :
    s.bindSlot id r set binding element = (.error e, s) := by
  rw [bindSlot, h]

end Resource

/-! ## 3. Any layout -/

/-- The slots of a layout that was made for a shader are named as the shader declares them. -/
theorem HoldsLast.named_iff {shader : Shader} {id : ResourceId} {history : List Turn} {s : Store}
    (h : HoldsLast shader id history s) (set binding element : Nat) :
    (∃ slot ∈ (s.layouts.get id).slots set, slot.binding = binding ∧ slot.element = element) ↔
      ∃ declared, shader.sets[set]? = some declared ∧
        ∃ b ∈ declared.bindings, b.binding = binding ∧ element < b.count := by
  rw [h.slots, Shader.slots]
  cases hdeclared : shader.sets[set]? with
  | none => simp
  | some declared => simpa using declared.enumerates.named binding element

namespace Session

variable {σ : Type} [Driver σ]

/-- The slots of every set enumerate its bindings.  A layout is made for a shader in any session.
After any history, a resource of any kind can be bound in it exactly to the declared elements: it
takes its place in the first slot with that binding and element, and nothing else changes.
Everything else is refused, and then nothing changes at all. -/
theorem slots_are_found_as_declared (s : Session σ) (shader : Shader) (history : List Turn) :
    let id : ResourceId := ⟨s.store.next⟩
    let now := (s.step (.change (.addLayout shader))).session.turns history
    let l := now.store.layouts.get id
    (∀ declared : SetLayout, Enumerates declared.bindings declared.slots) ∧
      (∀ set, l.slots set = shader.slots set) ∧
      ∀ r set binding element,
        let bound := now.step (.change (.bind id r set binding element))
        (bound.answer = .done ↔ ∃ declared, shader.sets[set]? = some declared ∧
          ∃ b ∈ declared.bindings, b.binding = binding ∧ element < b.count) ∧
        (bound.answer = .done → ∃ slots i x, l.sets[set]? = some slots ∧ slots[i]? = some x ∧
          (x.slot.binding = binding ∧ x.slot.element = element) ∧
          (∀ j < i, ∀ y, slots[j]? = some y →
            ¬ (y.slot.binding = binding ∧ y.slot.element = element)) ∧
          let resources : SlotBinding :=
            ⟨r.buffer?.or x.bound.buffer, r.texture?.or x.bound.texture,
              r.sampler?.or x.bound.sampler⟩
          bound.session = { now with
            store := now.store.setLayout id { l with
              sets := l.sets.set set (slots.set i { x with bound := resources }) } }) ∧
        (bound.answer ≠ .done → bound.session = now) := by
  intro id now l
  have holds : HoldsLast shader id history now.store := holdsLast_turns s shader history
  refine ⟨SetLayout.enumerates, holds.slots, fun r set binding element => ?_⟩
  intro bound
  rw [← holds.named_iff set binding element]
  cases hindex : slotIndex? (l.slots set) binding element with
  | none =>
    obtain ⟨e, hrefused⟩ := Layout.bind_of_unnamed hindex r
    -- No slot has the name, so it is not declared either.
    have hslot := Store.bindSlot_of_error hrefused
    have hanswer : bound.answer ≠ .done := by
      simp [bound, step, Store.apply, hslot, Answer.ofExcept]
    refine ⟨iff_of_false hanswer (slotIndex?_eq_none_iff.1 hindex), fun h => absurd h hanswer,
      fun _ => ?_⟩
    simp only [bound, step, Store.apply, hslot]
  | some i =>
    obtain ⟨slots, x, hslots, hx, hnamed, hfirst, hbind⟩ := Layout.bind_of_named hindex r
    have hslot := Store.bindSlot_of_ok hbind
    have hanswer : bound.answer = .done := by
      simp [bound, step, Store.apply, hslot, Answer.ofExcept]
    refine ⟨iff_of_true hanswer ?_, fun _ => ?_, fun h => absurd hanswer h⟩
    · by_contra hnone
      rw [slotIndex?_eq_none_iff.2 hnone] at hindex
      cases hindex
    · refine ⟨slots, i, x, hslots, hx, hnamed, hfirst, ?_⟩
      rw [← SlotBinding.put_eq]
      simp only [bound, step, Store.apply, hslot]

/-- An array of two, an array of none and a single binding. -/
def mixedSet : SetLayout :=
  ⟨⟨700⟩, [⟨3, .uniformBuffer, 2, 0⟩, ⟨5, .sampledImage, 0, 0⟩, ⟨7, .storageBuffer, 1, 0⟩]⟩

/-- No slot has the name of another, the second element of the array is found, and the array of none
has nothing to find. -/
theorem mixedSet_slots_are_found :
    let shader : Shader := ⟨⟨1⟩, "mixed", ⟨701⟩, [mixedSet], []⟩
    let now := ((start {} {}).step (.change (.addLayout shader))).session.turns
      [.act (.change (.bind ⟨1⟩ (.buffer ⟨2⟩) 0 3 1)), .refresh ⟨1⟩]
    (mixedSet.slots.map fun slot => (slot.binding, slot.element)).Nodup ∧
      mixedSet.slots[2]? = some ⟨7, 0, .storageBuffer⟩ ∧
      (now.step (.change (.bind ⟨1⟩ (.buffer ⟨3⟩) 0 3 1))).answer = .done ∧
      (now.step (.change (.bind ⟨1⟩ (.buffer ⟨3⟩) 0 5 0))).session = now := by
  intro shader now
  obtain ⟨henumerates, _, hbind⟩ := slots_are_found_as_declared (start {} {}) shader
    [.act (.change (.bind ⟨1⟩ (.buffer ⟨2⟩) 0 3 1)), .refresh ⟨1⟩]
  refine ⟨(henumerates mixedSet).distinct (by decide),
    (henumerates mixedSet).position 2 _ rfl 0 (by decide),
    (hbind (.buffer ⟨3⟩) 0 3 1).1.2 ⟨mixedSet, rfl, _, List.mem_cons_self, rfl, by decide⟩,
    (hbind (.buffer ⟨3⟩) 0 5 0).2.2 (by decide)⟩

end Session

end GpuRecorder
