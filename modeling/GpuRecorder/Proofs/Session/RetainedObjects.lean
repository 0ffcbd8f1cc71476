import GpuRecorder.Proofs.Session.Driving

/-!
# What stays of the objects of a store

A layout keeps its shape and an assembler its index buffer, whatever is changed in the store later
and whatever is recorded.
-/

namespace GpuRecorder

open Native Resource Recording

namespace Resource.Store

/-- Layouts keep their shape, assemblers their index buffer. -/
structure Retains (s s' : Store) : Prop extends Keeps s s' where
  index : ∀ id : ResourceId, id.number < s.next →
    (s'.assemblers.get id).index = (s.assemblers.get id).index

theorem Retains.refl (s : Store) : Retains s s := ⟨.refl s, fun _ _ => rfl⟩

theorem Retains.trans {s s' s'' : Store} (h : Retains s s') (h' : Retains s' s'') :
    Retains s s'' where
  toKeeps := h.toKeeps.trans h'.toKeeps
  index id hid := (h'.index id (Nat.lt_of_lt_of_le hid h.next_le)).trans (h.index id hid)

theorem Retains.of_assemblers_eq {s s' : Store} (hkeeps : Keeps s s')
    (h : s'.assemblers = s.assemblers) : Retains s s' :=
  ⟨hkeeps, fun _ _ => by rw [h]⟩

/-- An assembler may be changed in everything but its index buffer. -/
theorem retains_setAssembler (s : Store) (id : ResourceId) {a : Assembler}
    (ha : a.index = (s.assemblers.get id).index) :
    Retains s { s with assemblers := s.assemblers.set id a } := by
  refine ⟨.of_layouts_eq (Nat.le_refl _) rfl, fun other _ => ?_⟩
  by_cases hother : other = id
  · rw [hother, Table.get_set_self, ha]
  · rw [Table.get_set_of_ne _ hother]

theorem retains_modifyAssembler (s : Store) (id : ResourceId) {f : Assembler → Assembler}
    (hf : ∀ a, (f a).index = a.index) : Retains s (s.modifyAssembler id f) :=
  s.retains_setAssembler id (hf _)

theorem retains_addAssembler (s : Store) (a : Assembler) : Retains s (s.addAssembler a).2 := by
  refine ⟨.of_layouts_eq (Nat.le_succ _) rfl, fun id hid => ?_⟩
  have hne : id ≠ ⟨s.next⟩ := by
    rintro rfl
    exact Nat.lt_irrefl _ hid
  rw [addAssembler, fresh, Table.get_set_of_ne _ hne]

theorem retains_bindSlot (s : Store) (layout : ResourceId) (r : Bindable)
    (set binding element : Nat) : Retains s (s.bindSlot layout r set binding element).2 := by
  refine .of_assemblers_eq (s.keeps_bindSlot layout r set binding element) ?_
  unfold bindSlot
  split <;> rfl

theorem retains_refreshArrays (s : Store) (id : ResourceId) : Retains s (s.refreshArrays id).2 :=
  s.retains_setAssembler id rfl

theorem retains_apply (s : Store) (c : Change) : Retains s (s.apply c).2 := by
  cases c with
  | addAssembler a => exact s.retains_addAssembler a
  | addStream id buffer => exact s.retains_modifyAssembler id fun _ => rfl
  | setParameters id p => exact s.retains_modifyAssembler id fun _ => rfl
  | setVertexCount id count => exact s.retains_modifyAssembler id fun _ => rfl
  | setIndexCount id count => exact s.retains_modifyAssembler id fun _ => rfl
  | setInstanceCount id count => exact s.retains_modifyAssembler id fun _ => rfl
  | bind layout r set binding element => exact s.retains_bindSlot layout r set binding element
  | addLayout shader => exact .of_assemblers_eq (s.keeps_addLayout shader) rfl
  | _ => exact .of_assemblers_eq (.of_layouts_eq (s.next_le_next_apply _) rfl) rfl

end Resource.Store

namespace Recording.CommandBuffer

variable {σ : Type} [Driver σ]

theorem retains_perform (c : CommandBuffer) (d : Device σ) (s : Store) (op : Operation) :
    s.Retains (c.perform d s op).store := by
  cases op with
  | bindLayout id =>
    refine .of_assemblers_eq (c.keeps_perform d s (.bindLayout id)) ?_
    show (c.bindLayout d s id).store.assemblers = s.assemblers
    have hends := c.endsBinding d s id
    generalize c.bindLayout d s id = result at hends ⊢
    cases hends with
    | left why => rfl
    | resolved ready pipeline fresh fits done => rfl
  | bindAssembler id =>
    show s.Retains (c.bindAssembler s id).1
    unfold bindAssembler
    split
    · exact .refl s
    · split
      · exact .refl s
      · exact s.retains_refreshArrays id
  | _ => exact .refl s

end Recording.CommandBuffer

namespace Session

variable {σ : Type} [Driver σ]

theorem retains_step (s : Session σ) (a : Action) : s.store.Retains (s.step a).session.store := by
  have hperform (n : Nat) (op : Operation) : s.store.Retains (s.perform n op).session.store := by
    unfold perform
    split
    · exact .refl _
    · rename_i c found
      exact c.retains_perform s.device s.store op
  cases a with
  | change c => exact s.store.retains_apply c
  | perform n op => exact hperform n op
  | execute n children => exact hperform n _
  | _ => exact .refl _

end Session

end GpuRecorder
