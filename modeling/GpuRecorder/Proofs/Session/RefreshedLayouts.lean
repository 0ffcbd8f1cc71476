import GpuRecorder.Proofs.Session.RetainedObjects
import GpuRecorder.Proofs.Session.SideBySide
import Mathlib.Data.List.Induction

/-!
# Refreshed layouts

A refresh rewrites the data of a layout part by part.  Nothing in it is left of the past: the data
of a slot is told by its type, by what was bound to it last and by the present backings of that, and
each part that its type does not read or that nothing is bound for is null.
-/

namespace GpuRecorder

open Native Resource Recording

/-! ## 1. All data of a slot -/

namespace Resource

namespace Store

/-- The data of a slot, made from what is bound to it: the part that its type reads is as it is
now, and the others are null. -/
def currentInfo (s : Store) (slot : Slot) (bound : SlotBinding) : DescriptorInfo :=
  match slot.type.class? with
  | some .buffer => { buffer := s.currentRange bound.buffer }
  | some .texelBuffer => { texelView := s.currentTexels bound.buffer }
  | some .image => { image := s.currentImage bound.texture bound.sampler }
  | none => {}

theorem onlyFor_currentInfo (s : Store) (slot : Slot) (bound : SlotBinding) :
    OnlyFor slot.type (s.currentInfo slot bound) := by
  unfold currentInfo
  split <;> rename_i hclass <;> constructor <;> simp [hclass]

theorem select_currentInfo (s : Store) (slot : Slot) (bound : SlotBinding) :
    Payload.select slot.type (s.currentInfo slot bound) = s.currentPayload? slot bound := by
  unfold Payload.select currentInfo currentPayload?
  cases slot.type.class? with
  | none => rfl
  | some sort => cases sort <;> rfl

end Store

/-- Where no data is left over, refreshing makes the data anew. -/
theorem refreshInfo_eq_currentInfo (s : Store) {x : BoundSlot} (huntouched : x.Untouched)
    (honly : OnlyFor x.slot.type x.info) :
    Layout.refreshInfo s.buffers s.textures x = s.currentInfo x.slot x.bound := by
  refine OnlyFor.eq_of_select (honly.refreshed s.buffers s.textures)
    (s.onlyFor_currentInfo x.slot x.bound) ?_
  rw [select_refreshInfo s huntouched, s.select_currentInfo]

/-- What was taken from the backings is taken from them again. -/
theorem refresh_refresh (l : Layout) (buffers : Table Buffer) (textures : Table Texture) :
    (l.refresh buffers textures).refresh buffers textures = l.refresh buffers textures := by
  have hinfo (x : BoundSlot) :
      Layout.refreshInfo buffers textures { x with info := Layout.refreshInfo buffers textures x } =
        Layout.refreshInfo buffers textures x := by
    obtain ⟨slot, ⟨buffer, texture, sampler⟩, info⟩ := x
    unfold Layout.refreshInfo
    cases slot.type.class? with
    | none => rfl
    | some sort =>
      cases sort with
      | image => cases texture <;> cases sampler <;> rfl
      | _ => cases buffer <;> rfl
  simp only [Layout.refresh, List.map_map, Function.comp_def, hinfo]

/-! ## 2. What is bound to a slot -/

/-- The slot that a binding and an element name: the first one with both. -/
def slotIndex? (slots : List Slot) (binding element : Nat) : Option Nat :=
  slots.findIdx? fun slot => slot.binding = binding ∧ slot.element = element

namespace Layout

theorem bindInSet_eq (r : Bindable) (binding element : Nat) (slots : List BoundSlot) :
    bindInSet r binding element slots =
      (slotIndex? (slots.map (·.slot)) binding element).map fun i =>
        slots.modify i fun x => { x with bound := x.bound.put r } := by
  induction slots with
  | nil => rfl
  | cons x rest ih =>
    rw [bindInSet, slotIndex?, List.map_cons, List.findIdx?_cons]
    by_cases hplace : x.slot.binding = binding ∧ x.slot.element = element
    · simp [hplace]
    · simp only [hplace, if_false, decide_false, Bool.false_eq_true, ih, slotIndex?,
        Option.map_map]
      rfl

/-- A slot of a layout and what is bound to it. -/
def slotAt? (l : Layout) (set i : Nat) : Option (Slot × SlotBinding) :=
  (l.contents[set]?.getD [])[i]?

theorem slotAt?_eq (l : Layout) (set i : Nat) :
    l.slotAt? set i = (l.sets[set]?.getD [])[i]?.map fun x => (x.slot, x.bound) := by
  rw [slotAt?, contents, List.getElem?_map]
  cases l.sets[set]? with
  | none => rfl
  | some slots => exact List.getElem?_map

/-- A resource is bound to the slot that it is bound for, and to no other. -/
theorem slotAt?_bind {l l' : Layout} {r : Bindable} {set binding element : Nat}
    (h : l.bind r set binding element = .ok l') (other i : Nat) :
    l'.slotAt? other i = (l.slotAt? other i).map fun x =>
      if other = set ∧ slotIndex? (l.slots set) binding element = some i then (x.1, x.2.put r)
      else x := by
  unfold bind at h
  split at h
  · cases h
  · rename_i slots hslots
    rw [bindInSet_eq] at h
    have hsame : l.slots set = slots.map (·.slot) := by rw [Layout.slots, hslots]; rfl
    cases hindex : slotIndex? (slots.map (·.slot)) binding element with
    | none =>
      rw [hindex] at h
      cases h
    | some k =>
      rw [hindex] at h
      cases h
      rw [slotAt?_eq, slotAt?_eq, hsame, hindex]
      by_cases hother : other = set
      · have hlt : set < l.sets.length := (List.getElem?_eq_some_iff.1 hslots).1
        rw [hother, List.getElem?_set_self hlt, hslots, Option.getD_some, Option.getD_some,
          List.getElem?_modify, Option.map_eq_map, Option.map_map, Option.map_map]
        congr 1
        funext x
        by_cases hk : k = i <;> simp [hk]
      · rw [List.getElem?_set_ne (Ne.symm hother), Option.map_map]
        simp [hother, Function.comp_def]

theorem slotIndex?_of_refused {l : Layout} {r : Bindable} {set binding element : Nat}
    {e : DeviceError} (h : l.bind r set binding element = .error e) :
    slotIndex? (l.slots set) binding element = none := by
  unfold bind at h
  split at h
  · rename_i hnone
    rw [Layout.slots, hnone]
    rfl
  · rename_i slots hslots
    rw [bindInSet_eq] at h
    rw [Layout.slots, hslots, Option.getD_some]
    cases hindex : slotIndex? (slots.map (·.slot)) binding element with
    | none => rfl
    | some k =>
      rw [hindex] at h
      cases h

end Layout

def Bindable.buffer? : Bindable → Option ResourceId
  | .buffer id => some id
  | _ => none

def Bindable.texture? : Bindable → Option ResourceId
  | .texture id => some id
  | _ => none

def Bindable.sampler? : Bindable → Option Sampler
  | .sampler s => some s
  | _ => none

/-- The last resource of each kind. -/
def SlotBinding.ofLast (bound : List Bindable) : SlotBinding where
  buffer := (bound.filterMap Bindable.buffer?).getLast?
  texture := (bound.filterMap Bindable.texture?).getLast?
  sampler := (bound.filterMap Bindable.sampler?).getLast?

theorem SlotBinding.ofLast_concat (bound : List Bindable) (r : Bindable) :
    ofLast (bound ++ [r]) = (ofLast bound).put r := by
  cases r <;>
    simp [ofLast, put, List.filterMap_append, Bindable.buffer?, Bindable.texture?,
      Bindable.sampler?]

end Resource

/-! ## 3. One layout in a session -/

/-- Anything that can happen in a session, or that a layout is refreshed by itself. -/
inductive Turn where
  | act (a : Action)
  | refresh (layout : ResourceId)

/-- What is bound to one slot of a layout that was made for a shader. -/
def Turn.binds? (shader : Shader) (id : ResourceId) (set i : Nat) : Turn → Option Bindable
  | .act (.change (.bind layout r other binding element)) =>
    if layout = id ∧ set = other ∧ slotIndex? (shader.slots other) binding element = some i then
      some r
    else none
  | _ => none

/-- The resources that are bound to one slot of a layout, one after the other. -/
def boundTo (shader : Shader) (id : ResourceId) (set i : Nat) (turns : List Turn) :
    List Bindable :=
  turns.filterMap (Turn.binds? shader id set i)

namespace Session

variable {σ : Type} [Driver σ]

/-- The session after a turn. -/
def turn (s : Session σ) : Turn → Session σ
  | .act a => (s.step a).session
  | .refresh id =>
    { s with store := s.store.setLayout id (s.store.refreshed (s.store.layouts.get id)) }

def turns (s : Session σ) (history : List Turn) : Session σ := history.foldl turn s

@[simp] theorem turns_concat (s : Session σ) (history : List Turn) (t : Turn) :
    s.turns (history ++ [t]) = (s.turns history).turn t := by
  simp [turns]

end Session

/-- A layout that was made for a shader, after a history: each slot has the last resources that were
bound to it, and no data but what its type reads. -/
structure HoldsLast (shader : Shader) (id : ResourceId) (history : List Turn) (s : Store) :
    Prop where
  made : id.number < s.next
  settled : (s.layouts.get id).Settled
  entry : ∀ set i, (s.layouts.get id).slotAt? set i =
    (shader.slots set)[i]?.map fun slot =>
      (slot, SlotBinding.ofLast (boundTo shader id set i history))

namespace HoldsLast

variable {shader : Shader} {id : ResourceId} {history : List Turn} {s : Store}

theorem slots (h : HoldsLast shader id history s) (set : Nat) :
    (s.layouts.get id).slots set = shader.slots set := by
  refine List.ext_getElem? fun i => ?_
  have hentry := congrArg (Option.map Prod.fst) (h.entry set i)
  rw [Layout.slotAt?_eq, Option.map_map, Option.map_map] at hentry
  rw [Layout.slots, List.getElem?_map]
  exact hentry.trans Option.map_id'

/-- A turn that binds nothing to the layout leaves what is bound to its slots. -/
theorem unbound {s' : Store} {t : Turn} (h : HoldsLast shader id history s)
    (hnext : s.next ≤ s'.next) (hsettled : (s'.layouts.get id).Settled)
    (hcontents : (s'.layouts.get id).contents = (s.layouts.get id).contents)
    (hnone : ∀ set i, t.binds? shader id set i = none) :
    HoldsLast shader id (history ++ [t]) s' where
  made := Nat.lt_of_lt_of_le h.made hnext
  settled := hsettled
  entry := by
    intro set i
    have hsame : (s'.layouts.get id).slotAt? set i = (s.layouts.get id).slotAt? set i := by
      rw [Layout.slotAt?, hcontents, Layout.slotAt?]
    have hbound : boundTo shader id set i (history ++ [t]) = boundTo shader id set i history := by
      simp [boundTo, hnone set i]
    rw [hsame, hbound, h.entry]

theorem of_layout_eq {s' : Store} {t : Turn} (h : HoldsLast shader id history s)
    (hnext : s.next ≤ s'.next) (hsame : s'.layouts.get id = s.layouts.get id)
    (hnone : ∀ set i, t.binds? shader id set i = none) :
    HoldsLast shader id (history ++ [t]) s' :=
  h.unbound hnext (hsame ▸ h.settled) (congrArg Layout.contents hsame) hnone

/-- Binding to a slot of the layout, or trying to. -/
theorem bindSlot (h : HoldsLast shader id history s) (r : Bindable) (set binding element : Nat) :
    HoldsLast shader id (history ++ [.act (.change (.bind id r set binding element))])
      (s.bindSlot id r set binding element).2 := by
  unfold Store.bindSlot
  cases hbind : (s.layouts.get id).bind r set binding element with
  | error e =>
    -- No slot of the shader is named.
    have hnone := Layout.slotIndex?_of_refused hbind
    rw [h.slots set] at hnone
    exact h.of_layout_eq (Nat.le_refl _) rfl fun other i => by simp [Turn.binds?, hnone]
  | ok l =>
    have hlayout : (s.setLayout id l).layouts.get id = l := Table.get_set_self _ _ _
    refine ⟨h.made, ?_, fun other i => ?_⟩
    · show ((s.setLayout id l).layouts.get id).Settled
      rw [hlayout]
      exact h.settled.bind hbind
    · show ((s.setLayout id l).layouts.get id).slotAt? other i = _
      rw [hlayout, Layout.slotAt?_bind hbind, h.entry, h.slots set, Option.map_map]
      congr 1
      funext slot
      simp only [boundTo, List.filterMap_append, List.filterMap_cons, List.filterMap_nil,
        Turn.binds?, Function.comp_apply]
      by_cases hother : other = set
      · subst hother
        by_cases hindex : slotIndex? (shader.slots other) binding element = some i
        · simp [hindex, SlotBinding.ofLast_concat]
        · simp [hindex]
      · simp [hother]

theorem apply (h : HoldsLast shader id history s) (c : Change) :
    HoldsLast shader id (history ++ [.act (.change c)]) (s.apply c).2 := by
  have hnext := s.next_le_next_apply c
  cases c with
  | addLayout other =>
    have hne : id ≠ ⟨s.next⟩ := by
      rintro rfl
      exact Nat.lt_irrefl _ h.made
    exact h.of_layout_eq hnext (Table.get_set_of_ne _ hne _) fun _ _ => rfl
  | bind layout r set binding element =>
    by_cases hlayout : layout = id
    · subst hlayout
      exact h.bindSlot r set binding element
    · refine h.of_layout_eq hnext ?_ fun other i => by simp [Turn.binds?, hlayout]
      show ((s.bindSlot layout r set binding element).2.layouts.get id) = _
      unfold Store.bindSlot
      split
      · rfl
      · exact Table.get_set_of_ne _ (Ne.symm hlayout) _
  | _ => exact h.of_layout_eq hnext rfl fun _ _ => rfl

end HoldsLast

/-- Recording leaves what is bound to the slots of a layout. -/
theorem Recording.CommandBuffer.settled_perform {σ : Type} [Driver σ] (c : CommandBuffer)
    (d : Device σ) {s : Store} {id : ResourceId} (h : (s.layouts.get id).Settled)
    (op : Operation) :
    ((c.perform d s op).store.layouts.get id).Settled ∧
      ((c.perform d s op).store.layouts.get id).contents = (s.layouts.get id).contents := by
  cases op with
  | bindLayout other =>
    show ((c.bindLayout d s other).store.layouts.get id).Settled ∧
      ((c.bindLayout d s other).store.layouts.get id).contents = _
    have hends := c.endsBinding d s other
    generalize c.bindLayout d s other = result at hends ⊢
    cases hends with
    | left why => exact ⟨h, rfl⟩
    | @resolved b p r ready pipeline fresh fits done =>
      by_cases hid : id = other
      · subst hid
        obtain ⟨hsettled, hcontents⟩ := settled_resolveLayout d b p (h.refresh s.buffers s.textures)
        rw [show resolveLayout d b p ((s.layouts.get id).refresh s.buffers s.textures) = r from
          done.symm] at hsettled hcontents
        rw [Store.setLayout, Table.get_set_self]
        exact ⟨hsettled, hcontents.trans (Layout.contents_refresh _ _ _)⟩
      · rw [Store.setLayout, Table.get_set_of_ne _ hid]
        exact ⟨h, rfl⟩
  | bindAssembler other =>
    show ((c.bindAssembler s other).1.layouts.get id).Settled ∧
      ((c.bindAssembler s other).1.layouts.get id).contents = _
    unfold bindAssembler
    split
    · exact ⟨h, rfl⟩
    · split <;> exact ⟨h, rfl⟩
  | _ => exact ⟨h, rfl⟩

/-! ## 4. Any history -/

namespace Session

variable {σ : Type} [Driver σ] {shader : Shader} {id : ResourceId} {history : List Turn}

theorem holdsLast_turn {s : Session σ} (h : HoldsLast shader id history s.store) (t : Turn) :
    HoldsLast shader id (history ++ [t]) (s.turn t).store := by
  have hperform (n : Nat) (op : Operation) {t : Turn}
      (hnone : ∀ set i, t.binds? shader id set i = none) :
      HoldsLast shader id (history ++ [t]) (s.perform n op).session.store := by
    unfold perform
    split
    · exact h.of_layout_eq (Nat.le_refl _) rfl hnone
    · rename_i c _
      obtain ⟨hsettled, hcontents⟩ := c.settled_perform s.device h.settled op
      exact h.unbound (c.retains_perform s.device s.store op).next_le hsettled hcontents hnone
  cases t with
  | act a =>
    cases a with
    | change c => exact h.apply c
    | perform n op => exact hperform n op fun _ _ => rfl
    | execute n children => exact hperform n _ fun _ _ => rfl
    | _ => exact h.of_layout_eq (Nat.le_refl _) rfl fun _ _ => rfl
  | refresh other =>
    by_cases hother : id = other
    · subst hother
      refine h.unbound (Nat.le_refl _) ?_ ?_ fun _ _ => rfl
      · rw [turn, Store.setLayout, Table.get_set_self]
        exact h.settled.refresh _ _
      · rw [turn, Store.setLayout, Table.get_set_self]
        exact Layout.contents_refresh _ _ _
    · exact h.of_layout_eq (Nat.le_refl _) (Table.get_set_of_ne _ hother _) fun _ _ => rfl

/-- A new layout follows its history from its beginning on. -/
theorem holdsLast_turns (s : Session σ) (shader : Shader) (history : List Turn) :
    HoldsLast shader ⟨s.store.next⟩ history
      ((s.step (.change (.addLayout shader))).session.turns history).store := by
  -- By the last turn.
  induction history using List.reverseRecOn with
  | nil =>
    have hlayout : (s.step (.change (.addLayout shader))).session.store.layouts.get
        ⟨s.store.next⟩ = .ofShader shader := Table.get_set_self _ _ _
    refine ⟨Nat.lt_succ_self _, ?_, fun set i => ?_⟩
    · exact hlayout ▸ Layout.settled_ofShader shader
    · show ((s.step (.change (.addLayout shader))).session.store.layouts.get _).slotAt? set i = _
      rw [hlayout, Layout.slotAt?_eq, Layout.ofShader, List.getElem?_map, Shader.slots]
      cases shader.sets[set]? with
      | none => rfl
      | some declared => simp [Function.comp_def, boundTo, SlotBinding.ofLast]
  | append_singleton history t ih =>
    rw [turns_concat]
    exact holdsLast_turn ih t

end Session

theorem Resource.Store.infos_refreshed (s : Store) (l : Layout) (set : Nat) :
    (s.refreshed l).infos set =
      (l.sets[set]?.getD []).map (Layout.refreshInfo s.buffers s.textures) := by
  rw [refreshed, Layout.infos, Layout.refresh, List.getElem?_map]
  cases l.sets[set]? with
  | none => rfl
  | some slots => exact List.map_map

/-- Refreshed, it has the present data of its slots. -/
theorem HoldsLast.infos {shader : Shader} {id : ResourceId} {history : List Turn} {s : Store}
    (h : HoldsLast shader id history s) (set i : Nat) :
    ((s.refreshed (s.layouts.get id)).infos set)[i]? =
      (shader.slots set)[i]?.map fun slot =>
        s.currentInfo slot (.ofLast (boundTo shader id set i history)) := by
  have hentry := congrArg (Option.map fun x => s.currentInfo x.1 x.2) (h.entry set i)
  rw [Layout.slotAt?_eq, Option.map_map, Option.map_map] at hentry
  refine Eq.trans ?_ hentry
  rw [Store.infos_refreshed, List.getElem?_map]
  refine Option.map_congr fun x hx => ?_
  cases hset : (s.layouts.get id).sets[set]? with
  | none => simp [hset] at hx
  | some slots =>
    have hmem : x ∈ slots := by
      rw [hset] at hx
      exact List.mem_of_getElem? hx
    have hslots := List.mem_of_getElem? hset
    exact refreshInfo_eq_currentInfo s (h.settled.sound.untouched slots hslots x hmem)
      (h.settled.only slots hslots x hmem)

namespace Session

variable {σ : Type} [Driver σ]

theorem layout_refreshed (s : Session σ) (id : ResourceId) :
    (s.turn (.refresh id)).store.layouts.get id =
      s.store.refreshed (s.store.layouts.get id) :=
  Table.get_set_self _ _ _

theorem refresh_twice (s : Session σ) (id : ResourceId) :
    (s.turn (.refresh id)).turn (.refresh id) = s.turn (.refresh id) := by
  have hagain : (s.turn (.refresh id)).store.refreshed
      (s.store.refreshed (s.store.layouts.get id)) = s.store.refreshed (s.store.layouts.get id) :=
    refresh_refresh _ _ _
  rw [turn, layout_refreshed, hagain]
  simp only [turn, Store.setLayout, Table.set_set]

/-- A layout is made for a shader in any session.  After any history, in which resources are bound
to it and refused, resources and layouts change, and layouts are refreshed and delivered, it is
refreshed.  Then it has the slots of the shader; the data of each is told by its type, by the last
resources that were bound to it and by their present backings, and null where its type reads nothing
or nothing was bound; and another refresh changes nothing. -/
theorem refresh_forgets_past (s : Session σ) (shader : Shader) (history : List Turn) :
    let id : ResourceId := ⟨s.store.next⟩
    let now := ((s.step (.change (.addLayout shader))).session.turns history).turn (.refresh id)
    (∀ set, (now.store.layouts.get id).slots set = shader.slots set) ∧
      (∀ set i, ((now.store.layouts.get id).infos set)[i]? =
        (shader.slots set)[i]?.map fun slot =>
          now.store.currentInfo slot (.ofLast (boundTo shader id set i history))) ∧
      now.turn (.refresh id) = now := by
  intro id now
  have holds := holdsLast_turns s shader history
  let found := (s.step (.change (.addLayout shader))).session.turns history
  have hlayout : now.store.layouts.get id = found.store.refreshed (found.store.layouts.get id) :=
    found.layout_refreshed id
  refine ⟨fun set => ?_, fun set i => ?_, found.refresh_twice id⟩
  · rw [hlayout, Store.refreshed, Layout.slots_refresh]
    exact holds.slots set
  · rw [hlayout]
    exact holds.infos set i

end Session

end GpuRecorder
