import GpuRecorder.Proofs.Recording.Resolve
import GpuRecorder.Proofs.Resource.CurrentData
import Mathlib.Data.List.Basic

/-!
# What reaches a slot

The deliveries of a list of calls, read as the device would carry them out: what is pushed reaches
the slots of its set, and what is written into a native set reaches every set number that the
native set is bound at.  However a layout is resolved, the same deliveries come out.
-/

namespace GpuRecorder.Recording

open Native Resource Device

/-! ## 1. Reading calls -/

/-- A payload that reaches a slot of a set. -/
structure Delivery where
  set : Nat
  slot : Slot
  payload : Payload
  deriving DecidableEq, Repr

namespace Delivery

def place (x : Delivery) : Nat × Nat × Nat := (x.set, x.slot.binding, x.slot.element)

/-- The data of a whole set, of which each slot takes its own part. -/
def ofInfos (set : Nat) (slots : List Slot) (infos : List DescriptorInfo) : List Delivery :=
  (slots.zip infos).filterMap fun (slot, info) =>
    (Payload.select slot.type info).map (⟨set, slot, ·⟩)

end Delivery

/-- The native sets that a call binds for a pipeline, with the set numbers they are bound at. -/
def boundBy (buffer : Handle .commandBuffer) (p : Pipeline) :
    Call → List (Handle .descriptorSet × Nat)
  | .request (.record b (.bindDescriptorSets point layout first sets _)) =>
    if b = buffer ∧ point = p.point ∧ layout = p.shader.layout then sets.zipIdx first else []
  | _ => []

/-- The set numbers that a native set is bound at. -/
def boundAt (bound : List (Handle .descriptorSet × Nat)) (native : Handle .descriptorSet) :
    List Nat :=
  (bound.filter fun x => x.1 = native).map (·.2)

/-- What one call delivers for a pipeline.  Of a template the device expects that it is the one
of the set. -/
def deliveredBy (buffer : Handle .commandBuffer) (p : Pipeline)
    (bound : List (Handle .descriptorSet × Nat)) : Call → List Delivery
  | .request (.record b (.pushDescriptors template layout set infos)) =>
    if b = buffer ∧ layout = p.shader.layout ∧ p.shader.template? set = some template then
      Delivery.ofInfos set (p.shader.slots set) infos
    else []
  | .request (.updateSet native template infos) =>
    (boundAt bound native).flatMap fun set =>
      if p.shader.template? set = some template then
        Delivery.ofInfos set (p.shader.slots set) infos
      else []
  | .request (.writeDescriptors writes) =>
    writes.flatMap fun w =>
      (boundAt bound w.set).map fun set => ⟨set, ⟨w.binding, w.element, w.type⟩, w.payload⟩
  | _ => []

/-- What some calls deliver for a pipeline through one command buffer. -/
def deliveries (buffer : Handle .commandBuffer) (p : Pipeline) (calls : List Call) :
    List Delivery :=
  calls.flatMap (deliveredBy buffer p (calls.flatMap (boundBy buffer p)))

structure Idle (buffer : Handle .commandBuffer) (p : Pipeline) (c : Call) : Prop where
  binds : boundBy buffer p c = []
  delivers : ∀ bound, deliveredBy buffer p bound c = []

section

variable {buffer : Handle .commandBuffer} {p : Pipeline}

theorem deliveries_append_of_idle {calls more : List Call}
    (h : ∀ c ∈ calls, Idle buffer p c) :
    deliveries buffer p (calls ++ more) = deliveries buffer p more := by
  have hbound : calls.flatMap (boundBy buffer p) = [] :=
    List.flatMap_eq_nil_iff.2 fun c hc => (h c hc).binds
  have hdelivered (bound : List (Handle .descriptorSet × Nat)) :
      calls.flatMap (deliveredBy buffer p bound) = [] :=
    List.flatMap_eq_nil_iff.2 fun c hc => (h c hc).delivers bound
  rw [deliveries, List.flatMap_append, List.flatMap_append, hbound, hdelivered, List.nil_append,
    List.nil_append, deliveries]

theorem idle_of_madeByPools {c : Call} (h : madeByPools c) : Idle buffer p c := by
  cases c with
  | request r => cases h
  | _ => exact ⟨rfl, fun _ => rfl⟩

theorem idle_begin (b : Handle .commandBuffer) (args : RecordingBegin) :
    Idle buffer p (.begin b args) :=
  ⟨rfl, fun _ => rfl⟩

theorem idle_recorded {b : Handle .commandBuffer} {commands : List Command}
    (h : ∀ c ∈ commands, c.sort ≠ .descriptors) :
    ∀ c ∈ recordedCalls b commands, Idle buffer p c := by
  intro call hcall
  obtain ⟨c, hc, c', rfl, hsort⟩ := sort_of_mem_recordedCalls hcall
  have hother := h c hc
  rw [← hsort] at hother
  cases c' with
  | bindDescriptorSets point layout first sets offsets => exact absurd rfl hother
  | pushDescriptors template layout set infos => exact absurd rfl hother
  | _ => exact ⟨rfl, fun _ => rfl⟩

/-! ## 2. The ways of delivering -/

theorem deliveredBy_pushes (bound : List (Handle .descriptorSet × Nat)) (l : Layout)
    {sets : List Nat} (h : ∀ set ∈ sets, (p.shader.template? set).isSome) :
    (recordedCalls buffer (pushCommands p.shader l sets)).flatMap (deliveredBy buffer p bound) =
      sets.flatMap fun set => Delivery.ofInfos set (p.shader.slots set) (l.infos set) := by
  induction sets with
  | nil => rfl
  | cons set sets ih =>
    obtain ⟨t, ht⟩ := Option.isSome_iff_exists.1 (h set List.mem_cons_self)
    have hcommands : pushCommands p.shader l (set :: sets) =
        [.pushDescriptors t p.shader.layout set (l.infos set)] ++
          pushCommands p.shader l sets := by
      simp [pushCommands, ht]
    have hone : deliveredBy buffer p bound
        (.request (.record buffer (.pushDescriptors t p.shader.layout set (l.infos set)))) =
          Delivery.ofInfos set (p.shader.slots set) (l.infos set) := by
      rw [deliveredBy, if_pos ⟨rfl, rfl, ht⟩]
    rw [hcommands, recordedCalls_append, List.flatMap_append, List.flatMap_cons,
      ih fun other hother => h other (List.mem_cons_of_mem _ hother), ← hone]
    simp [recordedCalls, Request.entries]

/-- Writes one by one reach the slots that a template would reach. -/
theorem deliveredBy_ofSlots {bound : List (Handle .descriptorSet × Nat)}
    {native : Handle .descriptorSet} {set : Nat} (h : boundAt bound native = [set])
    (slots : List Slot) (infos : List DescriptorInfo) :
    ((DescriptorWrite.ofSlots native slots infos).flatMap fun w =>
      (boundAt bound w.set).map fun set =>
        (⟨set, ⟨w.binding, w.element, w.type⟩, w.payload⟩ : Delivery)) =
      Delivery.ofInfos set slots infos := by
  unfold DescriptorWrite.ofSlots Delivery.ofInfos
  induction slots.zip infos with
  | nil => rfl
  | cons x rest ih =>
    obtain ⟨slot, info⟩ := x
    cases hselect : Payload.select slot.type info with
    | none => simpa [hselect] using ih
    | some payload => simpa [hselect, h] using ih

/-- A native set that is bound in one place delivers there, with a template or without. -/
theorem deliveredBy_writeSet (useTemplates : Bool) (l : Layout)
    {bound : List (Handle .descriptorSet × Nat)} {native : Handle .descriptorSet} {set : Nat}
    (h : boundAt bound native = [set]) :
    (writeSet useTemplates p.shader l native set).calls.flatMap (deliveredBy buffer p bound) =
      Delivery.ofInfos set (p.shader.slots set) (l.infos set) := by
  have hwrites := deliveredBy_ofSlots h (p.shader.slots set) (l.infos set)
  unfold writeSet
  split
  · rename_i t ht
    have htemplate : p.shader.template? set = some t := (Option.filter_eq_some_iff.1 ht).1
    simp [Script.calls, Request.entries, deliveredBy, h, htemplate]
  · simp only
    split
    · rename_i hempty
      rw [List.isEmpty_iff.1 hempty] at hwrites
      exact hwrites
    · simpa [Script.calls, Request.entries, deliveredBy] using hwrites

theorem deliveredBy_writes (useTemplates : Bool) (l : Layout)
    {bound written : List (Handle .descriptorSet × Nat)}
    (h : ∀ x ∈ written, boundAt bound x.1 = [x.2]) :
    (Script.calls (written.map fun (native, set) =>
      writeSet useTemplates p.shader l native set).flatten).flatMap (deliveredBy buffer p bound) =
        written.flatMap fun x => Delivery.ofInfos x.2 (p.shader.slots x.2) (l.infos x.2) := by
  induction written with
  | nil => rfl
  | cons x rest ih =>
    rw [List.map_cons, List.flatten_cons, Script.calls_append, List.flatMap_append,
      List.flatMap_cons, ih fun other hother => h other (List.mem_cons_of_mem _ hother),
      deliveredBy_writeSet useTemplates l (h x List.mem_cons_self)]

theorem filter_key_eq_singleton {α κ : Type} [DecidableEq κ] {key : α → κ} {xs : List α}
    (h : (xs.map key).Nodup) {a : α} (ha : a ∈ xs) :
    (xs.filter fun x => key x = key a) = [a] := by
  -- The element is the first one or among the rest, and the two differ in their keys.
  induction xs with
  | nil => cases ha
  | cons x xs ih =>
    rw [List.map_cons, List.nodup_cons] at h
    obtain ⟨hx, hxs⟩ := h
    rcases List.mem_cons.1 ha with rfl | ha
    · have hnone : (xs.filter fun x => key x = key a) = [] := by
        rw [List.filter_eq_nil_iff]
        intro x' hx'
        have hne : key x' ≠ key a := fun heq => hx (heq ▸ List.mem_map_of_mem hx')
        simpa using hne
      rw [List.filter_cons_of_pos (by simp), hnone]
    · have hne : key x ≠ key a := fun heq => hx (heq ▸ List.mem_map_of_mem ha)
      rw [List.filter_cons_of_neg (by simpa using hne), ih hxs ha]

/-- Different native sets, written one after the other and bound together, deliver set by set. -/
theorem deliveries_written (useTemplates : Bool) (l : Layout)
    {natives : List (Handle .descriptorSet)} (hnodup : natives.Nodup) :
    deliveries buffer p ((writeSets useTemplates p.shader l natives).calls ++
        recordedCalls buffer [.bindDescriptorSets p.point p.shader.layout 0 natives []]) =
      (List.range natives.length).flatMap fun set =>
        Delivery.ofInfos set (p.shader.slots set) (l.infos set) := by
  -- Only the last call binds sets, each native set in its own place.
  have hwritten : (writeSets useTemplates p.shader l natives).calls.flatMap
      (boundBy buffer p) = [] := by
    rw [List.flatMap_eq_nil_iff]
    intro c hc
    have htarget := confined_writeSets useTemplates p.shader l natives c hc
    cases c with
    | request r =>
      cases r with
      | record b command => rcases htarget with h | h <;> cases h
      | _ => rfl
    | _ => rfl
  have hbound : (recordedCalls buffer
      [.bindDescriptorSets p.point p.shader.layout 0 natives []]).flatMap (boundBy buffer p) =
        natives.zipIdx := by
    simp [recordedCalls, Request.entries, boundBy]
  have hplace : ∀ x ∈ natives.zipIdx, boundAt natives.zipIdx x.1 = [x.2] := by
    intro x hx
    have hkeys : (natives.zipIdx.map (·.1)).Nodup := by rwa [List.zipIdx_map_fst]
    rw [boundAt, filter_key_eq_singleton hkeys hx, List.map_singleton]
  have hnumbers : List.range natives.length = natives.zipIdx.map (·.2) := by
    rw [List.zipIdx_map_snd, List.range_eq_range']
  rw [deliveries, List.flatMap_append, List.flatMap_append, hwritten, hbound, List.nil_append]
  have hbinding : (recordedCalls buffer
      [.bindDescriptorSets p.point p.shader.layout 0 natives []]).flatMap
        (deliveredBy buffer p natives.zipIdx) = [] := rfl
  rw [hbinding, List.append_nil, hnumbers, List.flatMap_map]
  exact deliveredBy_writes useTemplates l hplace

end

/-! ## 3. What is due -/

/-- What the slots of a set are to get, as the bound resources are now. -/
def due (s : Store) (l : Layout) (set : Nat) : List Delivery :=
  (l.sets[set]?.getD []).filterMap fun x =>
    (s.currentPayload? x.slot x.bound).map (⟨set, x.slot, ·⟩)

def dueToAll (s : Store) (l : Layout) : List Delivery := (List.range l.setCount).flatMap (due s l)

/-- The data of a refreshed layout is what is due. -/
theorem ofInfos_refreshed (s : Store) {l : Layout} (h : l.Sound) (set : Nat) :
    Delivery.ofInfos set (l.slots set) ((s.refreshed l).infos set) = due s l set := by
  have hinfos : (s.refreshed l).infos set =
      (l.sets[set]?.getD []).map (Layout.refreshInfo s.buffers s.textures) := by
    rw [Store.refreshed, Layout.refresh, Layout.infos, List.getElem?_map]
    cases l.sets[set]? with
    | none => rfl
    | some xs => simp
  have huntouched : ∀ x ∈ l.sets[set]?.getD [], x.Untouched := by
    intro x hx
    cases hset : l.sets[set]? with
    | none =>
      rw [hset] at hx
      cases hx
    | some xs =>
      rw [hset] at hx
      exact h.untouched xs (List.mem_of_getElem? hset) x hx
  rw [Delivery.ofInfos, Layout.slots, hinfos, List.zip_map', List.filterMap_map, due]
  apply List.filterMap_congr
  intro x hx
  simp only [Function.comp_apply, select_refreshInfo s (huntouched x hx)]

/-- A shader whose slots can all be delivered on every tier: it has one template per set, the
bindings of a set have different numbers, and every slot has a type that can be written. -/
structure Deliverable (s : Shader) : Prop where
  templates : s.templates.length = s.sets.length
  bindings : ∀ set ∈ s.sets, (set.bindings.map (·.binding)).Nodup
  types : ∀ set ∈ s.sets, ∀ slot ∈ set.slots, slot.type.class?.isSome

/-- Resolving a refreshed layout delivers what is due to it, if sets are granted. -/
theorem deliveries_of_resolves {s : Store} {l : Layout} (hsound : l.Sound) {d : Device Trace}
    {buffer : Handle .commandBuffer} {p : Pipeline}
    (hshape : l.shape = p.shader.sets.map SetLayout.slots)
    (htemplates : p.shader.templates.length = p.shader.sets.length)
    (hgranted : ∃ first,
      (d.allocateSets (p.shader.nativeLayouts p.shader.sets.length)).answer =
        .ok (Handle.freshList first p.shader.sets.length))
    {answer : Except Failure Unit} {after : Layout} {script : Script}
    (h : Resolves d buffer p (s.refreshed l) answer after script) :
    answer = .ok () ∧ deliveries buffer p script.calls = dueToAll s l := by
  -- Layout and shader have the same sets, so all of them are shared.
  have hcount : l.setCount = p.shader.sets.length := by
    rw [Layout.setCount_eq_length_shape, hshape, List.length_map]
  have hshared : sharedSets (s.refreshed l) p.shader = l.setCount := by
    rw [sharedSets, Store.refreshed, Layout.setCount_refresh, hcount, Nat.min_self]
  have hslots (set : Nat) : p.shader.slots set = l.slots set := by
    rw [Layout.slots_eq_shape, hshape, List.getElem?_map, Shader.slots]
  have hdue (set : Nat) : Delivery.ofInfos set (p.shader.slots set) ((s.refreshed l).infos set) =
      due s l set := by
    rw [hslots, ofInfos_refreshed s hsound]
  cases h with
  | nothing hzero =>
    rw [hshared] at hzero
    rw [dueToAll, hzero]
    exact ⟨rfl, rfl⟩
  | pushed hpos hpush =>
    refine ⟨rfl, ?_⟩
    -- With a template for every set none of them is left out.
    have htemplate : ∀ set ∈ List.range l.setCount, (p.shader.template? set).isSome := by
      intro set hset
      rw [List.mem_range, hcount, ← htemplates] at hset
      rw [Shader.template?, List.getElem?_eq_getElem hset]
      rfl
    rw [hshared, calls_pushes, deliveries, deliveredBy_pushes _ _ htemplate]
    exact List.flatMap_congr fun set _ => hdue set
  | refused hpos hpush hsets =>
    -- The sets were granted.
    obtain ⟨first, hfirst⟩ := hgranted
    rw [hshared, hcount, hfirst] at hsets
    cases hsets
  | @written sets natives hpos hpush hsets hnatives =>
    refine ⟨rfl, ?_⟩
    obtain ⟨first, hfirst⟩ := hgranted
    rw [hshared, hcount, hfirst] at hsets
    cases hsets
    -- Every set of the layout gets its own fresh native set.
    have hrefreshed : (s.refreshed l).Sound := hsound.refresh _ _
    have hfresh : natives = Handle.freshList first p.shader.sets.length :=
      natives_eq hrefreshed (by rw [Handle.length_freshList, hshared, hcount]) hnatives
    have hlength : natives.length = l.setCount := by
      rw [hfresh, Handle.length_freshList, hcount]
    have hnodup : natives.Nodup := by
      rw [hfresh]
      exact Handle.nodup_freshList _ _
    rw [Script.calls_append, Script.calls_record, deliveries_written _ _ hnodup, hlength]
    exact List.flatMap_congr fun set _ => hdue set

/-! ## 4. Every slot once -/

theorem mem_dueToAll {s : Store} {l : Layout} {set : Nat} {slots : List BoundSlot}
    (hset : l.sets[set]? = some slots) {x : BoundSlot} (hx : x ∈ slots) {payload : Payload}
    (hpayload : s.currentPayload? x.slot x.bound = some payload) :
    ⟨set, x.slot, payload⟩ ∈ dueToAll s l := by
  have hlt : set < l.setCount := (List.getElem?_eq_some_iff.1 hset).1
  refine List.mem_flatMap.2 ⟨set, List.mem_range.2 hlt, List.mem_filterMap.2 ⟨x, ?_, ?_⟩⟩
  · rw [hset]
    exact hx
  · rw [hpayload, Option.map_some]

/-- If all of its slots can be delivered, what is due to a set goes to its slots in order. -/
theorem map_place_due (s : Store) (l : Layout) {set : Nat}
    (h : ∀ slot ∈ l.slots set, slot.type.class?.isSome) :
    (due s l set).map Delivery.place =
      (l.slots set).map fun slot => (set, slot.binding, slot.element) := by
  unfold due Layout.slots at *
  generalize l.sets[set]?.getD [] = xs at h ⊢
  induction xs with
  | nil => rfl
  | cons x xs ih =>
    obtain ⟨sort, hsort⟩ := Option.isSome_iff_exists.1 (h x.slot (by simp))
    have hxs := ih fun slot hslot => h slot (List.mem_cons_of_mem _ hslot)
    rw [List.filterMap_cons, Store.currentPayload?, hsort, Option.map_some, Option.map_some]
    simp only [List.map_cons, hxs, Delivery.place]

section

variable {l : Layout} {shader : Shader}

theorem slots_declared (hshape : l.shape = shader.sets.map SetLayout.slots) {set : Nat}
    {slot : Slot} (hslot : slot ∈ l.slots set) :
    ∃ declared ∈ shader.sets, l.slots set = declared.slots := by
  rw [Layout.slots_eq_shape, hshape, List.getElem?_map] at hslot ⊢
  cases hdeclared : shader.sets[set]? with
  | none =>
    rw [hdeclared] at hslot
    cases hslot
  | some declared => exact ⟨declared, List.mem_of_getElem? hdeclared, rfl⟩

theorem types_declared (h : Deliverable shader) (hshape : l.shape = shader.sets.map SetLayout.slots)
    (set : Nat) : ∀ slot ∈ l.slots set, slot.type.class?.isSome := by
  intro slot hslot
  obtain ⟨declared, hmem, heq⟩ := slots_declared hshape hslot
  exact h.types declared hmem slot (heq ▸ hslot)

theorem nodup_place_dueToAll (s : Store) (h : Deliverable shader)
    (hshape : l.shape = shader.sets.map SetLayout.slots) :
    ((dueToAll s l).map Delivery.place).Nodup := by
  have hplaces (set : Nat) := map_place_due s l (types_declared h hshape set)
  rw [dueToAll, List.map_flatMap, List.nodup_flatMap]
  refine ⟨fun set _ => ?_, List.nodup_range.imp fun {set set'} hne => ?_⟩
  · rw [hplaces]
    cases hslots : l.slots set with
    | nil => exact List.nodup_nil
    | cons slot rest =>
      have hslot : slot ∈ l.slots set := by
        rw [hslots]
        exact List.mem_cons_self
      obtain ⟨declared, hmem, heq⟩ := slots_declared hshape hslot
      have hpair : (fun slot : Slot => (set, slot.binding, slot.element)) =
          Prod.mk set ∘ fun slot => (slot.binding, slot.element) := rfl
      rw [← hslots, heq, hpair, ← List.map_map]
      apply (SetLayout.nodup_places (h.bindings declared hmem)).map
      exact fun _ _ hsame => (Prod.mk.inj hsame).2
  · -- Different sets have different numbers.
    simp only [Function.onFun, hplaces]
    rintro place hplace hplace'
    obtain ⟨slot, _, rfl⟩ := List.mem_map.1 hplace
    obtain ⟨slot', _, hsame⟩ := List.mem_map.1 hplace'
    exact hne (Prod.mk.inj hsame).1.symm

/-- Each slot of a layout made for a shader is due its current payload, once. -/
theorem dueToAll_once (s : Store) (h : Deliverable shader)
    (hshape : l.shape = shader.sets.map SetLayout.slots) {set : Nat} {slots : List BoundSlot}
    (hset : l.sets[set]? = some slots) {x : BoundSlot} (hx : x ∈ slots) :
    ∃ payload, s.currentPayload? x.slot x.bound = some payload ∧
      (dueToAll s l).filter (fun y => y.place = (set, x.slot.binding, x.slot.element)) =
        [⟨set, x.slot, payload⟩] := by
  have hclass : (s.currentPayload? x.slot x.bound).isSome := by
    rw [Store.currentPayload?, Option.isSome_map]
    apply types_declared h hshape set
    rw [Layout.slots, hset]
    exact List.mem_map_of_mem hx
  obtain ⟨payload, hpayload⟩ := Option.isSome_iff_exists.1 hclass
  have hmem := mem_dueToAll hset hx hpayload
  exact ⟨payload, hpayload, filter_key_eq_singleton (nodup_place_dueToAll s h hshape) hmem⟩

end

end GpuRecorder.Recording
