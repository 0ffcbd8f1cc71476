import GpuRecorder.Proofs.Device.Driving

/-!
# Descriptor pools on a trace

A trace never refuses to make a pool, so the cursor of the descriptor pools always stands at one,
and every pool of a device is one that its trace knows with the device's capacity.  Unless a
failure was asked for, a request that fits into a pool is therefore always granted.
-/

namespace GpuRecorder.Native.Trace

open Draw

/-! ## 1. What a trace knows -/

/-- A pool was made for so many sets. -/
def Knows (t : Trace) (pool : Handle .descriptorPool) (maxSets : Nat) : Prop :=
  ∃ u, PoolUsage.find? t.pools pool = some u ∧ u.maxSets = maxSets

/-- The next handle is that of no pool. -/
def Fresh (t : Trace) : Prop := ∀ u ∈ t.pools, u.pool.number < t.next

structure KeepsPools (t t' : Trace) : Prop where
  next_le : t.next ≤ t'.next
  fresh : t.Fresh → t'.Fresh
  knows : ∀ pool maxSets, t.Knows pool maxSets → t'.Knows pool maxSets

theorem KeepsPools.refl (t : Trace) : KeepsPools t t :=
  ⟨Nat.le_refl _, id, fun _ _ => id⟩

theorem KeepsPools.trans {t t' t'' : Trace} (h : KeepsPools t t') (h' : KeepsPools t' t'') :
    KeepsPools t t'' where
  next_le := Nat.le_trans h.next_le h'.next_le
  fresh := h'.fresh ∘ h.fresh
  knows := fun pool maxSets hk => h'.knows pool maxSets (h.knows pool maxSets hk)

theorem KeepsPools.of_pools_eq {t t' : Trace} (hpools : t'.pools = t.pools)
    (hnext : t.next ≤ t'.next) : KeepsPools t t' where
  next_le := hnext
  fresh := by
    intro h u hu
    rw [hpools] at hu
    exact Nat.lt_of_lt_of_le (h u hu) hnext
  knows := by
    rintro pool maxSets ⟨u, hu, hmax⟩
    exact ⟨u, by rw [hpools, hu], hmax⟩

theorem find?_update (usages : List PoolUsage) (pool other : Handle .descriptorPool)
    (allocated : PoolUsage → Nat) :
    PoolUsage.find? (PoolUsage.update usages pool fun u => { u with allocated := allocated u })
        other =
      (PoolUsage.find? usages other).map fun u =>
        if u.pool = pool then { u with allocated := allocated u } else u := by
  have hpool (u : PoolUsage) :
      (if u.pool = pool then { u with allocated := allocated u } else u).pool = u.pool := by
    split <;> rfl
  rw [PoolUsage.find?, PoolUsage.update, List.find?_map, PoolUsage.find?]
  simp only [Function.comp_def, hpool]

theorem KeepsPools.of_update {t t' : Trace} {pool : Handle .descriptorPool}
    {allocated : PoolUsage → Nat}
    (hpools : t'.pools = PoolUsage.update t.pools pool fun u => { u with allocated := allocated u })
    (hnext : t.next ≤ t'.next) : KeepsPools t t' where
  next_le := hnext
  fresh := by
    intro h u hu
    rw [hpools, PoolUsage.update] at hu
    obtain ⟨old, hold, rfl⟩ := List.mem_map.1 hu
    refine Nat.lt_of_lt_of_le ?_ hnext
    split
    · exact h old hold
    · exact h old hold
  knows := by
    rintro other maxSets ⟨u, hu, hmax⟩
    refine ⟨_, by rw [hpools, find?_update, hu, Option.map_some], ?_⟩
    split
    · exact hmax
    · exact hmax

/-- A pool that is made is known to be empty, and the others are known as before. -/
theorem createDescriptorPool_spec (t : Trace) (maxSets : Nat) :
    KeepsPools t (t.createDescriptorPool maxSets).2 ∧
      (t.Fresh → PoolUsage.find? (t.createDescriptorPool maxSets).2.pools ⟨t.next⟩ =
        some ⟨⟨t.next⟩, maxSets, 0⟩) := by
  refine ⟨⟨Nat.le_succ _, fun h u hu => ?_, ?_⟩, fun h => ?_⟩
  · rcases List.mem_append.1 hu with hu | hu
    · exact Nat.lt_succ_of_lt (h u hu)
    · obtain rfl := List.mem_singleton.1 hu
      exact Nat.lt_succ_self _
  · rintro pool n ⟨u, hu, hmax⟩
    refine ⟨u, ?_, hmax⟩
    show List.find? _ (t.pools ++ _) = _
    rw [List.find?_append, show List.find? _ t.pools = some u from hu, Option.some_or]
  · show List.find? _ (t.pools ++ _) = _
    have hnone : List.find? (fun u => u.pool = ⟨t.next⟩) t.pools = none := by
      rw [List.find?_eq_none]
      intro u hu heq
      have hlt := h u hu
      rw [show u.pool = ⟨t.next⟩ by simpa using heq] at hlt
      exact Nat.lt_irrefl _ hlt
    rw [List.find?_append, hnone]
    simp

/-- So many sets of a pool are taken.  The number that is written down for it is right, unless the
pool was made for as many sets as a count can show. -/
def Holds (t : Trace) (pool : Handle .descriptorPool) (maxSets taken : Nat) : Prop :=
  ∃ shown, PoolUsage.find? t.pools pool = some ⟨pool, maxSets, shown⟩ ∧
    (maxSets < maxCount → shown = taken)

theorem Holds.mono {t t' : Trace} {pool : Handle .descriptorPool} {maxSets taken : Nat}
    (h : t.Holds pool maxSets taken) (hpools : t'.pools = t.pools) :
    t'.Holds pool maxSets taken := by
  rw [Holds, hpools]
  exact h

/-- Whether a pool is full is told rightly also where the number written down is not right. -/
theorem Holds.isFullFor_iff {t : Trace} {pool : Handle .descriptorPool} {maxSets taken : Nat}
    (h : t.Holds pool maxSets taken) (count : Nat) :
    ∃ u, PoolUsage.find? t.pools pool = some u ∧
      (u.isFullFor count ↔ maxSets < saturate (taken + count)) := by
  obtain ⟨shown, hfind, hexact⟩ := h
  refine ⟨_, hfind, ?_⟩
  by_cases hlt : maxSets < maxCount
  · rw [hexact hlt]
    exact Iff.rfl
  · have hlarge := Nat.le_of_not_lt hlt
    exact iff_of_false (PoolUsage.not_isFullFor_of_le hlarge count)
      (Nat.not_lt.2 (Nat.le_trans (saturate_le _) hlarge))

theorem Holds.reset {t t' : Trace} {pool reset : Handle .descriptorPool} {maxSets taken : Nat}
    (h : t.Holds pool maxSets taken)
    (hpools : t'.pools = PoolUsage.update t.pools reset fun u => { u with allocated := 0 }) :
    t'.Holds pool maxSets (if reset = pool then 0 else taken) := by
  obtain ⟨shown, hfind, hexact⟩ := h
  have hfind' := find?_update t.pools reset pool fun _ => 0
  rw [← hpools, hfind, Option.map_some] at hfind'
  by_cases hpool : reset = pool
  · rw [if_pos hpool.symm] at hfind'
    rw [if_pos hpool]
    exact ⟨0, hfind', fun _ => rfl⟩
  · rw [if_neg (Ne.symm hpool)] at hfind'
    rw [if_neg hpool]
    exact ⟨shown, hfind', hexact⟩

/-- A pool that is made is empty; the others are as full as they were. -/
theorem holds_createDescriptorPool {t : Trace} (hfresh : t.Fresh) (maxSets : Nat) :
    (t.createDescriptorPool maxSets).2.Holds ⟨t.next⟩ maxSets 0 ∧
      ∀ pool n taken, t.Holds pool n taken →
        (t.createDescriptorPool maxSets).2.Holds pool n taken := by
  refine ⟨⟨0, (t.createDescriptorPool_spec maxSets).2 hfresh, fun _ => rfl⟩, ?_⟩
  rintro pool n taken ⟨shown, hfind, hexact⟩
  refine ⟨shown, ?_, hexact⟩
  show List.find? _ (t.pools ++ _) = _
  rw [List.find?_append, show List.find? _ t.pools = some _ from hfind, Option.some_or]

/-- A pool that had the room gives sets away, and the others are as full as they were. -/
theorem Holds.give {t t' : Trace} {pool asked : Handle .descriptorPool} {maxSets taken count : Nat}
    (h : t.Holds pool maxSets taken)
    (hpools : t'.pools = PoolUsage.update t.pools asked (.give count))
    (hroom : asked = pool → maxSets < maxCount → taken + count ≤ maxSets) :
    t'.Holds pool maxSets (if asked = pool then taken + count else taken) := by
  obtain ⟨shown, hfind, hexact⟩ := h
  have hfind' : PoolUsage.find? t'.pools pool = _ :=
    hpools ▸ find?_update t.pools asked pool fun u => (u.give count).allocated
  rw [hfind, Option.map_some] at hfind'
  by_cases hpool : asked = pool
  · rw [if_pos hpool.symm] at hfind'
    rw [if_pos hpool]
    refine ⟨_, hfind', fun hlt => ?_⟩
    obtain rfl := hexact hlt
    have hle := Nat.le_trans (hroom hpool hlt) (Nat.le_of_lt hlt)
    exact congrArg PoolUsage.allocated (PoolUsage.give_of_le (u := ⟨pool, maxSets, shown⟩) hle)
  · rw [if_neg (Ne.symm hpool)] at hfind'
    rw [if_neg hpool]
    exact ⟨shown, hfind', hexact⟩

/-- Sets are granted, or refused without a trace: by a failure asked for, or for lack of room. -/
inductive Grants (t : Trace) (pool : Handle .descriptorPool) (count : Nat) :
    Except ResultCode (List (Handle .descriptorSet)) × Trace → Prop
  | granted {t' : Trace} (keeps : KeepsPools t t') :
    Grants t pool count (.ok (Handle.freshList t.next count), t')
  | refused {code : ResultCode} (why : t.setFailure = none → ∀ maxSets, t.Knows pool maxSets →
      code = .outOfPoolMemory ∧
        ∃ u, PoolUsage.find? t.pools pool = some u ∧ u.isFullFor count) :
    Grants t pool count (.error code, t)

theorem grants (t : Trace) (pool : Handle .descriptorPool) (layouts : List (Handle .setLayout)) :
    t.Grants pool layouts.length (t.allocateDescriptorSets pool layouts) := by
  unfold allocateDescriptorSets
  split
  · rename_i code hfailure
    refine .refused fun hnone => ?_
    rw [hfailure] at hnone
    cases hnone
  · rename_i hfind
    refine .refused fun _ maxSets hknows => ?_
    obtain ⟨u, hu, _⟩ := hknows
    rw [hfind] at hu
    cases hu
  · rename_i usage hfailure hfind
    split
    · rename_i hfull
      exact .refused fun _ _ _ => ⟨rfl, usage, hfind, hfull⟩
    · exact .granted (.of_update rfl (Nat.le_add_right _ _))

end GpuRecorder.Native.Trace

namespace GpuRecorder.Device

open Native

theorem poolCalls_keepsPools : PoolCalls Trace.KeepsPools where
  refl := .refl
  trans := .trans
  createCommandPool t family := .of_pools_eq rfl (Nat.le_succ _)
  allocateCommandBuffers t pool level count := by
    show Trace.KeepsPools t (t.allocateCommandBuffers pool level count).2
    unfold Trace.allocateCommandBuffers
    split
    · exact .refl t
    · exact .of_pools_eq rfl (Nat.le_add_right _ _)
  createDescriptorPool t maxSets _ := (t.createDescriptorPool_spec maxSets).1
  allocateDescriptorSets t pool layouts := by
    show Trace.KeepsPools t (t.allocateDescriptorSets pool layouts).2
    have hgrants := t.grants pool layouts
    generalize t.allocateDescriptorSets pool layouts = answer at hgrants ⊢
    cases hgrants with
    | granted keeps => exact keeps
    | refused why => exact .refl t
  resetDescriptorPool t pool := .of_update rfl (Nat.le_refl _)

/-! ## 2. The pools of a device -/

namespace DescriptorPools

/-- Pools hold `capacity` sets, the cursor stands at one if there is any, and the trace knows them. -/
structure Ready (capacity : Nat) (p : DescriptorPools) (t : Trace) : Prop where
  capacity : p.capacity = capacity
  cursor : p.pools ≠ [] → p.current < p.pools.length
  known : ∀ pool ∈ p.pools, t.Knows pool p.capacity
  fresh : t.Fresh

theorem Ready.mono {p : DescriptorPools} {t t' : Trace} {capacity : Nat} (h : p.Ready capacity t)
    (hkeeps : t.KeepsPools t') : p.Ready capacity t' where
  capacity := h.capacity
  cursor := h.cursor
  known := fun pool hpool => hkeeps.knows pool _ (h.known pool hpool)
  fresh := hkeeps.fresh h.fresh

theorem ready_addPool {p : DescriptorPools} {t : Trace}
    (hknown : ∀ pool ∈ p.pools, t.Knows pool p.capacity) (hfresh : t.Fresh) {current : Nat}
    (hcurrent : current ≤ p.pools.length) :
    Ready p.capacity { p with pools := p.pools ++ [⟨t.next⟩], current }
      (t.createDescriptorPool p.capacity).2 := by
  obtain ⟨hkeeps, hnew⟩ := t.createDescriptorPool_spec p.capacity
  refine ⟨rfl, fun _ => ?_, fun pool hpool => ?_, hkeeps.fresh hfresh⟩
  · show current < (p.pools ++ [(⟨t.next⟩ : Handle .descriptorPool)]).length
    rw [List.length_append]
    exact Nat.lt_succ_of_le hcurrent
  · rcases List.mem_append.1 hpool with hpool | hpool
    · exact hkeeps.knows pool _ (hknown pool hpool)
    · obtain rfl := List.mem_singleton.1 hpool
      exact ⟨_, hnew hfresh, rfl⟩

theorem addPool_trace (p : DescriptorPools) (t : Trace) :
    p.addPool t = (.ok { p with pools := p.pools ++ [⟨t.next⟩] },
      (t.createDescriptorPool p.capacity).2,
      [.debug s!"Created descriptor pool with room for {p.capacity} sets"]) := rfl

/-- What is left after a request: the pools are ready, and unless a failure was asked for the sets
are granted under fresh handles. -/
structure Granting (capacity : Nat) (t : Trace) (count : Nat) (a : Allocation Trace) : Prop where
  ready : a.pools.Ready capacity a.driver
  answer : t.setFailure = none → ∃ first, a.answer = .ok (Handle.freshList first count)

/-- Past the last pool an empty one is made, and it has room. -/
theorem granting_allocateGrowing {p : DescriptorPools} {t : Trace}
    {layouts : List (Handle .setLayout)} (hcursor : p.current = p.pools.length)
    (hknown : ∀ pool ∈ p.pools, t.Knows pool p.capacity) (hfresh : t.Fresh)
    (hfits : layouts.length ≤ p.capacity) :
    Granting p.capacity t layouts.length (p.allocateGrowing t layouts) := by
  -- The new pool is empty, so only a failure that was asked for can refuse it.
  have hnew := (t.createDescriptorPool_spec p.capacity).2 hfresh
  have hready := ready_addPool hknown hfresh (Nat.le_of_eq hcursor)
  have hgrants := (t.createDescriptorPool p.capacity).2.grants ⟨t.next⟩ layouts
  have hdriver : Driver.allocateDescriptorSets (t.createDescriptorPool p.capacity).2 ⟨t.next⟩
      layouts = (t.createDescriptorPool p.capacity).2.allocateDescriptorSets ⟨t.next⟩ layouts := rfl
  unfold allocateGrowing
  simp only [addPool_trace, List.getLast?_concat, hdriver]
  generalize (t.createDescriptorPool p.capacity).2.allocateDescriptorSets ⟨t.next⟩ layouts = answer
    at hgrants ⊢
  cases hgrants with
  | granted keeps => exact ⟨hready.mono keeps, fun _ => ⟨_, rfl⟩⟩
  | @refused code why =>
    have hfails : t.setFailure ≠ none := by
      intro hnone
      obtain ⟨_, u, hu, hfull⟩ := why hnone p.capacity ⟨_, hnew, rfl⟩
      rw [hnew] at hu
      cases hu
      refine PoolUsage.not_isFullFor_of_room ?_ hfull
      rwa [Nat.zero_add]
    simp only
    split <;> exact ⟨hready, fun hnone => absurd hnone hfails⟩

theorem granting_allocateFrom {p : DescriptorPools} {t : Trace}
    {layouts : List (Handle .setLayout)} {remaining : List (Handle .descriptorPool)}
    (hcursor : p.current + remaining.length = p.pools.length)
    (hremaining : ∀ pool ∈ remaining, pool ∈ p.pools)
    (hknown : ∀ pool ∈ p.pools, t.Knows pool p.capacity) (hfresh : t.Fresh)
    (hfits : layouts.length ≤ p.capacity) :
    Granting p.capacity t layouts.length (p.allocateFrom t layouts remaining) := by
  -- By the pools that are left to ask; the cursor stands at the first of them.
  induction remaining generalizing p with
  | nil => exact granting_allocateGrowing hcursor hknown hfresh hfits
  | cons pool rest ih =>
    rw [List.length_cons] at hcursor
    have hready : Ready p.capacity p t := ⟨rfl, fun _ => by omega, hknown, hfresh⟩
    have hgrants := t.grants pool layouts
    have hdriver : Driver.allocateDescriptorSets t pool layouts =
        t.allocateDescriptorSets pool layouts := rfl
    unfold allocateFrom
    rw [hdriver]
    generalize t.allocateDescriptorSets pool layouts = answer at hgrants ⊢
    cases hgrants with
    | granted keeps => exact ⟨hready.mono keeps, fun _ => ⟨_, rfl⟩⟩
    | @refused code why =>
      simp only
      split
      · -- The cursor moves on; which pools there are does not change.
        refine ih (p := { p with current := p.current + 1 }) ?_ ?_ hknown hfits
        · show p.current + 1 + rest.length = p.pools.length
          omega
        · exact fun other hother => hremaining other (List.mem_cons_of_mem _ hother)
      · -- A pool that is known refuses for lack of room only.
        rename_i hexhausted
        refine ⟨hready, fun hnone => ?_⟩
        obtain ⟨rfl, _⟩ := why hnone p.capacity (hknown pool (hremaining pool List.mem_cons_self))
        exact absurd rfl hexhausted

theorem granting_allocateCurrent {p : DescriptorPools} {t : Trace} {capacity : Nat}
    (h : p.Ready capacity t) (hne : p.pools ≠ []) {layouts : List (Handle .setLayout)}
    (hfits : layouts.length ≤ capacity) :
    Granting capacity t layouts.length (p.allocateCurrent t layouts) := by
  obtain rfl := h.capacity
  have hlt := h.cursor hne
  unfold allocateCurrent
  split
  · rename_i hdrop
    have hle := List.drop_eq_nil_iff.1 hdrop
    omega
  · apply granting_allocateFrom _ (fun pool hpool => List.mem_of_mem_drop hpool) h.known h.fresh
      hfits
    rw [List.length_drop]
    omega

/-- A request of any size leaves the pools ready, and one that fits is granted. -/
theorem granting_allocate {p : DescriptorPools} {t : Trace} {capacity : Nat}
    (h : p.Ready capacity t) (layouts : List (Handle .setLayout)) :
    (p.allocate t layouts).pools.Ready capacity (p.allocate t layouts).driver ∧
      (layouts.length ≤ capacity → t.setFailure = none →
        ∃ first, (p.allocate t layouts).answer = .ok (Handle.freshList first layouts.length)) := by
  obtain rfl := h.capacity
  unfold allocate
  split
  · rename_i hnil
    rw [hnil]
    exact ⟨h, fun _ _ => ⟨0, rfl⟩⟩
  · split
    · rename_i hlarge
      exact ⟨h, fun hfits => absurd hfits (Nat.not_le.2 hlarge)⟩
    · rename_i hlarge
      have hfits := Nat.le_of_not_lt hlarge
      split
      · have hgranting := granting_allocateCurrent
          (ready_addPool h.known h.fresh (Nat.zero_le _)) (by simp) hfits
        simp only [addPool_trace]
        exact ⟨hgranting.ready, fun _ => hgranting.answer⟩
      · rename_i hne
        have hgranting := granting_allocateCurrent h hne hfits
        exact ⟨hgranting.ready, fun _ => hgranting.answer⟩

theorem ready_reset {p : DescriptorPools} {t : Trace} {capacity : Nat} (h : p.Ready capacity t) :
    (p.reset t).2.1.Ready capacity (p.reset t).2.2 := by
  have hkeeps := poolCalls_keepsPools.resetEach p.pools t
  unfold reset
  split
  · rename_i heq
    rw [heq] at hkeeps
    exact h.mono hkeeps
  · rename_i heq
    rw [heq] at hkeeps
    refine ⟨h.capacity, fun hne => ?_, (h.mono hkeeps).known, hkeeps.fresh h.fresh⟩
    exact List.length_pos_iff.2 hne

end DescriptorPools

end GpuRecorder.Device
