import GpuRecorder.Proofs.Device.NextFit
import GpuRecorder.Proofs.Session.PoolInvariant
import Mathlib.Data.List.Basic

/-!
# Frames of descriptor sets

The requests between two resets of a session are packed next-fit into the pools of its device.
Where a request is served depends on the sizes of the requests since the reset alone, not on the
pools that earlier frames left behind, so a frame that is repeated finds every pool it needs.  A
pool for as many sets as a count can show is not left when it is full.
-/

namespace GpuRecorder

open Draw Native Resource Recording Device NextFit

namespace Session

/-- The pools that served requests between two moments, each with the layouts it served. -/
def grantsUntil (s s' : Session Trace) :
    List (Handle .descriptorPool × List (Handle .setLayout)) :=
  (s.device.driver.callsSince s'.device.driver).filterMap Call.grant?

/-- Allocate sets on the device, for one request after the other. -/
def allocateAll (s : Session Trace) (requests : List (List (Handle .setLayout))) : Session Trace :=
  s.through (requests.map .allocateSets)

def poolState (s : Session Trace) : PoolState Trace := ⟨s.device.descriptorPools, s.device.driver⟩

theorem poolState_allocateAll (s : Session Trace) (requests : List (List (Handle .setLayout))) :
    (s.allocateAll requests).poolState = s.poolState.run (requests.map .allocate) := by
  induction requests generalizing s with
  | nil => rfl
  | cons layouts requests ih => exact ih (s.after (.allocateSets layouts))

/-- The pools of the device hold nothing: there are none yet, or they have just been reset. -/
def IsRecycled (available : Capabilities) (settings : Settings) (events : List Event) : Prop :=
  ((start available settings).through events).device.descriptorPools.pools = [] ∨
    ∃ earlier, events = earlier ++ [.act .resetSets]

/-- A reset does not clear a failure that was asked for. -/
theorem failure_resetSets (s : Session Trace) :
    (s.after (.act .resetSets)).device.driver.setFailure = s.device.driver.setFailure := by
  show (s.device.descriptorPools.reset s.device.driver).2.2.setFailure = _
  rw [DescriptorPools.reset, DescriptorPools.resetEach_trace]
  exact Trace.failure_resetAll _ _

theorem packed_of_isRecycled {available : Capabilities} {settings : Settings}
    {events : List Event} (h : IsRecycled available settings events) :
    let s := (start available settings).through events
    s.device.driver.setFailure = none →
      s.device.descriptorPools.Packed s.device.descriptorPools.poolCount s.device.driver [] := by
  intro s hfailure
  rcases h with hnone | ⟨earlier, rfl⟩
  · exact DescriptorPools.packed_of_no_pools hfailure
      (poolsReady_through available settings events).fresh
      (ascending_through available settings events) hnone
  · have hs : s = ((start available settings).through earlier).after (.act .resetSets) :=
      through_concat _ _ _
    rw [hs, failure_resetSets] at hfailure
    rw [hs]
    exact DescriptorPools.packed_reset hfailure (poolsReady_through available settings earlier)
      (ascending_through available settings earlier)

/-- A frame of requests goes into bins: each request is granted from the pool whose number is that
of its bin, and there are as many pools as there were, or as many as there are bins. -/
def PacksInto (s : Session Trace) (fits : Nat → Bool)
    (requests : List (List (Handle .setLayout))) : Prop :=
  let sizes := requests.map List.length
  let s' := s.allocateAll requests
  let pools := s'.device.descriptorPools
  (s.grantsUntil s').map (fun g => (some g.1, g.2)) =
      ((placements fits sizes).map (pools.pools[·]?)).zip requests ∧
    pools.poolCount = max s.device.descriptorPools.poolCount (loads fits sizes).length

/-- A frame of requests from pools that hold nothing. -/
theorem packsInto_of_packed {s : Session Trace}
    (h : s.device.descriptorPools.Packed s.device.descriptorPools.poolCount s.device.driver [])
    {requests : List (List (Handle .setLayout))}
    (hrequests : ∀ layouts ∈ requests,
      1 ≤ layouts.length ∧ layouts.length ≤ s.device.descriptorPools.capacity) :
    s.PacksInto (withinCount s.device.descriptorPools.capacity) requests ∧
      s.device.descriptorPools.pools <+: (s.allocateAll requests).device.descriptorPools.pools ∧
      (s.allocateAll requests).device.driver.setFailure = none := by
  have hasked : ∀ layouts ∈ requests,
      layouts ≠ [] ∧ layouts.length ≤ s.device.descriptorPools.capacity := by
    intro layouts hlayouts
    obtain ⟨hpos, hfits⟩ := hrequests layouts hlayouts
    exact ⟨List.ne_nil_of_length_pos hpos, hfits⟩
  have hrun := PoolState.packed_run (s := s.poolState) h hasked
  rw [← poolState_allocateAll] at hrun
  obtain ⟨hpacked, hserves⟩ := hrun
  obtain ⟨calls, hlog, hgrants⟩ := hserves.log
  refine ⟨⟨?_, hpacked.poolCount⟩, hserves.pools, hpacked.failure⟩
  have hcalls : s.device.driver.callsSince (s.allocateAll requests).device.driver = calls :=
    Trace.callsSince_of_append hlog
  rw [grantsUntil, hcalls]
  exact hgrants

theorem eq_of_map_getElem? {α : Type} {pools : List α} (hnodup : pools.Nodup) {is js : List Nat}
    (h : is.map (pools[·]?) = js.map (pools[·]?)) (hsome : ∀ i ∈ is, (pools[i]?).isSome) :
    is = js := by
  induction is generalizing js with
  | nil => exact (List.map_eq_nil_iff.1 h.symm).symm
  | cons i is ih =>
    cases js with
    | nil => cases h
    | cons j js =>
      obtain ⟨hhead, htail⟩ := List.cons.inj h
      have hlt : i < pools.length := by simpa using hsome i List.mem_cons_self
      rw [(List.getElem?_inj hlt hnodup).1 hhead,
        ih htail fun k hk => hsome k (List.mem_cons_of_mem _ hk)]

/-- What goes into pools goes next-fit into bins of their size, unless the pools are for as many
sets as a count can show and the frame asks for more. -/
theorem packsInto_within_iff {s : Session Trace} {room : Nat}
    {requests : List (List (Handle .setLayout))} (hpacks : s.PacksInto (withinCount room) requests)
    (hnodup : (s.allocateAll requests).device.descriptorPools.pools.Nodup) (hroom : room ≤ maxCount)
    (hsizes : ∀ layouts ∈ requests, layouts.length ≤ room) :
    s.PacksInto (within room) requests ↔
      room < maxCount ∨ (requests.map List.length).sum ≤ maxCount := by
  have hsizes' : ∀ size ∈ requests.map List.length, size ≤ room := by
    intro size hsize
    obtain ⟨layouts, hlayouts, rfl⟩ := List.mem_map.1 hsize
    exact hsizes layouts hlayouts
  have hiff := placements_withinCount_eq_iff hroom hsizes'
  have hlength (fits : Nat → Bool) : ((placements fits (requests.map List.length)).map
      ((s.allocateAll requests).device.descriptorPools.pools[·]?)).length ≤ requests.length := by
    rw [List.length_map, placements, length_placementsFrom, List.length_map]
  constructor
  · rintro ⟨hgrants, -⟩
    rw [← hiff]
    -- Every request was granted from a pool, and no pool stands at two places.
    have hpools := congrArg (List.map Prod.fst) hpacks.1
    have hsame := congrArg (List.map Prod.fst) (hpacks.1.symm.trans hgrants)
    rw [List.map_fst_zip (hlength _)] at hpools hsame
    rw [List.map_fst_zip (hlength _)] at hsame
    refine eq_of_map_getElem? hnodup hsame fun i hi => ?_
    have hmem := List.mem_map_of_mem hi
      (f := ((s.allocateAll requests).device.descriptorPools.pools[·]?))
    rw [← hpools, List.map_map] at hmem
    obtain ⟨g, -, hg⟩ := List.mem_map.1 hmem
    rw [← hg]
    rfl
  · intro hfits
    simp only [PacksInto, hiff.2 hfits, loads_withinCount hroom hfits] at hpacks
    exact hpacks

/-- Over a trace that was not told to fail, the pools of a device are bins: from a new device or
after a reset, at any point of any run, each request that a pool can hold is granted from the pool
whose number is that of its bin, and there are as many pools as there were, or as many as there are
bins.  After the next reset the same requests are granted from the same pools, and no pool is made
for them.  The bins are at least half full on average.

They are next-fit bins of the size of a pool unless a pool is for as many sets as a count can show
and the requests of the frame come to more than that: such a pool is never full. -/
theorem pools_serve_next_fit (available : Capabilities) (settings : Settings)
    (events : List Event) (requests : List (List (Handle .setLayout))) :
    let s := (start available settings).through events
    let room := max 1 settings.descriptorPool.maxSetsPerPool.toNat
    let sizes := requests.map List.length
    let s' := s.allocateAll requests
    let again := s'.after (.act .resetSets)
    let pools := s'.device.descriptorPools
    IsRecycled available settings events → s.device.driver.setFailure = none →
      (∀ layouts ∈ requests, 1 ≤ layouts.length ∧ layouts.length ≤ room) →
        pools.pools.Nodup ∧ s.PacksInto (withinCount room) requests ∧
          (s.PacksInto (within room) requests ↔ room < maxCount ∨ sizes.sum ≤ maxCount) ∧
          again.grantsUntil (again.allocateAll requests) = s.grantsUntil s' ∧
          (again.allocateAll requests).device.descriptorPools.pools = pools.pools ∧
          ((loads (withinCount room) sizes).length - 1 : Int) * room < 2 * sizes.sum := by
  intro s room sizes s' again pools hrecycled hfailure hrequests
  have hs' : s' = (start available settings).through (events ++ requests.map .allocateSets) :=
    (through_append _ _ _).symm
  have hagain : again = (start available settings).through
      ((events ++ requests.map .allocateSets) ++ [.act .resetSets]) := by
    rw [through_concat, ← hs']
  -- The device keeps its capacity, so both frames are packed into bins of the same size.
  have hroom : s.device.descriptorPools.capacity = room :=
    (poolsReady_through available settings events).capacity
  have hroom' : again.device.descriptorPools.capacity = room := by
    rw [hagain]
    exact (poolsReady_through available settings _).capacity
  obtain ⟨hpacks, -, hfailure'⟩ :=
    packsInto_of_packed (packed_of_isRecycled hrecycled hfailure) (hroom ▸ hrequests)
  have hrecycled' : again.device.driver.setFailure = none →
      again.device.descriptorPools.Packed again.device.descriptorPools.poolCount
        again.device.driver [] := by
    rw [hagain]
    exact packed_of_isRecycled (Or.inr ⟨_, rfl⟩)
  obtain ⟨⟨hgrants', hcount'⟩, hpools', -⟩ := packsInto_of_packed
    (hrecycled' ((failure_resetSets s').trans hfailure')) (hroom'.symm ▸ hrequests)
  rw [hroom] at hpacks
  rw [hroom'] at hgrants' hcount'
  have hkept : again.device.descriptorPools.pools = pools.pools :=
    DescriptorPools.pools_reset _ _
  -- There are enough pools for the frame already, so the second one appends none.
  have hsame : (again.allocateAll requests).device.descriptorPools.pools = pools.pools := by
    rw [← hkept]
    refine (hpools'.eq_of_length ?_).symm
    show again.device.descriptorPools.poolCount = _
    have hagainCount : again.device.descriptorPools.poolCount = pools.poolCount :=
      congrArg List.length hkept
    show _ = (again.allocateAll requests).device.descriptorPools.poolCount
    rw [hcount', hagainCount]
    have hbins : (loads (withinCount room) sizes).length ≤ pools.poolCount :=
      hpacks.2 ▸ Nat.le_max_right _ _
    exact (Nat.max_eq_left hbins).symm
  have hnodup : pools.pools.Nodup := by
    have hascending := ascending_through available settings (events ++ requests.map .allocateSets)
    rw [← hs'] at hascending
    exact hascending.nodup
  refine ⟨hnodup, hpacks, packsInto_within_iff hpacks hnodup (capacity_le_maxCount settings)
    fun layouts hlayouts => (hrequests layouts hlayouts).2, ?_, hsame, ?_⟩
  · rw [hsame, ← hpacks.1] at hgrants'
    refine Function.Injective.list_map ?_ hgrants'
    intro g g' heq
    simpa [Prod.ext_iff] using heq
  · apply bins_lt
    · omega
    · exact fun load => lt_of_not_withinCount
    · intro size hsize
      obtain ⟨layouts, hlayouts, rfl⟩ := List.mem_map.1 hsize
      exact (hrequests layouts hlayouts).1

/-- Pools of four: after a frame with one request, three, two and one sets go into two pools. -/
theorem three_two_one_in_pools_of_four :
    let settings : Settings := { descriptorPool := { maxSetsPerPool := 4 } }
    let events : List Event := [.allocateSets [⟨1⟩], .act .resetSets]
    let requests : List (List (Handle .setLayout)) := [[⟨1⟩, ⟨1⟩, ⟨1⟩], [⟨1⟩, ⟨1⟩], [⟨1⟩]]
    let s := (start {} settings).through events
    let s' := s.allocateAll requests
    let pools := s'.device.descriptorPools
    IsRecycled {} settings events ∧ s.device.driver.setFailure = none ∧
      (∀ layouts ∈ requests, 1 ≤ layouts.length ∧ layouts.length ≤ 4) ∧
      (s.grantsUntil s').map (fun g => (some g.1, g.2)) =
        ([0, 1, 1].map (pools.pools[·]?)).zip requests ∧ pools.poolCount = 2 := by
  intro settings events requests s s' pools
  have hrecycled : IsRecycled {} settings events := Or.inr ⟨[.allocateSets [⟨1⟩]], rfl⟩
  have hsizes : ∀ layouts ∈ requests, 1 ≤ layouts.length ∧ layouts.length ≤ 4 := by decide
  have hfailure : s.device.driver.setFailure = none := rfl
  obtain ⟨-, -, hfits, -⟩ :=
    pools_serve_next_fit {} settings events requests hrecycled hfailure hsizes
  obtain ⟨hgrants, hcount⟩ := hfits.2 (Or.inl (by decide))
  have hplacements : placements (within (max 1 settings.descriptorPool.maxSetsPerPool.toNat))
      (requests.map List.length) = [0, 1, 1] := by decide
  have hbins : (loads (within (max 1 settings.descriptorPool.maxSetsPerPool.toNat))
      (requests.map List.length)).length = 2 := by decide
  have hbefore : s.device.descriptorPools.poolCount = 1 := rfl
  rw [hplacements] at hgrants
  rw [hbins, hbefore] at hcount
  refine ⟨hrecycled, hfailure, hsizes, ?_, hcount⟩
  -- Unfolding would run the frame; the two sides differ in the names of the sessions only.
  with_reducible exact hgrants

/-- Requests for one set each that come to more than a count can show, from pools for as many sets
as it can show, are not packed next-fit. -/
theorem not_packsInto_of_maxCount_lt {available : Capabilities} {settings : Settings}
    (hroom : settings.descriptorPool.maxSetsPerPool.toNat = maxCount)
    (layout : Handle .setLayout) {count : Nat} (hcount : maxCount < count) :
    ¬ (start available settings).PacksInto (within maxCount) (List.replicate count [layout]) := by
  have hcapacity : (start available settings).device.descriptorPools.capacity = maxCount := by
    show max 1 settings.descriptorPool.maxSetsPerPool.toNat = maxCount
    rw [hroom]
    rfl
  have hsizes : ∀ layouts ∈ List.replicate count [layout],
      1 ≤ layouts.length ∧ layouts.length ≤ maxCount := by
    intro layouts hlayouts
    rw [List.eq_of_mem_replicate hlayouts]
    show 1 ≤ 1 ∧ 1 ≤ maxCount
    decide
  have hrecycled : IsRecycled available settings [] := Or.inl rfl
  have hpacked : (start available settings).device.descriptorPools.Packed
      (start available settings).device.descriptorPools.poolCount
      (start available settings).device.driver [] :=
    packed_of_isRecycled hrecycled rfl
  obtain ⟨hpacks, -⟩ := packsInto_of_packed hpacked (hcapacity.symm ▸ hsizes)
  rw [hcapacity] at hpacks
  have hnodup := (ascending_through available settings
    ((List.replicate count [layout]).map .allocateSets)).nodup
  rw [packsInto_within_iff hpacks hnodup (Nat.le_refl _) fun layouts h => (hsizes layouts h).2,
    List.map_replicate, List.sum_replicate_nat, List.length_singleton]
  omega

/-- The request after the last that such a pool has room for. -/
theorem full_pool_not_left :
    let settings : Settings := { descriptorPool := { maxSetsPerPool := 4294967295 } }
    ¬ (start {} settings).PacksInto (within 4294967295) (List.replicate 4294967296 [⟨1⟩]) := by
  intro settings
  have hcount : maxCount < 4294967296 := by decide
  exact not_packsInto_of_maxCount_lt rfl ⟨1⟩ hcount

end Session

end GpuRecorder
