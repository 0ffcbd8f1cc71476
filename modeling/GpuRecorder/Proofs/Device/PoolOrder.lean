import GpuRecorder.Proofs.Device.TracePools

/-!
# The order of the descriptor pools on a trace

A trace numbers its handles upwards, so the pools of a device stand in the order they were made in,
whatever was allocated and reset in between, and no pool stands in the list twice.  That, and the
size of the pools, is preserved by each thing that requests and resets do (`Stepwise`).
-/

namespace GpuRecorder.Device.DescriptorPools

open Native

/-! ## 1. The order -/

/-- Pools were made one after the other, and the next handle is larger than any of theirs. -/
structure Ascending (p : DescriptorPools) (t : Trace) : Prop where
  sorted : p.pools.Pairwise (·.number < ·.number)
  below : ∀ pool ∈ p.pools, pool.number < t.next

theorem Ascending.nodup {p : DescriptorPools} {t : Trace} (h : p.Ascending t) : p.pools.Nodup := by
  refine h.sorted.imp fun hlt heq => ?_
  rw [heq] at hlt
  exact Nat.lt_irrefl _ hlt

theorem Ascending.mono {p : DescriptorPools} {t t' : Trace} (h : p.Ascending t)
    (hnext : t.next ≤ t'.next) : p.Ascending t' where
  sorted := h.sorted
  below := fun pool hpool => Nat.lt_of_lt_of_le (h.below pool hpool) hnext

theorem Ascending.addPool {p : DescriptorPools} {t : Trace} (h : p.Ascending t) (current : Nat) :
    Ascending { p with pools := p.pools ++ [⟨t.next⟩], current }
      (t.createDescriptorPool p.capacity).2 where
  sorted := by
    show (p.pools ++ [_]).Pairwise _
    rw [List.pairwise_append]
    refine ⟨h.sorted, by simp, ?_⟩
    intro pool hpool new hnew
    obtain rfl := List.mem_singleton.1 hnew
    exact h.below pool hpool
  below := by
    intro pool hpool
    show pool.number < t.next + 1
    rcases List.mem_append.1 hpool with hpool | hpool
    · exact Nat.lt_succ_of_lt (h.below pool hpool)
    · obtain rfl := List.mem_singleton.1 hpool
      exact Nat.lt_succ_self _

/-! ## 2. What requests and resets preserve -/

/-- A property of the pools and their trace that survives each thing a request or a reset does:
making a pool, asking one, resetting one and moving the cursor. -/
structure Stepwise (I : DescriptorPools → Trace → Prop) : Prop where
  addPool : ∀ {p t}, I p t → ∀ current,
    I { p with pools := p.pools ++ [⟨t.next⟩], current } (t.createDescriptorPool p.capacity).2
  ask : ∀ {p t}, I p t → ∀ pool layouts, I p (t.allocateDescriptorSets pool layouts).2
  recycle : ∀ {p t}, I p t → ∀ pool, I p (t.resetDescriptorPool pool)
  move : ∀ {p t}, I p t → ∀ current, I { p with current } t

theorem resetEach_trace (t : Trace) (pools : List (Handle .descriptorPool)) :
    resetEach t pools = (.ok (), pools.foldl Trace.resetDescriptorPool t) := by
  induction pools generalizing t with
  | nil => rfl
  | cons pool rest ih => exact ih (t.resetDescriptorPool pool)

namespace Stepwise

variable {I : DescriptorPools → Trace → Prop} (hI : Stepwise I) {p : DescriptorPools} {t : Trace}

include hI

theorem allocateGrowing (h : I p t) (layouts : List (Handle .setLayout)) :
    I (p.allocateGrowing t layouts).pools (p.allocateGrowing t layouts).driver := by
  have hasked := hI.ask (hI.addPool h p.current) ⟨t.next⟩ layouts
  have hdriver : Driver.allocateDescriptorSets (t.createDescriptorPool p.capacity).2 ⟨t.next⟩
      layouts = (t.createDescriptorPool p.capacity).2.allocateDescriptorSets ⟨t.next⟩ layouts := rfl
  unfold DescriptorPools.allocateGrowing
  simp only [addPool_trace, List.getLast?_concat, hdriver]
  split
  · rename_i heq
    rwa [heq] at hasked
  · rename_i heq
    rw [heq] at hasked
    split <;> exact hasked

theorem allocateFrom (h : I p t) (layouts : List (Handle .setLayout))
    (remaining : List (Handle .descriptorPool)) :
    I (p.allocateFrom t layouts remaining).pools (p.allocateFrom t layouts remaining).driver := by
  induction remaining generalizing p t with
  | nil => exact hI.allocateGrowing h layouts
  | cons pool remaining ih =>
    have hasked := hI.ask h pool layouts
    have hdriver : Driver.allocateDescriptorSets t pool layouts =
        t.allocateDescriptorSets pool layouts := rfl
    unfold DescriptorPools.allocateFrom
    rw [hdriver]
    split
    · rename_i heq
      rwa [heq] at hasked
    · rename_i heq
      rw [heq] at hasked
      split
      · exact ih (hI.move hasked _)
      · exact hasked

theorem allocateCurrent (h : I p t) (layouts : List (Handle .setLayout)) :
    I (p.allocateCurrent t layouts).pools (p.allocateCurrent t layouts).driver := by
  unfold DescriptorPools.allocateCurrent
  split
  · exact h
  · exact hI.allocateFrom h layouts _

theorem allocate (h : I p t) (layouts : List (Handle .setLayout)) :
    I (p.allocate t layouts).pools (p.allocate t layouts).driver := by
  unfold DescriptorPools.allocate
  split
  · exact h
  · split
    · exact h
    · split
      · exact hI.allocateCurrent (hI.addPool h 0) layouts
      · exact hI.allocateCurrent h layouts

theorem reset (h : I p t) : I (p.reset t).2.1 (p.reset t).2.2 := by
  rw [DescriptorPools.reset, resetEach_trace]
  refine hI.move ?_ 0
  exact List.foldlRecOn (motive := I p) p.pools _ h fun _ ht pool _ => hI.recycle ht pool

end Stepwise

theorem stepwise_ascending : Stepwise Ascending where
  addPool h := h.addPool
  ask h pool layouts := h.mono (poolCalls_keepsPools.allocateDescriptorSets _ pool layouts).next_le
  recycle h _ := h.mono (Nat.le_refl _)
  move h _ := ⟨h.sorted, h.below⟩

/-- All pools that a trace knows were made for one number of sets, that of the device. -/
def Sized (capacity : Nat) (p : DescriptorPools) (t : Trace) : Prop :=
  p.capacity = capacity ∧ ∀ u ∈ t.pools, u.maxSets = capacity

theorem Sized.update {capacity : Nat} {p : DescriptorPools} {t t' : Trace}
    (h : p.Sized capacity t) {pool : Handle .descriptorPool} {f : PoolUsage → PoolUsage}
    (hf : ∀ u, (f u).maxSets = u.maxSets) (hpools : t'.pools = PoolUsage.update t.pools pool f) :
    p.Sized capacity t' := by
  refine ⟨h.1, fun u hu => ?_⟩
  rw [hpools, PoolUsage.update] at hu
  obtain ⟨old, hold, rfl⟩ := List.mem_map.1 hu
  split
  · exact (hf old).trans (h.2 old hold)
  · exact h.2 old hold

theorem stepwise_sized (capacity : Nat) : Stepwise (Sized capacity) where
  addPool := by
    rintro p t ⟨rfl, hsized⟩ current
    refine ⟨rfl, fun u hu => ?_⟩
    rcases List.mem_append.1 hu with hu | hu
    · exact hsized u hu
    · rw [List.mem_singleton.1 hu]
  ask := by
    intro p t h pool layouts
    unfold Trace.allocateDescriptorSets
    split
    · exact h
    · exact h
    · split
      · exact h
      · exact h.update (f := .give layouts.length) (fun _ => rfl) rfl
  recycle h pool := h.update (f := fun u => { u with allocated := 0 }) (fun _ => rfl) rfl
  move h _ := h

end GpuRecorder.Device.DescriptorPools
