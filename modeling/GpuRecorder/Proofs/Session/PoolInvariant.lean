import GpuRecorder.Proofs.Device.PoolOrder
import GpuRecorder.Proofs.Recording.Frame
import GpuRecorder.Proofs.Session.Event

/-!
# Invariants of the descriptor pools

Nothing in a session touches the descriptor pools but allocating from them and resetting them.  So
what both preserve, and what does not break when the trace does something else, holds of the pools
in every run.
-/

namespace GpuRecorder

open Draw Native Resource Recording Device

/-! ## 1. Carrying a property through a run -/

/-- A property of the descriptor pools and their trace that a session cannot break. -/
structure PoolInvariant (I : DescriptorPools → Trace → Prop) : Prop where
  /-- The trace does something that concerns no descriptor pool. -/
  elsewhere : ∀ {p t t'}, I p t → t'.pools = t.pools → t.next ≤ t'.next → I p t'
  allocate : ∀ {p t}, I p t → ∀ layouts, I (p.allocate t layouts).pools (p.allocate t layouts).driver
  reset : ∀ {p t}, I p t → I (p.reset t).2.1 (p.reset t).2.2

theorem lendingCalls_elsewhere :
    LendingCalls fun t t' : Trace => t'.pools = t.pools ∧ t.next ≤ t'.next where
  refl t := ⟨rfl, Nat.le_refl _⟩
  trans h h' := ⟨h'.1.trans h.1, Nat.le_trans h.2 h'.2⟩
  createCommandPool t family := ⟨rfl, Nat.le_succ _⟩
  allocateCommandBuffers t pool level count := by
    show (t.allocateCommandBuffers pool level count).2.pools = _ ∧
      _ ≤ (t.allocateCommandBuffers pool level count).2.next
    unfold Trace.allocateCommandBuffers
    split
    · exact ⟨rfl, Nat.le_refl _⟩
    · exact ⟨rfl, Nat.le_add_right _ _⟩

namespace PoolInvariant

variable {I : DescriptorPools → Trace → Prop} (hI : PoolInvariant I) {d : Device Trace}

include hI

theorem noteAll (h : I d.descriptorPools d.driver) (calls : List Call) :
    I d.descriptorPools (d.driver.noteAll calls) :=
  hI.elsewhere h rfl (Nat.le_refl _)

theorem play (h : I d.descriptorPools d.driver) (script : Script) :
    I (d.play script).device.descriptorPools (d.play script).device.driver := by
  rw [play_device, Script.play_trace]
  exact hI.noteAll h _

theorem resolveLayout (h : I d.descriptorPools d.driver) (handle : Handle .commandBuffer)
    (p : Pipeline) (l : Layout) :
    I (Recording.resolveLayout d handle p l).outcome.device.descriptorPools
      (Recording.resolveLayout d handle p l).outcome.device.driver := by
  unfold Recording.resolveLayout
  simp only
  split
  · exact h
  · split
    · exact hI.play h _
    · have hallocated : I (d.allocateSets _).device.descriptorPools (d.allocateSets _).device.driver :=
        hI.allocate h (p.shader.nativeLayouts (sharedSets l p.shader))
      split
      · exact hallocated
      · exact hI.play hallocated _

theorem perform (h : I d.descriptorPools d.driver) (c : CommandBuffer) (s : Store)
    (op : Operation) :
    I (c.perform d s op).outcome.device.descriptorPools (c.perform d s op).outcome.device.driver := by
  have hpools : (c.release d).outcome.device.descriptorPools = d.descriptorPools := by
    unfold CommandBuffer.release
    split <;> rfl
  have hacts := c.acts_perform d s op
  generalize (c.perform d s op).outcome.device = d' at hacts ⊢
  cases hacts with
  | noted confined => exact hI.noteAll h _
  | @lent kind queue named =>
    have hkeeps := lendingCalls_elsewhere.request (c.release d).outcome.device.commandPools
      (c.release d).outcome.device.driver kind.level queue.family
    rw [← hpools, ← CommandBuffer.driver_release c d] at h
    exact hI.elsewhere h hkeeps.1 hkeeps.2
  | released named =>
    rw [hpools, CommandBuffer.driver_release]
    exact h
  | resolved ready => exact hI.resolveLayout h _ _ _

theorem after {s : Session Trace} (h : I s.device.descriptorPools s.device.driver) (e : Event) :
    I (s.after e).device.descriptorPools (s.after e).device.driver := by
  apply Session.after_cases (P := fun s => I s.device.descriptorPools s.device.driver)
  case stays | create => exact h
  case perform => exact fun n c op found => hI.perform h c s.store op
  case change => exact fun _ _ => h
  case submit => exact fun _ _ _ => hI.elsewhere h rfl (Nat.le_refl _)
  case resetSets => exact hI.reset h
  case allocateSets => exact hI.allocate h
  case switch =>
    intro x
    cases x with
    | takeHandle => exact hI.elsewhere h rfl (Nat.le_succ _)
    | _ => exact hI.elsewhere h rfl (Nat.le_refl _)

theorem through {s : Session Trace} (h : I s.device.descriptorPools s.device.driver)
    (events : List Event) :
    I (s.through events).device.descriptorPools (s.through events).device.driver :=
  Session.through_induction (P := fun s => I s.device.descriptorPools s.device.driver) h
    (fun _ e h => hI.after h e) events

end PoolInvariant

/-! ## 2. What holds of the pools in every run -/

namespace Session

/-- The pools of a device are ready, for as many sets as the settings say. -/
def PoolsReady (settings : Settings) (s : Session Trace) : Prop :=
  s.device.descriptorPools.Ready (max 1 settings.descriptorPool.maxSetsPerPool.toNat)
    s.device.driver

theorem poolsReady_start (available : Capabilities) (settings : Settings) :
    (start available settings).PoolsReady settings where
  capacity := rfl
  cursor := fun hne => absurd rfl hne
  known := fun _ hpool => absurd hpool List.not_mem_nil
  fresh := fun _ hu => absurd hu List.not_mem_nil

theorem poolInvariant_ready (capacity : Nat) :
    PoolInvariant (DescriptorPools.Ready capacity) where
  elsewhere h hpools hnext := h.mono (.of_pools_eq hpools hnext)
  allocate h layouts := (DescriptorPools.granting_allocate h layouts).1
  reset h := DescriptorPools.ready_reset h

theorem poolsReady_through (available : Capabilities) (settings : Settings)
    (events : List Event) : ((start available settings).through events).PoolsReady settings :=
  (poolInvariant_ready _).through (poolsReady_start available settings) events

theorem poolInvariant_ascending : PoolInvariant DescriptorPools.Ascending where
  elsewhere h _ hnext := h.mono hnext
  allocate h layouts := DescriptorPools.stepwise_ascending.allocate h layouts
  reset h := DescriptorPools.stepwise_ascending.reset h

theorem ascending_through (available : Capabilities) (settings : Settings) (events : List Event) :
    let s := (start available settings).through events
    s.device.descriptorPools.Ascending s.device.driver := by
  apply poolInvariant_ascending.through
  exact ⟨List.Pairwise.nil, fun _ hpool => absurd hpool List.not_mem_nil⟩

/-- A pool is never made for more sets than a count can show. -/
theorem capacity_le_maxCount (settings : Settings) :
    max 1 settings.descriptorPool.maxSetsPerPool.toNat ≤ maxCount := by
  have hlt := settings.descriptorPool.maxSetsPerPool.toNat_lt
  simp only [maxCount]
  omega

theorem poolInvariant_sized (capacity : Nat) : PoolInvariant (DescriptorPools.Sized capacity) where
  elsewhere h hpools _ := ⟨h.1, by rw [hpools]; exact h.2⟩
  allocate h layouts := (DescriptorPools.stepwise_sized capacity).allocate h layouts
  reset h := (DescriptorPools.stepwise_sized capacity).reset h

theorem sized_through (available : Capabilities) (settings : Settings) (events : List Event) :
    let s := (start available settings).through events
    s.device.descriptorPools.Sized (max 1 settings.descriptorPool.maxSetsPerPool.toNat)
      s.device.driver :=
  (poolInvariant_sized _).through ⟨rfl, fun _ hu => absurd hu List.not_mem_nil⟩ events

end Session

end GpuRecorder
