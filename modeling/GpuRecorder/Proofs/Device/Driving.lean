import GpuRecorder.Device.Basic
import GpuRecorder.Proofs.Native.Log

/-!
# What device operations do to their driver

The pools reach the driver through a few calls only.  A relation between driver states that can be
chained and holds across each of these calls (`PoolCalls`) holds across every operation of the
pools.  On a trace this gives that no operation of the pools writes into a command buffer.
-/

namespace GpuRecorder.Device

open Native

/-! ## 1. Chaining calls -/

/-- A relation that can be chained and holds across every call the command pools make. -/
structure LendingCalls {σ : Type} [Driver σ] (R : σ → σ → Prop) : Prop where
  refl : ∀ d, R d d
  trans : ∀ {a b c}, R a b → R b c → R a c
  createCommandPool : ∀ d family, R d (Driver.createCommandPool d family).2
  allocateCommandBuffers : ∀ d pool level count,
    R d (Driver.allocateCommandBuffers d pool level count).2

/-- It also holds across every call the descriptor pools make. -/
structure PoolCalls {σ : Type} [Driver σ] (R : σ → σ → Prop) : Prop extends LendingCalls R where
  createDescriptorPool : ∀ d maxSets sizes, R d (Driver.createDescriptorPool d maxSets sizes).2
  allocateDescriptorSets : ∀ d pool layouts, R d (Driver.allocateDescriptorSets d pool layouts).2
  resetDescriptorPool : ∀ d pool, R d (Driver.resetDescriptorPool d pool).2

namespace LendingCalls

variable {σ : Type} [Driver σ] {R : σ → σ → Prop}

theorem ensure (h : LendingCalls R) (p : CommandPools) (driver : σ) (family : Nat) :
    R driver (p.ensure driver family).2.1 := by
  unfold CommandPools.ensure
  split
  · exact h.refl driver
  · have hcreate := h.createCommandPool driver family
    split
    · rename_i heq
      rwa [heq] at hcreate
    · rename_i heq
      rwa [heq] at hcreate

theorem request (h : LendingCalls R) (p : CommandPools) (driver : σ) (level : Level) (family : Nat) :
    R driver (p.request driver level family).2.2.1 := by
  have hensure := h.ensure p driver family
  unfold CommandPools.request
  split
  · rename_i heq
    rwa [heq] at hensure
  · rename_i f p' driver' messages heq
    rw [heq] at hensure
    split
    · exact hensure
    · have halloc := h.allocateCommandBuffers driver' f.pool level 1
      split <;>
      · rename_i heq
        rw [heq] at halloc
        exact h.trans hensure halloc

end LendingCalls

namespace PoolCalls

variable {σ : Type} [Driver σ] {R : σ → σ → Prop}

theorem addPool (h : PoolCalls R) (p : DescriptorPools) (driver : σ) :
    R driver (p.addPool driver).2.1 := by
  have hcreate := h.createDescriptorPool driver p.capacity p.poolSizes
  unfold DescriptorPools.addPool
  split
  · rename_i heq
    rwa [heq] at hcreate
  · rename_i heq
    rwa [heq] at hcreate

theorem allocateGrowing (h : PoolCalls R) (p : DescriptorPools) (driver : σ)
    (layouts : List (Handle .setLayout)) : R driver (p.allocateGrowing driver layouts).driver := by
  have hadd := h.addPool p driver
  unfold DescriptorPools.allocateGrowing
  split
  · rename_i heq
    rwa [heq] at hadd
  · rename_i grown driver' messages heq
    rw [heq] at hadd
    split
    · exact hadd
    · rename_i pool _
      have halloc := h.allocateDescriptorSets driver' pool layouts
      split
      · rename_i heq
        rw [heq] at halloc
        exact h.trans hadd halloc
      · rename_i heq
        rw [heq] at halloc
        split <;> exact h.trans hadd halloc

theorem allocateFrom (h : PoolCalls R) (p : DescriptorPools) (driver : σ)
    (layouts : List (Handle .setLayout)) (remaining : List (Handle .descriptorPool)) :
    R driver (p.allocateFrom driver layouts remaining).driver := by
  induction remaining generalizing p driver with
  | nil => exact h.allocateGrowing p driver layouts
  | cons pool remaining ih =>
    have halloc := h.allocateDescriptorSets driver pool layouts
    unfold DescriptorPools.allocateFrom
    split
    · rename_i heq
      rwa [heq] at halloc
    · rename_i heq
      rw [heq] at halloc
      split
      · exact h.trans halloc (ih _ _)
      · exact halloc

theorem allocateCurrent (h : PoolCalls R) (p : DescriptorPools) (driver : σ)
    (layouts : List (Handle .setLayout)) : R driver (p.allocateCurrent driver layouts).driver := by
  unfold DescriptorPools.allocateCurrent
  split
  · exact h.refl driver
  · exact h.allocateFrom p driver layouts _

theorem allocate (h : PoolCalls R) (p : DescriptorPools) (driver : σ)
    (layouts : List (Handle .setLayout)) : R driver (p.allocate driver layouts).driver := by
  unfold DescriptorPools.allocate
  split
  · exact h.refl driver
  · split
    · exact h.refl driver
    · split
      · have hadd := h.addPool p driver
        split
        · rename_i heq
          rwa [heq] at hadd
        · rename_i heq
          rw [heq] at hadd
          exact h.trans hadd (h.allocateCurrent _ _ layouts)
      · exact h.allocateCurrent p driver layouts

theorem resetEach (h : PoolCalls R) (pools : List (Handle .descriptorPool)) (driver : σ) :
    R driver (DescriptorPools.resetEach driver pools).2 := by
  induction pools generalizing driver with
  | nil => exact h.refl driver
  | cons pool rest ih =>
    have hreset := h.resetDescriptorPool driver pool
    unfold DescriptorPools.resetEach
    split
    · rename_i heq
      rwa [heq] at hreset
    · rename_i heq
      rw [heq] at hreset
      exact h.trans hreset (ih _)

theorem reset (h : PoolCalls R) (p : DescriptorPools) (driver : σ) :
    R driver (p.reset driver).2.2 := by
  have heach := h.resetEach p.pools driver
  unfold DescriptorPools.reset
  split
  · rename_i heq
    rwa [heq] at heach
  · rename_i heq
    rwa [heq] at heach

end PoolCalls

/-! ## 2. On a trace -/

/-- A call of the kind that the pools make. -/
def madeByPools : Call → Bool
  | .createCommandPool _ _ | .allocateCommandBuffers _ _ _ | .createDescriptorPool _ _
  | .resetDescriptorPool _ | .allocateDescriptorSets _ _ _ => true
  | _ => false

theorem target_of_madeByPools {c : Call} (h : madeByPools c) : c.target? = none := by
  cases c with
  | begin buffer args => cases h
  | finish buffer => cases h
  | request r => cases h
  | _ => rfl

theorem poolCalls_appends : PoolCalls (Trace.Appends (madeByPools ·)) where
  refl := .refl
  trans := .trans
  createCommandPool t family := .note (Nat.le_succ _) rfl rfl
  allocateCommandBuffers t pool level count := by
    show Trace.Appends _ t (t.allocateCommandBuffers pool level count).2
    unfold Trace.allocateCommandBuffers
    split
    · exact .refl t
    · exact .note (Nat.le_add_right _ _) rfl rfl
  createDescriptorPool t maxSets _ := .note (Nat.le_succ _) rfl rfl
  allocateDescriptorSets t pool layouts := by
    show Trace.Appends _ t (t.allocateDescriptorSets pool layouts).2
    unfold Trace.allocateDescriptorSets
    split
    · exact .refl t
    · exact .refl t
    · split
      · exact .refl t
      · exact .note (Nat.le_add_right _ _) rfl rfl
  resetDescriptorPool t pool := .note (Nat.le_refl _) rfl rfl

theorem growsOnly_of_pools {t t' : Trace} (h : Trace.Appends (madeByPools ·) t t') :
    Trace.GrowsOnly none t t' :=
  h.mono fun _ hc => Or.inl (target_of_madeByPools hc)

end GpuRecorder.Device
