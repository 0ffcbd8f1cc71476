import GpuRecorder.Proofs.Device.Driving
import GpuRecorder.Proofs.Native.Observed

/-!
# Asking for descriptor sets

Until sets are granted, the descriptor pools only make pools and are refused.  So the sets that an
allocation answers with are those of the last call it made, whatever the driver, and of what went
through before that nothing but the making of pools is left.
-/

namespace GpuRecorder.Device

open Native

/-! ## 1. Over any driver -/

section

variable {σ : Type} [Driver σ]

/-- A relation that can be chained and holds across the making of a pool and across a refusal. -/
structure Attempts (R : σ → σ → Prop) : Prop where
  refl : ∀ d, R d d
  trans : ∀ {a b c}, R a b → R b c → R a c
  createDescriptorPool : ∀ d maxSets sizes, R d (Driver.createDescriptorPool d maxSets sizes).2
  refused : ∀ {d pool layouts code d'},
    Driver.allocateDescriptorSets d pool layouts = (.error code, d') → R d d'

theorem PoolCalls.attempts {R : σ → σ → Prop} (h : PoolCalls R) : Attempts R where
  refl := h.refl
  trans := h.trans
  createDescriptorPool := h.createDescriptorPool
  refused := by
    intro d pool layouts code d' heq
    have hcall := h.allocateDescriptorSets d pool layouts
    rwa [heq] at hcall

/-- How asking for sets ends: no set is needed, or the attempts end with a refusal or a grant. -/
inductive Asked (R : σ → σ → Prop) (driver : σ) (layouts : List (Handle .setLayout)) :
    DescriptorPools.Allocation σ → Prop
  | nothing {p messages} (none : layouts = []) : Asked R driver layouts ⟨.ok [], p, driver, messages⟩
  | refused {e p driver' messages} (tried : R driver driver') :
    Asked R driver layouts ⟨.error e, p, driver', messages⟩
  | granted {before pool sets p driver' messages} (tried : R driver before)
      (answered : Driver.allocateDescriptorSets before pool layouts = (.ok sets, driver')) :
    Asked R driver layouts ⟨.ok sets, p, driver', messages⟩

variable {R : σ → σ → Prop} {driver driver' : σ} {layouts : List (Handle .setLayout)}

theorem Asked.after (h : Attempts R) (hfirst : R driver driver')
    {a : DescriptorPools.Allocation σ} (hasked : Asked R driver' layouts a)
    (hsome : layouts ≠ []) : Asked R driver layouts a := by
  cases hasked with
  | nothing hnone => exact absurd hnone hsome
  | refused tried => exact .refused (h.trans hfirst tried)
  | granted tried answered => exact .granted (h.trans hfirst tried) answered

theorem asked_addPool (h : Attempts R) (p : DescriptorPools) (driver : σ) :
    R driver (p.addPool driver).2.1 := by
  have hcreate := h.createDescriptorPool driver p.capacity p.poolSizes
  unfold DescriptorPools.addPool
  split <;>
  · rename_i heq
    rwa [heq] at hcreate

theorem asked_allocateGrowing (h : Attempts R) (p : DescriptorPools) (driver : σ)
    (layouts : List (Handle .setLayout)) :
    Asked R driver layouts (p.allocateGrowing driver layouts) := by
  have hadd := asked_addPool h p driver
  unfold DescriptorPools.allocateGrowing
  split
  · rename_i heq
    rw [heq] at hadd
    exact .refused hadd
  · rename_i heq
    rw [heq] at hadd
    split
    · exact .refused hadd
    · split
      · rename_i hsets
        exact .granted hadd hsets
      · rename_i hcode
        split <;> exact .refused (h.trans hadd (h.refused hcode))

theorem asked_allocateFrom (h : Attempts R) (p : DescriptorPools) (driver : σ)
    {layouts : List (Handle .setLayout)} (hsome : layouts ≠ [])
    (remaining : List (Handle .descriptorPool)) :
    Asked R driver layouts (p.allocateFrom driver layouts remaining) := by
  induction remaining generalizing p driver with
  | nil => exact asked_allocateGrowing h p driver layouts
  | cons pool remaining ih =>
    unfold DescriptorPools.allocateFrom
    split
    · rename_i hsets
      exact .granted (h.refl driver) hsets
    · rename_i hcode
      split
      · exact (ih _ _).after h (h.refused hcode) hsome
      · exact .refused (h.refused hcode)

theorem asked_allocate (h : Attempts R) (p : DescriptorPools) (driver : σ)
    (layouts : List (Handle .setLayout)) : Asked R driver layouts (p.allocate driver layouts) := by
  have current (p : DescriptorPools) (driver : σ) (hsome : layouts ≠ []) :
      Asked R driver layouts (p.allocateCurrent driver layouts) := by
    unfold DescriptorPools.allocateCurrent
    split
    · exact .refused (h.refl driver)
    · exact asked_allocateFrom h p driver hsome _
  unfold DescriptorPools.allocate
  split
  · rename_i hnone
    exact .nothing hnone
  · rename_i hsome
    split
    · exact .refused (h.refl driver)
    · split
      · have hadd := asked_addPool h p driver
        split
        · rename_i heq
          rw [heq] at hadd
          exact .refused hadd
        · rename_i grown driver' messages heq
          rw [heq] at hadd
          -- The messages of the new pool come first; nothing else of the answer changes.
          have hasked := (current { grown with current := 0 } driver' hsome).after h hadd hsome
          generalize DescriptorPools.allocateCurrent { grown with current := 0 } driver' layouts = a
            at hasked ⊢
          cases hasked with
          | nothing hnone => exact absurd hnone hsome
          | refused tried => exact .refused tried
          | granted tried answered => exact .granted tried answered
      · exact current p driver hsome

end

/-! ## 2. On an observed driver -/

/-- A descriptor pool is made. -/
def makesPool : Call → Bool
  | .createDescriptorPool _ _ => true
  | _ => false

section

variable {σ : Type} [Driver σ]

theorem attempts_observed : Attempts (Observed.Appends (σ := σ) (makesPool ·)) where
  refl := .refl
  trans := .trans
  createDescriptorPool o maxSets sizes := by
    apply Observed.Appends.answered
    exact fun _ => rfl
  refused h := .of_history_eq (Observed.history_answered_error h)

/-- What an allocation leaves in the history: pools that were made, and at last the call that
granted the sets. -/
theorem history_allocate (p : DescriptorPools) (o : Observed σ)
    (layouts : List (Handle .setLayout)) :
    ∃ tries, (∀ c ∈ tries, makesPool c) ∧
      match (p.allocate o layouts).answer with
      | .ok sets =>
        layouts = [] ∧ sets = [] ∧ (p.allocate o layouts).driver.history = o.history ∨
          ∃ pool, (p.allocate o layouts).driver.history =
            o.history ++ (tries ++ [.allocateDescriptorSets pool layouts sets])
      | .error _ => (p.allocate o layouts).driver.history = o.history ++ tries := by
  have hasked := asked_allocate attempts_observed p o layouts
  generalize p.allocate o layouts = a at hasked ⊢
  cases hasked with
  | nothing hnone => exact ⟨[], by simp, Or.inl ⟨hnone, rfl, rfl⟩⟩
  | refused tried =>
    obtain ⟨tries, hhistory, htries⟩ := tried
    exact ⟨tries, htries, hhistory⟩
  | @granted before pool sets p' driver' messages tried answered =>
    obtain ⟨tries, hhistory, htries⟩ := tried
    refine ⟨tries, htries, Or.inr ⟨pool, ?_⟩⟩
    rw [Observed.history_answered_ok answered, hhistory, List.append_assoc]

/-- Resetting leaves the pools that were reset. -/
theorem history_resetEach (pools : List (Handle .descriptorPool)) (o : Observed σ) :
    Observed.Appends (fun c => ∃ pool, c = .resetDescriptorPool pool) o
      (DescriptorPools.resetEach o pools).2 := by
  induction pools generalizing o with
  | nil => exact .refl o
  | cons pool rest ih =>
    have hreset : Observed.Appends (fun c => ∃ pool, c = .resetDescriptorPool pool) o
        (Driver.resetDescriptorPool o pool).2 := by
      apply Observed.Appends.answered
      exact fun _ => ⟨pool, rfl⟩
    unfold DescriptorPools.resetEach
    split
    · rename_i heq
      rwa [heq] at hreset
    · rename_i heq
      rw [heq] at hreset
      exact hreset.trans (ih _)

end

/-! ## 3. On a trace -/

/-- Sets are granted by a pool that has room for them, under the next numbers. -/
structure GrantsFrom (t : Trace) (pool : Handle .descriptorPool)
    (layouts : List (Handle .setLayout)) (sets : List (Handle .descriptorSet)) (t' : Trace) :
    Prop where
  room : ∃ usage, PoolUsage.find? t.pools pool = some usage ∧ ¬ usage.isFullFor layouts.length
  numbered : sets = Handle.freshList t.next layouts.length
  pools : t'.pools = PoolUsage.update t.pools pool (.give layouts.length)
  next : t'.next = t.next + layouts.length
  log : t'.log.toList = t.log.toList ++ [.allocateDescriptorSets pool layouts sets]

theorem grantsFrom_of_ok {t t' : Trace} {pool : Handle .descriptorPool}
    {layouts : List (Handle .setLayout)} {sets : List (Handle .descriptorSet)}
    (h : t.allocateDescriptorSets pool layouts = (.ok sets, t')) :
    GrantsFrom t pool layouts sets t' := by
  unfold Trace.allocateDescriptorSets at h
  split at h
  · cases h
  · cases h
  · rename_i usage _ hfind
    split at h
    · cases h
    · rename_i hroom
      cases h
      exact ⟨⟨usage, hfind, hroom⟩, rfl, rfl, rfl, Trace.log_note _ _⟩

/-- A refusal leaves a trace as it is. -/
theorem eq_of_refused {t t' : Trace} {pool : Handle .descriptorPool}
    {layouts : List (Handle .setLayout)} {code : ResultCode}
    (h : t.allocateDescriptorSets pool layouts = (.error code, t')) : t' = t := by
  unfold Trace.allocateDescriptorSets at h
  split at h
  · cases h
    rfl
  · cases h
    rfl
  · split at h
    · cases h
      rfl
    · cases h

/-- Granted sets are numbered from the next number on or later. -/
theorem granted_on_trace {p : DescriptorPools} {t : Trace} {layouts : List (Handle .setLayout)}
    (hsome : layouts ≠ []) {sets : List (Handle .descriptorSet)}
    (h : (p.allocate t layouts).answer = .ok sets) :
    ∃ first, sets = Handle.freshList first layouts.length ∧ t.next ≤ first ∧
      first + layouts.length ≤ (p.allocate t layouts).driver.next := by
  have hasked := asked_allocate poolCalls_appends.attempts p t layouts
  generalize p.allocate t layouts = a at hasked h ⊢
  cases hasked with
  | nothing none => exact absurd none hsome
  | refused tried => cases h
  | @granted before pool sets' p' driver' messages tried answered =>
    cases h
    have hgrants := grantsFrom_of_ok answered
    exact ⟨before.next, hgrants.numbered, tried.1, Nat.le_of_eq hgrants.next.symm⟩

end GpuRecorder.Device
