import GpuRecorder.Proofs.Device.Lending
import GpuRecorder.Proofs.Native.Journal

/-!
# The native pools that a device keeps

Whatever is asked of the pools of a device and whatever its driver refuses, every native pool that
was made is kept, command pools one for each queue family, and none is destroyed meanwhile.
-/

namespace GpuRecorder

open Native Device

/-! ## 1. Pools in a journal -/

namespace Native.Attempt

/-- The queue families that it was answered with a command pool for. -/
def families : Attempt → List Nat
  | .through (.createCommandPool family _) => [family]
  | _ => []

def destroyedCommandPools : Attempt → List (Handle .commandPool)
  | .through (.destroyCommandPool pool) => [pool]
  | _ => []

def destroyedDescriptorPools : Attempt → List (Handle .descriptorPool)
  | .through (.destroyDescriptorPool pool) => [pool]
  | _ => []

/-- It destroys a pool. -/
def destroys : Attempt → Bool
  | .through (.destroyCommandPool _) | .through (.destroyDescriptorPool _) => true
  | _ => false

/-- It neither makes a pool nor destroys one. -/
def spares : Attempt → Bool
  | .through (.createCommandPool _ _) | .through (.createDescriptorPool _ _) => false
  | a => !a.destroys

theorem spares_ofAnswer {α : Type} {q : Question} {call : α → Call}
    (h : ∀ a, (through (call a)).spares) (answer : Except ResultCode α) :
    (ofAnswer q call answer).spares := by
  cases answer with
  | error code => rfl
  | ok a => exact h a

theorem of_spares {a : Attempt} (h : a.spares) :
    a.commandPools = [] ∧ a.families = [] ∧ a.descriptorPools = [] ∧ a.destroys = false := by
  cases a with
  | refused q code => exact ⟨rfl, rfl, rfl, rfl⟩
  | through c =>
    cases c with
    | createCommandPool family pool => cases h
    | createDescriptorPool pool maxSets => cases h
    | destroyCommandPool pool => cases h
    | destroyDescriptorPool pool => cases h
    | _ => exact ⟨rfl, rfl, rfl, rfl⟩

theorem of_not_destroys {a : Attempt} (h : a.destroys = false) :
    a.destroyedCommandPools = [] ∧ a.destroyedDescriptorPools = [] := by
  cases a with
  | refused q code => exact ⟨rfl, rfl⟩
  | through c =>
    cases c with
    | destroyCommandPool pool => cases h
    | destroyDescriptorPool pool => cases h
    | _ => exact ⟨rfl, rfl⟩

/-- A destruction is answered with no pool. -/
theorem of_destroys {a : Attempt} (h : a.destroys) :
    a.commandPools = [] ∧ a.families = [] ∧ a.descriptorPools = [] := by
  cases a with
  | refused q code => cases h
  | through c =>
    cases c with
    | destroyCommandPool pool => exact ⟨rfl, rfl, rfl⟩
    | destroyDescriptorPool pool => exact ⟨rfl, rfl, rfl⟩
    | _ => cases h

end Native.Attempt

/-! ## 2. What a device keeps -/

namespace Device

/-- The pools that are kept are those that were made, in their order, and none was destroyed. -/
structure KeepsPools (p : CommandPools) (q : DescriptorPools) (attempts : List Attempt) : Prop where
  commandPools : p.families.map (·.pool) = attempts.flatMap Attempt.commandPools
  families : p.families.map (·.family) = attempts.flatMap Attempt.families
  descriptorPools : q.pools = attempts.flatMap Attempt.descriptorPools
  distinct : p.Distinct
  standing : ∀ a ∈ attempts, a.destroys = false

namespace KeepsPools

variable {p : CommandPools} {q : DescriptorPools} {attempts : List Attempt}

theorem standing_concat {a : Attempt} (h : KeepsPools p q attempts) (ha : a.destroys = false) :
    ∀ b ∈ attempts ++ [a], b.destroys = false := by
  intro b hb
  rcases List.mem_append.1 hb with hb | hb
  · exact h.standing b hb
  · rwa [List.mem_singleton.1 hb]

theorem spared (h : KeepsPools p q attempts) {a : Attempt} (ha : a.spares) :
    KeepsPools p q (attempts ++ [a]) := by
  obtain ⟨hpools, hfamilies, hdescriptors, hstanding⟩ := Attempt.of_spares ha
  refine ⟨?_, ?_, ?_, h.distinct, h.standing_concat hstanding⟩
  · simpa [List.flatMap_append, hpools] using h.commandPools
  · simpa [List.flatMap_append, hfamilies] using h.families
  · simpa [List.flatMap_append, hdescriptors] using h.descriptorPools

theorem madeCommandPool (h : KeepsPools p q attempts) {family : Nat} (hnew : p.find? family = none)
    (pool : Handle .commandPool) :
    KeepsPools ⟨p.families ++ [⟨family, pool, [], []⟩]⟩ q
      (attempts ++ [.through (.createCommandPool family pool)]) := by
  refine ⟨?_, ?_, ?_, ?_, h.standing_concat rfl⟩
  · rw [List.map_append, h.commandPools, List.flatMap_append]
    rfl
  · rw [List.map_append, h.families, List.flatMap_append]
    rfl
  · rw [h.descriptorPools, List.flatMap_append]
    exact (List.append_nil _).symm
  · have hother : ∀ f ∈ p.families, f.family ≠ family := by simpa [CommandPools.find?] using hnew
    rw [CommandPools.Distinct, List.map_append, List.nodup_append]
    refine ⟨h.distinct, List.nodup_singleton family, fun a ha b hb => ?_⟩
    obtain ⟨f, hf, rfl⟩ := List.mem_map.1 ha
    obtain rfl : b = family := List.mem_singleton.1 hb
    exact hother f hf

theorem madeDescriptorPool (h : KeepsPools p q attempts) (pool : Handle .descriptorPool)
    (maxSets : Nat) :
    KeepsPools p { q with pools := q.pools ++ [pool] }
      (attempts ++ [.through (.createDescriptorPool pool maxSets)]) := by
  refine ⟨?_, ?_, ?_, h.distinct, h.standing_concat rfl⟩
  · rw [h.commandPools, List.flatMap_append]
    exact (List.append_nil _).symm
  · rw [h.families, List.flatMap_append]
    exact (List.append_nil _).symm
  · show q.pools ++ [pool] = _
    rw [h.descriptorPools, List.flatMap_append]
    rfl

/-- Parking changes no pool. -/
theorem setParked (h : KeepsPools p q attempts) {family : Nat} {f : FamilyPool}
    (hfind : p.find? family = some f) (level : Level) (buffers : List (Handle .commandBuffer)) :
    KeepsPools (p.replace (f.setParked level buffers)) q attempts := by
  have hpool : (f.setParked level buffers).pool = f.pool := by
    unfold FamilyPool.setParked
    split <;> rfl
  refine ⟨?_, ?_, h.descriptorPools, CommandPools.distinct_replace h.distinct _, h.standing⟩
  · rw [← h.commandPools, CommandPools.replace, List.map_map]
    refine List.map_congr_left fun g hg => ?_
    rw [Function.comp_apply]
    split
    · -- Of one family there is one entry.
      rename_i hsame
      rw [CommandPools.family_setParked] at hsame
      obtain rfl : g = f :=
        List.inj_on_of_nodup_map h.distinct hg (List.mem_of_find?_eq_some hfind) hsame
      exact hpool
    · rfl
  · rw [CommandPools.families_replace]
    exact h.families

/-- The cursor makes no difference. -/
theorem moved (h : KeepsPools p q attempts) (current : Nat) :
    KeepsPools p { q with current } attempts :=
  ⟨h.commandPools, h.families, h.descriptorPools, h.distinct, h.standing⟩

/-! ## 3. One call -/

section

variable {σ : Type} [Driver σ] {j j' : Journal σ}

theorem ensure (h : KeepsPools p q j.attempts) (family : Nat) :
    KeepsPools ((p.ensure j family).1.toOption.elim p (·.2)) q
      (p.ensure j family).2.1.attempts := by
  unfold CommandPools.ensure
  split
  · exact h
  · rename_i hnew
    show KeepsPools _ q _
    simp only [Driver.createCommandPool, Journal.answered]
    cases (Driver.createCommandPool j.driver family).1 with
    | error code => exact h.spared rfl
    | ok pool => exact h.madeCommandPool hnew pool

theorem request (h : KeepsPools p q j.attempts) (level : Level) (family : Nat) :
    KeepsPools (p.request j level family).2.1 q (p.request j level family).2.2.1.attempts := by
  have hensure := h.ensure family
  unfold CommandPools.request
  split
  · rename_i heq
    rw [heq] at hensure
    exact hensure
  · rename_i f p' j' messages heq
    have hfind := (CommandPools.ensure_spec h.distinct heq).1
    rw [heq] at hensure
    replace hensure : KeepsPools p' q j'.attempts := hensure
    split
    · exact hensure.setParked hfind level _
    · have hallocated : KeepsPools p' q
          (Driver.allocateCommandBuffers j' f.pool level 1).2.attempts :=
        hensure.spared (Attempt.spares_ofAnswer (fun _ => rfl) _)
      split <;>
      · rename_i heq
        rwa [heq] at hallocated

theorem addPool (h : KeepsPools p q j.attempts) :
    KeepsPools p ((q.addPool j).1.toOption.getD q) (q.addPool j).2.1.attempts := by
  unfold DescriptorPools.addPool
  simp only [Driver.createDescriptorPool, Journal.answered]
  cases (Driver.createDescriptorPool j.driver q.capacity q.poolSizes).1 with
  | error code => exact h.spared rfl
  | ok pool => exact h.madeDescriptorPool pool q.capacity

theorem allocateSets (h : KeepsPools p q j.attempts) (pool : Handle .descriptorPool)
    (layouts : List (Handle .setLayout)) :
    KeepsPools p q (Driver.allocateDescriptorSets j pool layouts).2.attempts :=
  h.spared (Attempt.spares_ofAnswer (fun _ => rfl) _)

theorem allocateGrowing (h : KeepsPools p q j.attempts) (layouts : List (Handle .setLayout)) :
    KeepsPools p (q.allocateGrowing j layouts).pools
      (q.allocateGrowing j layouts).driver.attempts := by
  have hadd := h.addPool
  unfold DescriptorPools.allocateGrowing
  split
  · rename_i heq
    rw [heq] at hadd
    exact hadd
  · rename_i grown j' messages heq
    rw [heq] at hadd
    replace hadd : KeepsPools p grown j'.attempts := hadd
    split
    · exact hadd
    · rename_i pool _
      have hasked := hadd.allocateSets pool layouts
      split
      · rename_i heq
        rwa [heq] at hasked
      · rename_i heq
        rw [heq] at hasked
        split <;> exact hasked

theorem allocateFrom (h : KeepsPools p q j.attempts) (layouts : List (Handle .setLayout))
    (remaining : List (Handle .descriptorPool)) :
    KeepsPools p (q.allocateFrom j layouts remaining).pools
      (q.allocateFrom j layouts remaining).driver.attempts := by
  induction remaining generalizing q j with
  | nil => exact h.allocateGrowing layouts
  | cons pool remaining ih =>
    have hasked := h.allocateSets pool layouts
    unfold DescriptorPools.allocateFrom
    split
    · rename_i heq
      rwa [heq] at hasked
    · rename_i heq
      rw [heq] at hasked
      split
      · exact ih (hasked.moved _)
      · exact hasked

theorem allocateCurrent (h : KeepsPools p q j.attempts) (layouts : List (Handle .setLayout)) :
    KeepsPools p (q.allocateCurrent j layouts).pools
      (q.allocateCurrent j layouts).driver.attempts := by
  unfold DescriptorPools.allocateCurrent
  split
  · exact h
  · exact h.allocateFrom layouts _

theorem allocate (h : KeepsPools p q j.attempts) (layouts : List (Handle .setLayout)) :
    KeepsPools p (q.allocate j layouts).pools (q.allocate j layouts).driver.attempts := by
  unfold DescriptorPools.allocate
  split
  · exact h
  · split
    · exact h
    · split
      · have hadd := h.addPool
        split
        · rename_i heq
          rw [heq] at hadd
          exact hadd
        · rename_i heq
          rw [heq] at hadd
          exact (hadd.moved 0).allocateCurrent layouts
      · exact h.allocateCurrent layouts

theorem resetEach (h : KeepsPools p q j.attempts) (pools : List (Handle .descriptorPool)) :
    KeepsPools p q (DescriptorPools.resetEach j pools).2.attempts := by
  induction pools generalizing j with
  | nil => exact h
  | cons pool rest ih =>
    have hreset : KeepsPools p q (Driver.resetDescriptorPool j pool).2.attempts :=
      h.spared (Attempt.spares_ofAnswer (fun _ => rfl) _)
    unfold DescriptorPools.resetEach
    split <;>
    · rename_i heq
      rw [heq] at hreset
      first
        | exact hreset
        | exact ih hreset

end

end KeepsPools

end Device

end GpuRecorder
