import GpuRecorder.Proofs.Device.KeptPools
import GpuRecorder.Proofs.Device.PoolCursor
import GpuRecorder.Proofs.Session.DeviceInvariant
import GpuRecorder.Proofs.Session.TwoDrivers

/-!
# Native pools in pairs

A device keeps every native pool that was made for it.  So dropping it destroys each of them once,
descriptor pools before command pools, and nothing is asked of the driver after that.
-/

namespace GpuRecorder

open Native Resource Recording Device

open scoped List

/-! ## 1. Created and destroyed -/

/-- Every pool that was made was destroyed, as often as its handle was given, descriptor pools
first; no queue family got two command pools, and nothing is asked once a pool is destroyed. -/
structure PoolsPaired (attempts : List Attempt) : Prop where
  commandPools :
    attempts.flatMap Attempt.destroyedCommandPools ~ attempts.flatMap Attempt.commandPools
  descriptorPools :
    attempts.flatMap Attempt.destroyedDescriptorPools ~ attempts.flatMap Attempt.descriptorPools
  families : (attempts.flatMap Attempt.families).Nodup
  last : attempts.Pairwise fun earlier later => earlier.destroys → later.destroys
  order : attempts.Pairwise fun earlier later =>
    earlier.destroyedCommandPools ≠ [] → later.destroyedDescriptorPools = []

namespace Device

/-! ## 2. Dropping a device -/

/-- What dropping a device asks for. -/
def closing (p : CommandPools) (q : DescriptorPools) : List Attempt :=
  q.pools.map (fun pool => .through (.destroyDescriptorPool pool)) ++
    p.families.map fun f => .through (.destroyCommandPool f.pool)

section

variable {σ : Type}

/-- A device keeps the pools that were made for it. -/
def KeepsMade (d : Device (Journal σ)) : Prop :=
  KeepsPools d.commandPools d.descriptorPools d.driver.attempts

theorem deviceInvariant_keepsMade [Driver σ] : DeviceInvariant (KeepsMade (σ := σ)) where
  request h r := KeepsPools.spared h rfl
  beginRecording h buffer args := KeepsPools.spared h (Attempt.spares_ofAnswer (fun _ => rfl) _)
  endRecording h buffer := KeepsPools.spared h (Attempt.spares_ofAnswer (fun _ => rfl) _)
  submit h queue buffers fence := KeepsPools.spared h (Attempt.spares_ofAnswer (fun _ => rfl) _)
  requestBuffer h level family := KeepsPools.request h level family
  giveBackBuffer {d} h level family buffer := by
    show KeepsPools (d.commandPools.giveBack level family buffer).1 _ _
    unfold CommandPools.giveBack
    split
    · rename_i hfind
      exact h.setParked hfind level _
    · exact h
  allocateSets h layouts := KeepsPools.allocate h layouts
  resetSets {d} h := by
    have heach := h.resetEach d.descriptorPools.pools
    show KeepsPools d.commandPools (d.descriptorPools.reset d.driver).2.1
      (d.descriptorPools.reset d.driver).2.2.attempts
    unfold DescriptorPools.reset
    split
    · rename_i heq
      rwa [heq] at heach
    · rename_i heq
      rw [heq] at heach
      exact heach.moved 0
  held h held := h

theorem attempts_close [Driver σ] (d : Device (Journal σ)) :
    d.close.driver.attempts =
      d.driver.attempts ++ closing d.commandPools d.descriptorPools := by
  have hfold {α : Type} {f : Journal σ → α → Journal σ} {left : α → Attempt}
      (hf : ∀ j x, (f j x).attempts = j.attempts ++ [left x]) (j : Journal σ) (xs : List α) :
      (xs.foldl f j).attempts = j.attempts ++ xs.map left := by
    induction xs generalizing j with
    | nil => exact (List.append_nil _).symm
    | cons x xs ih =>
      rw [List.foldl_cons, ih, hf, List.append_assoc]
      rfl
  show (d.commandPools.families.foldl _ (d.descriptorPools.pools.foldl _ d.driver)).attempts = _
  rw [closing, ← List.append_assoc, hfold fun _ _ => rfl, hfold fun _ _ => rfl]

end

namespace KeepsPools

variable {p : CommandPools} {q : DescriptorPools} {attempts : List Attempt}

theorem destroys_of_mem_closing {a : Attempt} (h : a ∈ closing p q) : a.destroys := by
  rcases List.mem_append.1 h with h | h
  · obtain ⟨pool, -, rfl⟩ := List.mem_map.1 h
    rfl
  · obtain ⟨f, -, rfl⟩ := List.mem_map.1 h
    rfl

theorem flatMap_closing {α : Type} (f : Attempt → List α) :
    (closing p q).flatMap f =
      q.pools.flatMap (fun pool => f (.through (.destroyDescriptorPool pool))) ++
        p.families.flatMap fun g => f (.through (.destroyCommandPool g.pool)) := by
  rw [closing, List.flatMap_append, List.flatMap_map, List.flatMap_map]

theorem destroyedCommandPools_closing :
    (closing p q).flatMap Attempt.destroyedCommandPools = p.families.map (·.pool) := by
  have hnone : q.pools.flatMap (fun pool =>
      Attempt.destroyedCommandPools (.through (.destroyDescriptorPool pool))) = [] :=
    List.flatMap_eq_nil_iff.2 fun _ _ => rfl
  rw [flatMap_closing, hnone, List.nil_append, List.map_eq_flatMap]
  rfl

theorem destroyedDescriptorPools_closing :
    (closing p q).flatMap Attempt.destroyedDescriptorPools = q.pools := by
  have hnone : p.families.flatMap (fun g =>
      Attempt.destroyedDescriptorPools (.through (.destroyCommandPool g.pool))) = [] :=
    List.flatMap_eq_nil_iff.2 fun _ _ => rfl
  rw [flatMap_closing, hnone, List.append_nil]
  exact List.flatMap_singleton' q.pools

/-- Destroying what is kept pairs a history without destructions. -/
theorem paired (h : KeepsPools p q attempts) : PoolsPaired (attempts ++ closing p q) := by
  have hstood {α : Type} {f : Attempt → List α} (hf : ∀ {a}, a.destroys = false → f a = []) :
      (attempts ++ closing p q).flatMap f = (closing p q).flatMap f := by
    rw [List.flatMap_append, List.flatMap_eq_nil_iff.2 fun a ha => hf (h.standing a ha),
      List.nil_append]
  have hmade {α : Type} {f : Attempt → List α} (hf : ∀ {a}, a.destroys → f a = []) :
      (attempts ++ closing p q).flatMap f = attempts.flatMap f := by
    rw [List.flatMap_append, List.flatMap_eq_nil_iff.2 fun a ha => hf (destroys_of_mem_closing ha),
      List.append_nil]
  refine ⟨?_, ?_, ?_, ?_, ?_⟩
  · rw [hstood fun h => (Attempt.of_not_destroys h).1, hmade fun h => (Attempt.of_destroys h).1,
      destroyedCommandPools_closing, h.commandPools]
  · rw [hstood fun h => (Attempt.of_not_destroys h).2, hmade fun h => (Attempt.of_destroys h).2.2,
      destroyedDescriptorPools_closing, h.descriptorPools]
  · rw [hmade fun h => (Attempt.of_destroys h).2.1, ← h.families]
    exact h.distinct
  · -- Destructions come last.
    refine List.pairwise_append.2 ⟨?_, ?_, fun _ _ b hb _ => destroys_of_mem_closing hb⟩
    · exact List.pairwise_of_forall_mem_list fun a ha b hb hdestroys => by
        rw [h.standing a ha] at hdestroys
        cases hdestroys
    · exact List.pairwise_of_forall_mem_list fun a ha b hb _ => destroys_of_mem_closing hb
  · -- Among them those of descriptor pools come first.
    rw [closing, ← List.append_assoc]
    have hearlier : ∀ a ∈ attempts ++ q.pools.map fun x => .through (.destroyDescriptorPool x),
        a.destroyedCommandPools = [] := by
      intro a ha
      rcases List.mem_append.1 ha with ha | ha
      · exact (Attempt.of_not_destroys (h.standing a ha)).1
      · obtain ⟨pool, -, rfl⟩ := List.mem_map.1 ha
        rfl
    have hlater : ∀ b ∈ p.families.map (fun f => Attempt.through (.destroyCommandPool f.pool)),
        b.destroyedDescriptorPools = [] := by
      intro b hb
      obtain ⟨f, -, rfl⟩ := List.mem_map.1 hb
      rfl
    refine List.pairwise_append.2 ⟨?_, ?_, fun _ _ b hb _ => hlater b hb⟩
    · exact List.pairwise_of_forall_mem_list fun a ha _ _ hne => absurd (hearlier a ha) hne
    · exact List.pairwise_of_forall_mem_list fun _ _ b hb _ => hlater b hb

end KeepsPools

end Device

/-! ## 3. Every run -/

namespace Bench

variable {σ : Type} [Driver σ]

/-- Whatever is asked of a device and of its command buffers, in whatever order, and whatever its
driver refuses: once the command buffers and the device are dropped, every native pool that was
made has been destroyed, once if no handle was given twice, and all that was asked since the first
destruction are destructions, of descriptor pools before command pools.  No queue family got two
command pools. -/
theorem pools_created_and_destroyed_in_pairs (flip : Switch → σ → σ) (driver : σ)
    (available : Capabilities) (settings : Settings) {tasks : List Task}
    (notClosed : ∀ t ∈ tasks, t ≠ .close) :
    let used := (start ({ driver } : Journal σ) available settings).run
      (fun x => Journal.adjust (flip x)) tasks
    let attempts := used.session.close.device.driver.attempts
    PoolsPaired attempts ∧
      ((attempts.flatMap Attempt.commandPools).Nodup →
        ∀ pool ∈ attempts.flatMap Attempt.commandPools,
          (attempts.flatMap Attempt.destroyedCommandPools).count pool = 1) ∧
      ((attempts.flatMap Attempt.descriptorPools).Nodup →
        ∀ pool ∈ attempts.flatMap Attempt.descriptorPools,
          (attempts.flatMap Attempt.destroyedDescriptorPools).count pool = 1) := by
  intro used attempts
  have hstart : KeepsMade (start ({ driver } : Journal σ) available settings).session.device :=
    ⟨rfl, rfl, rfl, List.nodup_nil, fun _ ha => absurd ha List.not_mem_nil⟩
  have hused : KeepsMade used.session.device :=
    deviceInvariant_keepsMade.tasks (fun h _ => h) hstart notClosed
  have hreleased : KeepsMade used.session.releaseAll.device :=
    deviceInvariant_keepsMade.releaseAll hused
  have hpaired : PoolsPaired attempts := by
    show PoolsPaired used.session.releaseAll.device.close.driver.attempts
    rw [attempts_close]
    exact KeepsPools.paired hreleased
  refine ⟨hpaired, fun fresh pool hpool => ?_, fun fresh pool hpool => ?_⟩
  · rw [hpaired.commandPools.count_eq]
    exact List.count_eq_one_of_mem fresh hpool
  · rw [hpaired.descriptorPools.count_eq]
    exact List.count_eq_one_of_mem fresh hpool

/-- Making a pool, allocating from it and resetting it are refused and tried again; the descriptor
pools grow at the second try. -/
def refusedTasks : List Task :=
  let first : Task := .act (.perform 0 (.setUp .primary ⟨⟨800⟩, 0⟩))
  [.act .create, .act .create, first, first, first,
    .act (.perform 1 (.setUp .secondary ⟨⟨801⟩, 1⟩)),
    .allocateSets [⟨510⟩], .allocateSets [⟨510⟩], .act .resetSets, .act .resetSets,
    .allocateSets [⟨510⟩], .borrow .primary 0]

def refusingDriver : Prepared where
  outcomes := [some .outOfDeviceMemory, none, some .outOfDeviceMemory, none, none, none, none, none,
    some .outOfPoolMemory, some .outOfDeviceMemory, some .outOfDeviceMemory, none,
    some .outOfPoolMemory, none, none]

theorem pools_paired_despite_refusals :
    let used := (start ({ driver := refusingDriver } : Journal Prepared) {} {}).run
      (fun _ => Journal.adjust id) refusedTasks
    let attempts := used.session.close.device.driver.attempts
    (∀ t ∈ refusedTasks, t ≠ .close) ∧ (attempts.filterMap Attempt.refusal?).length = 6 ∧
      attempts.flatMap Attempt.commandPools = [⟨1⟩, ⟨3⟩] ∧
      attempts.flatMap Attempt.descriptorPools = [⟨5⟩, ⟨7⟩] ∧ PoolsPaired attempts ∧
      (∀ pool ∈ attempts.flatMap Attempt.commandPools,
        (attempts.flatMap Attempt.destroyedCommandPools).count pool = 1) ∧
      ∀ pool ∈ attempts.flatMap Attempt.descriptorPools,
        (attempts.flatMap Attempt.destroyedDescriptorPools).count pool = 1 := by
  have notClosed : ∀ t ∈ refusedTasks, t ≠ .close := by simp [refusedTasks]
  obtain ⟨paired, commandPools, descriptorPools⟩ :=
    pools_created_and_destroyed_in_pairs (fun _ => id) refusingDriver {} {} notClosed
  exact ⟨notClosed, by decide +kernel, by decide +kernel, by decide +kernel, paired,
    commandPools (by decide +kernel), descriptorPools (by decide +kernel)⟩

end Bench

end GpuRecorder
