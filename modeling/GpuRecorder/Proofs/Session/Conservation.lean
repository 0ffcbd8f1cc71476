import GpuRecorder.Proofs.Recording.Observed
import GpuRecorder.Proofs.Session.FreshHandles
import GpuRecorder.Proofs.Session.Stream

/-!
# Conservation of command buffers

Over any driver, which may refuse at any point: whatever the command buffers of a session are set
up for, set up for again and released, all the native buffers that were ever allocated are there,
each held by one command buffer or parked in one place, under the level and the family it was
allocated for.  Dropping a command buffer is releasing it.
-/

namespace GpuRecorder

open Native Resource Recording Device

open scoped List

namespace Session

variable {σ : Type}

variable [Driver σ]

/-! ## 1. One operation -/

/-- A command buffer holds what fits its kind and its queue. -/
def Fits (c : CommandBuffer) : Prop :=
  ∀ n, c.native = some n → n.level = c.kind.level ∧ c.queue.map (·.family) = some n.family

theorem fits_perform {c : CommandBuffer} (h : Fits c) (d : Device σ) (s : Store) (op : Operation) :
    Fits (c.perform d s op).buffer := by
  by_cases hmoves : op.moves = false
  · obtain ⟨hnative, hkind, hqueue⟩ := c.frame_perform d s hmoves
    intro n hn
    rw [hkind, hqueue]
    exact h n (hnative ▸ hn)
  · cases op with
    | setUp kind queue =>
      show Fits (c.setUp d kind queue).buffer
      rw [(CommandBuffer.setUp_spec c d kind queue).2]
      intro n hn
      obtain ⟨handle, _, rfl⟩ := Option.map_eq_some_iff.1 hn
      exact ⟨rfl, rfl⟩
    | release => exact fun n hn => nomatch hn
    | _ => exact absurd rfl hmoves

theorem ledger_perform (counts : CountsBuffers σ) {c : CommandBuffer} {d : Device (Observed σ)} {others : List NativeBuffer}
    (h : Ledger (c.native.toList ++ others) d.commandPools d.driver.history) (s : Store)
    (op : Operation) :
    Ledger ((c.perform d s op).buffer.native.toList ++ others)
      (c.perform d s op).outcome.device.commandPools
      (c.perform d s op).outcome.device.driver.history := by
  -- Only borrowing and giving back concern the ledger.
  by_cases hmoves : op.moves = false
  · rw [(c.frame_perform d s hmoves).1, c.commandPools_perform d s hmoves]
    obtain ⟨calls, hhistory, hcalls⟩ := c.lends_perform d s hmoves
    rw [hhistory]
    exact h.append (handedOut_eq_nil hcalls)
  have hreleased : Ledger others (c.release d).outcome.device.commandPools
      (c.release d).outcome.device.driver.history := by
    rw [CommandBuffer.driver_release]
    cases hn : c.native with
    | none =>
      rw [CommandBuffer.release_of_not_ready hn]
      rwa [hn] at h
    | some n =>
      rw [hn] at h
      simp only [CommandBuffer.release, hn, giveBackBuffer]
      exact h.giveBack
  cases op with
  | setUp kind queue =>
    simp only [CommandBuffer.perform, CommandBuffer.asked]
    rw [(CommandBuffer.setUp_spec c d kind queue).1, (CommandBuffer.setUp_spec c d kind queue).2]
    have hlent := hreleased.request counts kind queue.family
    simp only [requestBuffer]
    generalize (c.release d).outcome.device.commandPools.request
      (c.release d).outcome.device.driver kind.level queue.family = lent at hlent ⊢
    obtain ⟨answer, pools, driver, messages⟩ := lent
    cases answer with
    | error e => exact hlent
    | ok handle => exact hlent
  | release => exact hreleased
  | _ => exact absurd rfl hmoves

/-! ## 2. A run -/

/-- The ledger of a session, and that every command buffer holds what fits it. -/
structure Kept (s : Session (Observed σ)) : Prop where
  ledger : Ledger s.held s.device.commandPools s.history
  fits : ∀ c ∈ s.buffers, Fits c

theorem kept_perform (counts : CountsBuffers σ) {s : Session (Observed σ)} (h : s.Kept) (n : Nat)
    (op : Operation) : (s.perform n op).session.Kept := by
  unfold perform
  split
  · exact h
  · rename_i c found
    obtain ⟨others, hheld, hset⟩ := held_set found
    refine ⟨?_, fun c' hc' => ?_⟩
    · exact (ledger_perform counts (h.ledger.of_perm hheld) s.store op).of_perm (hset _).symm
    · rcases List.mem_or_eq_of_mem_set hc' with hc' | rfl
      · exact h.fits c' hc'
      · exact fits_perform (h.fits c (List.mem_of_getElem? found)) _ _ op

theorem kept_step (counts : CountsBuffers σ) {s : Session (Observed σ)} (h : s.Kept) (a : Action) :
    (s.step a).session.Kept := by
  cases a with
  | change c => exact ⟨h.ledger, h.fits⟩
  | create =>
    refine ⟨?_, fun c hc => ?_⟩
    · have hheld : (s.step .create).session.held = s.held := by
        show List.filterMap (·.native) (s.buffers ++ [({} : CommandBuffer)]) = s.held
        rw [List.filterMap_append]
        exact List.append_nil _
      rw [hheld]
      exact h.ledger
    · rcases List.mem_append.1 hc with hc | hc
      · exact h.fits c hc
      · rw [List.mem_singleton.1 hc]
        exact fun n hn => nomatch hn
  | perform n op => exact kept_perform counts h n op
  | execute n children => exact kept_perform counts h n _
  | submit queue buffers fence =>
    simp only [step, ofDevice, Device.submit]
    split
    · exact ⟨h.ledger, h.fits⟩
    · refine ⟨h.ledger.append ?_, h.fits⟩
      cases (Driver.submit s.device.driver.driver queue _ fence).1 <;> rfl
  | resetSets =>
    obtain ⟨calls, hhistory, hcalls⟩ := history_resetEach s.device.descriptorPools.pools
      s.device.driver
    refine ⟨?_, h.fits⟩
    have hsame : (s.step .resetSets).session.history = s.history ++ calls := by
      show _ = s.device.driver.history ++ calls
      rw [← hhistory]
      simp only [history, step, ofDevice, Device.resetSets, DescriptorPools.reset]
      split <;>
      · rename_i heq
        rw [heq]
    rw [hsame]
    refine h.ledger.append (handedOut_eq_nil fun c hc => ?_)
    obtain ⟨pool, rfl⟩ := hcalls c hc
    rfl

theorem kept_run (counts : CountsBuffers σ) (driver : σ) (available : Capabilities)
    (settings : Settings) (actions : List Action) :
    ((observed driver available settings).run actions).Kept := by
  induction actions using List.reverseRecOn with
  | nil =>
    refine ⟨⟨List.nodup_nil, ?_, ?_, ?_, List.Perm.refl _, ?_⟩, ?_⟩ <;>
    exact fun _ h => absurd h List.not_mem_nil
  | append_singleton actions a ih =>
    rw [run_append]
    exact kept_step counts ih a

/-- Every native command buffer that was allocated is held by one command buffer or parked in one
place, and what is held or parked has the level and the family it was allocated for; what a command
buffer holds fits its kind and its queue. -/
structure Conserved (s : Session (Observed σ)) : Prop where
  all : (s.held ++ s.device.commandPools.parkedBuffers).map (·.handle) ~ handedOut s.history
  once : ((s.held ++ s.device.commandPools.parkedBuffers).map (·.handle)).Nodup
  origin : ∀ n : NativeBuffer,
    n ∈ s.held ++ s.device.commandPools.parkedBuffers ↔ n.AllocatedBy s.history
  fits : ∀ c ∈ s.buffers, Fits c

theorem buffers_conserved (counts : CountsBuffers σ) (driver : σ) (available : Capabilities)
    (settings : Settings) (actions : List Action)
    (fresh : FreshBuffers ((observed driver available settings).run actions).history) :
    ((observed driver available settings).run actions).Conserved := by
  have hkept := kept_run counts driver available settings actions
  refine ⟨hkept.ledger.all, hkept.ledger.all.nodup_iff.2 fresh.buffers, fun n => ?_, hkept.fits⟩
  refine ⟨hkept.ledger.origin n, fun hn => ?_⟩
  -- What was handed out is somewhere, and there it is as it was allocated.
  obtain ⟨m, hm, heq⟩ := List.mem_map.1 (hkept.ledger.all.mem_iff.2 hn.mem_handedOut)
  rwa [fresh.allocated_unique hn (hkept.ledger.origin m hm) heq.symm]

/-- A buffer is set up again for another kind and queue, and another one gets what was parked. -/
def reusedBuffers : List Action := [
  .create, .create,
  .perform 0 (.setUp .primary ⟨⟨800⟩, 0⟩),
  .perform 1 (.setUp .primary ⟨⟨800⟩, 0⟩),
  .perform 0 (.setUp .secondary ⟨⟨801⟩, 1⟩),
  .perform 1 .release,
  .perform 1 (.setUp .primary ⟨⟨800⟩, 0⟩)]

theorem reusedBuffers_conserved :
    let s := (observed ({} : Trace) {} {}).run reusedBuffers
    CountsBuffers Trace ∧ FreshBuffers s.history ∧ s.Conserved ∧
      s.held.map (·.handle) = [⟨4100⟩, ⟨4098⟩] ∧
        s.device.commandPools.parkedBuffers.map (·.handle) = [⟨4097⟩] :=
  have hfresh := (numbered_run {} {} reusedBuffers).buffers
  ⟨countsBuffers_trace, hfresh,
    buffers_conserved countsBuffers_trace {} {} {} reusedBuffers hfresh, by decide +kernel,
    by decide +kernel⟩

end Session

end GpuRecorder
