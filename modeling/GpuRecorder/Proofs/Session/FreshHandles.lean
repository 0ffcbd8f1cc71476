import GpuRecorder.Proofs.Device.Ledger
import GpuRecorder.Proofs.Native.Renaming
import GpuRecorder.Proofs.Recording.SetUse
import GpuRecorder.Proofs.Session.Driving

/-!
# Fresh handles on a trace

A trace numbers the handles it hands out one after the other.  So in every run of a session on an
observed trace no command buffer, command pool or descriptor set is handed out twice.
-/

namespace GpuRecorder.Native

/-- A call that hands out command pools, command buffers or descriptor sets. -/
def mints : Call → Bool
  | .createCommandPool _ _ | .allocateCommandBuffers _ _ _ | .allocateDescriptorSets _ _ _ => true
  | _ => false

/-- Handles are numbered below the next number, and none was handed out twice. -/
structure Numbered (calls : List Call) (next : Nat) : Prop where
  buffers : FreshBuffers calls
  sets : IssuesFreshSets calls
  handed : ∀ h ∈ handedOut calls, h.number < next
  made : ∀ h ∈ madePools calls, h.number < next
  live : ∀ x ∈ liveSets calls, x.2.number < next

namespace Numbered

variable {calls : List Call} {next next' : Nat} {c : Call}

theorem empty (next : Nat) : Numbered [] next where
  buffers := ⟨List.nodup_nil, List.nodup_nil⟩
  sets := fun before pool layouts sets after heq => by simp at heq
  handed := fun _ h => absurd h List.not_mem_nil
  made := fun _ h => absurd h List.not_mem_nil
  live := fun _ h => absurd h List.not_mem_nil

/-- One more call that hands out new handles, if any. -/
theorem concat (h : Numbered calls next) (hnext : next ≤ next')
    (hbuffers : New next next' (handedOut [c])) (hpools : New next next' (madePools [c]))
    (hsets : ∀ pool layouts sets, c = .allocateDescriptorSets pool layouts sets →
      sets.length = layouts.length ∧ New next next' sets) : Numbered (calls ++ [c]) next' := by
  have hmade : madePools (calls ++ [c]) = madePools calls ++ madePools [c] := List.flatMap_append
  refine ⟨⟨?_, ?_⟩, ?_, ?_, ?_, ?_⟩
  · rw [handedOut_append]
    exact nodup_append_of_new h.buffers.buffers h.handed hbuffers
  · rw [hmade]
    exact nodup_append_of_new h.buffers.pools h.made hpools
  · intro before pool layouts sets after heq
    rcases split_append heq with ⟨rest, hbefore, _⟩ | ⟨rest, hbefore, hlast⟩
    · exact h.sets before pool layouts sets rest hbefore
    · cases rest with
      | cons c' rest => simp at hlast
      | nil =>
        obtain ⟨rfl, rfl⟩ := List.cons.inj hlast
        rw [List.append_nil] at hbefore
        obtain ⟨hlength, hnodup, hnew⟩ := hsets pool layouts sets rfl
        refine ⟨hlength, hnodup, fun set hset hlive => ?_⟩
        obtain ⟨pool', hmem⟩ := hlive
        rw [hbefore] at hmem
        have hlt : set.number < next := h.live _ hmem
        have hle := (hnew set hset).1
        omega
  · rw [handedOut_append]
    intro x hx
    rcases List.mem_append.1 hx with hx | hx
    · exact Nat.lt_of_lt_of_le (h.handed x hx) hnext
    · exact (hbuffers.2 x hx).2
  · rw [hmade]
    intro x hx
    rcases List.mem_append.1 hx with hx | hx
    · exact Nat.lt_of_lt_of_le (h.made x hx) hnext
    · exact (hpools.2 x hx).2
  · rw [liveSets_append]
    intro x hx
    have hold (hmem : x ∈ liveSets calls) : x.2.number < next' :=
      Nat.lt_of_lt_of_le (h.live x hmem) hnext
    cases c with
    | allocateDescriptorSets pool layouts sets =>
      rcases List.mem_append.1 hx with hx | hx
      · exact hold hx
      · obtain ⟨set, hset, rfl⟩ := List.mem_map.1 hx
        exact ((hsets pool layouts sets rfl).2.2 set hset).2
    | resetDescriptorPool pool => exact hold (List.mem_filter.1 hx).1
    | destroyDescriptorPool pool => exact hold (List.mem_filter.1 hx).1
    | _ => exact hold hx

/-- One more call that hands out nothing. -/
theorem concat_of_not_mints (h : Numbered calls next) (hc : mints c = false) :
    Numbered (calls ++ [c]) next := by
  refine h.concat (Nat.le_refl _) ?_ ?_ ?_
  · cases c with
    | allocateCommandBuffers pool level buffers => cases hc
    | _ => exact new_nil
  · cases c with
    | createCommandPool family pool => cases hc
    | _ => exact new_nil
  · rintro pool layouts sets rfl
    cases hc

theorem append_requests (h : Numbered calls next) (requests : List Request) :
    Numbered (calls ++ requests.map .request) next := by
  induction requests generalizing calls with
  | nil => rwa [List.map_nil, List.append_nil]
  | cons r requests ih =>
    rw [List.map_cons, ← List.singleton_append, ← List.append_assoc]
    exact ih (h.concat_of_not_mints rfl)

end Numbered

theorem countsBuffers_trace : CountsBuffers Trace := by
  intro t t' pool level count buffers h
  simp only [Driver.allocateCommandBuffers, Trace.allocateCommandBuffers] at h
  split at h
  · cases h
  · cases h
    exact Handle.length_freshList _ _

end GpuRecorder.Native

namespace GpuRecorder

open Native Resource Recording Device

theorem driverCalls_numbered : DriverCalls fun o o' : Observed Trace =>
    Numbered o.history o.driver.next → Numbered o'.history o'.driver.next where
  refl _ := id
  trans h h' := h' ∘ h
  createCommandPool o family h := by
    have hnew : New o.driver.next (o.driver.next + 1)
        (Handle.freshList o.driver.next 1 : List (Handle .commandPool)) :=
      new_freshList (Nat.le_refl _)
    exact h.concat (Nat.le_succ _) new_nil hnew (by simp)
  allocateCommandBuffers o pool level count h := by
    show Numbered (o.answered _ (o.driver.allocateCommandBuffers pool level count)).2.history
      (o.answered _ (o.driver.allocateCommandBuffers pool level count)).2.driver.next
    unfold Trace.allocateCommandBuffers
    split
    · rwa [Observed.answered_error]
    · refine h.concat (Nat.le_add_right _ count) ?_ new_nil (by simp)
      rw [handedOut, List.flatMap_singleton]
      exact new_freshList (Nat.le_refl _)
  createDescriptorPool o maxSets sizes h := by
    exact h.concat (Nat.le_succ _) new_nil new_nil (by simp)
  allocateDescriptorSets o pool layouts h := by
    show Numbered (o.answered _ (o.driver.allocateDescriptorSets pool layouts)).2.history
      (o.answered _ (o.driver.allocateDescriptorSets pool layouts)).2.driver.next
    unfold Trace.allocateDescriptorSets
    split
    · rwa [Observed.answered_error]
    · rwa [Observed.answered_error]
    · split
      · rwa [Observed.answered_error]
      · refine h.concat (Nat.le_add_right _ layouts.length) new_nil new_nil ?_
        rintro _ _ _ ⟨⟩
        exact ⟨Handle.length_freshList _ _, new_freshList (Nat.le_refl _)⟩
  resetDescriptorPool o pool h := h.concat_of_not_mints rfl
  submit o queue buffers fence h := h.concat_of_not_mints rfl
  beginRecording o buffer args h := h.concat_of_not_mints rfl
  endRecording o buffer h := h.concat_of_not_mints rfl
  request o r h := by
    have hnext : (Driver.request o r).2.driver.next = o.driver.next := by
      show (o.driver.request r).2.next = o.driver.next
      rw [Trace.request_eq_noteAll]
      rfl
    rw [hnext]
    exact h.append_requests r.entries

namespace Session

/-- In every run on an observed trace the handles are numbered. -/
theorem numbered_run (available : Capabilities) (settings : Settings) (actions : List Action) :
    let s := (observed ({} : Trace) available settings).run actions
    Numbered s.history s.device.driver.driver.next :=
  driverCalls_numbered.run (observed {} available settings) actions (Numbered.empty _)

end Session

end GpuRecorder
