import GpuRecorder.Proofs.Recording.Resolve

/-!
# Calls that concern descriptor sets

Which native sets a call writes into and which it binds, and which sets are live after some calls.
Delivering a layout writes into the sets that were allocated for it and into no others.
-/

namespace GpuRecorder.Native

/-! ## 1. Reading a history -/

/-- The native sets that a call writes into. -/
def updatedSets : Call → List (Handle .descriptorSet)
  | .request (.updateSet set _ _) => [set]
  | .request (.writeDescriptors writes) => writes.map (·.set)
  | _ => []

/-- The native sets that a call binds in a command stream. -/
def boundSets : Call → List (Handle .descriptorSet)
  | .request (.record _ (.bindDescriptorSets _ _ _ sets _)) => sets
  | _ => []

/-- A call that writes into a native set or binds it. -/
def Uses (c : Call) (set : Handle .descriptorSet) : Prop := set ∈ updatedSets c ∨ set ∈ boundSets c

/-- A set is live from its allocation until its pool is reset or destroyed. -/
def liveAfter (live : List (Handle .descriptorPool × Handle .descriptorSet)) :
    Call → List (Handle .descriptorPool × Handle .descriptorSet)
  | .allocateDescriptorSets pool _ sets => live ++ sets.map (pool, ·)
  | .resetDescriptorPool pool | .destroyDescriptorPool pool => live.filter (·.1 ≠ pool)
  | _ => live

/-- The sets that are live after some calls, each with its pool. -/
def liveSets (calls : List Call) : List (Handle .descriptorPool × Handle .descriptorSet) :=
  calls.foldl liveAfter []

def IsLive (calls : List Call) (set : Handle .descriptorSet) : Prop :=
  ∃ pool, (pool, set) ∈ liveSets calls

/-- Every allocation that succeeds returns one set per layout, all different and none of them
live. -/
def IssuesFreshSets (calls : List Call) : Prop :=
  ∀ before pool layouts sets after,
    calls = before ++ .allocateDescriptorSets pool layouts sets :: after →
      sets.length = layouts.length ∧ sets.Nodup ∧ ∀ set ∈ sets, ¬ IsLive before set

/-- A call of a list stands in the first or in the second part of it. -/
theorem split_append {calls more before after : List Call} {c : Call}
    (h : calls ++ more = before ++ c :: after) :
    (∃ rest, calls = before ++ c :: rest ∧ after = rest ++ more) ∨
      ∃ rest, before = calls ++ rest ∧ more = rest ++ c :: after := by
  rcases List.append_eq_append_iff.1 h with ⟨rest, hbefore, hmore⟩ | ⟨rest, hcalls, hafter⟩
  · exact Or.inr ⟨rest, hbefore, hmore⟩
  · cases rest with
    | nil =>
      rw [List.append_nil] at hcalls
      exact Or.inr ⟨[], by rw [hcalls, List.append_nil], hafter.symm⟩
    | cons c' rest =>
      obtain ⟨rfl, rfl⟩ := List.cons.inj hafter
      exact Or.inl ⟨rest, hcalls, rfl⟩

theorem IssuesFreshSets.of_append {calls more : List Call} (h : IssuesFreshSets (calls ++ more)) :
    IssuesFreshSets calls := by
  intro before pool layouts sets after heq
  apply h before pool layouts sets (after ++ more)
  rw [heq, List.append_assoc, List.cons_append]

theorem liveSets_append (calls more : List Call) :
    liveSets (calls ++ more) = more.foldl liveAfter (liveSets calls) :=
  List.foldl_append

/-- A call that writes into descriptor sets. -/
def writesSets : Call → Bool
  | .request (.updateSet _ _ _) | .request (.writeDescriptors _) => true
  | _ => false

/-- A call that binds descriptor sets in a command stream. -/
def bindsSets : Call → Bool
  | .request (.record _ (.bindDescriptorSets _ _ _ _ _)) => true
  | _ => false

theorem boundSets_eq_nil {c : Call} (h : bindsSets c = false) : boundSets c = [] := by
  cases c with
  | request r =>
    cases r with
    | record b x =>
      cases x with
      | bindDescriptorSets point layout first sets offsets => cases h
      | _ => rfl
    | _ => rfl
  | _ => rfl

theorem bindsSets_of_writesSets {c : Call} (h : writesSets c) :
    bindsSets c = false ∧ ∀ live, liveAfter live c = live := by
  cases c with
  | request r =>
    cases r with
    | record b x => cases h
    | _ => exact ⟨rfl, fun _ => rfl⟩
  | _ => cases h

/-- The call has no part in the life of any descriptor set. -/
structure Uninvolved (c : Call) : Prop where
  live : ∀ live, liveAfter live c = live
  updated : updatedSets c = []
  binds : bindsSets c = false

theorem Uninvolved.not_uses {c : Call} (h : Uninvolved c) (set : Handle .descriptorSet) :
    ¬ Uses c set := by
  rw [Uses, h.updated, boundSets_eq_nil h.binds]
  simp

theorem foldl_liveAfter {calls : List Call} (h : ∀ c ∈ calls, ∀ live, liveAfter live c = live)
    (live : List (Handle .descriptorPool × Handle .descriptorSet)) :
    calls.foldl liveAfter live = live := by
  induction calls with
  | nil => rfl
  | cons c calls ih =>
    rw [List.foldl_cons, h c List.mem_cons_self]
    exact ih fun c' hc' => h c' (List.mem_cons_of_mem _ hc')

end GpuRecorder.Native

namespace GpuRecorder.Recording

open Native Resource Device

theorem uninvolved_of_plain {c : Call} (h : Plain c) : Uninvolved c := by
  have htarget := h.target
  have hsort := h.sort
  cases c with
  | request r =>
    cases r with
    | record b x =>
      cases x with
      | bindDescriptorSets point layout first sets offsets => exact absurd rfl hsort
      | _ => exact ⟨fun _ => rfl, rfl, rfl⟩
    | _ => cases htarget
  | begin b args => exact ⟨fun _ => rfl, rfl, rfl⟩
  | finish b => exact ⟨fun _ => rfl, rfl, rfl⟩
  | _ => cases htarget

/-- Writing a native set writes into it and does nothing else. -/
theorem writesSets_writeSet (useTemplates : Bool) (s : Shader) (l : Layout)
    (native : Handle .descriptorSet) (set : Nat) :
    ∀ c ∈ (writeSet useTemplates s l native set).calls,
      writesSets c ∧ ∀ h ∈ updatedSets c, h = native := by
  unfold writeSet
  split
  · intro c hc
    obtain rfl : c = _ := by simpa [Script.calls, Request.entries] using hc
    exact ⟨rfl, by simp [updatedSets]⟩
  · simp only
    split
    · exact fun c hc => absurd hc List.not_mem_nil
    · intro c hc
      obtain rfl : c = _ := by simpa [Script.calls, Request.entries] using hc
      refine ⟨rfl, fun h hh => ?_⟩
      obtain ⟨w, hw, rfl⟩ := List.mem_map.1 hh
      obtain ⟨x, _, hx⟩ := List.mem_filterMap.1 hw
      obtain ⟨payload, _, rfl⟩ := Option.map_eq_some_iff.1 hx
      rfl

theorem writesSets_writeEach (useTemplates : Bool) (s : Shader) (l : Layout)
    (xs : List (Handle .descriptorSet × Nat)) :
    ∀ c ∈ Script.calls (xs.map fun (native, set) => writeSet useTemplates s l native set).flatten,
      writesSets c ∧ ∀ h ∈ updatedSets c, h ∈ xs.map (·.1) := by
  induction xs with
  | nil => exact fun c hc => absurd hc List.not_mem_nil
  | cons x rest ih =>
    rw [List.map_cons, List.flatten_cons, Script.calls_append]
    intro c hc
    rcases List.mem_append.1 hc with hc | hc
    · obtain ⟨hwrites, hsets⟩ := writesSets_writeSet useTemplates s l x.1 x.2 c hc
      exact ⟨hwrites, fun h hh => by rw [hsets h hh]; exact List.mem_cons_self⟩
    · obtain ⟨hwrites, hsets⟩ := ih c hc
      exact ⟨hwrites, fun h hh => List.mem_cons_of_mem _ (hsets h hh)⟩

/-- Writing native sets writes into these sets and does nothing else. -/
theorem writesSets_writeSets (useTemplates : Bool) (s : Shader) (l : Layout)
    (natives : List (Handle .descriptorSet)) :
    ∀ c ∈ (writeSets useTemplates s l natives).calls,
      writesSets c ∧ ∀ h ∈ updatedSets c, h ∈ natives := by
  have hall := writesSets_writeEach useTemplates s l natives.zipIdx
  rwa [List.zipIdx_map_fst] at hall

end GpuRecorder.Recording
