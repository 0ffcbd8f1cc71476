import GpuRecorder.Proofs.Device.Asking
import GpuRecorder.Proofs.Device.TracePools
import Mathlib.Data.List.Induction

/-!
# What a history says about the descriptor pools

A history tells which sets were issued and how many of them each pool has given away since it was
made or last reset.  A trace keeps the same books: what it has written down for a pool is what the
history says (`Books`), and no call of a session makes the two differ.
-/

namespace GpuRecorder.Native

open Device Draw

/-! ## 1. Reading a history -/

/-- The descriptor sets that some calls allocated, in order. -/
def issuedSets (calls : List Call) : List (Handle .descriptorSet) :=
  calls.flatMap fun
    | .allocateDescriptorSets _ _ sets => sets
    | _ => []

/-- What a pool has given away, after one more call. -/
def takenAfter (pool : Handle .descriptorPool) (taken : Nat) : Call → Nat
  | .createDescriptorPool made _ => if made = pool then 0 else taken
  | .resetDescriptorPool reset => if reset = pool then 0 else taken
  | .allocateDescriptorSets asked _ sets => if asked = pool then taken + sets.length else taken
  | _ => taken

/-- The sets that were allocated from a pool since it was made or last reset. -/
def takenFrom (pool : Handle .descriptorPool) (calls : List Call) : Nat :=
  calls.foldl (takenAfter pool) 0

/-- No pool has given away more than it was made for. -/
def WithinRoom (calls : List Call) : Prop :=
  ∀ pool maxSets, .createDescriptorPool pool maxSets ∈ calls → takenFrom pool calls ≤ maxSets

/-- No pool has given away more than a count can show. -/
def WithinCount (calls : List Call) : Prop :=
  ∀ pool maxSets, .createDescriptorPool pool maxSets ∈ calls → takenFrom pool calls ≤ maxCount

/-- Pools that were made for fewer sets than a count can show are within their room. -/
def WithinRoomBelow (calls : List Call) : Prop :=
  ∀ pool maxSets, .createDescriptorPool pool maxSets ∈ calls → maxSets < maxCount →
    takenFrom pool calls ≤ maxSets

/-- A call that makes a descriptor pool, resets one or allocates from one. -/
def changesBooks : Call → Bool
  | .createDescriptorPool _ _ | .resetDescriptorPool _ | .allocateDescriptorSets _ _ _ => true
  | _ => false

theorem issuedSets_append (calls more : List Call) :
    issuedSets (calls ++ more) = issuedSets calls ++ issuedSets more := by
  simp [issuedSets]

@[simp] theorem takenFrom_concat (pool : Handle .descriptorPool) (calls : List Call) (c : Call) :
    takenFrom pool (calls ++ [c]) = takenAfter pool (takenFrom pool calls) c := by
  simp [takenFrom]

theorem issuedSets_of_changesNoBooks {c : Call} (h : changesBooks c = false) :
    issuedSets [c] = [] := by
  cases c with
  | allocateDescriptorSets pool layouts sets => cases h
  | _ => rfl

theorem takenAfter_of_changesNoBooks {c : Call} (h : changesBooks c = false)
    (pool : Handle .descriptorPool) (taken : Nat) : takenAfter pool taken c = taken := by
  cases c with
  | createDescriptorPool made maxSets => cases h
  | resetDescriptorPool reset => cases h
  | allocateDescriptorSets asked layouts sets => cases h
  | _ => rfl

/-! ## 2. The books of a trace -/

namespace Trace

/-- What a trace has written down about sets and pools is what a history says of them, and the
history never took more from a pool than there was, as far as a count can tell. -/
structure Books (calls : List Call) (t : Trace) : Prop where
  fresh : t.Fresh
  issued : ∀ set ∈ issuedSets calls, set.number < t.next
  made : ∀ pool maxSets, .createDescriptorPool pool maxSets ∈ calls →
    t.Holds pool maxSets (takenFrom pool calls)
  within : ∀ past, past <+: calls → WithinRoomBelow past

theorem books_nil {t : Trace} (hfresh : t.Fresh) : Books [] t where
  fresh := hfresh
  issued := fun _ h => absurd h List.not_mem_nil
  made := fun _ _ h => absurd h List.not_mem_nil
  within := by
    intro past hpast pool maxSets hmem
    rw [List.prefix_nil.1 hpast] at hmem
    cases hmem

namespace Books

variable {calls : List Call} {t t' : Trace}

theorem mono (h : Books calls t) (hpools : t'.pools = t.pools) (hnext : t.next ≤ t'.next) :
    Books calls t' where
  fresh := (KeepsPools.of_pools_eq hpools hnext).fresh h.fresh
  issued := fun set hset => Nat.lt_of_lt_of_le (h.issued set hset) hnext
  made := fun pool maxSets hmem => (h.made pool maxSets hmem).mono hpools
  within := h.within

/-- One more call: the books have to agree again, and the pools must have had the room. -/
theorem concat (h : Books calls t) {c : Call} (hfresh : t'.Fresh) (hnext : t.next ≤ t'.next)
    (hissued : ∀ set ∈ issuedSets [c], set.number < t'.next)
    (hmade : ∀ pool maxSets, .createDescriptorPool pool maxSets ∈ calls ++ [c] →
      (maxSets < maxCount → takenAfter pool (takenFrom pool calls) c ≤ maxSets) ∧
        t'.Holds pool maxSets (takenAfter pool (takenFrom pool calls) c)) :
    Books (calls ++ [c]) t' where
  fresh := hfresh
  issued := by
    intro set hset
    rw [issuedSets_append] at hset
    rcases List.mem_append.1 hset with hold | hnew
    · exact Nat.lt_of_lt_of_le (h.issued set hold) hnext
    · exact hissued set hnew
  made := by
    intro pool maxSets hmem
    rw [takenFrom_concat]
    exact (hmade pool maxSets hmem).2
  within := by
    intro past hpast
    rcases List.prefix_concat_iff.1 hpast with rfl | hpast
    · intro pool maxSets hmem
      rw [takenFrom_concat]
      exact (hmade pool maxSets hmem).1
    · exact h.within past hpast

/-- What a pool has given away by now is within its room. -/
theorem taken_le (h : Books calls t) {pool : Handle .descriptorPool} {maxSets : Nat}
    (hmem : .createDescriptorPool pool maxSets ∈ calls) (hlt : maxSets < maxCount) :
    takenFrom pool calls ≤ maxSets :=
  h.within calls List.prefix_rfl pool maxSets hmem hlt

theorem concat_of_changesNoBooks (h : Books calls t) {c : Call} (hc : changesBooks c = false)
    (hpools : t'.pools = t.pools) (hnext : t.next ≤ t'.next) : Books (calls ++ [c]) t' := by
  have hmono := h.mono hpools hnext
  refine h.concat hmono.fresh hnext ?_ fun pool maxSets hmem => ?_
  · rw [issuedSets_of_changesNoBooks hc]
    exact fun set hset => absurd hset List.not_mem_nil
  · have hold : Call.createDescriptorPool pool maxSets ∈ calls := by
      rcases List.mem_append.1 hmem with hold | hnew
      · exact hold
      · rw [← List.mem_singleton.1 hnew] at hc
        cases hc
    rw [takenAfter_of_changesNoBooks hc]
    exact ⟨h.taken_le hold, hmono.made pool maxSets hold⟩

theorem noteAll (h : Books calls t) {new : List Call}
    (hnew : ∀ c ∈ new, changesBooks c = false) : Books (calls ++ new) (t.noteAll new) := by
  refine mono (t := t) ?_ rfl (Nat.le_refl _)
  induction new using List.reverseRecOn with
  | nil =>
    rw [List.append_nil]
    exact h
  | append_singleton new c ih =>
    rw [← List.append_assoc]
    have hearlier := ih fun c' hc' => hnew c' (List.mem_append_left _ hc')
    exact hearlier.concat_of_changesNoBooks (hnew c (by simp)) rfl (Nat.le_refl _)

/-- A pool that is made gets a number of its own and has given away nothing. -/
theorem createDescriptorPool (h : Books calls t) (maxSets : Nat) :
    Books (calls ++ [.createDescriptorPool ⟨t.next⟩ maxSets])
      (t.createDescriptorPool maxSets).2 := by
  obtain ⟨hempty, hothers⟩ := holds_createDescriptorPool h.fresh maxSets
  have hkeeps := (t.createDescriptorPool_spec maxSets).1
  refine h.concat (hkeeps.fresh h.fresh) hkeeps.next_le (by simp [issuedSets])
    fun pool room hmem => ?_
  rcases List.mem_append.1 hmem with hold | hnew
  · have hholds := h.made pool room hold
    have hother : (⟨t.next⟩ : Handle .descriptorPool) ≠ pool := by
      obtain ⟨_, hfind, _⟩ := hholds
      rintro rfl
      exact Nat.lt_irrefl _ (h.fresh _ (List.mem_of_find?_eq_some hfind))
    simp only [takenAfter, if_neg hother]
    exact ⟨h.taken_le hold, hothers _ _ _ hholds⟩
  · cases List.mem_singleton.1 hnew
    simp only [takenAfter, if_true]
    exact ⟨fun _ => Nat.zero_le _, hempty⟩

theorem resetDescriptorPool (h : Books calls t) (reset : Handle .descriptorPool) :
    Books (calls ++ [.resetDescriptorPool reset]) (t.resetDescriptorPool reset) := by
  have hkeeps : KeepsPools t (t.resetDescriptorPool reset) := .of_update rfl (Nat.le_refl _)
  refine h.concat (hkeeps.fresh h.fresh) hkeeps.next_le (by simp [issuedSets])
    fun pool maxSets hmem => ?_
  have hold : Call.createDescriptorPool pool maxSets ∈ calls := by simpa using hmem
  refine ⟨fun hlt => ?_, (h.made pool maxSets hold).reset rfl⟩
  rw [takenAfter]
  split
  · exact Nat.zero_le _
  · exact h.taken_le hold hlt

/-- Sets are only granted by a pool that is not full for them. -/
theorem allocateDescriptorSets (h : Books calls t) {asked : Handle .descriptorPool}
    {layouts : List (Handle .setLayout)} {sets : List (Handle .descriptorSet)}
    (hgrants : GrantsFrom t asked layouts sets t') :
    Books (calls ++ [.allocateDescriptorSets asked layouts sets]) t' := by
  obtain ⟨⟨usage, hasked, hroom⟩, rfl, hpools, hnext, _⟩ := hgrants
  have hle : t.next ≤ t'.next := by omega
  have hkeeps : KeepsPools t t' := .of_update hpools hle
  refine h.concat (hkeeps.fresh h.fresh) hle (fun set hset => ?_) fun pool maxSets hmem => ?_
  · have hbounds := Handle.mem_freshList.1 (show set ∈ Handle.freshList t.next layouts.length by
      simpa [issuedSets] using hset)
    omega
  · have hold : Call.createDescriptorPool pool maxSets ∈ calls := by simpa using hmem
    have hholds := h.made pool maxSets hold
    have hfits : asked = pool → maxSets < maxCount →
        takenFrom pool calls + layouts.length ≤ maxSets := by
      rintro rfl hlt
      obtain ⟨u, hfind, hfull⟩ := hholds.isFullFor_iff layouts.length
      cases hasked.symm.trans hfind
      rw [hfull, saturate] at hroom
      omega
    rw [takenAfter, Handle.length_freshList]
    refine ⟨fun hlt => ?_, hholds.give hpools hfits⟩
    split
    · rename_i hpool
      exact hfits hpool hlt
    · exact h.taken_le hold hlt

end Books

/-! ## 3. Between two moments -/

/-- Whatever history the books agreed with, they agree with it and what was written down since. -/
def KeepsBooks (t t' : Trace) : Prop :=
  ∃ new, t'.log.toList = t.log.toList ++ new ∧ ∀ calls, Books calls t → Books (calls ++ new) t'

namespace KeepsBooks

variable {t t' t'' : Trace}

theorem refl (t : Trace) : KeepsBooks t t :=
  ⟨[], by simp, by simp⟩

theorem trans (h : KeepsBooks t t') (h' : KeepsBooks t' t'') : KeepsBooks t t'' := by
  obtain ⟨new, hlog, hbooks⟩ := h
  obtain ⟨new', hlog', hbooks'⟩ := h'
  refine ⟨new ++ new', by rw [hlog', hlog, List.append_assoc], fun calls hcalls => ?_⟩
  rw [← List.append_assoc]
  exact hbooks' _ (hbooks calls hcalls)

theorem noteAll (t : Trace) {new : List Call} (h : ∀ c ∈ new, changesBooks c = false) :
    KeepsBooks t (t.noteAll new) :=
  ⟨new, log_noteAll t new, fun _ hcalls => hcalls.noteAll h⟩

theorem note {c : Call} (hc : changesBooks c = false) (hlog : t'.log = t.log.push c)
    (hpools : t'.pools = t.pools) (hnext : t.next ≤ t'.next) : KeepsBooks t t' :=
  ⟨[c], by rw [hlog, Array.toList_push],
    fun _ hcalls => hcalls.concat_of_changesNoBooks hc hpools hnext⟩

theorem books (h : KeepsBooks t t') {calls : List Call} (hcalls : Books calls t) :
    Books (calls ++ t.callsSince t') t' := by
  obtain ⟨new, hlog, hbooks⟩ := h
  rw [callsSince_of_append hlog]
  exact hbooks calls hcalls

end KeepsBooks

end Trace

end GpuRecorder.Native

namespace GpuRecorder.Device

open Native

/-! ## 4. Requests -/

theorem poolCalls_keepsBooks : PoolCalls Trace.KeepsBooks where
  refl := .refl
  trans := .trans
  createCommandPool t family := .note rfl rfl rfl (Nat.le_succ _)
  allocateCommandBuffers t pool level count := by
    show Trace.KeepsBooks t (t.allocateCommandBuffers pool level count).2
    unfold Trace.allocateCommandBuffers
    split
    · exact .refl t
    · exact .note rfl rfl rfl (Nat.le_add_right _ _)
  createDescriptorPool t maxSets _ :=
    ⟨_, Trace.log_note _ _, fun _ hcalls => hcalls.createDescriptorPool maxSets⟩
  allocateDescriptorSets t pool layouts := by
    show Trace.KeepsBooks t (t.allocateDescriptorSets pool layouts).2
    cases hanswer : t.allocateDescriptorSets pool layouts with
    | mk answer t' =>
      cases answer with
      | ok sets =>
        have hgrants := grantsFrom_of_ok hanswer
        exact ⟨_, hgrants.log, fun _ hcalls => hcalls.allocateDescriptorSets hgrants⟩
      | error code =>
        rw [eq_of_refused hanswer]
        exact .refl t
  resetDescriptorPool t pool :=
    ⟨_, Trace.log_note _ _, fun _ hcalls => hcalls.resetDescriptorPool pool⟩

theorem attempts_trace : Attempts (Trace.Appends (makesPool ·)) where
  refl := .refl
  trans := .trans
  createDescriptorPool t maxSets _ := .note (Nat.le_succ _) rfl rfl
  refused h := by
    rw [eq_of_refused h]
    exact .refl _

/-- The granted sets are all that the driver issues for a request. -/
theorem issued_by_allocate {p : DescriptorPools} {t : Trace} {layouts : List (Handle .setLayout)}
    {sets : List (Handle .descriptorSet)} (h : (p.allocate t layouts).answer = .ok sets) :
    issuedSets (t.callsSince (p.allocate t layouts).driver) = sets := by
  have hasked := asked_allocate attempts_trace p t layouts
  -- A request for no sets is answered without a call.
  have hunchanged (hnone : layouts = []) : (p.allocate t layouts).driver = t := by
    rw [hnone]
    rfl
  generalize p.allocate t layouts = a at hasked h hunchanged ⊢
  cases hasked with
  | nothing hnone =>
    cases h
    rw [hunchanged hnone, Trace.callsSince_of_log_eq rfl]
    rfl
  | refused tried => cases h
  | @granted before pool sets' p' driver' messages tried answered =>
    cases h
    obtain ⟨_, tries, hlog, htries⟩ := tried
    have hnothing : issuedSets tries = [] := List.flatMap_eq_nil_iff.2 fun c hc => by
      cases c with
      | createDescriptorPool pool maxSets => rfl
      | _ => exact absurd (htries _ hc) (by simp [makesPool])
    have hcalls : t.callsSince driver' = tries ++ [.allocateDescriptorSets pool layouts sets] := by
      apply Trace.callsSince_of_append
      rw [(grantsFrom_of_ok answered).log, hlog, List.append_assoc]
    rw [hcalls, issuedSets_append, hnothing]
    simp [issuedSets]

end GpuRecorder.Device
