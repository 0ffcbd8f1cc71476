import GpuRecorder.Proofs.Device.Lending
import GpuRecorder.Proofs.Native.Observed
import Mathlib.Data.List.Nodup
import Mathlib.Data.List.Pairwise

/-!
# The ledger of command buffers

On an observed driver every native command buffer goes back to the call that allocated it, at a
level and from the pool of a family.  The ledger keeps that what is held and what is parked are
together all that was allocated, each under its own level and family.  A driver may refuse at any
point.
-/

namespace GpuRecorder.Native

/-! ## 1. Reading a history -/

/-- The command buffers that some calls handed out. -/
def handedOut (calls : List Call) : List (Handle .commandBuffer) :=
  calls.flatMap fun
    | .allocateCommandBuffers _ _ buffers => buffers
    | _ => []

/-- The command pools that some calls made. -/
def madePools (calls : List Call) : List (Handle .commandPool) :=
  calls.flatMap fun
    | .createCommandPool _ pool => [pool]
    | _ => []

/-- All the command buffers that were handed out and all the command pools that were made are
different. -/
structure FreshBuffers (calls : List Call) : Prop where
  buffers : (handedOut calls).Nodup
  pools : (madePools calls).Nodup

/-- The driver hands out as many command buffers as it is asked for. -/
def CountsBuffers (σ : Type) [Driver σ] : Prop :=
  ∀ {d d' : σ} {pool level count buffers},
    Driver.allocateCommandBuffers d pool level count = (.ok buffers, d') → buffers.length = count

theorem handedOut_append (calls more : List Call) :
    handedOut (calls ++ more) = handedOut calls ++ handedOut more :=
  List.flatMap_append

theorem mem_handedOut {calls : List Call} {h : Handle .commandBuffer} :
    h ∈ handedOut calls ↔
      ∃ pool level buffers, .allocateCommandBuffers pool level buffers ∈ calls ∧ h ∈ buffers := by
  rw [handedOut, List.mem_flatMap]
  constructor
  · rintro ⟨c, hc, hh⟩
    cases c with
    | allocateCommandBuffers pool level buffers => exact ⟨pool, level, buffers, hc, hh⟩
    | _ => cases hh
  · rintro ⟨pool, level, buffers, hc, hh⟩
    exact ⟨_, hc, hh⟩

/-- A call that makes a command pool or hands out command buffers. -/
def lends : Call → Bool
  | .createCommandPool _ _ | .allocateCommandBuffers _ _ _ => true
  | _ => false

theorem handedOut_eq_nil {calls : List Call} (h : ∀ c ∈ calls, lends c = false) :
    handedOut calls = [] := by
  rw [handedOut, List.flatMap_eq_nil_iff]
  intro c hc
  have hlends := h c hc
  cases c with
  | allocateCommandBuffers pool level buffers => cases hlends
  | _ => rfl

end GpuRecorder.Native

namespace GpuRecorder.Recording.NativeBuffer

open Native

/-- The buffer was allocated at its level from a pool that was made for its family. -/
def AllocatedBy (n : NativeBuffer) (calls : List Call) : Prop :=
  ∃ pool buffers, .createCommandPool n.family pool ∈ calls ∧
    .allocateCommandBuffers pool n.level buffers ∈ calls ∧ n.handle ∈ buffers

theorem AllocatedBy.append {n : NativeBuffer} {calls : List Call} (h : n.AllocatedBy calls)
    (more : List Call) : n.AllocatedBy (calls ++ more) := by
  obtain ⟨pool, buffers, hpool, hbuffers, hmem⟩ := h
  exact ⟨pool, buffers, List.mem_append_left _ hpool, List.mem_append_left _ hbuffers, hmem⟩

theorem AllocatedBy.mem_handedOut {n : NativeBuffer} {calls : List Call} (h : n.AllocatedBy calls) :
    n.handle ∈ handedOut calls := by
  obtain ⟨pool, buffers, _, hbuffers, hmem⟩ := h
  exact Native.mem_handedOut.2 ⟨pool, n.level, buffers, hbuffers, hmem⟩

end GpuRecorder.Recording.NativeBuffer

/-! ## 2. Allocated in one way -/

namespace GpuRecorder.Native

open Recording

theorem eq_of_nodup_flatMap {α β : Type} {f : α → List β} {xs : List α}
    (h : (xs.flatMap f).Nodup) {a a' : α} (ha : a ∈ xs) (ha' : a' ∈ xs) {b : β} (hb : b ∈ f a)
    (hb' : b ∈ f a') : a = a' := by
  by_contra hne
  have hsymm : Std.Symm (Function.onFun List.Disjoint f) := ⟨fun _ _ hdisjoint _ hb hb' => hdisjoint hb' hb⟩
  exact (List.nodup_flatMap.1 h).2.forall ha ha' hne hb hb'

/-- With fresh handles a command buffer was allocated in one way only. -/
theorem FreshBuffers.allocated_unique {calls : List Call} (fresh : FreshBuffers calls)
    {n m : NativeBuffer} (hn : n.AllocatedBy calls) (hm : m.AllocatedBy calls)
    (heq : n.handle = m.handle) : n = m := by
  obtain ⟨handle, level, family⟩ := n
  obtain ⟨handle', level', family'⟩ := m
  obtain rfl : handle = handle' := heq
  obtain ⟨pool, buffers, hpool, hbuffers, hmem⟩ := hn
  obtain ⟨pool', buffers', hpool', hbuffers', hmem'⟩ := hm
  -- One call handed the buffer out, and one call made the pool it came from.
  cases eq_of_nodup_flatMap fresh.buffers hbuffers hbuffers' hmem hmem'
  cases eq_of_nodup_flatMap fresh.pools hpool hpool' List.mem_cons_self List.mem_cons_self
  rfl

end GpuRecorder.Native

/-! ## 3. The ledger -/

namespace GpuRecorder.Device

open Native Recording

open scoped List

variable {σ : Type} [Driver σ]

/-- What is parked may change, but the pools stay those of their families. -/
theorem home_replace {p : CommandPools} {f : FamilyPool} (hf : f ∈ p.families) (level : Level)
    (buffers : List (Handle .commandBuffer)) {g : FamilyPool}
    (hg : g ∈ (p.replace (f.setParked level buffers)).families) :
    ∃ g' ∈ p.families, g.family = g'.family ∧ g.pool = g'.pool := by
  obtain ⟨g', hg', rfl⟩ := List.mem_map.1 hg
  split
  · refine ⟨f, hf, CommandPools.family_setParked f level buffers, ?_⟩
    unfold FamilyPool.setParked
    split <;> rfl
  · exact ⟨g', hg', rfl, rfl⟩

/-- What is held and what is parked are all the buffers that were handed out, each under the level
and the family it was allocated for, and every family has its own pool. -/
structure Ledger (held : List NativeBuffer) (p : CommandPools) (history : List Call) : Prop where
  families : p.Distinct
  homes : ∀ f ∈ p.families, .createCommandPool f.family f.pool ∈ history
  known : ∀ n ∈ held, n.family ∈ p.families.map (·.family)
  kinds : ∀ n ∈ held, ∃ kind : BufferKind, n.level = kind.level
  all : (held ++ p.parkedBuffers).map (·.handle) ~ handedOut history
  origin : ∀ n ∈ held ++ p.parkedBuffers, n.AllocatedBy history

namespace Ledger

variable {held : List NativeBuffer} {p : CommandPools} {history : List Call}

/-- Calls that hand out no command buffer leave the ledger as it is. -/
theorem append (h : Ledger held p history) {calls : List Call} (hcalls : handedOut calls = []) :
    Ledger held p (history ++ calls) where
  families := h.families
  homes := fun f hf => List.mem_append_left _ (h.homes f hf)
  known := h.known
  kinds := h.kinds
  all := by
    rw [handedOut_append, hcalls, List.append_nil]
    exact h.all
  origin := fun n hn => (h.origin n hn).append calls

theorem of_perm (h : Ledger held p history) {held' : List NativeBuffer} (hperm : held ~ held') :
    Ledger held' p history where
  families := h.families
  homes := h.homes
  known := fun n hn => h.known n (hperm.mem_iff.2 hn)
  kinds := fun n hn => h.kinds n (hperm.mem_iff.2 hn)
  all := ((hperm.symm.append_right _).map _).trans h.all
  origin := fun n hn => h.origin n ((hperm.append_right _).mem_iff.2 hn)

/-- A buffer that is given back is parked: its family has a pool. -/
theorem giveBack {n : NativeBuffer} (h : Ledger (n :: held) p history) :
    Ledger held (p.giveBack n.level n.family n.handle).1 history := by
  obtain ⟨kind, hkind⟩ := h.kinds n List.mem_cons_self
  have hknown : p.find? n.family ≠ none := by
    obtain ⟨f, hf, hfamily⟩ := List.mem_map.1 (h.known n List.mem_cons_self)
    intro hnone
    exact absurd hfamily (by simpa using List.find?_eq_none.1 hnone f hf)
  have hperm : held ++ (p.giveBack n.level n.family n.handle).1.parkedBuffers ~
      n :: held ++ p.parkedBuffers := by
    rcases CommandPools.parkedBuffers_giveBack h.families kind n.family n.handle with
      hparked | ⟨hlost, _⟩
    · rw [← hkind] at hparked
      exact (hparked.append_left held).trans List.perm_middle
    · exact absurd hlost hknown
  obtain ⟨f, hfind⟩ := Option.ne_none_iff_exists'.1 hknown
  have hgiven : (p.giveBack n.level n.family n.handle).1 = p.replace (f.park n.level n.handle) := by
    rw [CommandPools.giveBack, hfind]
  refine ⟨CommandPools.distinct_giveBack h.families _ _ _, ?_, ?_, ?_, ?_, ?_⟩
  · rw [hgiven]
    intro g hg
    obtain ⟨g', hg', hfamily, hpool⟩ := home_replace (List.mem_of_find?_eq_some hfind) _ _ hg
    rw [hfamily, hpool]
    exact h.homes g' hg'
  · rw [hgiven, CommandPools.families_replace]
    exact fun m hm => h.known m (List.mem_cons_of_mem _ hm)
  · exact fun m hm => h.kinds m (List.mem_cons_of_mem _ hm)
  · exact (hperm.map _).trans h.all
  · exact fun m hm => h.origin m (hperm.mem_iff.1 hm)

/-! ## 4. A request -/

theorem lendingCalls_observed : LendingCalls (Observed.Appends (σ := σ) (lends ·)) where
  refl := .refl
  trans := .trans
  createCommandPool o family := by
    apply Observed.Appends.answered
    exact fun _ => rfl
  allocateCommandBuffers o pool level count := by
    apply Observed.Appends.answered
    exact fun _ => rfl

theorem opened_history {o before : Observed σ} {family : Nat}
    (h : CommandPools.Opened o family before) :
    ∃ calls, before.history = o.history ++ calls ∧ handedOut calls = [] := by
  rcases h with rfl | rfl
  · exact ⟨[], by simp, rfl⟩
  · refine ⟨_, rfl, ?_⟩
    cases (Driver.createCommandPool o.driver family).1 <;> rfl

/-- A request that is refused has handed out no command buffer, and made at most a pool. -/
theorem refused_history {o before o' : Observed σ} {level : Level} {family : Nat}
    (opened : CommandPools.Opened o family before)
    (empty : o' = before ∨ ∃ pool answer,
      Driver.allocateCommandBuffers before pool level 1 = (answer, o') ∧
        ∀ buffers, answer = .ok buffers → buffers = []) :
    ∃ calls, o'.history = o.history ++ calls ∧ handedOut calls = [] := by
  obtain ⟨calls, hbefore, hnone⟩ := opened_history opened
  rcases empty with rfl | ⟨pool, answer, hanswer, hempty⟩
  · exact ⟨calls, hbefore, hnone⟩
  · cases answer with
    | error code => exact ⟨calls, (Observed.history_answered_error hanswer).trans hbefore, hnone⟩
    | ok buffers =>
      rw [hempty buffers rfl] at hanswer
      refine ⟨calls ++ [.allocateCommandBuffers pool level []], ?_, ?_⟩
      · rw [Observed.history_answered_ok hanswer, hbefore, List.append_assoc]
      · rw [handedOut_append, hnone]
        rfl

/-- Looking a family up keeps the pools that are there and adds at most the one that was made. -/
theorem homes_ensure {o o' : Observed σ} {family : Nat} {f : FamilyPool} {p' : CommandPools}
    {messages : List Message}
    (homes : ∀ g ∈ p.families, .createCommandPool g.family g.pool ∈ o.history)
    (h : p.ensure o family = (.ok (f, p'), o', messages)) :
    (∀ g ∈ p'.families, .createCommandPool g.family g.pool ∈ o'.history) ∧
      f ∈ p'.families ∧ f.family = family ∧
        ∀ x ∈ p.families.map (·.family), x ∈ p'.families.map (·.family) := by
  unfold CommandPools.ensure at h
  split at h
  · rename_i g hfind
    cases h
    exact ⟨homes, List.mem_of_find?_eq_some hfind, CommandPools.family_of_find? hfind,
      fun x hx => hx⟩
  · split at h
    · cases h
    · rename_i pool driver hcreate
      cases h
      have hhistory := Observed.history_answered_ok hcreate
      refine ⟨fun g hg => ?_, by simp, rfl, fun x hx => by simp [List.mem_map.1 hx]⟩
      rw [hhistory]
      rcases List.mem_append.1 hg with hg | hg
      · exact List.mem_append_left _ (homes g hg)
      · obtain rfl := List.mem_singleton.1 hg
        exact List.mem_append_right _ (List.mem_singleton_self _)

theorem homes_request {o : Observed σ}
    (homes : ∀ g ∈ p.families, .createCommandPool g.family g.pool ∈ o.history) (level : Level)
    (family : Nat) :
    let lent := p.request o level family
    (∀ g ∈ lent.2.1.families, .createCommandPool g.family g.pool ∈ lent.2.2.1.history) ∧
      (∀ x ∈ p.families.map (·.family), x ∈ lent.2.1.families.map (·.family)) ∧
        ∀ h, lent.1 = .ok h → family ∈ lent.2.1.families.map (·.family) := by
  have hopened : ∀ g ∈ p.families,
      .createCommandPool g.family g.pool ∈ (p.ensure o family).2.1.history := fun g hg =>
    (lendingCalls_observed.ensure p o family).mem_history (homes g hg)
  unfold CommandPools.request
  split
  · rename_i hensure
    rw [hensure] at hopened
    exact ⟨hopened, fun x hx => hx, fun h heq => nomatch heq⟩
  · rename_i f p' o' messages hensure
    obtain ⟨hhomes, hmem, hfamily, hknown⟩ := homes_ensure homes hensure
    have hasked : family ∈ p'.families.map (·.family) :=
      List.mem_map.2 ⟨f, hmem, hfamily⟩
    simp only
    split
    · -- A parked buffer is taken.
      refine ⟨fun g hg => ?_, ?_, ?_⟩
      · obtain ⟨g', hg', hsame, hpool⟩ := home_replace hmem _ _ hg
        rw [hsame, hpool]
        exact hhomes g' hg'
      · rw [CommandPools.families_replace]
        exact hknown
      · rw [CommandPools.families_replace]
        exact fun _ _ => hasked
    · have hlater (g : FamilyPool) (hg : g ∈ p'.families) :
          .createCommandPool g.family g.pool ∈
            (Driver.allocateCommandBuffers o' f.pool level 1).2.history :=
        List.mem_append_left _ (hhomes g hg)
      split <;>
      · rename_i heq
        rw [heq] at hlater
        exact ⟨hlater, hknown, fun _ _ => hasked⟩

/-- A buffer that is lent was parked under what is asked for, or has just been allocated so. -/
theorem request (counts : CountsBuffers σ) {o : Observed σ} (h : Ledger held p o.history)
    (kind : BufferKind) (family : Nat) :
    let lent := p.request o kind.level family
    Ledger (lent.1.toOption.toList.map (⟨·, kind.level, family⟩) ++ held) lent.2.1
      lent.2.2.1.history := by
  have hdistinct := CommandPools.distinct_request h.families o kind.level family
  obtain ⟨hhomes, hknown, hasked⟩ := homes_request h.homes kind.level family
  have hcase := CommandPools.lent_request h.families o kind family
  generalize p.request o kind.level family = lent at hdistinct hhomes hknown hasked hcase ⊢
  have hheld : ∀ n ∈ held, n.family ∈ lent.2.1.families.map (·.family) := fun n hn =>
    hknown _ (h.known n hn)
  cases hcase with
  | @refused e p' o' messages before same opened empty =>
    obtain ⟨calls, hhistory, hnone⟩ := refused_history opened empty
    have hsame : held ++ p'.parkedBuffers = held ++ p.parkedBuffers := by rw [same]
    have hledger := h.append hnone
    rw [← hhistory] at hledger
    exact ⟨hdistinct, hhomes, hheld, h.kinds, hsame ▸ hledger.all, hsame ▸ hledger.origin⟩
  | @parked buffer p' o' messages taken opened =>
    obtain ⟨calls, hhistory, hnone⟩ := opened_history opened
    have hledger := h.append hnone
    rw [← hhistory] at hledger
    have hperm : ⟨buffer, kind.level, family⟩ :: held ++ p'.parkedBuffers ~
        held ++ p.parkedBuffers :=
      ((taken.append_left held).trans List.perm_middle).symm
    refine ⟨hdistinct, hhomes, ?_, ?_, (hperm.map _).trans hledger.all, fun n hn =>
      hledger.origin n (hperm.mem_iff.1 hn)⟩
    · exact List.forall_mem_cons.2 ⟨hasked buffer rfl, hheld⟩
    · exact List.forall_mem_cons.2 ⟨⟨kind, rfl⟩, h.kinds⟩
  | @made buffer p' o' messages before pool rest same opened answered home =>
    obtain ⟨calls, hbefore, hnone⟩ := opened_history opened
    have hhistory : o'.history =
        o.history ++ calls ++ [.allocateCommandBuffers pool kind.level (buffer :: rest)] := by
      rw [Observed.history_answered_ok answered, hbefore]
    have hcall : .allocateCommandBuffers pool kind.level (buffer :: rest) ∈ o'.history := by
      rw [hhistory]
      exact List.mem_append_right _ (List.mem_singleton_self _)
    -- The one buffer that was asked for is the one that is lent.
    obtain rfl : rest = [] := by
      simpa using counts (Prod.ext (Observed.answer_of_answered answered) rfl)
    obtain ⟨f, hf, rfl, rfl⟩ := home
    have hledger := h.append hnone
    have horigin (n : NativeBuffer) (hn : n ∈ held ++ p.parkedBuffers) :
        n.AllocatedBy o'.history := by
      rw [hhistory]
      exact (hledger.origin n hn).append _
    have hnew : NativeBuffer.AllocatedBy ⟨buffer, kind.level, f.family⟩ o'.history :=
      ⟨f.pool, [buffer], hhomes f hf, hcall, List.mem_singleton_self _⟩
    refine ⟨hdistinct, hhomes, ?_, ?_, ?_, ?_⟩
    · exact List.forall_mem_cons.2 ⟨hasked buffer rfl, hheld⟩
    · exact List.forall_mem_cons.2 ⟨⟨kind, rfl⟩, h.kinds⟩
    · show buffer :: (held ++ p'.parkedBuffers).map (·.handle) ~ handedOut o'.history
      rw [same, hhistory, handedOut_append]
      exact (hledger.all.cons buffer).trans (List.perm_append_singleton _ _).symm
    · show ∀ n ∈ (⟨buffer, kind.level, f.family⟩ : NativeBuffer) :: (held ++ p'.parkedBuffers), _
      rw [same]
      exact List.forall_mem_cons.2 ⟨hnew, horigin⟩

end Ledger

end GpuRecorder.Device
