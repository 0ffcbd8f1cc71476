import GpuRecorder.Proofs.Session.FreshHandles
import Mathlib.Data.List.Flatten
import Mathlib.Data.List.Induction
import Mathlib.Order.Bounds.Defs

/-!
# Recycling command buffers

A run of requests and returns at the command pools of a trace, whose allocations may be made to
fail in between.  A buffer is allocated only while none is parked under what is asked for, so as
many buffers are allocated for a family and a level as were ever out on loan at once, and what is
not out is parked.
-/

namespace GpuRecorder.Device

open Native Recording

open scoped List

/-! ## 1. Runs -/

/-- The command pools, the trace they allocate on, and the buffers that are out on loan. -/
structure Desk where
  pools : CommandPools := {}
  trace : Trace := {}
  lent : List NativeBuffer := []

inductive Errand where
  | request (kind : BufferKind) (family : Nat)
  | giveBack (n : NativeBuffer)
  /-- Allocations fail from now on. -/
  | failBuffers (code : ResultCode)
  | clearFailures

namespace Desk

def step (d : Desk) : Errand → Desk
  | .request kind family =>
    let (answer, pools, trace, _) := d.pools.request d.trace kind.level family
    { pools, trace, lent := answer.toOption.toList.map (⟨·, kind.level, family⟩) ++ d.lent }
  | .giveBack n =>
    { d with
      pools := (d.pools.giveBack n.level n.family n.handle).1
      lent := d.lent.erase n }
  | .failBuffers code => { d with trace := d.trace.failBuffers code }
  | .clearFailures => { d with trace := d.trace.clearFailures }

def run (d : Desk) (errands : List Errand) : Desk := errands.foldl step d

/-- Only what is out on loan is given back, under the family and the level it was asked for. -/
def Allows (d : Desk) : Errand → Prop
  | .giveBack n => n ∈ d.lent
  | _ => True

instance (d : Desk) : DecidablePred d.Allows
  | .giveBack n => inferInstanceAs (Decidable (n ∈ d.lent))
  | .request _ _ | .failBuffers _ | .clearFailures => isTrue trivial

def Honest (d : Desk) : List Errand → Prop
  | [] => True
  | e :: rest => d.Allows e ∧ (d.step e).Honest rest

instance decidableHonest (d : Desk) : (errands : List Errand) → Decidable (d.Honest errands)
  | [] => isTrue trivial
  | e :: rest =>
    have := decidableHonest (d.step e) rest
    inferInstanceAs (Decidable (_ ∧ _))

@[simp] theorem run_concat (d : Desk) (errands : List Errand) (e : Errand) :
    d.run (errands ++ [e]) = (d.run errands).step e := by
  simp [run]

theorem honest_append (d : Desk) (errands more : List Errand) :
    d.Honest (errands ++ more) ↔ d.Honest errands ∧ (d.run errands).Honest more := by
  induction errands generalizing d with
  | nil => simp [Honest, run]
  | cons e errands ih =>
    rw [List.cons_append, Honest, Honest, ih, and_assoc]
    rfl

end Desk

/-! ## 2. Counting -/

/-- The buffers that some calls allocated at a level from the pools of a family. -/
def allocatedFor (calls : List Call) (kind : BufferKind) (family : Nat) :
    List (Handle .commandBuffer) :=
  calls.flatMap fun
    | .allocateCommandBuffers pool level buffers =>
      if level = kind.level ∧ .createCommandPool family pool ∈ calls then buffers else []
    | _ => []

/-- Of some buffers those of a level and a family. -/
def ofKind (buffers : List NativeBuffer) (kind : BufferKind) (family : Nat) : List NativeBuffer :=
  buffers.filter fun n => n.level = kind.level ∧ n.family = family

theorem mem_allocatedFor {calls : List Call} {kind : BufferKind} {family : Nat}
    {h : Handle .commandBuffer} :
    h ∈ allocatedFor calls kind family ↔
      NativeBuffer.AllocatedBy ⟨h, kind.level, family⟩ calls := by
  rw [allocatedFor, List.mem_flatMap]
  constructor
  · rintro ⟨c, hc, hh⟩
    cases c with
    | allocateCommandBuffers pool level buffers =>
      simp only at hh
      split at hh
      · rename_i hkind
        exact ⟨pool, buffers, hkind.2, hkind.1 ▸ hc, hh⟩
      · cases hh
    | _ => cases hh
  · rintro ⟨pool, buffers, hpool, hbuffers, hh⟩
    exact ⟨_, hbuffers, by simpa [hpool] using hh⟩

theorem nodup_allocatedFor {calls : List Call} (fresh : (handedOut calls).Nodup)
    (kind : BufferKind) (family : Nat) : (allocatedFor calls kind family).Nodup := by
  refine fresh.sublist (List.Sublist.flatMap_right calls fun c _ => ?_)
  cases c with
  | allocateCommandBuffers pool level buffers =>
    simp only
    split
    · exact List.Sublist.refl _
    · exact List.nil_sublist _
  | _ => exact List.Sublist.refl _

theorem mem_ofKind {buffers : List NativeBuffer} {kind : BufferKind} {family : Nat}
    {n : NativeBuffer} :
    n ∈ ofKind buffers kind family ↔ n ∈ buffers ∧ n.level = kind.level ∧ n.family = family := by
  simp [ofKind]

theorem ofKind_append (buffers more : List NativeBuffer) (kind : BufferKind) (family : Nat) :
    ofKind (buffers ++ more) kind family = ofKind buffers kind family ++ ofKind more kind family :=
  List.filter_append ..

theorem ofKind_eq_nil {buffers : List NativeBuffer} {kind kind' : BufferKind} {family family' : Nat}
    (h : ∀ n ∈ buffers, n.level = kind'.level ∧ n.family = family')
    (hne : ¬ (kind'.level = kind.level ∧ family' = family)) : ofKind buffers kind family = [] := by
  rw [List.eq_nil_iff_forall_not_mem]
  intro n hn
  obtain ⟨hmem, hlevel, hfamily⟩ := mem_ofKind.1 hn
  obtain ⟨hlevel', hfamily'⟩ := h n hmem
  exact hne ⟨hlevel'.symm.trans hlevel, hfamily'.symm.trans hfamily⟩

/-- With fresh handles, what is held and what is parked of a kind is what was allocated for it. -/
theorem Ledger.length_allocatedFor {held : List NativeBuffer} {p : CommandPools}
    {history : List Call} (h : Ledger held p history) (fresh : FreshBuffers history)
    (kind : BufferKind) (family : Nat) :
    (allocatedFor history kind family).length =
      (ofKind held kind family).length + (ofKind p.parkedBuffers kind family).length := by
  have hnodup : ((held ++ p.parkedBuffers).map (·.handle)).Nodup := h.all.nodup_iff.2 fresh.buffers
  have hperm : (ofKind (held ++ p.parkedBuffers) kind family).map (·.handle) ~
      allocatedFor history kind family := by
    have hkept : ((ofKind (held ++ p.parkedBuffers) kind family).map (·.handle)).Nodup :=
      hnodup.sublist (List.filter_sublist.map _)
    rw [List.perm_ext_iff_of_nodup hkept (nodup_allocatedFor fresh.buffers kind family)]
    intro handle
    rw [mem_allocatedFor, List.mem_map]
    constructor
    · rintro ⟨n, hn, rfl⟩
      obtain ⟨hmem, hlevel, hfamily⟩ := mem_ofKind.1 hn
      rw [← hlevel, ← hfamily]
      exact h.origin n hmem
    · intro hallocated
      obtain ⟨n, hn, hhandle⟩ := List.mem_map.1 (h.all.mem_iff.2 hallocated.mem_handedOut)
      -- The buffer of this handle was allocated in one way.
      have heq := fresh.allocated_unique (h.origin n hn) hallocated hhandle
      exact ⟨n, mem_ofKind.2 ⟨hn, by rw [heq], by rw [heq]⟩, hhandle⟩
  rw [← hperm.length_eq, List.length_map, ofKind_append, List.length_append]

/-! ## 3. One request -/

theorem FamilyPool.mem_parkedBuffers {f : FamilyPool} {n : NativeBuffer}
    (hn : n ∈ f.parkedBuffers) {kind : BufferKind} (hlevel : n.level = kind.level) :
    n.family = f.family ∧ n.handle ∈ f.parked kind.level := by
  rcases List.mem_append.1 hn with hn | hn
  · obtain ⟨h, hh, rfl⟩ := List.mem_map.1 hn
    cases kind with
    | primary => exact ⟨rfl, hh⟩
    | secondary => cases hlevel
  · obtain ⟨h, hh, rfl⟩ := List.mem_map.1 hn
    cases kind with
    | primary => cases hlevel
    | secondary => exact ⟨rfl, hh⟩

namespace CommandPools

variable {σ : Type} [Driver σ] {p : CommandPools}

theorem find?_of_mem (hp : p.Distinct) {f : FamilyPool} (hf : f ∈ p.families) :
    p.find? f.family = some f := by
  cases hfind : p.find? f.family with
  | none => simpa using List.find?_eq_none.1 hfind f hf
  | some g =>
    have hg := List.mem_of_find?_eq_some hfind
    rw [List.inj_on_of_nodup_map hp hg hf (family_of_find? hfind)]

theorem length_parkedBuffers (p : CommandPools) : p.parkedBuffers.length = p.freeCount := by
  obtain ⟨families⟩ := p
  induction families with
  | nil => rfl
  | cons f families ih =>
    have hfree : freeCount ⟨f :: families⟩ =
        f.primary.length + f.secondary.length + freeCount ⟨families⟩ := rfl
    have hparked : parkedBuffers ⟨f :: families⟩ = f.parkedBuffers ++ parkedBuffers ⟨families⟩ := rfl
    rw [hfree, hparked, List.length_append, ih, FamilyPool.parkedBuffers, List.length_append,
      List.length_map, List.length_map]

/-- A buffer that is parked under what is asked for is handed out without any call. -/
theorem driver_request_of_parked (hp : p.Distinct) {kind : BufferKind} {n : NativeBuffer}
    (hn : n ∈ p.parkedBuffers) (hlevel : n.level = kind.level) (driver : σ) :
    (p.request driver kind.level n.family).2.2.1 = driver := by
  obtain ⟨f, hf, hmem⟩ := List.mem_flatMap.1 hn
  obtain ⟨hfamily, hparked⟩ := FamilyPool.mem_parkedBuffers hmem hlevel
  have hensure : p.ensure driver n.family = (.ok (f, p), driver, []) := by
    rw [ensure, hfamily, find?_of_mem hp hf]
  obtain ⟨buffer, rest, hrest⟩ := List.exists_cons_of_ne_nil (List.ne_nil_of_mem hparked)
  simp only [request, hensure, hrest]

/-- A request takes at most one parked buffer, and that of the kind that is asked for. -/
theorem parkedBuffers_request (hp : p.Distinct) (driver : σ) (kind : BufferKind) (family : Nat) :
    ∃ taken, p.parkedBuffers ~ taken ++ (p.request driver kind.level family).2.1.parkedBuffers ∧
      ∀ n ∈ taken, n.level = kind.level ∧ n.family = family := by
  have hcase := lent_request hp driver kind family
  generalize p.request driver kind.level family = lent at hcase ⊢
  cases hcase with
  | refused same _ _ => exact ⟨[], by rw [same]; exact .refl _, by simp⟩
  | @parked h p' driver' messages taken _ => exact ⟨[⟨h, kind.level, family⟩], taken, by simp⟩
  | made same _ _ _ => exact ⟨[], by rw [same]; exact .refl _, by simp⟩

/-- An observed driver is asked as the driver itself. -/
theorem request_observed (p : CommandPools) (o : Observed σ) (level : Level) (family : Nat) :
    let seen := p.request o level family
    (seen.1, seen.2.1, seen.2.2.1.driver, seen.2.2.2) = p.request o.driver level family := by
  have hcreate : Driver.createCommandPool o family =
      o.answered (.createCommandPool family) (Driver.createCommandPool o.driver family) := rfl
  have hallocate (o : Observed σ) (pool : Handle .commandPool) :
      Driver.allocateCommandBuffers o pool level 1 =
        o.answered (.allocateCommandBuffers pool level)
          (Driver.allocateCommandBuffers o.driver pool level 1) := rfl
  simp only [request, ensure]
  cases p.find? family with
  | some f =>
    simp only
    cases f.parked level with
    | cons buffer rest => rfl
    | nil =>
      simp only [hallocate]
      rcases Driver.allocateCommandBuffers o.driver f.pool level 1 with ⟨code | _ | _, driver⟩ <;> rfl
  | none =>
    simp only [hcreate]
    rcases Driver.createCommandPool o.driver family with ⟨code | pool, driver⟩
    · rfl
    · have hnone : ({ family, pool } : FamilyPool).parked level = [] := by
        unfold FamilyPool.parked
        split <;> rfl
      simp only [Observed.answered, hnone, hallocate]
      rcases Driver.allocateCommandBuffers driver pool level 1 with ⟨code | _ | _, driver⟩ <;> rfl

end CommandPools

/-! ## 4. What a run keeps -/

namespace Desk

def calls (d : Desk) : List Call := d.trace.log.toList

/-- How many buffers have been allocated for a level and a family so far. -/
def allocated (d : Desk) (kind : BufferKind) (family : Nat) : Nat :=
  (allocatedFor d.calls kind family).length

/-- How many buffers of a level and a family are out on loan. -/
def out (d : Desk) (kind : BufferKind) (family : Nat) : Nat := (ofKind d.lent kind family).length

structure Keeps (d : Desk) : Prop where
  ledger : Ledger d.lent d.pools d.calls
  numbered : Numbered d.calls d.trace.next

theorem keeps_start : Keeps {} where
  ledger :=
    { families := List.nodup_nil
      homes := by simp
      known := by simp
      kinds := by simp
      all := .refl _
      origin := by simp [CommandPools.parkedBuffers] }
  numbered := Numbered.empty _

variable {d : Desk}

/-- The observed trace whose history is what the trace has noted. -/
theorem lendingCalls_noted : LendingCalls fun o o' : Observed Trace =>
    o.history = o.driver.log.toList → o'.history = o'.driver.log.toList where
  refl _ := id
  trans h h' := h' ∘ h
  createCommandPool o family h := by
    show o.history ++ [_] = (o.driver.log.push _).toList
    rw [h, Array.toList_push]
  allocateCommandBuffers o pool level count h := by
    show (o.answered _ (o.driver.allocateCommandBuffers pool level count)).2.history =
      (o.answered _ (o.driver.allocateCommandBuffers pool level count)).2.driver.log.toList
    unfold Trace.allocateCommandBuffers
    split
    · rwa [Observed.answered_error]
    · show o.history ++ [_] = (o.driver.log.push _).toList
      rw [h, Array.toList_push]

theorem Keeps.step (h : d.Keeps) {e : Errand} (he : d.Allows e) : (d.step e).Keeps := by
  cases e with
  | request kind family =>
    have hledger := Ledger.request countsBuffers_trace (o := ⟨d.trace, d.calls⟩) h.ledger kind family
    have hnumbered := driverCalls_numbered.toPoolCalls.toLendingCalls.request d.pools
      ⟨d.trace, d.calls⟩ kind.level family h.numbered
    have hnoted := lendingCalls_noted.request d.pools ⟨d.trace, d.calls⟩ kind.level family rfl
    have hseen := d.pools.request_observed (⟨d.trace, d.calls⟩ : Observed Trace) kind.level family
    generalize d.pools.request (⟨d.trace, d.calls⟩ : Observed Trace) kind.level family = seen
      at hledger hnumbered hnoted hseen
    simp only at hledger hseen
    rw [hnoted] at hledger hnumbered
    simp only [Desk.step, ← hseen]
    exact ⟨hledger, hnumbered⟩
  | giveBack n =>
    have hledger := h.ledger.of_perm (List.perm_cons_erase he)
    exact ⟨hledger.giveBack, h.numbered⟩
  | failBuffers code => exact ⟨h.ledger, h.numbered⟩
  | clearFailures => exact ⟨h.ledger, h.numbered⟩

theorem Keeps.allocated (h : d.Keeps) (kind : BufferKind) (family : Nat) :
    d.allocated kind family =
      d.out kind family + (ofKind d.pools.parkedBuffers kind family).length :=
  h.ledger.length_allocatedFor h.numbered.buffers kind family

theorem Keeps.run (h : d.Keeps) {errands : List Errand} (hhonest : d.Honest errands) :
    (d.run errands).Keeps := by
  induction errands generalizing d with
  | nil => exact h
  | cons e errands ih => exact ih (h.step hhonest.1) hhonest.2

theorem lent_request (d : Desk) (kind : BufferKind) (family : Nat) :
    (d.step (.request kind family)).lent =
      (d.pools.request d.trace kind.level family).1.toOption.toList.map (⟨·, kind.level, family⟩) ++
        d.lent := rfl

theorem trace_request (d : Desk) (kind : BufferKind) (family : Nat) :
    (d.step (.request kind family)).trace =
      (d.pools.request d.trace kind.level family).2.2.1 := rfl

theorem calls_step (d : Desk) (e : Errand) : ∃ more, (d.step e).calls = d.calls ++ more := by
  cases e with
  | request kind family =>
    obtain ⟨_, more, hmore, _⟩ :=
      poolCalls_appends.toLendingCalls.request d.pools d.trace kind.level family
    exact ⟨more, hmore⟩
  | giveBack n => exact ⟨[], (List.append_nil _).symm⟩
  | failBuffers code => exact ⟨[], (List.append_nil _).symm⟩
  | clearFailures => exact ⟨[], (List.append_nil _).symm⟩

/-- What was allocated stays allocated. -/
theorem Keeps.allocated_le_step (h : d.Keeps) (e : Errand) (kind : BufferKind) (family : Nat) :
    d.allocated kind family ≤ (d.step e).allocated kind family := by
  obtain ⟨more, hmore⟩ := d.calls_step e
  have hnodup := nodup_allocatedFor h.numbered.buffers.buffers kind family
  have hsubset : allocatedFor d.calls kind family ⊆ allocatedFor (d.step e).calls kind family := by
    intro handle hhandle
    rw [hmore]
    exact mem_allocatedFor.2 ((mem_allocatedFor.1 hhandle).append more)
  exact (hnodup.subperm hsubset).length_le

/-! ## 5. The most that were out -/

/-- A request for one kind leaves the others as they are. -/
theorem Keeps.allocated_request_of_ne (h : d.Keeps) {kind kind' : BufferKind}
    {family family' : Nat} (hne : ¬ (kind'.level = kind.level ∧ family' = family)) :
    (d.step (.request kind' family')).allocated kind family = d.allocated kind family := by
  have hout : (d.step (.request kind' family')).out kind family = d.out kind family := by
    have hlent := d.lent_request kind' family'
    rw [out, hlent, ofKind_append, ofKind_eq_nil _ hne]
    · rfl
    · intro n hn
      obtain ⟨handle, _, rfl⟩ := List.mem_map.1 hn
      exact ⟨rfl, rfl⟩
  have hparked : (ofKind (d.step (.request kind' family')).pools.parkedBuffers kind family).length =
      (ofKind d.pools.parkedBuffers kind family).length := by
    obtain ⟨taken, htaken, hkind⟩ :=
      CommandPools.parkedBuffers_request h.ledger.families d.trace kind' family'
    have hperm : ofKind d.pools.parkedBuffers kind family ~ ofKind _ kind family :=
      htaken.filter _
    rw [hperm.length_eq, ofKind_append, ofKind_eq_nil hkind hne]
    rfl
  rw [(h.step (e := .request kind' family') trivial).allocated, h.allocated, hout, hparked]

/-- Where a step allocates, nothing of the kind is parked afterwards: all of it is out. -/
theorem Keeps.allocated_step (h : d.Keeps) {e : Errand} (he : d.Allows e) (kind : BufferKind)
    (family : Nat) :
    (d.step e).allocated kind family = d.allocated kind family ∨
      (d.step e).allocated kind family = (d.step e).out kind family := by
  cases e with
  | request kind' family' =>
    by_cases hkey : kind'.level = kind.level ∧ family' = family
    · obtain ⟨hlevel, rfl⟩ := hkey
      by_cases hparked : ofKind d.pools.parkedBuffers kind family' = []
      · -- What was not parked before is not parked now.
        obtain ⟨taken, htaken, _⟩ :=
          CommandPools.parkedBuffers_request h.ledger.families d.trace kind' family'
        have hnone : ofKind (d.step (.request kind' family')).pools.parkedBuffers kind family' =
            [] := by
          have hperm : ofKind d.pools.parkedBuffers kind family' ~ ofKind _ kind family' :=
            htaken.filter _
          rw [hparked, ofKind_append] at hperm
          exact (List.append_eq_nil_iff.1 hperm.nil_eq.symm).2
        refine Or.inr ?_
        rw [(h.step (e := .request kind' family') trivial).allocated, hnone]
        rfl
      · -- A parked buffer is taken, and nothing is called.
        obtain ⟨n, hn⟩ := List.exists_mem_of_ne_nil _ hparked
        obtain ⟨hmem, hkind, rfl⟩ := mem_ofKind.1 hn
        have hdriver := CommandPools.driver_request_of_parked h.ledger.families hmem
          (hkind.trans hlevel.symm) d.trace
        rw [← hlevel] at hkind
        refine Or.inl ?_
        show (allocatedFor (d.step (.request kind' n.family)).trace.log.toList _ _).length = _
        rw [trace_request, hdriver]
        rfl
    · exact Or.inl (h.allocated_request_of_ne hkey)
  | giveBack n => exact Or.inl rfl
  | failBuffers code => exact Or.inl rfl
  | clearFailures => exact Or.inl rfl

theorem Keeps.freeCount (h : d.Keeps) :
    d.pools.freeCount + d.lent.length = (handedOut d.calls).length := by
  rw [← h.ledger.all.length_eq, List.length_map, List.length_append,
    CommandPools.length_parkedBuffers, Nat.add_comm]

/-- Over every honest run of requests and returns, allocations made to fail in between or not: for
every level and family, as many buffers were allocated as were out on loan at the moment when the
most of them were; and what is free is what was allocated and is not out. -/
theorem allocated_isGreatest (errands : List Errand) (hhonest : Honest {} errands) :
    let now := run {} errands
    (∀ kind family, IsGreatest
      {n | ∃ earlier, earlier <+: errands ∧ n = (run {} earlier).out kind family}
      (now.allocated kind family)) ∧
      now.pools.freeCount + now.lent.length = (handedOut now.calls).length := by
  intro now
  refine ⟨fun kind family => ?_, (keeps_start.run hhonest).freeCount⟩
  -- By the last errand: it allocates nothing of the kind, or leaves all of it out.
  induction errands using List.reverseRecOn with
  | nil =>
    refine ⟨⟨[], List.prefix_refl _, rfl⟩, ?_⟩
    rintro n ⟨earlier, hearlier, rfl⟩
    rw [List.prefix_nil.1 hearlier]
    exact Nat.le_refl _
  | append_singleton errands e ih =>
    obtain ⟨hbefore, hlast, _⟩ := (honest_append _ _ _).1 hhonest
    have hkeeps := keeps_start.run hbefore
    obtain ⟨hmem, hupper⟩ := ih hbefore
    have hnow : now = (run {} errands).step e := run_concat _ _ _
    constructor
    · rw [hnow]
      rcases hkeeps.allocated_step hlast kind family with hsame | hout
      · obtain ⟨earlier, hearlier, heq⟩ := hmem
        exact ⟨earlier, hearlier.trans (List.prefix_append _ _), hsame.trans heq⟩
      · exact ⟨_, List.prefix_refl _, by rw [hout, run_concat]⟩
    · rintro n ⟨earlier, hearlier, rfl⟩
      rcases List.prefix_concat_iff.1 hearlier with rfl | hearlier
      · rw [run_concat, hnow, (hkeeps.step hlast).allocated]
        exact Nat.le_add_right _ _
      · rw [hnow]
        exact Nat.le_trans (hupper ⟨earlier, hearlier, rfl⟩)
          (hkeeps.allocated_le_step e kind family)

/-- Two primary buffers go out and one comes back.  Then allocations fail: the next primary request
is served by the one that came back, and one for a secondary buffer gets none. -/
theorem allocated_isGreatest_with_failures :
    let errands : List Errand :=
      [.request .primary 0, .request .primary 0, .giveBack ⟨⟨4097⟩, .primary, 0⟩,
        .failBuffers .outOfHostMemory, .request .primary 0, .request .secondary 0]
    let now := run {} errands
    Honest {} errands ∧ now.allocated .primary 0 = 2 ∧ now.allocated .secondary 0 = 0 ∧
      (∀ kind family, IsGreatest
        {n | ∃ earlier, earlier <+: errands ∧ n = (run {} earlier).out kind family}
        (now.allocated kind family)) ∧
        now.pools.freeCount + now.lent.length = (handedOut now.calls).length := by
  intro errands now
  have hhonest : Honest {} errands := by decide
  exact ⟨hhonest, by decide, by decide, allocated_isGreatest errands hhonest⟩

end Desk

end GpuRecorder.Device
