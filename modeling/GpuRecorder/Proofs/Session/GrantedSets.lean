import GpuRecorder.Proofs.Device.NextFit
import GpuRecorder.Proofs.Device.PoolBooks
import GpuRecorder.Proofs.Session.PoolInvariant
import GpuRecorder.Proofs.Session.SuppliedContents

/-!
# Which requests for sets are granted

Whatever happened in a session, a request that one pool can hold is granted unless a failure was
asked for, and the sets are new.  A larger request is refused and leaves no trace.  No pool gives
away more than it was made for, as long as a count of 32 bits can tell.
-/

namespace GpuRecorder

open Draw Native Resource Recording Device

/-! ## 1. The books of a run -/

theorem driverCalls_keepsBooks : DriverCalls Trace.KeepsBooks where
  toPoolCalls := poolCalls_keepsBooks
  submit t queue buffers fence := .note rfl rfl rfl (Nat.le_refl _)
  beginRecording t buffer args := .note rfl rfl rfl (Nat.le_refl _)
  endRecording t buffer := .note rfl rfl rfl (Nat.le_refl _)
  request t r := by
    show Trace.KeepsBooks t (t.request r).2
    rw [Trace.request_eq_noteAll]
    apply Trace.KeepsBooks.noteAll
    intro c hc
    obtain ⟨entry, _, rfl⟩ := List.mem_map.1 hc
    rfl

namespace Session

theorem books_after {s : Session Trace} {calls : List Call}
    (h : Trace.Books calls s.device.driver) (e : Event) :
    Trace.Books (calls ++ s.device.driver.callsSince (s.after e).device.driver)
      (s.after e).device.driver := by
  cases e with
  | allocateSets layouts => exact (poolCalls_keepsBooks.allocate _ _ layouts).books h
  | act a =>
    simp only [after]
    split
    · exact (driverCalls_keepsBooks.step s a).books h
    · exact (Trace.KeepsBooks.refl _).books h
  | switch x =>
    -- A switch writes nothing down, and clearing the log is not a call.
    have hnothing : s.device.driver.callsSince (s.after (.switch x)).device.driver = [] := by
      cases x with
      | clearLog => exact List.drop_nil
      | _ => exact Trace.callsSince_of_log_eq rfl
    have hpools : (s.after (.switch x)).device.driver.pools = s.device.driver.pools := by
      cases x <;> rfl
    rw [hnothing, List.append_nil]
    exact h.mono hpools (quiet_switch s x).next_le

theorem books_through (available : Capabilities) (settings : Settings) (events : List Event) :
    Trace.Books ((start available settings).chronicle events)
      ((start available settings).through events).device.driver := by
  induction events using List.reverseRecOn with
  | nil => exact Trace.books_nil (poolsReady_start available settings).fresh
  | append_singleton events e ih =>
    rw [chronicle_concat, through_concat]
    exact books_after ih e

/-- Every pool of a run is made for as many sets as the settings say. -/
theorem maxSets_of_made {available : Capabilities} {settings : Settings} {events : List Event}
    {pool : Handle .descriptorPool} {maxSets : Nat}
    (h : .createDescriptorPool pool maxSets ∈ (start available settings).chronicle events) :
    maxSets = max 1 settings.descriptorPool.maxSetsPerPool.toNat := by
  obtain ⟨_, hfind, -⟩ := (books_through available settings events).made pool maxSets h
  exact (sized_through available settings events).2 _ (List.mem_of_find?_eq_some hfind)

/-- Pools stay within their room unless they were made for as many sets as a count can show and
one of them gives away more than that. -/
theorem withinRoom_iff (available : Capabilities) (settings : Settings) (events : List Event) :
    let calls := (start available settings).chronicle events
    (∀ past, past <+: calls → WithinRoom past) ↔
      max 1 settings.descriptorPool.maxSetsPerPool.toNat < maxCount ∨
        ∀ past, past <+: calls → WithinCount past := by
  intro calls
  have hbelow := (books_through available settings events).within
  constructor
  · intro hroom
    refine Or.inr fun past hpast pool maxSets hmem => ?_
    refine Nat.le_trans (hroom past hpast pool maxSets hmem) ?_
    rw [maxSets_of_made (hpast.subset hmem)]
    exact capacity_le_maxCount settings
  · intro h past hpast pool maxSets hmem
    rcases Nat.lt_or_ge maxSets maxCount with hlt | hge
    · exact hbelow past hpast pool maxSets hmem hlt
    · rw [maxSets_of_made (hpast.subset hmem)] at hge
      have hcount := h.resolve_left (Nat.not_lt.2 hge)
      rw [maxSets_of_made (hpast.subset hmem)]
      exact Nat.le_trans (hcount past hpast pool maxSets hmem) hge

/-! ## 2. Requests -/

/-- A request is granted: one set for each layout, all different and none of them issued before.
They are all that the driver issues for it. -/
def GrantsAnew (s : Session Trace) (issued : List (Handle .descriptorSet))
    (layouts : List (Handle .setLayout)) : Prop :=
  ∃ sets, (s.device.allocateSets layouts).answer = .ok sets ∧ sets.length = layouts.length ∧
    sets.Nodup ∧ (∀ set ∈ sets, set ∉ issued) ∧
    issuedSets (s.device.driver.callsSince (s.after (.allocateSets layouts)).device.driver) = sets

/-- A request is refused: nothing is called, and the session is what it was. -/
def RefusesUntouched (s : Session Trace) (layouts : List (Handle .setLayout)) : Prop :=
  (s.device.allocateSets layouts).answer = .error (.error (.outOfPoolMemory layouts.length)) ∧
    s.device.driver.callsSince (s.after (.allocateSets layouts)).device.driver = [] ∧
    s.after (.allocateSets layouts) = s

theorem grantsAnew_of_le {available : Capabilities} {settings : Settings} {events : List Event}
    {layouts : List (Handle .setLayout)}
    (hworks : ((start available settings).through events).device.driver.setFailure = none)
    (hfits : layouts.length ≤ max 1 settings.descriptorPool.maxSetsPerPool.toNat) :
    ((start available settings).through events).GrantsAnew
      (issuedSets ((start available settings).chronicle events)) layouts := by
  have hready := poolsReady_through available settings events
  have hbooks := books_through available settings events
  obtain ⟨first, hanswer⟩ := (DescriptorPools.granting_allocate hready layouts).2 hfits hworks
  refine ⟨Handle.freshList first layouts.length, hanswer, Handle.length_freshList _ _,
    Handle.nodup_freshList _ _, fun set hset hissued => ?_, issued_by_allocate hanswer⟩
  by_cases hsome : layouts = []
  · rw [hsome] at hset
    cases hset
  · -- What was issued before is numbered below the next number, the new sets from there on.
    obtain ⟨first', hnumbered, hle, _⟩ := granted_on_trace hsome hanswer
    rw [hnumbered] at hset
    have hlow := (Handle.mem_freshList.1 hset).1
    have hhigh := hbooks.issued set hissued
    omega

theorem refusesUntouched_of_lt {settings : Settings} {s : Session Trace}
    (hready : s.PoolsReady settings) {layouts : List (Handle .setLayout)}
    (hlarge : max 1 settings.descriptorPool.maxSetsPerPool.toNat < layouts.length) :
    s.RefusesUntouched layouts := by
  rw [← hready.capacity] at hlarge
  have hsame : s.after (.allocateSets layouts) = s := by
    simp only [after, Device.allocateSets, DescriptorPools.allocate_of_capacity_lt _ hlarge]
  refine ⟨?_, by rw [hsame, Trace.callsSince_of_log_eq rfl], hsame⟩
  simp only [Device.allocateSets, DescriptorPools.allocate_of_capacity_lt _ hlarge]

/-- After any run that left no failure switched on: a request that one pool can hold, which is one
set at least, is granted with new sets, and a larger one is refused and changes nothing.  At no
time in the run has a pool given away more than it was made for, unless it was made for as many
sets as a count can show: such a pool is never full. -/
theorem sets_granted_up_to_one_pool (available : Capabilities) (settings : Settings)
    (events : List Event) (layouts : List (Handle .setLayout))
    (hworks : ((start available settings).through events).device.driver.setFailure = none) :
    let s := (start available settings).through events
    let calls := (start available settings).chronicle events
    (if layouts.length ≤ max 1 settings.descriptorPool.maxSetsPerPool.toNat then
      s.GrantsAnew (issuedSets calls) layouts
    else s.RefusesUntouched layouts) ∧
      ((∀ past, past <+: calls → WithinRoom past) ↔
        max 1 settings.descriptorPool.maxSetsPerPool.toNat < maxCount ∨
          ∀ past, past <+: calls → WithinCount past) := by
  intro s calls
  refine ⟨?_, withinRoom_iff available settings events⟩
  split
  · rename_i hfits
    exact grantsAnew_of_le hworks hfits
  · rename_i hlarge
    exact refusesUntouched_of_lt (poolsReady_through available settings events)
      (Nat.lt_of_not_le hlarge)

/-- Pools of two sets, one of which is half empty when two more sets are asked for. -/
theorem two_sets_granted_past_a_half_full_pool :
    let settings : Settings := { descriptorPool := { maxSetsPerPool := 2 } }
    let events : List Event := [.allocateSets [⟨7⟩, ⟨7⟩], .act .resetSets, .allocateSets [⟨7⟩]]
    let s := (start {} settings).through events
    s.device.driver.setFailure = none ∧
      s.GrantsAnew (issuedSets ((start {} settings).chronicle events)) [⟨7⟩, ⟨7⟩] := by
  intro settings events s
  have hworks : s.device.driver.setFailure = none := rfl
  exact ⟨hworks, (sets_granted_up_to_one_pool {} settings events [⟨7⟩, ⟨7⟩] hworks).1⟩

/-! ## 3. A pool that is never full -/

/-- The only pool of a session serves its requests, and so many sets have been taken from it. -/
structure TakesFromOne (s : Session Trace) (calls : List Call) (taken : Nat) : Prop where
  filling : s.device.descriptorPools.Filling s.device.driver 0 taken
  taken : ∃ pool maxSets, s.device.descriptorPools.pools = [pool] ∧ takenFrom pool calls = taken ∧
    .createDescriptorPool pool maxSets ∈ calls

/-- A pool for as many sets as a count can show serves one request more. -/
theorem TakesFromOne.after {s : Session Trace} {calls : List Call} {taken : Nat}
    (h : s.TakesFromOne calls taken) (hroom : maxCount ≤ s.device.descriptorPools.capacity)
    (layout : Handle .setLayout) :
    (s.after (.allocateSets [layout])).TakesFromOne
      (calls ++ s.device.driver.callsSince (s.after (.allocateSets [layout])).device.driver)
      (taken + 1) := by
  obtain ⟨pool, maxSets, hpools, htaken, hmade⟩ := h.taken
  have hpool : s.device.descriptorPools.pools[0]? = some pool := by rw [hpools]; rfl
  have hfits := NextFit.withinCount_of_maxCount_le hroom (taken + [layout].length)
  have hserved : s.device.descriptorPools.allocate s.device.driver [layout] =
      ⟨.ok (Handle.freshList s.device.driver.next 1), s.device.descriptorPools,
        s.device.driver.take pool [layout], []⟩ := by
    have hone : [layout].length ≤ s.device.descriptorPools.capacity := Nat.le_max_left _ _
    rw [DescriptorPools.allocate_of_ne (List.cons_ne_nil _ _) hone (by simp [hpools]),
      DescriptorPools.allocateCurrent_of_room h.filling hpool hfits]
    rfl
  have hdevice : (s.after (.allocateSets [layout])).device =
      { s.device with driver := s.device.driver.take pool [layout] } := by
    simp only [Session.after, Device.allocateSets, hserved]
  have hcalls : s.device.driver.callsSince (s.device.driver.take pool [layout]) = [_] :=
    Trace.callsSince_of_append (s.device.driver.serves_take pool [layout]).log
  refine ⟨?_, pool, maxSets, ?_, ?_, ?_⟩
  · rw [hdevice]
    exact h.filling.take hpool hfits
  · rw [hdevice]
    exact hpools
  · rw [hdevice, hcalls, takenFrom_concat, htaken, takenAfter, if_pos rfl]
    rfl
  · rw [hdevice]
    exact List.mem_append_left _ hmade

/-- The first request makes the pool. -/
theorem takesFromOne_first (available : Capabilities) (settings : Settings)
    (layout : Handle .setLayout) :
    let s := start available settings
    (s.after (.allocateSets [layout])).TakesFromOne (s.chronicle [.allocateSets [layout]]) 1 := by
  intro s
  have hfresh : s.device.driver.Fresh := (poolsReady_start available settings).fresh
  have hascending := ascending_through available settings []
  have hone : [layout].length ≤ s.device.descriptorPools.capacity := Nat.le_max_left _ _
  have hne : [layout] ≠ [] := List.cons_ne_nil _ _
  obtain ⟨-, hfilling⟩ := DescriptorPools.serves_first (p := s.device.descriptorPools)
    (t := s.device.driver) rfl hfresh hascending rfl hne hone
  have hserved := DescriptorPools.allocate_of_no_pools (p := s.device.descriptorPools)
    (t := s.device.driver) rfl hfresh hascending rfl hne hone
  have hcalls : s.chronicle [.allocateSets [layout]] =
      [.createDescriptorPool ⟨s.device.driver.next⟩ s.device.descriptorPools.capacity,
        .allocateDescriptorSets ⟨s.device.driver.next⟩ [layout]
          (Handle.freshList (s.device.driver.next + 1) 1)] := by
    rw [chronicle, chronicle, List.append_nil]
    apply Trace.callsSince_of_append
    show (s.device.descriptorPools.allocate s.device.driver [layout]).driver.log.toList = _
    rw [hserved, (Trace.serves_take _ _ _).log, Trace.log_createDescriptorPool, List.append_assoc]
    rfl
  refine ⟨hfilling, ⟨s.device.driver.next⟩, s.device.descriptorPools.capacity, ?_, ?_, ?_⟩
  · show (s.device.descriptorPools.allocate s.device.driver [layout]).pools.pools = _
    rw [hserved]
  · rw [hcalls]
    rfl
  · rw [hcalls]
    exact List.mem_cons_self

/-- However many requests follow, all are served by the first pool. -/
theorem takesFromOne_of_singles (available : Capabilities) {settings : Settings}
    (hroom : settings.descriptorPool.maxSetsPerPool.toNat = maxCount)
    (layout : Handle .setLayout) (count : Nat) :
    let events := List.replicate (count + 1) (.allocateSets [layout])
    ((start available settings).through events).TakesFromOne
      ((start available settings).chronicle events) (count + 1) := by
  induction count with
  | zero => exact takesFromOne_first available settings layout
  | succ count ih =>
    have hcapacity := (poolsReady_through available settings
      (List.replicate (count + 1) (.allocateSets [layout]))).capacity
    intro events
    have hevents : events = List.replicate (count + 1) (.allocateSets [layout]) ++
        [.allocateSets [layout]] := List.replicate_succ'
    rw [hevents, through_concat, chronicle_concat]
    refine ih.after ?_ layout
    rw [hcapacity, hroom]
    exact Nat.le_max_right _ _

/-- A pool that was made for as many sets as a count can show gives away one more. -/
theorem full_pool_gives_away :
    let settings : Settings := { descriptorPool := { maxSetsPerPool := 4294967295 } }
    let calls := (start {} settings).chronicle
      (List.replicate 4294967296 (.allocateSets [⟨1⟩]))
    ¬ WithinRoom calls := by
  intro settings calls hroom
  have hlarge : settings.descriptorPool.maxSetsPerPool.toNat = maxCount := rfl
  have htakes := takesFromOne_of_singles {} hlarge ⟨1⟩ 4294967295
  obtain ⟨pool, maxSets, -, htaken, hmade⟩ := htakes.taken
  have hle := hroom pool maxSets hmade
  rw [htaken, maxSets_of_made hmade] at hle
  exact absurd hle (by decide)

end Session

end GpuRecorder
