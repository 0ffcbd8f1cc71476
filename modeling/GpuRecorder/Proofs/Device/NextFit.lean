import GpuRecorder.Proofs.Device.PoolCursor
import GpuRecorder.Proofs.Device.PoolOrder
import Mathlib.Tactic.Linarith

/-!
# The descriptor pools on a trace are packed next-fit

Next-fit keeps one bin open: what fits goes in, and what does not closes it and opens another.
Over a trace that was not told to fail the descriptor pools do just that, with pools for bins.  The
cursor stands at the open one, and whether the next pool is left over or has to be made does not
show in where a request is served.  What fits into a pool is a sum of 32 bits, which stays at the
largest count: a pool for that many sets is a bin that is never closed.
-/

namespace GpuRecorder

open Draw

/-! ## 1. Next-fit -/

namespace NextFit

section

variable (fits : Nat → Bool)

/-- The loads of the bins, the open one first, after one more item. -/
def place : List Nat → Nat → List Nat
  | [], size => [size]
  | load :: rest, size =>
    if fits (load + size) then (load + size) :: rest else size :: load :: rest

def loads (sizes : List Nat) : List Nat := sizes.foldl (place fits) []

/-- The bin that each item goes into; bins are numbered in the order they are opened. -/
def placementsFrom (loads : List Nat) : List Nat → List Nat
  | [] => []
  | size :: sizes =>
    ((place fits loads size).length - 1) :: placementsFrom (place fits loads size) sizes

def placements (sizes : List Nat) : List Nat := placementsFrom fits [] sizes

end

/-- The loads that a bin of some size can have. -/
def within (room load : Nat) : Bool := load ≤ room

/-- The loads that a pool for `room` sets can have. -/
def withinCount (room load : Nat) : Bool := saturate load ≤ room

theorem withinCount_of_le {room load : Nat} (h : load ≤ room) : withinCount room load = true :=
  decide_eq_true (Nat.le_trans (Nat.min_le_left _ _) h)

theorem lt_of_not_withinCount {room load : Nat} (h : withinCount room load = false) :
    room < load :=
  Nat.lt_of_lt_of_le (Nat.not_le.1 (of_decide_eq_false h)) (Nat.min_le_left _ _)

theorem withinCount_of_lt {room : Nat} (h : room < maxCount) : withinCount room = within room := by
  funext load
  rw [withinCount, within, decide_eq_decide, saturate]
  omega

theorem withinCount_of_maxCount_le {room : Nat} (h : maxCount ≤ room) (load : Nat) :
    withinCount room load = true :=
  decide_eq_true (Nat.le_trans (saturate_le load) h)

/-! Where all fits into one bin -/

variable {fits : Nat → Bool} {room load : Nat} {sizes : List Nat}

theorem placementsFrom_of_fits (h : ∀ n ≤ load + sizes.sum, fits n) :
    placementsFrom fits [load] sizes = List.replicate sizes.length 0 := by
  induction sizes generalizing load with
  | nil => rfl
  | cons size sizes ih =>
    rw [List.sum_cons, ← Nat.add_assoc] at h
    rw [placementsFrom, place, if_pos (h _ (Nat.le_add_right _ _)), ih h]
    rfl

theorem placements_of_fits (h : ∀ n ≤ sizes.sum, fits n) :
    placements fits sizes = List.replicate sizes.length 0 := by
  cases sizes with
  | nil => rfl
  | cons size sizes => exact congrArg (0 :: ·) (placementsFrom_of_fits h)

theorem foldl_place_of_fits (h : ∀ n ≤ load + sizes.sum, fits n) :
    sizes.foldl (place fits) [load] = [load + sizes.sum] := by
  induction sizes generalizing load with
  | nil => rfl
  | cons size sizes ih =>
    rw [List.sum_cons, ← Nat.add_assoc] at h ⊢
    rw [List.foldl_cons, place, if_pos (h _ (Nat.le_add_right _ _)), ih h]

theorem loads_of_fits {fits' : Nat → Bool} (h : ∀ n ≤ sizes.sum, fits n)
    (h' : ∀ n ≤ sizes.sum, fits' n) : loads fits sizes = loads fits' sizes := by
  cases sizes with
  | nil => rfl
  | cons size sizes => exact (foldl_place_of_fits h).trans (foldl_place_of_fits h').symm

/-- When nothing is closed, all that came is in the open bin. -/
theorem sum_le_of_placementsFrom (hload : load ≤ room)
    (h : placementsFrom (within room) [load] sizes = List.replicate sizes.length 0) :
    load + sizes.sum ≤ room := by
  induction sizes generalizing load with
  | nil => exact hload
  | cons size sizes ih =>
    rw [List.sum_cons, ← Nat.add_assoc]
    rw [placementsFrom, place] at h
    by_cases hfits : within room (load + size) = true
    · rw [if_pos hfits] at h
      exact ih (of_decide_eq_true hfits) (List.cons.inj h).2
    · rw [if_neg hfits] at h
      cases h

/-- Pools are bins of their size, unless they are for as many sets as a count can show and more
than that are asked for. -/
theorem placements_withinCount_eq_iff (hroom : room ≤ maxCount)
    (hsizes : ∀ size ∈ sizes, size ≤ room) :
    placements (withinCount room) sizes = placements (within room) sizes ↔
      room < maxCount ∨ sizes.sum ≤ maxCount := by
  rcases Nat.lt_or_eq_of_le hroom with hlt | rfl
  · exact iff_of_true (congrArg (placements · sizes) (withinCount_of_lt hlt)) (Or.inl hlt)
  · rw [placements_of_fits fun n _ => withinCount_of_maxCount_le (Nat.le_refl _) n]
    constructor
    · intro heq
      refine Or.inr ?_
      cases sizes with
      | nil => exact Nat.zero_le _
      | cons size sizes =>
        exact sum_le_of_placementsFrom (hsizes size List.mem_cons_self) (List.cons.inj heq).2.symm
    · rintro (hlt | hsum)
      · exact absurd hlt (Nat.lt_irrefl _)
      · exact (placements_of_fits fun n hn => decide_eq_true (Nat.le_trans hn hsum)).symm

theorem loads_withinCount (hroom : room ≤ maxCount) (h : room < maxCount ∨ sizes.sum ≤ maxCount) :
    loads (withinCount room) sizes = loads (within room) sizes := by
  rcases Nat.lt_or_eq_of_le hroom with hlt | rfl
  · rw [withinCount_of_lt hlt]
  · have hsum := h.resolve_left (Nat.lt_irrefl _)
    exact loads_of_fits (fun n _ => withinCount_of_maxCount_le (Nat.le_refl _) n)
      fun n hn => decide_eq_true (Nat.le_trans hn hsum)

theorem length_placementsFrom (fits : Nat → Bool) (loads sizes : List Nat) :
    (placementsFrom fits loads sizes).length = sizes.length := by
  induction sizes generalizing loads with
  | nil => rfl
  | cons size sizes ih => exact congrArg (· + 1) (ih _)

/-- Two neighbouring bins together hold more than one bin has room for, so but for the open bin's
load the bins are at least half full on average. -/
def HalfFull (room total : Nat) : List Nat → Prop
  | [] => total = 0
  | load :: rest => 0 < load ∧ rest.length * room + load ≤ 2 * total

theorem halfFull_place {total size : Nat} {loads : List Nat} (h : HalfFull room total loads)
    (hfull : ∀ load, fits load = false → room < load) (hsize : 0 < size) :
    HalfFull room (total + size) (place fits loads size) := by
  cases loads with
  | nil =>
    obtain rfl : total = 0 := h
    show 0 < size ∧ 0 * room + size ≤ 2 * (0 + size)
    omega
  | cons load rest =>
    obtain ⟨hload, hbound⟩ := h
    cases hfits : fits (load + size) with
    | true =>
      rw [place, if_pos hfits]
      show 0 < load + size ∧ rest.length * room + (load + size) ≤ 2 * (total + size)
      omega
    | false =>
      -- What does not fit into the open bin overfills it together with its load.
      have hover := hfull _ hfits
      rw [place, if_neg (by simp [hfits])]
      show 0 < size ∧ (rest.length + 1) * room + size ≤ 2 * (total + size)
      rw [Nat.add_mul]
      omega

theorem halfFull_foldl {total : Nat} {loads : List Nat} (h : HalfFull room total loads)
    (hfull : ∀ load, fits load = false → room < load) (hsizes : ∀ size ∈ sizes, 0 < size) :
    HalfFull room (total + sizes.sum) (sizes.foldl (place fits) loads) := by
  induction sizes generalizing total loads with
  | nil => exact h
  | cons size sizes ih =>
    rw [List.sum_cons, ← Nat.add_assoc, List.foldl_cons]
    exact ih (halfFull_place h hfull (hsizes size List.mem_cons_self))
      fun other hother => hsizes other (List.mem_cons_of_mem _ hother)

theorem bins_lt (hroom : 0 < room) (hfull : ∀ load, fits load = false → room < load)
    (hsizes : ∀ size ∈ sizes, 0 < size) :
    ((loads fits sizes).length - 1 : Int) * room < 2 * sizes.sum := by
  have hhalf : HalfFull room (0 + sizes.sum) (loads fits sizes) := halfFull_foldl rfl hfull hsizes
  rw [Nat.zero_add] at hhalf
  generalize sizes.sum = total at hhalf ⊢
  cases hloads : loads fits sizes with
  | nil =>
    rw [List.length_nil]
    omega
  | cons load rest =>
    rw [hloads] at hhalf
    obtain ⟨hload, hbound⟩ := hhalf
    have hbound : (rest.length * room + load : Int) ≤ 2 * total := by exact_mod_cast hbound
    rw [List.length_cons, Nat.cast_succ, add_sub_cancel_right]
    omega

end NextFit

/-! ## 2. One pool on a trace -/

namespace Native

open NextFit

/-- The pool that serves a request, and the layouts it is for. -/
def Call.grant? : Call → Option (Handle .descriptorPool × List (Handle .setLayout))
  | .allocateDescriptorSets pool layouts _ => some (pool, layouts)
  | _ => none

namespace Trace

/-- Sets are taken from one pool that has the room; the others are as full as they were. -/
structure Serves (t : Trace) (pool : Handle .descriptorPool) (layouts : List (Handle .setLayout))
    (t' : Trace) : Prop where
  failure : t'.setFailure = t.setFailure
  keeps : KeepsPools t t'
  log : t'.log.toList = t.log.toList ++
    [.allocateDescriptorSets pool layouts (Handle.freshList t.next layouts.length)]
  taken : ∀ maxSets taken, t.Holds pool maxSets taken →
    withinCount maxSets (taken + layouts.length) → t'.Holds pool maxSets (taken + layouts.length)
  others : ∀ other maxSets taken, other ≠ pool → t.Holds other maxSets taken →
    t'.Holds other maxSets taken

def take (t : Trace) (pool : Handle .descriptorPool) (layouts : List (Handle .setLayout)) :
    Trace :=
  { t with
    pools := PoolUsage.update t.pools pool (.give layouts.length)
    next := t.next + layouts.length
    log := t.log.push
      (.allocateDescriptorSets pool layouts (Handle.freshList t.next layouts.length)) }

theorem serves_take (t : Trace) (pool : Handle .descriptorPool)
    (layouts : List (Handle .setLayout)) : t.Serves pool layouts (t.take pool layouts) where
  failure := rfl
  keeps := .of_update rfl (Nat.le_add_right _ _)
  log := by simp [take]
  taken := by
    intro maxSets taken hholds hroom
    have hpools : (t.take pool layouts).pools =
        PoolUsage.update t.pools pool (.give layouts.length) := rfl
    have hgiven := hholds.give hpools fun _ hlt => by
      rw [withinCount_of_lt hlt] at hroom
      exact of_decide_eq_true hroom
    rwa [if_pos rfl] at hgiven
  others := by
    intro other maxSets taken hne hholds
    have hpools : (t.take pool layouts).pools =
        PoolUsage.update t.pools pool (.give layouts.length) := rfl
    have hgiven := hholds.give hpools fun heq => absurd heq.symm hne
    rwa [if_neg hne.symm] at hgiven

theorem allocateDescriptorSets_of_holds {t : Trace} {pool : Handle .descriptorPool}
    {maxSets taken : Nat} (hfailure : t.setFailure = none) (hholds : t.Holds pool maxSets taken)
    (layouts : List (Handle .setLayout)) :
    Driver.allocateDescriptorSets t pool layouts =
      if withinCount maxSets (taken + layouts.length) then
        (.ok (Handle.freshList t.next layouts.length), t.take pool layouts)
      else (.error .outOfPoolMemory, t) := by
  obtain ⟨u, hfind, hfull⟩ := hholds.isFullFor_iff layouts.length
  show t.allocateDescriptorSets pool layouts = _
  unfold allocateDescriptorSets
  simp only [hfailure, hfind, hfull, mintMany, note, take, withinCount, decide_eq_true_eq,
    ← Nat.not_lt, ite_not]

theorem log_createDescriptorPool (t : Trace) (maxSets : Nat) :
    (t.createDescriptorPool maxSets).2.log.toList =
      t.log.toList ++ [.createDescriptorPool ⟨t.next⟩ maxSets] :=
  log_note _ _

theorem failure_resetAll (t : Trace) (pools : List (Handle .descriptorPool)) :
    (pools.foldl resetDescriptorPool t).setFailure = t.setFailure := by
  induction pools generalizing t with
  | nil => rfl
  | cons pool rest ih => exact ih (t.resetDescriptorPool pool)

theorem find?_resetAll (t : Trace) (pools : List (Handle .descriptorPool))
    (other : Handle .descriptorPool) :
    PoolUsage.find? (pools.foldl resetDescriptorPool t).pools other =
      (PoolUsage.find? t.pools other).map fun u =>
        if u.pool ∈ pools then { u with allocated := 0 } else u := by
  induction pools generalizing t with
  | nil => simp
  | cons pool rest ih =>
    have hpools : (t.resetDescriptorPool pool).pools =
        PoolUsage.update t.pools pool fun u => { u with allocated := 0 } := rfl
    rw [List.foldl_cons, ih, hpools, find?_update, Option.map_map]
    congr 1
    funext u
    by_cases hu : u.pool = pool
    · simp [hu]
    · simp [hu]

theorem holds_resetAll {t : Trace} {pools : List (Handle .descriptorPool)}
    {pool : Handle .descriptorPool} (hmem : pool ∈ pools) {maxSets : Nat}
    (hknows : t.Knows pool maxSets) :
    (pools.foldl resetDescriptorPool t).Holds pool maxSets 0 := by
  obtain ⟨u, hfind, rfl⟩ := hknows
  have hpool : u.pool = pool := by simpa using List.find?_some hfind
  refine ⟨0, ?_, fun _ => rfl⟩
  rw [find?_resetAll, hfind]
  simp [hpool, hmem]

end Trace

end Native

/-! ## 3. The open pool -/

namespace Device

open Native NextFit

namespace DescriptorPools

/-- The cursor stands at pool number `index`, of which so many sets are taken, and the pools after
it are empty. -/
structure Filling (p : DescriptorPools) (t : Trace) (index taken : Nat) : Prop where
  failure : t.setFailure = none
  fresh : t.Fresh
  ascending : p.Ascending t
  cursor : p.current = index
  current : ∃ pool, p.pools[index]? = some pool ∧ t.Holds pool p.capacity taken
  later : ∀ i pool, index < i → p.pools[i]? = some pool → t.Holds pool p.capacity 0

/-- A request is granted by pool number `index`, which was there or has been made for it. -/
structure ServedBy (p : DescriptorPools) (t : Trace) (layouts : List (Handle .setLayout))
    (index : Nat) (a : Allocation Trace) : Prop where
  answer : ∃ first, a.answer = .ok (Handle.freshList first layouts.length)
  sizing : a.pools.sizing = p.sizing
  pools : p.pools <+: a.pools.pools
  count : a.pools.poolCount = max p.poolCount (index + 1)
  log : ∃ pool calls, a.pools.pools[index]? = some pool ∧
    a.driver.log.toList = t.log.toList ++ calls ∧
      calls.filterMap Call.grant? = [(pool, layouts)]

variable {p : DescriptorPools} {t : Trace} {index taken : Nat}

theorem Filling.take (h : p.Filling t index taken) {pool : Handle .descriptorPool}
    (hpool : p.pools[index]? = some pool) {layouts : List (Handle .setLayout)}
    (hroom : withinCount p.capacity (taken + layouts.length)) :
    p.Filling (t.take pool layouts) index (taken + layouts.length) := by
  obtain ⟨current, hcurrent, hholds⟩ := h.current
  obtain rfl : pool = current := Option.some.inj (hpool.symm.trans hcurrent)
  have hserves := t.serves_take pool layouts
  refine ⟨h.failure, hserves.keeps.fresh h.fresh, h.ascending.mono hserves.keeps.next_le,
    h.cursor, ⟨pool, hpool, hserves.taken _ _ hholds hroom⟩, ?_⟩
  intro i other hi hother
  refine hserves.others _ _ _ ?_ (h.later i other hi hother)
  -- No pool stands at two places of the list.
  rintro rfl
  have heq := (List.getElem?_inj (List.getElem?_eq_some_iff.1 hpool).1 h.ascending.nodup).1
    (hpool.trans hother.symm)
  omega

/-- The cursor moves on to a pool that is there. -/
theorem Filling.next (h : p.Filling t index taken) (hlt : index + 1 < p.pools.length) :
    Filling { p with current := index + 1 } t (index + 1) 0 where
  failure := h.failure
  fresh := h.fresh
  ascending := ⟨h.ascending.sorted, h.ascending.below⟩
  cursor := rfl
  current := ⟨p.pools[index + 1], List.getElem?_eq_getElem hlt,
    h.later (index + 1) _ (Nat.lt_succ_self _) (List.getElem?_eq_getElem hlt)⟩
  later := fun i pool hi hpool => h.later i pool (Nat.lt_of_succ_lt hi) hpool

/-- The cursor moves on to a pool that is made for it. -/
theorem Filling.grow (hfailure : t.setFailure = none) (hfresh : t.Fresh)
    (hascending : p.Ascending t) :
    Filling { p with pools := p.pools ++ [⟨t.next⟩], current := p.pools.length }
      (t.createDescriptorPool p.capacity).2 p.pools.length 0 where
  failure := hfailure
  fresh := (t.createDescriptorPool_spec p.capacity).1.fresh hfresh
  ascending := hascending.addPool _
  cursor := rfl
  current := ⟨⟨t.next⟩, by simp, (Trace.holds_createDescriptorPool hfresh p.capacity).1⟩
  later := by
    intro i pool hi hpool
    have hlt := (List.getElem?_eq_some_iff.1 hpool).1
    simp only [List.length_append, List.length_singleton] at hlt
    omega

/-- What a pool takes is served by it; on the way there a pool may have been made. -/
theorem servedBy_take {p' : DescriptorPools} {t' : Trace} (calls : List Call)
    (hlog : t'.log.toList = t.log.toList ++ calls) (hcalls : calls.filterMap Call.grant? = [])
    (hsizing : p'.sizing = p.sizing) (hpools : p.pools <+: p'.pools)
    (hcount : p'.poolCount = max p.poolCount (index + 1)) {pool : Handle .descriptorPool}
    (hpool : p'.pools[index]? = some pool) (layouts : List (Handle .setLayout))
    (messages : List Message) :
    ServedBy p t layouts index
      ⟨.ok (Handle.freshList t'.next layouts.length), p', t'.take pool layouts, messages⟩ where
  answer := ⟨_, rfl⟩
  sizing := hsizing
  pools := hpools
  count := hcount
  log := by
    refine ⟨pool, calls ++ [.allocateDescriptorSets pool layouts
      (Handle.freshList t'.next layouts.length)], hpool, ?_, ?_⟩
    · show (t'.take pool layouts).log.toList = _
      rw [(t'.serves_take pool layouts).log, hlog, List.append_assoc]
    · rw [List.filterMap_append, hcalls]
      rfl

theorem drop_current (h : p.Filling t index taken) {pool : Handle .descriptorPool}
    (hpool : p.pools[index]? = some pool) :
    p.pools.drop p.current = pool :: p.pools.drop (index + 1) := by
  obtain ⟨hlt, hget⟩ := List.getElem?_eq_some_iff.1 hpool
  rw [h.cursor, List.drop_eq_getElem_cons hlt, hget]

/-- With room for a request nothing but the pool at the cursor is asked. -/
theorem allocateCurrent_of_room (h : p.Filling t index taken) {pool : Handle .descriptorPool}
    (hpool : p.pools[index]? = some pool) {layouts : List (Handle .setLayout)}
    (hroom : withinCount p.capacity (taken + layouts.length)) :
    p.allocateCurrent t layouts =
      ⟨.ok (Handle.freshList t.next layouts.length), p, t.take pool layouts, []⟩ := by
  obtain ⟨current, hcurrent, hholds⟩ := h.current
  obtain rfl : pool = current := Option.some.inj (hpool.symm.trans hcurrent)
  rw [allocateCurrent, drop_current h hpool]
  show p.allocateFrom t layouts _ = _
  rw [allocateFrom, Trace.allocateDescriptorSets_of_holds h.failure hholds, if_pos hroom]

/-- With room for a request the pool at the cursor serves it. -/
theorem serves_of_room (h : p.Filling t index taken) {layouts : List (Handle .setLayout)}
    (hroom : withinCount p.capacity (taken + layouts.length)) :
    let a := p.allocateCurrent t layouts
    ServedBy p t layouts index a ∧ a.pools.Filling a.driver index (taken + layouts.length) := by
  obtain ⟨pool, hpool, -⟩ := h.current
  have hlt := (List.getElem?_eq_some_iff.1 hpool).1
  rw [allocateCurrent_of_room h hpool hroom]
  refine ⟨servedBy_take [] (List.append_nil _).symm rfl rfl (List.prefix_refl _) ?_ hpool _ _,
    h.take hpool hroom⟩
  show p.pools.length = max p.pools.length (index + 1)
  omega

theorem allocateGrowing_of_fits (hfailure : t.setFailure = none) (hfresh : t.Fresh)
    {layouts : List (Handle .setLayout)} (hfits : layouts.length ≤ p.capacity) :
    p.allocateGrowing t layouts =
      ⟨.ok (Handle.freshList (t.next + 1) layouts.length),
        { p with pools := p.pools ++ [⟨t.next⟩] },
        (t.createDescriptorPool p.capacity).2.take ⟨t.next⟩ layouts,
        [.debug s!"Created descriptor pool with room for {p.capacity} sets"]⟩ := by
  have hnew := (Trace.holds_createDescriptorPool hfresh p.capacity).1
  have hroom : withinCount p.capacity (0 + layouts.length) :=
    withinCount_of_le (by rwa [Nat.zero_add])
  rw [allocateGrowing, addPool_trace]
  simp only [List.getLast?_concat]
  rw [Trace.allocateDescriptorSets_of_holds (t := (t.createDescriptorPool p.capacity).2) hfailure
    hnew, if_pos hroom]
  rfl

/-- Without room the pool after it does, and it is made if it is not there. -/
theorem serves_of_full (h : p.Filling t index taken) {layouts : List (Handle .setLayout)}
    (hfull : ¬ withinCount p.capacity (taken + layouts.length))
    (hfits : layouts.length ≤ p.capacity) :
    let a := p.allocateCurrent t layouts
    ServedBy p t layouts (index + 1) a ∧ a.pools.Filling a.driver (index + 1) layouts.length := by
  obtain ⟨pool, hpool, hholds⟩ := h.current
  have hlt := (List.getElem?_eq_some_iff.1 hpool).1
  have hroom : withinCount p.capacity (0 + layouts.length) :=
    withinCount_of_le (by rwa [Nat.zero_add])
  have hmoves : p.allocateCurrent t layouts =
      allocateFrom { p with current := index + 1 } t layouts (p.pools.drop (index + 1)) := by
    rw [allocateCurrent, drop_current h hpool]
    show p.allocateFrom t layouts _ = _
    rw [allocateFrom, Trace.allocateDescriptorSets_of_holds h.failure hholds, if_neg hfull,
      ← h.cursor]
    rfl
  by_cases hleft : index + 1 < p.pools.length
  · -- The next pool is left over from before and empty.
    have hnext := h.next hleft
    obtain ⟨next, hget, hholds⟩ := hnext.current
    have heq : p.allocateCurrent t layouts = ⟨.ok (Handle.freshList t.next layouts.length),
        { p with current := index + 1 }, t.take next layouts, []⟩ := by
      have hdrop : p.pools.drop (index + 1) = next :: p.pools.drop (index + 2) := by
        rw [List.drop_eq_getElem_cons hleft]
        congr 1
        exact Option.some.inj ((List.getElem?_eq_getElem hleft).symm.trans hget)
      have hgranted := (Trace.allocateDescriptorSets_of_holds h.failure hholds layouts).trans
        (if_pos hroom)
      rw [hmoves, hdrop, allocateFrom, hgranted]
    rw [heq]
    constructor
    · apply servedBy_take [] (List.append_nil _).symm
      · rfl
      · rfl
      · exact List.prefix_refl p.pools
      · show p.pools.length = max p.pools.length (index + 1 + 1)
        omega
      · exact hget
    · exact Nat.zero_add layouts.length ▸ hnext.take hget hroom
  · -- The pool at the cursor was the last one.
    have hlast : p.pools.length = index + 1 := by omega
    have hgrown := Filling.grow h.failure h.fresh h.ascending
    rw [hlast] at hgrown
    have hget : (p.pools ++ [(⟨t.next⟩ : Handle .descriptorPool)])[index + 1]? = some ⟨t.next⟩ := by
      simp [← hlast]
    rw [hmoves, List.drop_eq_nil_iff.2 (Nat.le_of_eq hlast), allocateFrom,
      allocateGrowing_of_fits (p := { p with current := index + 1 }) h.failure h.fresh hfits]
    constructor
    · apply servedBy_take _ (t.log_createDescriptorPool p.capacity)
      · rfl
      · rfl
      · exact List.prefix_append _ _
      · show (p.pools ++ [_]).length = max p.pools.length (index + 1 + 1)
        rw [List.length_append, List.length_singleton]
        omega
      · exact hget
    · exact Nat.zero_add layouts.length ▸ hgrown.take hget hroom

/-! ## 4. One request after the other -/

/-- As next-fit leaves the pools: every bin is a pool, the open bin is the one at the cursor, and
there are no more pools than there were `before`, unless the bins need them. -/
def Packed (before : Nat) (p : DescriptorPools) (t : Trace) : (loads : List Nat) → Prop
  | [] => t.setFailure = none ∧ t.Fresh ∧ p.Ascending t ∧ p.poolCount = before ∧
    (p.pools ≠ [] → p.Filling t 0 0)
  | load :: rest => p.poolCount = max before (rest.length + 1) ∧ p.Filling t rest.length load

variable {before : Nat} {loads : List Nat}

theorem Packed.ascending (h : Packed before p t loads) : p.Ascending t := by
  cases loads with
  | nil => exact h.2.2.1
  | cons load rest => exact h.2.ascending

theorem Packed.failure (h : Packed before p t loads) : t.setFailure = none := by
  cases loads with
  | nil => exact h.1
  | cons load rest => exact h.2.failure

theorem Packed.poolCount (h : Packed before p t loads) : p.poolCount = max before loads.length := by
  cases loads with
  | nil => exact h.2.2.2.1.trans (Nat.max_zero _).symm
  | cons load rest => exact h.1

theorem pools_reset (p : DescriptorPools) (t : Trace) : (p.reset t).2.1.pools = p.pools := by
  unfold reset
  split <;> rfl

/-- Before anything was asked for there is no bin and no pool. -/
theorem packed_of_no_pools (hfailure : t.setFailure = none) (hfresh : t.Fresh)
    (hascending : p.Ascending t) (hpools : p.pools = []) : Packed p.poolCount p t [] :=
  ⟨hfailure, hfresh, hascending, rfl, fun hne => absurd hpools hne⟩

/-- A reset leaves no bin either, and every pool it leaves is empty. -/
theorem packed_reset {capacity : Nat} (hfailure : t.setFailure = none)
    (hready : p.Ready capacity t) (hascending : p.Ascending t) :
    Packed (p.reset t).2.1.poolCount (p.reset t).2.1 (p.reset t).2.2 [] := by
  have hascending := stepwise_ascending.reset hascending
  have hfresh := (ready_reset hready).fresh
  have heq : p.reset t =
      (.ok (), { p with current := 0 }, p.pools.foldl Trace.resetDescriptorPool t) := by
    rw [reset, resetEach_trace]
  rw [heq] at hascending hfresh ⊢
  have hfailure := (Trace.failure_resetAll t p.pools).trans hfailure
  have hempty (i : Nat) (pool : Handle .descriptorPool) (hpool : p.pools[i]? = some pool) :
      (p.pools.foldl Trace.resetDescriptorPool t).Holds pool p.capacity 0 := by
    have hmem := List.mem_of_getElem? hpool
    exact Trace.holds_resetAll hmem (hready.known pool hmem)
  refine ⟨hfailure, hfresh, hascending, rfl, fun hne => ?_⟩
  have hfirst : p.pools[0]? = some (p.pools.head hne) := by
    rw [← List.head?_eq_getElem?, List.head?_eq_some_head hne]
  exact ⟨hfailure, hfresh, hascending, rfl, ⟨_, hfirst, hempty 0 _ hfirst⟩,
    fun i pool _ hpool => hempty i pool hpool⟩

theorem allocate_of_ne {layouts : List (Handle .setLayout)} (hne : layouts ≠ [])
    (hfits : layouts.length ≤ p.capacity) (hpools : p.pools ≠ []) :
    p.allocate t layouts = p.allocateCurrent t layouts := by
  rw [allocate, if_neg hne, if_neg (Nat.not_lt.2 hfits), if_neg hpools]

/-- The first pool of all is made for a request, and it alone is asked. -/
theorem allocate_of_no_pools (hfailure : t.setFailure = none) (hfresh : t.Fresh)
    (hascending : p.Ascending t) (hpools : p.pools = []) {layouts : List (Handle .setLayout)}
    (hne : layouts ≠ []) (hfits : layouts.length ≤ p.capacity) :
    p.allocate t layouts =
      ⟨.ok (Handle.freshList (t.next + 1) layouts.length),
        { p with pools := [⟨t.next⟩], current := 0 },
        (t.createDescriptorPool p.capacity).2.take ⟨t.next⟩ layouts,
        [.debug s!"Created descriptor pool with room for {p.capacity} sets"]⟩ := by
  have hgrown := Filling.grow hfailure hfresh hascending
  rw [hpools, List.nil_append, List.length_nil] at hgrown
  have hopen : [(⟨t.next⟩ : Handle .descriptorPool)][0]? = some ⟨t.next⟩ := rfl
  have hroom : withinCount p.capacity (0 + layouts.length) :=
    withinCount_of_le (by rwa [Nat.zero_add])
  have hserved := allocateCurrent_of_room hgrown hopen hroom
  rw [allocate, if_neg hne, if_neg (Nat.not_lt.2 hfits), if_pos hpools, addPool_trace, hpools]
  simp only [List.nil_append, hserved, List.append_nil]
  rfl

/-- The first pool of all serves the request that it is made for. -/
theorem serves_first (hfailure : t.setFailure = none) (hfresh : t.Fresh)
    (hascending : p.Ascending t) (hpools : p.pools = []) {layouts : List (Handle .setLayout)}
    (hne : layouts ≠ []) (hfits : layouts.length ≤ p.capacity) :
    let a := p.allocate t layouts
    ServedBy p t layouts 0 a ∧ a.pools.Filling a.driver 0 layouts.length := by
  have hgrown := Filling.grow hfailure hfresh hascending
  rw [hpools] at hgrown
  have hroom : withinCount p.capacity (0 + layouts.length) :=
    withinCount_of_le (by rwa [Nat.zero_add])
  rw [allocate_of_no_pools hfailure hfresh hascending hpools hne hfits]
  constructor
  · apply servedBy_take _ (t.log_createDescriptorPool p.capacity)
    · rfl
    · rfl
    · rw [hpools]
      exact List.nil_prefix
    · show 1 = max p.pools.length 1
      rw [hpools]
      rfl
    · rfl
  · exact Nat.zero_add layouts.length ▸ hgrown.take rfl hroom

/-- One request: it goes where next-fit puts an item of its size. -/
theorem packed_allocate (h : Packed before p t loads) {layouts : List (Handle .setLayout)}
    (hne : layouts ≠ []) (hfits : layouts.length ≤ p.capacity) :
    let loads' := place (withinCount p.capacity) loads layouts.length
    let a := p.allocate t layouts
    ServedBy p t layouts (loads'.length - 1) a ∧ Packed before a.pools a.driver loads' := by
  have hcount := h.poolCount
  cases loads with
  | nil =>
    obtain ⟨hfailure, hfresh, hascending, -, hopen⟩ := h
    rw [List.length_nil] at hcount
    show ServedBy p t layouts 0 _ ∧ _ ∧ _
    by_cases hpools : p.pools = []
    · obtain ⟨hserved, hfilling⟩ :=
        serves_first hfailure hfresh hascending hpools hne hfits
      refine ⟨hserved, ?_, hfilling⟩
      rw [hserved.count, hcount]
      simp only [List.length_nil]
      omega
    · rw [allocate_of_ne hne hfits hpools]
      have hroom : withinCount p.capacity (0 + layouts.length) :=
        withinCount_of_le (by rwa [Nat.zero_add])
      obtain ⟨hserved, hfilling⟩ := serves_of_room (hopen hpools) hroom
      rw [Nat.zero_add] at hfilling
      refine ⟨hserved, ?_, hfilling⟩
      rw [hserved.count, hcount]
      simp only [List.length_nil]
      omega
  | cons load rest =>
    obtain ⟨-, hopen⟩ := h
    rw [List.length_cons] at hcount
    have hpools : p.pools ≠ [] := by
      apply List.ne_nil_of_length_pos
      show 0 < p.poolCount
      omega
    rw [allocate_of_ne hne hfits hpools]
    by_cases hroom : withinCount p.capacity (load + layouts.length)
    · rw [place, if_pos hroom]
      obtain ⟨hserved, hfilling⟩ := serves_of_room hopen hroom
      refine ⟨hserved, ?_, hfilling⟩
      rw [hserved.count, hcount]
      omega
    · rw [place, if_neg hroom]
      obtain ⟨hserved, hfilling⟩ := serves_of_full hopen hroom hfits
      refine ⟨hserved, ?_, hfilling⟩
      rw [hserved.count, hcount, List.length_cons]
      omega

end DescriptorPools

/-- Between two states each request was served, in order, and by the pool of the given number. -/
structure PoolState.ServesAll (s s' : PoolState Trace) (requests : List (List (Handle .setLayout)))
    (indices : List Nat) : Prop where
  sizing : s'.pools.sizing = s.pools.sizing
  pools : s.pools.pools <+: s'.pools.pools
  log : ∃ calls, s'.driver.log.toList = s.driver.log.toList ++ calls ∧
    (calls.filterMap Call.grant?).map (fun g => (some g.1, g.2)) =
      (indices.map (s'.pools.pools[·]?)).zip requests

theorem PoolState.packed_run {s : PoolState Trace} {before : Nat} {loads : List Nat}
    (h : DescriptorPools.Packed before s.pools s.driver loads)
    {requests : List (List (Handle .setLayout))}
    (hrequests : ∀ layouts ∈ requests, layouts ≠ [] ∧ layouts.length ≤ s.pools.capacity) :
    let s' := s.run (requests.map .allocate)
    let sizes := requests.map List.length
    DescriptorPools.Packed before s'.pools s'.driver
        (sizes.foldl (place (withinCount s.pools.capacity)) loads) ∧
      s.ServesAll s' requests (placementsFrom (withinCount s.pools.capacity) loads sizes) := by
  induction requests generalizing s loads with
  | nil => exact ⟨h, rfl, List.prefix_refl _, [], (List.append_nil _).symm, rfl⟩
  | cons layouts requests ih =>
    obtain ⟨hne, hfits⟩ := hrequests layouts List.mem_cons_self
    obtain ⟨hserved, hpacked⟩ := DescriptorPools.packed_allocate h hne hfits
    have hcapacity : (s.after (.allocate layouts)).pools.capacity = s.pools.capacity := by
      show max 1 (s.pools.allocate s.driver layouts).pools.sizing.maxSetsPerPool.toNat = _
      rw [hserved.sizing]
      rfl
    obtain ⟨hlast, hrest⟩ := ih (s := s.after (.allocate layouts)) hpacked (by
      rw [hcapacity]
      exact fun other hother => hrequests other (List.mem_cons_of_mem _ hother))
    rw [hcapacity] at hlast hrest
    refine ⟨hlast, hrest.sizing.trans hserved.sizing, hserved.pools.trans hrest.pools, ?_⟩
    obtain ⟨pool, calls, hpool, hlog, hgrants⟩ := hserved.log
    obtain ⟨calls', hlog', hgrants'⟩ := hrest.log
    refine ⟨calls ++ calls', ?_, ?_⟩
    · show ((s.after (.allocate layouts)).run _).driver.log.toList = _
      rw [hlog', ← List.append_assoc]
      exact congrArg (· ++ calls') hlog
    · -- Pools are appended, so the pool keeps its number.
      have hkept : some pool = ((s.after (.allocate layouts)).run
          (requests.map .allocate)).pools.pools[
            (place (withinCount s.pools.capacity) loads layouts.length).length - 1]? := by
        obtain ⟨more, hmore⟩ := hrest.pools
        have hlt := (List.getElem?_eq_some_iff.1 hpool).1
        rw [← hmore]
        exact ((List.getElem?_append_left hlt).trans hpool).symm
      rw [List.filterMap_append, hgrants, List.map_append]
      exact congrArg₂ List.cons (Prod.ext hkept rfl) hgrants'

end Device

end GpuRecorder
