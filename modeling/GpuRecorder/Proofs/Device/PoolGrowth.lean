import GpuRecorder.Native.Trace
import GpuRecorder.Proofs.Device.PoolCursor

/-!
# How far failing requests grow the pool list

A request that every pool refuses for lack of room is tried once on a new pool, and the new pool
stays when it refuses as well.  So requests that keep failing keep making pools: one for each that
is small enough to be asked for, and one more where there was none to begin with.
-/

namespace GpuRecorder.Device

open Native

namespace DescriptorPools

variable {σ : Type} [Driver σ]

/-- One pool was appended; what a pool holds did not change. -/
def GrownByOne (p p' : DescriptorPools) : Prop :=
  p'.poolCount = p.poolCount + 1 ∧ p'.sizing = p.sizing

theorem grownByOne_allocateGrowing {p : DescriptorPools} {driver : σ}
    {layouts : List (Handle .setLayout)} {requested : Nat}
    (h : (p.allocateGrowing driver layouts).answer =
      .error (.error (.outOfPoolMemory requested))) :
    p.GrownByOne (p.allocateGrowing driver layouts).pools := by
  unfold allocateGrowing addPool at h ⊢
  cases hcreate : Driver.createDescriptorPool driver p.capacity p.poolSizes with
  | mk made driver' =>
    cases made with
    | error code =>
      -- A driver that makes no pool is an error of its own.
      simp [hcreate] at h
    | ok pool =>
      simp only [hcreate, List.getLast?_concat] at h ⊢
      have hgrown : p.GrownByOne { p with pools := p.pools ++ [pool] } := by
        simp [GrownByOne, poolCount]
      split
      · exact hgrown
      · split
        · exact hgrown
        · exact hgrown

theorem grownByOne_allocateFrom {p : DescriptorPools} {driver : σ}
    {layouts : List (Handle .setLayout)} {remaining : List (Handle .descriptorPool)}
    {requested : Nat}
    (h : (p.allocateFrom driver layouts remaining).answer =
      .error (.error (.outOfPoolMemory requested))) :
    p.GrownByOne (p.allocateFrom driver layouts remaining).pools := by
  -- By the pools that are left to ask: the one at the cursor refuses, or the answer is another.
  induction remaining generalizing p driver with
  | nil => exact grownByOne_allocateGrowing h
  | cons pool remaining ih =>
    unfold allocateFrom at h ⊢
    split at h
    · simp at h
    · rename_i code driver' heq
      by_cases hcode : code.isPoolExhausted
      · simp only [hcode, if_true] at h ⊢
        exact ih h
      · simp [hcode] at h

theorem grownByOne_allocateCurrent {p : DescriptorPools} {driver : σ}
    {layouts : List (Handle .setLayout)} {requested : Nat}
    (h : (p.allocateCurrent driver layouts).answer =
      .error (.error (.outOfPoolMemory requested))) :
    p.GrownByOne (p.allocateCurrent driver layouts).pools := by
  unfold allocateCurrent at h ⊢
  split at h
  · simp at h
  · exact grownByOne_allocateFrom h

end DescriptorPools

namespace PoolState

variable {σ : Type} [Driver σ]

/-- A request is refused because no pool could serve it, a new one included. -/
def Exhausts (s : PoolState σ) (layouts : List (Handle .setLayout)) : Prop :=
  s.answer layouts = .error (.error (.outOfPoolMemory layouts.length))

instance (s : PoolState σ) (layouts : List (Handle .setLayout)) : Decidable (s.Exhausts layouts) :=
  inferInstanceAs (Decidable (_ = _))

/-- Requests that follow one another are all refused that way. -/
def AllExhaust (s : PoolState σ) : List (List (Handle .setLayout)) → Prop
  | [] => True
  | layouts :: rest => s.Exhausts layouts ∧ (s.after (.allocate layouts)).AllExhaust rest

instance decidableAllExhaust (s : PoolState σ) :
    (requests : List (List (Handle .setLayout))) → Decidable (s.AllExhaust requests)
  | [] => isTrue trivial
  | layouts :: rest =>
    have := decidableAllExhaust (s.after (.allocate layouts)) rest
    inferInstanceAs (Decidable (_ ∧ _))

/-- The requests that are small enough for the driver to be asked. -/
def askedFor (s : PoolState σ) (requests : List (List (Handle .setLayout))) : Nat :=
  requests.countP fun layouts => layouts.length ≤ s.pools.capacity

/-- What one failing request adds: nothing if it is larger than a pool, else the pool that was
tried last, and before that the first pool where there was none. -/
theorem poolCount_of_exhausts {s : PoolState σ} {layouts : List (Handle .setLayout)}
    (h : s.Exhausts layouts) :
    let s' := s.after (.allocate layouts)
    s'.pools.sizing = s.pools.sizing ∧
      s'.pools.poolCount = s.pools.poolCount +
        if layouts.length ≤ s.pools.capacity then if s.pools.pools = [] then 2 else 1 else 0 := by
  unfold Exhausts answer DescriptorPools.allocate at h
  unfold after DescriptorPools.allocate
  by_cases hnil : layouts = []
  · simp [hnil] at h
  by_cases hmany : s.pools.capacity < layouts.length
  · have hlarge : ¬ layouts.length ≤ s.pools.capacity := Nat.not_le.2 hmany
    simp [hnil, hmany, hlarge]
  have hfits : layouts.length ≤ s.pools.capacity := Nat.not_lt.1 hmany
  simp only [hnil, hmany, hfits, if_false, if_true] at h ⊢
  by_cases hempty : s.pools.pools = []
  · simp only [hempty, if_true] at h ⊢
    unfold DescriptorPools.addPool at h ⊢
    cases hcreate : Driver.createDescriptorPool s.driver s.pools.capacity s.pools.poolSizes with
    | mk made driver =>
      cases made with
      | error code => simp [hcreate] at h
      | ok pool =>
        simp only [hcreate] at h ⊢
        -- The first pool, and the one that is made when the first refuses.
        obtain ⟨hcount, hsizing⟩ := DescriptorPools.grownByOne_allocateCurrent h
        refine ⟨hsizing, ?_⟩
        rw [hcount]
        simp [DescriptorPools.poolCount, hempty]
  · simp only [hempty, if_false] at h ⊢
    obtain ⟨hcount, hsizing⟩ := DescriptorPools.grownByOne_allocateCurrent h
    exact ⟨hsizing, hcount⟩

/-- Over every driver and from every state: requests that fail one after the other because no pool
could serve them add one pool for each that the driver is asked for, and one more for the first of
those where there was no pool. -/
theorem poolCount_of_allExhaust (s : PoolState σ) (requests : List (List (Handle .setLayout)))
    (h : s.AllExhaust requests) :
    (s.run (requests.map .allocate)).pools.poolCount =
      s.pools.poolCount + s.askedFor requests +
        if s.pools.pools = [] ∧ 0 < s.askedFor requests then 1 else 0 := by
  induction requests generalizing s with
  | nil => simp [run, askedFor]
  | cons layouts rest ih =>
    obtain ⟨hfirst, hrest⟩ := h
    obtain ⟨hsizing, hcount⟩ := poolCount_of_exhausts hfirst
    have hcapacity : (s.after (.allocate layouts)).pools.capacity = s.pools.capacity := by
      simp only [DescriptorPools.capacity, hsizing]
    have hempty (t : PoolState σ) : t.pools.pools = [] ↔ t.pools.poolCount = 0 :=
      List.length_eq_zero_iff.symm
    show ((s.after (.allocate layouts)).run (rest.map .allocate)).pools.poolCount = _
    rw [ih (s.after (.allocate layouts)) hrest]
    simp only [askedFor, List.countP_cons, hcapacity, hempty, decide_eq_true_eq] at hcount ⊢
    rw [hcount]
    by_cases hfits : layouts.length ≤ s.pools.capacity
    · -- After a request that is asked for there are pools, so only its own first pool counts.
      by_cases hnone : s.pools.poolCount = 0
      · simp [hfits, hnone]
        omega
      · simp [hfits, hnone]
        omega
    · simp only [hfits, if_false, Nat.add_zero]

/-- One set fits into a pool of two and three do not: over a driver whose fourth and last answers
refuse, the second request is asked for and grows the one pool there is to two. -/
theorem poolCount_after_two_refusals :
    let driver : Prepared :=
      { outcomes := [none, none, some .outOfPoolMemory, none, some .fragmentedPool] }
    let s := (start { maxSetsPerPool := 2 } driver).run [.allocate [⟨7⟩]]
    let requests : List (List (Handle .setLayout)) := [[⟨7⟩], [⟨7⟩, ⟨7⟩, ⟨7⟩]]
    s.AllExhaust requests ∧ s.pools.poolCount = 1 ∧
      (s.run (requests.map .allocate)).pools.poolCount = 1 + 1 + 0 := by
  intro driver s requests
  have hexhaust : s.AllExhaust requests := by decide
  exact ⟨hexhaust, by decide, poolCount_of_allExhaust s requests hexhaust⟩

/-- A trace that refuses every request for lack of room, and three requests for one set: each finds
the pool that the one before left behind, and still makes another. -/
theorem three_refusals_make_four_pools :
    let s := start {} (Trace.failSets {} .outOfPoolMemory)
    let requests : List (List (Handle .setLayout)) := [[⟨1⟩], [⟨1⟩], [⟨1⟩]]
    s.AllExhaust requests ∧
      ¬ (s.run (requests.map .allocate)).pools.poolCount ≤ s.pools.poolCount + 2 := by
  decide

end PoolState

end GpuRecorder.Device
