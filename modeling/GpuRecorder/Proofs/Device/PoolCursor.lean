import GpuRecorder.Device.DescriptorPools
import Mathlib.Data.List.Induction
import Mathlib.Tactic.Common

/-!
# The cursor of the descriptor pools

A run of allocations and resets over any driver.  The cursor stands at a pool unless an allocation
ran out of pools and the driver then made no new one: that leaves the cursor past the last pool,
where it stays until a reset succeeds, and every request in between finds no pool to ask.
-/

namespace GpuRecorder.Device

open Native

/-! ## 1. Runs -/

inductive PoolRequest where
  | allocate (layouts : List (Handle .setLayout))
  | reset

structure PoolState (σ : Type) where
  pools : DescriptorPools
  driver : σ

namespace PoolState

variable {σ : Type}

def start (sizing : PoolSizing) (driver : σ) : PoolState σ := ⟨{ sizing }, driver⟩

/-- There are pools and the cursor stands past the last one. -/
def CursorLost (s : PoolState σ) : Prop :=
  s.pools.pools ≠ [] ∧ s.pools.pools.length ≤ s.pools.current

section

variable [Driver σ]

def answer (s : PoolState σ) (layouts : List (Handle .setLayout)) :
    Except Failure (List (Handle .descriptorSet)) :=
  (s.pools.allocate s.driver layouts).answer

def after (s : PoolState σ) : PoolRequest → PoolState σ
  | .allocate layouts =>
    let a := s.pools.allocate s.driver layouts
    ⟨a.pools, a.driver⟩
  | .reset =>
    let r := s.pools.reset s.driver
    ⟨r.2.1, r.2.2⟩

def run (s : PoolState σ) (requests : List PoolRequest) : PoolState σ := requests.foldl after s

/-! ## 2. How the cursor is lost -/

/-- Each of some pools refuses a request for lack of room; the driver after the last of them. -/
def refusedBy? (layouts : List (Handle .setLayout)) (driver : σ) :
    List (Handle .descriptorPool) → Option σ
  | [] => some driver
  | pool :: rest =>
    match Driver.allocateDescriptorSets driver pool layouts with
    | (.error code, driver) => if code.isPoolExhausted then refusedBy? layouts driver rest else none
    | (.ok _, _) => none

/-- The driver makes no further pool. -/
def CreationFails (p : DescriptorPools) (driver : σ) : Prop :=
  ∃ code, (Driver.createDescriptorPool driver p.capacity p.poolSizes).1 = .error code

/-- The state that the pools are asked in: with a first pool, if there was none. -/
def opened? (s : PoolState σ) : Option (PoolState σ) :=
  if s.pools.pools = [] then
    match s.pools.addPool s.driver with
    | (.ok p, driver, _) => some ⟨{ p with current := 0 }, driver⟩
    | (.error _, _, _) => none
  else some s

/-- More than nothing and not more than one pool holds is asked for. -/
def Asks (s : PoolState σ) (layouts : List (Handle .setLayout)) : Prop :=
  layouts ≠ [] ∧ layouts.length ≤ s.pools.capacity

/-- All pools from the cursor on refuse a request, and the driver makes no further one. -/
def GrowthFails (s : PoolState σ) (layouts : List (Handle .setLayout)) : Prop :=
  s.Asks layouts ∧
    ∃ o, s.opened? = some o ∧ o.pools.current < o.pools.pools.length ∧
      ∃ driver, refusedBy? layouts o.driver (o.pools.pools.drop o.pools.current) = some driver ∧
        CreationFails o.pools driver

def ResetSucceeds (s : PoolState σ) : Prop := (s.pools.reset s.driver).1 = .ok ()

/-- In a run growth failed at some allocation, and no reset has succeeded since. -/
def Stranded (s : PoolState σ) (requests : List PoolRequest) : Prop :=
  ∃ before layouts rest, requests = before ++ .allocate layouts :: rest ∧
    GrowthFails (s.run before) layouts ∧
    ∀ earlier later, rest = earlier ++ .reset :: later →
      ¬ ResetSucceeds (s.run (before ++ .allocate layouts :: earlier))

/-! ## 3. One allocation -/

/-- A walk that stands at its end is lost exactly when no pool is made for it, and it never asks
where no pool is. -/
theorem allocateGrowing_spec {p : DescriptorPools} (driver : σ)
    (layouts : List (Handle .setLayout)) (hp : p.current = p.pools.length) :
    let a := p.allocateGrowing driver layouts
    (a.pools.pools.length ≤ a.pools.current ↔ CreationFails p driver) ∧
      p.pools.length ≤ a.pools.pools.length ∧ a.answer ≠ .error .noCurrentPool := by
  unfold DescriptorPools.allocateGrowing DescriptorPools.addPool CreationFails
  split
  · rename_i heq
    split at heq
    · rename_i code driver' hcreate
      cases heq
      simp [hp, hcreate]
    · cases heq
  · rename_i heq
    split at heq
    · cases heq
    · rename_i pool driver' hcreate
      cases heq
      simp only [List.getLast?_concat, hcreate]
      split
      · simp [hp]
      · split <;> simp [hp]

theorem allocateFrom_spec {p : DescriptorPools} (driver : σ) (layouts : List (Handle .setLayout))
    {remaining : List (Handle .descriptorPool)}
    (hp : p.current + remaining.length = p.pools.length) :
    let a := p.allocateFrom driver layouts remaining
    (a.pools.pools.length ≤ a.pools.current ↔
      ∃ driver', refusedBy? layouts driver remaining = some driver' ∧ CreationFails p driver') ∧
      p.pools.length ≤ a.pools.pools.length ∧ a.answer ≠ .error .noCurrentPool := by
  induction remaining generalizing p driver with
  | nil =>
    have hgrowing := allocateGrowing_spec driver layouts hp
    simpa [refusedBy?, DescriptorPools.allocateFrom] using hgrowing
  | cons pool remaining ih =>
    rw [List.length_cons] at hp
    unfold DescriptorPools.allocateFrom refusedBy?
    split
    · -- The pool grants the request and the cursor stands at it.
      rename_i heq
      simp only [heq]
      refine ⟨?_, Nat.le_refl _, by simp⟩
      simp
      omega
    · rename_i code driver' heq
      simp only [heq]
      by_cases hcode : code.isPoolExhausted
      · simp only [hcode, if_true]
        -- Moving the cursor changes neither the pools nor what a new one would hold.
        exact ih (p := { p with current := p.current + 1 }) driver' (by simp only; omega)
      · simp only [hcode, Bool.false_eq_true, if_false]
        refine ⟨?_, Nat.le_refl _, by simp⟩
        simp
        omega

/-- Asking from the cursor on: where there are pools, the cursor is lost afterwards if it was lost
before or if all pools refuse and none is made, and only a lost cursor finds no pool. -/
theorem allocateCurrent_spec {s : PoolState σ} (hne : s.pools.pools ≠ [])
    (layouts : List (Handle .setLayout)) :
    let a := s.pools.allocateCurrent s.driver layouts
    (CursorLost ⟨a.pools, a.driver⟩ ↔
      s.CursorLost ∨
        s.pools.current < s.pools.pools.length ∧
          ∃ driver, refusedBy? layouts s.driver (s.pools.pools.drop s.pools.current) = some driver ∧
            CreationFails s.pools driver) ∧
      (a.answer = .error .noCurrentPool ↔ s.CursorLost) := by
  unfold DescriptorPools.allocateCurrent CursorLost
  split
  · rename_i heq
    have hle : s.pools.pools.length ≤ s.pools.current := List.drop_eq_nil_iff.1 heq
    simp [hne, hle]
  · rename_i hdrop
    have hlt : s.pools.current < s.pools.pools.length := by
      by_contra hge
      exact hdrop (List.drop_eq_nil_iff.2 (Nat.not_lt.1 hge))
    have hcursor : s.pools.current + (s.pools.pools.drop s.pools.current).length =
        s.pools.pools.length := by
      rw [List.length_drop]
      omega
    obtain ⟨hlost, hlength, hanswer⟩ := allocateFrom_spec s.driver layouts hcursor
    have hsome : (s.pools.allocateFrom s.driver layouts
        (s.pools.pools.drop s.pools.current)).pools.pools ≠ [] := by
      apply List.ne_nil_of_length_pos
      have := List.length_pos_iff.2 hne
      omega
    have hkept : ¬ s.pools.pools.length ≤ s.pools.current := Nat.not_le.2 hlt
    simp only [hlost, hanswer, hsome, hkept, hlt, ne_eq, not_false_eq_true, true_and, and_false,
      false_or, and_self]

/-- An allocation loses the cursor exactly where growth fails, and finds no pool exactly where the
cursor was lost before. -/
theorem allocate_spec (s : PoolState σ) (layouts : List (Handle .setLayout)) :
    ((s.after (.allocate layouts)).CursorLost ↔ s.CursorLost ∨ s.GrowthFails layouts) ∧
      (s.answer layouts = .error .noCurrentPool ↔ s.Asks layouts ∧ s.CursorLost) := by
  unfold after answer DescriptorPools.allocate GrowthFails
  -- Nothing, or more than a pool holds: no pool is asked and none is made.
  by_cases hnil : layouts = []
  · simp [hnil, Asks]
  by_cases hmany : s.pools.capacity < layouts.length
  · have hasks : ¬ s.Asks layouts := fun h => absurd h.2 (Nat.not_le.2 hmany)
    simp [hnil, hmany, hasks]
  have hasks : s.Asks layouts := ⟨hnil, Nat.not_lt.1 hmany⟩
  simp only [hnil, hmany, hasks, if_false, true_and]
  by_cases hempty : s.pools.pools = []
  · -- The first pool is made for this request, and the cursor stands at it.
    have hkept : ¬ s.CursorLost := fun h => h.1 hempty
    simp only [opened?, hempty, if_true, hkept, false_or]
    split
    · simp_all [CursorLost]
    · rename_i p driver messages heq
      have hp : p.pools ≠ [] := by
        unfold DescriptorPools.addPool at heq
        split at heq
        · cases heq
        · cases heq
          simp
      obtain ⟨hlost, hanswer⟩ :=
        allocateCurrent_spec (s := ⟨{ p with current := 0 }, driver⟩) hp layouts
      have hfirst : ¬ CursorLost (σ := σ) ⟨{ p with current := 0 }, driver⟩ := fun h =>
        absurd h.2 (Nat.not_le.2 (List.length_pos_iff.2 hp))
      rw [hlost, hanswer]
      simp only [hfirst, false_or, heq, Option.some.injEq, exists_eq_left', and_self]
  · simp only [opened?, hempty, if_false, Option.some.injEq, exists_eq_left']
    exact allocateCurrent_spec hempty layouts

theorem cursorLost_reset (s : PoolState σ) :
    (s.after .reset).CursorLost ↔ s.CursorLost ∧ ¬ s.ResetSucceeds := by
  simp only [after, ResetSucceeds, DescriptorPools.reset, CursorLost]
  split
  · simp
  · simp

/-! ## 4. Runs -/

theorem run_append (s : PoolState σ) (requests more : List PoolRequest) :
    s.run (requests ++ more) = (s.run requests).run more := by
  simp [run]

@[simp] theorem run_concat (s : PoolState σ) (requests : List PoolRequest) (r : PoolRequest) :
    s.run (requests ++ [r]) = (s.run requests).after r := by
  simp [run]

theorem not_stranded_nil (s : PoolState σ) : ¬ s.Stranded [] := by
  rintro ⟨before, layouts, rest, heq, _⟩
  simp at heq

theorem stranded_concat_allocate (s : PoolState σ) (requests : List PoolRequest)
    (layouts : List (Handle .setLayout)) :
    s.Stranded (requests ++ [.allocate layouts]) ↔
      s.Stranded requests ∨ (s.run requests).GrowthFails layouts := by
  constructor
  · -- The failure is the last request or one before it.
    rintro ⟨before, layouts', rest, heq, hfails, hresets⟩
    rcases List.eq_nil_or_concat rest with rfl | ⟨rest, r, rfl⟩
    · obtain ⟨rfl, hlast⟩ := List.append_inj' heq rfl
      obtain rfl : layouts' = layouts := by simpa using hlast.symm
      exact Or.inr hfails
    · rw [List.concat_eq_append, ← List.cons_append, ← List.append_assoc] at heq
      obtain ⟨rfl, hlast⟩ := List.append_inj' heq rfl
      refine Or.inl ⟨before, layouts', rest, rfl, hfails, ?_⟩
      rintro earlier later rfl
      exact hresets earlier (later ++ [r]) (by simp)
  · rintro (⟨before, layouts', rest, rfl, hfails, hresets⟩ | hfails)
    · refine ⟨before, layouts', rest ++ [.allocate layouts], by simp, hfails, ?_⟩
      intro earlier later heq
      rcases List.eq_nil_or_concat later with rfl | ⟨later, r, rfl⟩
      · have hlast := (List.append_inj' heq rfl).2
        simp at hlast
      · rw [List.concat_eq_append, ← List.cons_append, ← List.append_assoc] at heq
        exact hresets earlier later (List.append_inj' heq rfl).1
    · refine ⟨requests, layouts, [], rfl, hfails, ?_⟩
      intro earlier later heq
      simp at heq

theorem stranded_concat_reset (s : PoolState σ) (requests : List PoolRequest) :
    s.Stranded (requests ++ [.reset]) ↔
      s.Stranded requests ∧ ¬ (s.run requests).ResetSucceeds := by
  constructor
  · -- The failure comes before the reset, which is then one of those that did not succeed.
    rintro ⟨before, layouts, rest, heq, hfails, hresets⟩
    rcases List.eq_nil_or_concat rest with rfl | ⟨rest, r, rfl⟩
    · have hlast := (List.append_inj' heq rfl).2
      simp at hlast
    · rw [List.concat_eq_append, ← List.cons_append, ← List.append_assoc] at heq
      obtain ⟨rfl, hlast⟩ := List.append_inj' heq rfl
      obtain rfl : r = .reset := by simpa using hlast.symm
      refine ⟨⟨before, layouts, rest, rfl, hfails, ?_⟩, hresets rest [] (by simp)⟩
      rintro earlier later rfl
      exact hresets earlier (later ++ [.reset]) (by simp)
  · rintro ⟨⟨before, layouts, rest, rfl, hfails, hresets⟩, hlast⟩
    refine ⟨before, layouts, rest ++ [.reset], by simp, hfails, ?_⟩
    intro earlier later heq
    rcases List.eq_nil_or_concat later with rfl | ⟨later, r, rfl⟩
    · obtain ⟨rfl, _⟩ := List.append_inj' heq rfl
      exact hlast
    · rw [List.concat_eq_append, ← List.cons_append, ← List.append_assoc] at heq
      exact hresets earlier later (List.append_inj' heq rfl).1

theorem cursorLost_run_iff (sizing : PoolSizing) (driver : σ) (requests : List PoolRequest) :
    ((start sizing driver).run requests).CursorLost ↔ (start sizing driver).Stranded requests := by
  -- By the last request: allocating loses the cursor as it strands the run, resetting frees both.
  induction requests using List.reverseRecOn with
  | nil => simp [run, start, CursorLost, not_stranded_nil]
  | append_singleton requests r ih =>
    rw [run_concat]
    cases r with
    | allocate layouts => rw [(allocate_spec _ layouts).1, ih, stranded_concat_allocate]
    | reset => rw [cursorLost_reset, ih, stranded_concat_reset]

/-- Over every driver and every run of allocations and resets: where there are pools the cursor
stands at one of them unless the run is stranded, and a request finds no pool to ask exactly when
the run is stranded and the request gets as far as asking. -/
theorem noCurrentPool_iff_stranded (sizing : PoolSizing) (driver : σ)
    (requests : List PoolRequest) (layouts : List (Handle .setLayout)) :
    let s := (start sizing driver).run requests
    ((s.pools.pools ≠ [] → s.pools.current < s.pools.pools.length) ↔
        ¬ (start sizing driver).Stranded requests) ∧
      (s.answer layouts = .error .noCurrentPool ↔
        s.Asks layouts ∧ (start sizing driver).Stranded requests) := by
  intro s
  have hlost := cursorLost_run_iff sizing driver requests
  refine ⟨?_, ?_⟩
  · rw [← hlost, CursorLost, not_and, Nat.not_le]
  · rw [← hlost]
    exact (allocate_spec s layouts).2

end

end PoolState

/-! ## 5. A driver of prepared answers -/

/-- A driver whose fallible pool calls take their outcomes from a list: a code is a refusal, and
where there is none, or the list has ended, the call succeeds with fresh handles. -/
structure Prepared where
  outcomes : List (Option ResultCode)
  next : Nat := 1

namespace Prepared

def take (p : Prepared) (kind : Kind) (count : Nat) :
    Except ResultCode (List (Handle kind)) × Prepared :=
  match p.outcomes with
  | some code :: rest => (.error code, { p with outcomes := rest })
  | outcomes =>
    (.ok (Handle.freshList p.next count), ⟨outcomes.tail, p.next + count⟩)

def takeOne (p : Prepared) (kind : Kind) : Except ResultCode (Handle kind) × Prepared :=
  let (answer, p) := p.take kind 1
  (answer.map fun made => made.headD .null, p)

instance : Driver Prepared where
  deviceHandle _ := .null
  createCommandPool p _ := p.takeOne .commandPool
  destroyCommandPool p _ := p
  allocateCommandBuffers p _ _ count := p.take .commandBuffer count
  freeCommandBuffers p _ _ := p
  createDescriptorPool p _ _ := p.takeOne .descriptorPool
  destroyDescriptorPool p _ := p
  resetDescriptorPool p _ :=
    let (answer, p) := p.take .descriptorPool 0
    (answer.map fun _ => (), p)
  allocateDescriptorSets p _ layouts := p.take .descriptorSet layouts.length
  submit p _ _ _ := (.ok (), p)
  beginRecording p _ _ := (.ok (), p)
  endRecording p _ := (.ok (), p)
  request p _ := ([], p)

end Prepared

/-- One pool of one set, which is taken; the second request is refused for lack of room and the
driver has no memory for another pool.  The cursor is past the only pool, and the third request
finds none. -/
theorem cursor_lost_after_failed_growth :
    let driver : Prepared :=
      { outcomes := [none, none, some .outOfPoolMemory, some .outOfDeviceMemory] }
    let one : PoolRequest := .allocate [⟨7⟩]
    let s := (PoolState.start { maxSetsPerPool := 1 } driver).run [one, one]
    s.pools.pools ≠ [] ∧ ¬ s.pools.current < s.pools.pools.length ∧
      s.answer [⟨7⟩] = .error .noCurrentPool := by
  decide

end GpuRecorder.Device
