import GpuRecorder.Proofs.Device.Driving
import GpuRecorder.Proofs.Native.Names

/-!
# Pools over two drivers

The pools only pass handles on, so over a driver that gives the same answers under other names they
do the same under other names.  What is known of the two drivers may end with their runs: it is
given for states that the runs come through, and a run comes through every state on the way to a
state that it comes through.
-/

namespace GpuRecorder.Device

open Native

/-! ## 1. Pools under other names -/

def FamilyPool.named (f : Names) (p : FamilyPool) : FamilyPool where
  family := p.family
  pool := f.commandPool p.pool
  primary := p.primary.map f.commandBuffer
  secondary := p.secondary.map f.commandBuffer

namespace CommandPools

def named (f : Names) (p : CommandPools) : CommandPools := ⟨p.families.map (FamilyPool.named f)⟩

variable {f : Names}

theorem find?_named (p : CommandPools) (family : Nat) :
    (p.named f).find? family = (p.find? family).map (FamilyPool.named f) := by
  rw [find?, find?, named, List.find?_map]
  rfl

theorem parked_named (p : FamilyPool) (level : Level) :
    (p.named f).parked level = (p.parked level).map f.commandBuffer := by
  unfold FamilyPool.parked
  split <;> rfl

theorem setParked_named (p : FamilyPool) (level : Level) (buffers : List (Handle .commandBuffer)) :
    (p.setParked level buffers).named f =
      (p.named f).setParked level (buffers.map f.commandBuffer) := by
  unfold FamilyPool.setParked
  split <;> rfl

theorem replace_named (p : CommandPools) (new : FamilyPool) :
    (p.replace new).named f = (p.named f).replace (new.named f) := by
  simp only [replace, named, List.map_map, mk.injEq]
  refine List.map_congr_left fun old _ => ?_
  show FamilyPool.named f (if old.family = new.family then new else old) =
    if old.family = new.family then new.named f else old.named f
  split <;> rfl

theorem giveBack_named (p : CommandPools) (level : Level) (family : Nat)
    (buffer : Handle .commandBuffer) :
    (p.named f).giveBack level family (f.commandBuffer buffer) =
      ((p.giveBack level family buffer).1.named f, (p.giveBack level family buffer).2) := by
  unfold giveBack
  rw [find?_named]
  cases p.find? family with
  | none => rfl
  | some pool =>
    show ((p.named f).replace ((pool.named f).park level (f.commandBuffer buffer)), _) =
      ((p.replace (pool.park level buffer)).named f, _)
    rw [replace_named, FamilyPool.park, FamilyPool.park, setParked_named, parked_named]
    rfl

end CommandPools

def DescriptorPools.named (f : Names) (p : DescriptorPools) : DescriptorPools :=
  { p with pools := p.pools.map f.descriptorPool }

/-! ## 2. Two drivers -/

section

variable {σ τ : Type}

/-- If the runs come through these two states, then all is the same and the drivers go on
alike. -/
def Agrees (related : σ → τ → Prop) (reached : σ → Prop) (reached' : τ → Prop) (d : σ) (d' : τ)
    (same : Prop) : Prop :=
  reached d → reached' d' → same ∧ related d d'

/-- Two drivers with the same answers under other names, as far as the pools ask them. -/
structure PoolMirror [Driver σ] [Driver τ] (f : Names) (related : σ → τ → Prop)
    (reached : σ → Prop) (reached' : τ → Prop) : Prop where
  back : PoolCalls fun d after : σ => reached after → reached d
  back' : PoolCalls fun d after : τ => reached' after → reached' d
  createCommandPool : ∀ {d d'}, related d d' → ∀ family,
    let r := Driver.createCommandPool d family
    let r' := Driver.createCommandPool d' family
    Agrees related reached reached' r.2 r'.2 (r'.1 = r.1.map f.commandPool)
  allocateCommandBuffers : ∀ {d d'}, related d d' → ∀ pool level count,
    let r := Driver.allocateCommandBuffers d pool level count
    let r' := Driver.allocateCommandBuffers d' (f.commandPool pool) level count
    Agrees related reached reached' r.2 r'.2 (r'.1 = r.1.map (List.map f.commandBuffer))
  createDescriptorPool : ∀ {d d'}, related d d' → ∀ maxSets sizes,
    let r := Driver.createDescriptorPool d maxSets sizes
    let r' := Driver.createDescriptorPool d' maxSets sizes
    Agrees related reached reached' r.2 r'.2 (r'.1 = r.1.map f.descriptorPool)
  allocateDescriptorSets : ∀ {d d'}, related d d' → ∀ pool layouts,
    let r := Driver.allocateDescriptorSets d pool layouts
    let r' := Driver.allocateDescriptorSets d' (f.descriptorPool pool) layouts
    Agrees related reached reached' r.2 r'.2 (r'.1 = r.1.map (List.map f.descriptorSet))
  resetDescriptorPool : ∀ {d d'}, related d d' → ∀ pool,
    let r := Driver.resetDescriptorPool d pool
    let r' := Driver.resetDescriptorPool d' (f.descriptorPool pool)
    Agrees related reached reached' r.2 r'.2 (r'.1 = r.1)

end

/-! ## 3. On the way -/

section

variable {σ : Type} [Driver σ] {R : σ → σ → Prop}

/-- A family's pool is looked up before a buffer is requested from it. -/
theorem LendingCalls.ensure_request (h : LendingCalls R) (p : CommandPools) (driver : σ)
    (level : Level) (family : Nat) :
    R (p.ensure driver family).2.1 (p.request driver level family).2.2.1 := by
  unfold CommandPools.request
  split
  · rename_i heq
    rw [heq]
    exact h.refl _
  · rename_i pool _ driver' _ heq
    rw [heq]
    have halloc := h.allocateCommandBuffers driver' pool.pool level 1
    split
    · exact h.refl _
    · split <;>
      · rename_i heq
        rwa [heq] at halloc

theorem PoolCalls.addPool_allocateGrowing (h : PoolCalls R) (p : DescriptorPools) (driver : σ)
    (layouts : List (Handle .setLayout)) :
    R (p.addPool driver).2.1 (p.allocateGrowing driver layouts).driver := by
  unfold DescriptorPools.allocateGrowing
  split
  · rename_i heq
    rw [heq]
    exact h.refl _
  · rename_i driver' _ heq
    rw [heq]
    split
    · exact h.refl _
    · rename_i pool _
      have halloc := h.allocateDescriptorSets driver' pool layouts
      split
      · rename_i heq
        rwa [heq] at halloc
      · rename_i heq
        rw [heq] at halloc
        split <;> exact halloc

theorem PoolCalls.ask_allocateFrom (h : PoolCalls R) (p : DescriptorPools) (driver : σ)
    (layouts : List (Handle .setLayout)) (pool : Handle .descriptorPool)
    (remaining : List (Handle .descriptorPool)) :
    R (Driver.allocateDescriptorSets driver pool layouts).2
      (p.allocateFrom driver layouts (pool :: remaining)).driver := by
  unfold DescriptorPools.allocateFrom
  split
  · rename_i heq
    rw [heq]
    exact h.refl _
  · rename_i heq
    rw [heq]
    split
    · exact h.allocateFrom _ _ _ _
    · exact h.refl _

theorem PoolCalls.addPool_allocate (h : PoolCalls R) {p : DescriptorPools} (driver : σ)
    {layouts : List (Handle .setLayout)} (hsome : layouts ≠ [])
    (hfits : ¬ p.capacity < layouts.length) (hnone : p.pools = []) :
    R (p.addPool driver).2.1 (p.allocate driver layouts).driver := by
  rw [DescriptorPools.allocate, if_neg hsome, if_neg hfits, if_pos hnone]
  split
  · rename_i heq
    rw [heq]
    exact h.refl _
  · rename_i heq
    rw [heq]
    exact h.allocateCurrent _ _ _

theorem PoolCalls.reset_resetEach (h : PoolCalls R) (driver : σ) (pool : Handle .descriptorPool)
    (rest : List (Handle .descriptorPool)) :
    R (Driver.resetDescriptorPool driver pool).2
      (DescriptorPools.resetEach driver (pool :: rest)).2 := by
  rw [DescriptorPools.resetEach]
  split
  · rename_i heq
    rw [heq]
    exact h.refl _
  · rename_i heq
    rw [heq]
    exact h.resetEach _ _

end

/-! ## 4. What the pools do -/

namespace PoolMirror

variable {σ τ : Type} [Driver σ] [Driver τ] {f : Names} {related : σ → τ → Prop}
  {reached : σ → Prop} {reached' : τ → Prop} {d : σ} {d' : τ}

theorem ensure (h : PoolMirror f related reached reached') (hd : related d d') (p : CommandPools)
    (family : Nat) :
    let r := p.ensure d family
    let r' := (p.named f).ensure d' family
    Agrees related reached reached' r.2.1 r'.2.1
      (r'.1 = r.1.map (Prod.map (FamilyPool.named f) (CommandPools.named f)) ∧ r'.2.2 = r.2.2) := by
  unfold CommandPools.ensure
  rw [CommandPools.find?_named]
  cases p.find? family with
  | some pool => exact fun _ _ => ⟨⟨rfl, rfl⟩, hd⟩
  | none =>
    have hcreate := h.createCommandPool hd family
    simp only [Option.map_none]
    generalize Driver.createCommandPool d family = r, Driver.createCommandPool d' family = r'
      at hcreate
    obtain ⟨answer, e⟩ := r
    obtain ⟨answer', e'⟩ := r'
    -- The one refuses exactly if the other does.
    cases answer <;> cases answer' <;> intro hreached hreached' <;>
      obtain ⟨hsame, hd⟩ := hcreate hreached hreached' <;> cases hsame
    · exact ⟨⟨rfl, rfl⟩, hd⟩
    · refine ⟨⟨?_, rfl⟩, hd⟩
      simp [CommandPools.named, FamilyPool.named, Except.map]

theorem request (h : PoolMirror f related reached reached') (hd : related d d') (p : CommandPools)
    (level : Level) (family : Nat) :
    let r := p.request d level family
    let r' := (p.named f).request d' level family
    Agrees related reached reached' r.2.2.1 r'.2.2.1
      (r'.1 = r.1.map f.commandBuffer ∧ r'.2.1 = r.2.1.named f ∧ r'.2.2.2 = r.2.2.2) := by
  intro r r' hreached hreached'
  -- Looking the pool up is on the way, so it came out the same.
  obtain ⟨⟨hanswer, hmessages⟩, hd⟩ := h.ensure hd p family
    (h.back.toLendingCalls.ensure_request p d level family hreached)
    (h.back'.toLendingCalls.ensure_request (p.named f) d' level family hreached')
  -- From here both ends depend on what was looked up, so they go back into the goal.
  revert hreached hreached'
  show Agrees related reached reached' (p.request d level family).2.2.1
    ((p.named f).request d' level family).2.2.1 _
  unfold r r' CommandPools.request
  generalize p.ensure d family = ensured, (p.named f).ensure d' family = ensured'
    at hanswer hmessages hd
  obtain ⟨answer, e, messages⟩ := ensured
  obtain ⟨answer', e', messages'⟩ := ensured'
  obtain rfl : answer' = _ := hanswer
  obtain rfl : messages' = messages := hmessages
  cases answer with
  | error e => exact fun _ _ => ⟨⟨rfl, rfl, rfl⟩, hd⟩
  | ok lent =>
    obtain ⟨pool, pools⟩ := lent
    simp only [Except.map, Prod.map, CommandPools.parked_named]
    cases pool.parked level with
    | cons buffer rest =>
      refine fun _ _ => ⟨⟨rfl, ?_, rfl⟩, hd⟩
      rw [CommandPools.replace_named, CommandPools.setParked_named]
      rfl
    | nil =>
      have halloc := h.allocateCommandBuffers hd pool.pool level 1
      rw [List.map_nil, show (pool.named f).pool = f.commandPool pool.pool from rfl]
      generalize Driver.allocateCommandBuffers e pool.pool level 1 = r,
        Driver.allocateCommandBuffers e' (f.commandPool pool.pool) level 1 = r' at halloc
      obtain ⟨answer, e⟩ := r
      obtain ⟨answer', e'⟩ := r'
      rcases answer with code | _ | ⟨buffer, more⟩ <;>
        rcases answer' with code' | _ | ⟨buffer', more'⟩ <;> intro hreached hreached' <;>
        obtain ⟨hsame, hd⟩ := halloc hreached hreached' <;> cases hsame
      · exact ⟨⟨rfl, rfl, rfl⟩, hd⟩
      · exact ⟨⟨rfl, rfl, rfl⟩, hd⟩
      · exact ⟨⟨rfl, rfl, rfl⟩, hd⟩

theorem addPool (h : PoolMirror f related reached reached') (hd : related d d')
    (p : DescriptorPools) :
    let r := p.addPool d
    let r' := (p.named f).addPool d'
    Agrees related reached reached' r.2.1 r'.2.1
      (r'.1 = r.1.map (DescriptorPools.named f) ∧ r'.2.2 = r.2.2) := by
  have hcreate := h.createDescriptorPool hd p.capacity p.poolSizes
  show Agrees related reached reached' (p.addPool d).2.1 ((p.named f).addPool d').2.1 _
  unfold DescriptorPools.addPool
  rw [show (p.named f).capacity = p.capacity from rfl,
    show (p.named f).poolSizes = p.poolSizes from rfl]
  generalize Driver.createDescriptorPool d p.capacity p.poolSizes = r,
    Driver.createDescriptorPool d' p.capacity p.poolSizes = r' at hcreate
  obtain ⟨answer, e⟩ := r
  obtain ⟨answer', e'⟩ := r'
  cases answer <;> cases answer' <;> intro hreached hreached' <;>
    obtain ⟨hsame, hd⟩ := hcreate hreached hreached' <;> cases hsame
  · exact ⟨⟨rfl, rfl⟩, hd⟩
  · refine ⟨⟨?_, rfl⟩, hd⟩
    simp [DescriptorPools.named, Except.map]

/-- How two allocations agree: in what they answer, report and leave of the pools. -/
def AllocatesAlike (f : Names) (related : σ → τ → Prop) (reached : σ → Prop)
    (reached' : τ → Prop) (a : DescriptorPools.Allocation σ) (a' : DescriptorPools.Allocation τ) :
    Prop :=
  Agrees related reached reached' a.driver a'.driver
    (a'.answer = a.answer.map (List.map f.descriptorSet) ∧ a'.pools = a.pools.named f ∧
      a'.messages = a.messages)

theorem allocateGrowing (h : PoolMirror f related reached reached') (hd : related d d')
    (p : DescriptorPools) (layouts : List (Handle .setLayout)) :
    AllocatesAlike f related reached reached' (p.allocateGrowing d layouts)
      ((p.named f).allocateGrowing d' layouts) := by
  intro hreached hreached'
  obtain ⟨⟨hanswer, hmessages⟩, hd⟩ := h.addPool hd p
    (h.back.addPool_allocateGrowing p d layouts hreached)
    (h.back'.addPool_allocateGrowing (p.named f) d' layouts hreached')
  revert hreached hreached'
  show AllocatesAlike f related reached reached' _ _
  unfold DescriptorPools.allocateGrowing
  generalize p.addPool d = added, (p.named f).addPool d' = added' at hanswer hmessages hd
  obtain ⟨answer, e, messages⟩ := added
  obtain ⟨answer', e', messages'⟩ := added'
  obtain rfl : answer' = _ := hanswer
  obtain rfl : messages' = messages := hmessages
  cases answer with
  | error e => exact fun _ _ => ⟨⟨rfl, rfl, rfl⟩, hd⟩
  | ok grown =>
    simp only [Except.map, DescriptorPools.named, List.getLast?_map]
    cases grown.pools.getLast? with
    | none => exact fun _ _ => ⟨⟨rfl, rfl, rfl⟩, hd⟩
    | some pool =>
      have halloc := h.allocateDescriptorSets hd pool layouts
      simp only [Option.map_some]
      generalize Driver.allocateDescriptorSets e pool layouts = r,
        Driver.allocateDescriptorSets e' (f.descriptorPool pool) layouts = r' at halloc
      obtain ⟨answer, e⟩ := r
      obtain ⟨answer', e'⟩ := r'
      cases answer <;> cases answer' <;> intro hreached hreached' <;>
        simp only [apply_ite DescriptorPools.Allocation.driver, ite_self] at hreached hreached' <;>
        obtain ⟨hsame, hd⟩ := halloc hreached hreached' <;> cases hsame
      · simp only
        split <;> exact ⟨⟨rfl, rfl, rfl⟩, hd⟩
      · exact ⟨⟨rfl, rfl, rfl⟩, hd⟩

theorem allocateFrom (h : PoolMirror f related reached reached') (hd : related d d')
    (p : DescriptorPools) (layouts : List (Handle .setLayout))
    (remaining : List (Handle .descriptorPool)) :
    AllocatesAlike f related reached reached' (p.allocateFrom d layouts remaining)
      ((p.named f).allocateFrom d' layouts (remaining.map f.descriptorPool)) := by
  -- Along the pools that remain: either both go on to the next one or neither does.
  induction remaining generalizing p d d' with
  | nil => exact h.allocateGrowing hd p layouts
  | cons pool remaining ih =>
    intro hreached hreached'
    obtain ⟨hsame, hd⟩ := h.allocateDescriptorSets hd pool layouts
      (h.back.ask_allocateFrom p d layouts pool remaining hreached)
      (h.back'.ask_allocateFrom (p.named f) d' layouts _ _ hreached')
    revert hreached hreached'
    show AllocatesAlike f related reached reached' _ _
    rw [List.map_cons, DescriptorPools.allocateFrom, DescriptorPools.allocateFrom]
    generalize Driver.allocateDescriptorSets d pool layouts = r,
      Driver.allocateDescriptorSets d' (f.descriptorPool pool) layouts = r' at hsame hd
    obtain ⟨answer, e⟩ := r
    obtain ⟨answer', e'⟩ := r'
    obtain rfl : answer' = _ := hsame
    cases answer with
    | ok sets => exact fun _ _ => ⟨⟨rfl, rfl, rfl⟩, hd⟩
    | error code =>
      simp only [Except.map]
      split
      · exact ih hd { p with current := p.current + 1 }
      · exact fun _ _ => ⟨⟨rfl, rfl, rfl⟩, hd⟩

theorem allocateCurrent (h : PoolMirror f related reached reached') (hd : related d d')
    (p : DescriptorPools) (layouts : List (Handle .setLayout)) :
    AllocatesAlike f related reached reached' (p.allocateCurrent d layouts)
      ((p.named f).allocateCurrent d' layouts) := by
  unfold DescriptorPools.allocateCurrent
  rw [show (p.named f).pools.drop (p.named f).current =
    (p.pools.drop p.current).map f.descriptorPool from List.map_drop.symm]
  cases p.pools.drop p.current with
  | nil => exact fun _ _ => ⟨⟨rfl, rfl, rfl⟩, hd⟩
  | cons pool remaining => exact h.allocateFrom hd p layouts (pool :: remaining)

theorem allocate (h : PoolMirror f related reached reached') (hd : related d d')
    (p : DescriptorPools) (layouts : List (Handle .setLayout)) :
    AllocatesAlike f related reached reached' (p.allocate d layouts)
      ((p.named f).allocate d' layouts) := by
  have hpools : (p.named f).pools = [] ↔ p.pools = [] := List.map_eq_nil_iff
  by_cases hsome : layouts = []
  · rw [hsome, DescriptorPools.allocate_nil, DescriptorPools.allocate_nil]
    exact fun _ _ => ⟨⟨rfl, rfl, rfl⟩, hd⟩
  by_cases hlarge : p.capacity < layouts.length
  · rw [DescriptorPools.allocate_of_capacity_lt d hlarge,
      DescriptorPools.allocate_of_capacity_lt d' (p := p.named f) hlarge]
    exact fun _ _ => ⟨⟨rfl, rfl, rfl⟩, hd⟩
  have hlarge' : ¬ (p.named f).capacity < layouts.length := hlarge
  by_cases hnone : p.pools = []
  · -- The first pool is made before anything is taken from it.
    intro hreached hreached'
    obtain ⟨⟨hanswer, hmessages⟩, hd⟩ := h.addPool hd p
      (h.back.addPool_allocate d hsome hlarge hnone hreached)
      (h.back'.addPool_allocate d' hsome hlarge' (hpools.2 hnone) hreached')
    revert hreached hreached'
    show AllocatesAlike f related reached reached' _ _
    rw [DescriptorPools.allocate, DescriptorPools.allocate, if_neg hsome, if_neg hsome,
      if_neg hlarge, if_neg hlarge', if_pos hnone, if_pos (hpools.2 hnone)]
    generalize p.addPool d = added, (p.named f).addPool d' = added' at hanswer hmessages hd
    obtain ⟨answer, e, messages⟩ := added
    obtain ⟨answer', e', messages'⟩ := added'
    obtain rfl : answer' = _ := hanswer
    obtain rfl : messages' = messages := hmessages
    cases answer with
    | error e => exact fun _ _ => ⟨⟨rfl, rfl, rfl⟩, hd⟩
    | ok grown =>
      intro hreached hreached'
      obtain ⟨⟨hanswer, hpools, hmessages⟩, hd⟩ :=
        h.allocateCurrent hd { grown with current := 0 } layouts hreached hreached'
      exact ⟨⟨hanswer, hpools, congrArg (messages' ++ ·) hmessages⟩, hd⟩
  · rw [DescriptorPools.allocate, DescriptorPools.allocate, if_neg hsome, if_neg hsome,
      if_neg hlarge, if_neg hlarge', if_neg hnone, if_neg (fun hn => hnone (hpools.1 hn))]
    exact h.allocateCurrent hd p layouts

theorem resetEach (h : PoolMirror f related reached reached') (hd : related d d')
    (pools : List (Handle .descriptorPool)) :
    let r := DescriptorPools.resetEach d pools
    let r' := DescriptorPools.resetEach d' (pools.map f.descriptorPool)
    Agrees related reached reached' r.2 r'.2 (r'.1 = r.1) := by
  induction pools generalizing d d' with
  | nil => exact fun _ _ => ⟨rfl, hd⟩
  | cons pool rest ih =>
    intro r r' hreached hreached'
    obtain ⟨hsame, hd⟩ := h.resetDescriptorPool hd pool
      (h.back.reset_resetEach d pool rest hreached)
      (h.back'.reset_resetEach d' _ _ hreached')
    revert hreached hreached'
    show Agrees related reached reached' _ _ _
    unfold r r'
    rw [List.map_cons, DescriptorPools.resetEach, DescriptorPools.resetEach]
    generalize Driver.resetDescriptorPool d pool = done,
      Driver.resetDescriptorPool d' (f.descriptorPool pool) = done' at hsame hd
    obtain ⟨answer, e⟩ := done
    obtain ⟨answer', e'⟩ := done'
    obtain rfl : answer' = answer := hsame
    cases answer' with
    | error code => exact fun _ _ => ⟨rfl, hd⟩
    | ok _ => exact ih hd

theorem reset (h : PoolMirror f related reached reached') (hd : related d d')
    (p : DescriptorPools) :
    let r := p.reset d
    let r' := (p.named f).reset d'
    Agrees related reached reached' r.2.2 r'.2.2 (r'.1 = r.1 ∧ r'.2.1 = r.2.1.named f) := by
  have heach := h.resetEach hd p.pools
  show Agrees related reached reached' (p.reset d).2.2 ((p.named f).reset d').2.2 _
  unfold DescriptorPools.reset
  rw [show (p.named f).pools = p.pools.map f.descriptorPool from rfl]
  generalize DescriptorPools.resetEach d p.pools = r,
    DescriptorPools.resetEach d' (p.pools.map f.descriptorPool) = r' at heach
  obtain ⟨answer, e⟩ := r
  obtain ⟨answer', e'⟩ := r'
  cases answer <;> cases answer' <;> intro hreached hreached' <;>
    obtain ⟨hsame, hd⟩ := heach hreached hreached' <;> cases hsame
  · exact ⟨⟨rfl, rfl⟩, hd⟩
  · exact ⟨⟨rfl, rfl⟩, hd⟩

end PoolMirror

end GpuRecorder.Device
