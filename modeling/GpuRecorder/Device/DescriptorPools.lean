import GpuRecorder.Draw.Counter
import GpuRecorder.Native.Driver
import GpuRecorder.Native.Error
import GpuRecorder.Settings.Basic

/-!
# Descriptor pools

Descriptor sets come from a list of native pools with a cursor at the current one.  A request that
the current pool refuses for lack of room goes to the next; past the last pool one new pool is made
and asked once.  Resetting recycles every pool and moves the cursor back to the first.
-/

namespace GpuRecorder.Device

open Native

/-- The pools made so far and the index of the current one. -/
structure DescriptorPools where
  sizing : PoolSizing := {}
  pools : List (Handle .descriptorPool) := []
  current : Nat := 0
  deriving DecidableEq, Repr, Inhabited

namespace DescriptorPools

/-- The sets that one pool can hold: at least one. -/
def capacity (p : DescriptorPools) : Nat := max 1 p.sizing.maxSetsPerPool.toNat

/-- The room in one pool: for every type, so many descriptors for each set. -/
def poolSizes (p : DescriptorPools) : List PoolSize :=
  let count := Draw.saturate (p.capacity * max 1 p.sizing.descriptorsPerType.toNat)
  DescriptorType.pooled.map fun type => { type, count }

def poolCount (p : DescriptorPools) : Nat := p.pools.length

/-! ## 1. Allocation -/

/-- What is left after an allocation: the answer, the pools, the driver and what was reported. -/
structure Allocation (σ : Type) where
  answer : Except Failure (List (Handle .descriptorSet))
  pools : DescriptorPools
  driver : σ
  messages : List Message := []

section

variable {σ : Type} [Driver σ]

/-- Make one more pool and append it. -/
def addPool (p : DescriptorPools) (driver : σ) :
    Except DeviceError DescriptorPools × σ × List Message :=
  match Driver.createDescriptorPool driver p.capacity p.poolSizes with
  | (.error code, driver) => (.error (.api code), driver, [])
  | (.ok pool, driver) =>
    (.ok { p with pools := p.pools ++ [pool] }, driver,
      [.debug s!"Created descriptor pool with room for {p.capacity} sets"])

/-- All pools have refused and the cursor stands past the last: ask one new pool, once. -/
def allocateGrowing (p : DescriptorPools) (driver : σ) (layouts : List (Handle .setLayout)) :
    Allocation σ :=
  match p.addPool driver with
  -- The cursor stays where no pool is.
  | (.error e, driver, messages) => ⟨.error (.error e), p, driver, messages⟩
  | (.ok p, driver, messages) =>
    match p.pools.getLast? with
    | none => ⟨.error .noCurrentPool, p, driver, messages⟩
    | some pool =>
      match Driver.allocateDescriptorSets driver pool layouts with
      | (.ok sets, driver) => ⟨.ok sets, p, driver, messages⟩
      | (.error code, driver) =>
        if code.isPoolExhausted then
          ⟨.error (.error (.outOfPoolMemory layouts.length)), p, driver, messages⟩
        else ⟨.error (.error (.api code)), p, driver, messages⟩

/-- Ask the pools of `remaining`, which stand from the cursor on, one after the other. -/
def allocateFrom (p : DescriptorPools) (driver : σ) (layouts : List (Handle .setLayout)) :
    (remaining : List (Handle .descriptorPool)) → Allocation σ
  | [] => p.allocateGrowing driver layouts
  | pool :: remaining =>
    match Driver.allocateDescriptorSets driver pool layouts with
    | (.ok sets, driver) => ⟨.ok sets, p, driver, []⟩
    | (.error code, driver) =>
      if code.isPoolExhausted then
        allocateFrom { p with current := p.current + 1 } driver layouts remaining
      else ⟨.error (.error (.api code)), p, driver, []⟩

/-- Ask from the cursor on.  A cursor past the last pool leaves no pool to ask. -/
def allocateCurrent (p : DescriptorPools) (driver : σ) (layouts : List (Handle .setLayout)) :
    Allocation σ :=
  match p.pools.drop p.current with
  | [] => ⟨.error .noCurrentPool, p, driver, []⟩
  | remaining => p.allocateFrom driver layouts remaining

/-- One set per layout.  No layouts need no set, and more than one pool holds are refused. -/
def allocate (p : DescriptorPools) (driver : σ) (layouts : List (Handle .setLayout)) :
    Allocation σ :=
  if layouts = [] then ⟨.ok [], p, driver, []⟩
  else if p.capacity < layouts.length then
    ⟨.error (.error (.outOfPoolMemory layouts.length)), p, driver, []⟩
  else if p.pools = [] then
    match p.addPool driver with
    | (.error e, driver, messages) => ⟨.error (.error e), p, driver, messages⟩
    | (.ok p, driver, messages) =>
      let a := allocateCurrent { p with current := 0 } driver layouts
      { a with messages := messages ++ a.messages }
  else p.allocateCurrent driver layouts

/-! ## 2. Recycling -/

/-- Reset pools one after the other until one refuses. -/
def resetEach (driver : σ) : List (Handle .descriptorPool) → Except DeviceError Unit × σ
  | [] => (.ok (), driver)
  | pool :: rest =>
    match Driver.resetDescriptorPool driver pool with
    | (.error code, driver) => (.error (.api code), driver)
    | (.ok (), driver) => resetEach driver rest

/-- Recycle every pool; the cursor moves only when all of them went back. -/
def reset (p : DescriptorPools) (driver : σ) : Except DeviceError Unit × DescriptorPools × σ :=
  match resetEach driver p.pools with
  | (.error e, driver) => (.error e, p, driver)
  | (.ok (), driver) => (.ok (), { p with current := 0 }, driver)

/-- Destroy every pool in the order they were made. -/
def destroyAll (p : DescriptorPools) (driver : σ) : DescriptorPools × σ :=
  ({ p with pools := [], current := 0 }, p.pools.foldl Driver.destroyDescriptorPool driver)

end

/-- No layouts: nothing is asked and nothing changes. -/
theorem allocate_nil {σ : Type} [Driver σ] (p : DescriptorPools) (driver : σ) :
    p.allocate driver [] = ⟨.ok [], p, driver, []⟩ := rfl

/-- A request larger than a pool is refused before any native call. -/
theorem allocate_of_capacity_lt {σ : Type} [Driver σ] {p : DescriptorPools} (driver : σ)
    {layouts : List (Handle .setLayout)} (h : p.capacity < layouts.length) :
    p.allocate driver layouts =
      ⟨.error (.error (.outOfPoolMemory layouts.length)), p, driver, []⟩ := by
  have hne : layouts ≠ [] := by
    rintro rfl
    simp at h
  simp [allocate, hne, h]

end DescriptorPools

end GpuRecorder.Device
