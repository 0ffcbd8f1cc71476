import GpuRecorder.Native.Driver
import GpuRecorder.Native.Error

/-!
# Command pools

One native command pool per queue family, made when the family is first asked for.  A command
buffer that is given back is parked under its family and level, and the last one parked is the
first handed out again.
-/

namespace GpuRecorder.Device

open Native

/-- The native pool of one queue family with its parked buffers. -/
structure FamilyPool where
  family : Nat
  pool : Handle .commandPool
  /-- Parked primary buffers, the last one first. -/
  primary : List (Handle .commandBuffer) := []
  /-- Parked secondary buffers, the last one first. -/
  secondary : List (Handle .commandBuffer) := []
  deriving DecidableEq, Repr

namespace FamilyPool

/-- The parked buffers of a level; whatever is not secondary is primary. -/
def parked (p : FamilyPool) (level : Level) : List (Handle .commandBuffer) :=
  if level = .secondary then p.secondary else p.primary

def setParked (p : FamilyPool) (level : Level) (buffers : List (Handle .commandBuffer)) :
    FamilyPool :=
  if level = .secondary then { p with secondary := buffers } else { p with primary := buffers }

def park (p : FamilyPool) (level : Level) (buffer : Handle .commandBuffer) : FamilyPool :=
  p.setParked level (buffer :: p.parked level)

end FamilyPool

/-- The families in the order in which they were first asked for. -/
structure CommandPools where
  families : List FamilyPool := []
  deriving DecidableEq, Repr, Inhabited

namespace CommandPools

def find? (p : CommandPools) (family : Nat) : Option FamilyPool :=
  p.families.find? fun f => f.family = family

/-- Replace the pool of a family that has one. -/
def replace (p : CommandPools) (new : FamilyPool) : CommandPools :=
  ⟨p.families.map fun f => if f.family = new.family then new else f⟩

/-- The parked buffers of all families. -/
def freeCount (p : CommandPools) : Nat :=
  p.families.foldr (fun f n => f.primary.length + f.secondary.length + n) 0

/-! ## 1. Requests -/

section

variable {σ : Type} [Driver σ]

/-- The pool of a family, made if there is none yet. -/
def ensure (p : CommandPools) (driver : σ) (family : Nat) :
    Except DeviceError (FamilyPool × CommandPools) × σ × List Message :=
  match p.find? family with
  | some f => (.ok (f, p), driver, [])
  | none =>
    match Driver.createCommandPool driver family with
    | (.error code, driver) => (.error (.api code), driver, [])
    | (.ok pool, driver) =>
      let f : FamilyPool := { family, pool }
      (.ok (f, ⟨p.families ++ [f]⟩), driver,
        [.debug s!"Created command pool for queue family {family}"])

/-- Hand out a buffer of one family and level: a parked one if there is any, else a new one. -/
def request (p : CommandPools) (driver : σ) (level : Level) (family : Nat) :
    Except DeviceError (Handle .commandBuffer) × CommandPools × σ × List Message :=
  match p.ensure driver family with
  | (.error e, driver, messages) => (.error e, p, driver, messages)
  | (.ok (f, p), driver, messages) =>
    match f.parked level with
    | buffer :: rest => (.ok buffer, p.replace (f.setParked level rest), driver, messages)
    | [] =>
      match Driver.allocateCommandBuffers driver f.pool level 1 with
      | (.error code, driver) => (.error (.api code), p, driver, messages)
      | (.ok (buffer :: _), driver) => (.ok buffer, p, driver, messages)
      | (.ok [], driver) => (.error (.api .outOfDeviceMemory), p, driver, messages)

/-- Destroy every pool, the buffers in it included. -/
def destroyAll (p : CommandPools) (driver : σ) : CommandPools × σ :=
  ({}, p.families.foldl (fun d f => Driver.destroyCommandPool d f.pool) driver)

end

/-- Park a buffer that is given back; a family that was never asked for has no place for it. -/
def giveBack (p : CommandPools) (level : Level) (family : Nat) (buffer : Handle .commandBuffer) :
    CommandPools × List Message :=
  match p.find? family with
  | some f => (p.replace (f.park level buffer), [])
  | none => (p, [.warn s!"Command buffer yielded to unknown queue family {family}"])

/-! ## 2. Small facts -/

@[simp] theorem parked_setParked_self (f : FamilyPool) (level : Level)
    (buffers : List (Handle .commandBuffer)) :
    (f.setParked level buffers).parked level = buffers := by
  unfold FamilyPool.setParked FamilyPool.parked
  split <;> rfl

@[simp] theorem family_setParked (f : FamilyPool) (level : Level)
    (buffers : List (Handle .commandBuffer)) : (f.setParked level buffers).family = f.family := by
  unfold FamilyPool.setParked
  split <;> rfl

theorem families_replace (p : CommandPools) (new : FamilyPool) :
    (p.replace new).families.map (·.family) = p.families.map (·.family) := by
  simp only [replace, List.map_map]
  apply List.map_congr_left
  intro f _
  simp only [Function.comp_apply]
  split
  · rename_i h
    exact h.symm
  · rfl

end CommandPools

end GpuRecorder.Device
