import GpuRecorder.Draw.Counter
import GpuRecorder.Native.Driver

/-!
# The trace driver

A driver that writes calls down instead of executing them.  Handles are numbered from a counter,
descriptor pools hold as many sets as they were made for, as far as counts of 32 bits tell, and
allocations can be told to fail.
`commandsOf` and `deviceCalls` split the log into the stream of one command buffer and the calls
made on the device.
-/

namespace GpuRecorder.Native

open Draw

/-! ## 1. Calls -/

/-- A call with its answer, as it is written down. -/
inductive Call where
  | createCommandPool (family : Nat) (pool : Handle .commandPool)
  | destroyCommandPool (pool : Handle .commandPool)
  | allocateCommandBuffers (pool : Handle .commandPool) (level : Level)
      (buffers : List (Handle .commandBuffer))
  | freeCommandBuffers (pool : Handle .commandPool) (buffers : List (Handle .commandBuffer))
  | createDescriptorPool (pool : Handle .descriptorPool) (maxSets : Nat)
  | destroyDescriptorPool (pool : Handle .descriptorPool)
  | resetDescriptorPool (pool : Handle .descriptorPool)
  | allocateDescriptorSets (pool : Handle .descriptorPool) (layouts : List (Handle .setLayout))
      (sets : List (Handle .descriptorSet))
  | submit (queue : Handle .queue) (buffers : List (Handle .commandBuffer))
      (fence : Handle .fence)
  | begin (buffer : Handle .commandBuffer) (args : RecordingBegin)
  | finish (buffer : Handle .commandBuffer)
  | request (r : Request)
  deriving DecidableEq, Repr

/-- The command buffer a call goes into; none for a call on the device. -/
def Call.target? : Call → Option (Handle .commandBuffer)
  | .begin buffer _ | .finish buffer | .request (.record buffer _) => some buffer
  | _ => none

/-- A request as separate entries: each viewport and each scissor is one. -/
def Request.entries : Request → List Request
  | .record buffer (.setViewports first viewports) =>
    viewports.map fun v => .record buffer (.setViewports first [v])
  | .record buffer (.setScissors first scissors) =>
    scissors.map fun s => .record buffer (.setScissors first [s])
  | r => [r]

/-! ## 2. Descriptor pools -/

/-- How full a descriptor pool is; both numbers are counts of 32 bits. -/
structure PoolUsage where
  pool : Handle .descriptorPool
  maxSets : Nat
  allocated : Nat
  deriving DecidableEq, Repr

namespace PoolUsage

/-- Change the entry of one pool. -/
def update (usages : List PoolUsage) (pool : Handle .descriptorPool)
    (f : PoolUsage → PoolUsage) : List PoolUsage :=
  usages.map fun u => if u.pool = pool then f u else u

def find? (usages : List PoolUsage) (pool : Handle .descriptorPool) : Option PoolUsage :=
  List.find? (fun u => u.pool = pool) usages

/-- There is no room for so many sets more.  The sum that is compared stays at the largest count,
so a pool that was made for that many sets is never full. -/
def isFullFor (u : PoolUsage) (count : Nat) : Prop := u.maxSets < saturate (u.allocated + count)

instance (u : PoolUsage) (count : Nat) : Decidable (u.isFullFor count) :=
  inferInstanceAs (Decidable (_ < _))

/-- Give so many sets away.  The number that is kept goes round past the largest count. -/
def give (count : Nat) (u : PoolUsage) : PoolUsage :=
  { u with allocated := (u.allocated + saturate count) % (maxCount + 1) }

theorem not_isFullFor_of_room {u : PoolUsage} {count : Nat} (h : u.allocated + count ≤ u.maxSets) :
    ¬ u.isFullFor count :=
  Nat.not_lt.2 (Nat.le_trans (Nat.min_le_left _ _) h)

theorem not_isFullFor_of_le {u : PoolUsage} (h : maxCount ≤ u.maxSets) (count : Nat) :
    ¬ u.isFullFor count :=
  Nat.not_lt.2 (Nat.le_trans (saturate_le _) h)

/-- The number that is kept is exact as long as a count can show it. -/
theorem give_of_le {u : PoolUsage} {count : Nat} (h : u.allocated + count ≤ maxCount) :
    u.give count = { u with allocated := u.allocated + count } := by
  rw [give, saturate_of_le (Nat.le_trans (Nat.le_add_left _ _) h),
    Nat.mod_eq_of_lt (Nat.lt_succ_of_le h)]

end PoolUsage

/-! ## 3. The driver -/

/-- The log, the counter of handles, the pools, and the failures asked for. -/
structure Trace where
  next : Nat := 4096
  log : Array Call := #[]
  pools : List PoolUsage := []
  setFailure : Option ResultCode := none
  bufferFailure : Option ResultCode := none
  deriving Repr

namespace Trace

/-- Write a call down. -/
def note (t : Trace) (c : Call) : Trace := { t with log := t.log.push c }

/-- The number of the next handle, which is taken. -/
def mint (t : Trace) (kind : Kind) : Handle kind × Trace :=
  (⟨t.next⟩, { t with next := t.next + 1 })

/-- The next `count` handles, which are taken. -/
def mintMany (t : Trace) (kind : Kind) (count : Nat) : List (Handle kind) × Trace :=
  (Handle.freshList t.next count, { t with next := t.next + count })

/-- The device every trace is of. -/
def device : Handle .device := ⟨1⟩

def createCommandPool (t : Trace) (family : Nat) : Handle .commandPool × Trace :=
  let (pool, t) := t.mint .commandPool
  (pool, t.note (.createCommandPool family pool))

def allocateCommandBuffers (t : Trace) (pool : Handle .commandPool) (level : Level)
    (count : Nat) : Except ResultCode (List (Handle .commandBuffer)) × Trace :=
  match t.bufferFailure with
  | some code => (.error code, t)
  | none =>
    let (buffers, t) := t.mintMany .commandBuffer count
    (.ok buffers, t.note (.allocateCommandBuffers pool level buffers))

def createDescriptorPool (t : Trace) (maxSets : Nat) : Handle .descriptorPool × Trace :=
  let (pool, t) := t.mint .descriptorPool
  let t := { t with pools := t.pools ++ [PoolUsage.mk pool maxSets 0] }
  (pool, t.note (.createDescriptorPool pool maxSets))

def destroyDescriptorPool (t : Trace) (pool : Handle .descriptorPool) : Trace :=
  let t := { t with pools := t.pools.filter fun u => u.pool ≠ pool }
  t.note (.destroyDescriptorPool pool)

def resetDescriptorPool (t : Trace) (pool : Handle .descriptorPool) : Trace :=
  let t := { t with pools := PoolUsage.update t.pools pool fun u => { u with allocated := 0 } }
  t.note (.resetDescriptorPool pool)

/-- One set per layout, if the pool is known and is not full for them. -/
def allocateDescriptorSets (t : Trace) (pool : Handle .descriptorPool)
    (layouts : List (Handle .setLayout)) :
    Except ResultCode (List (Handle .descriptorSet)) × Trace :=
  match t.setFailure, PoolUsage.find? t.pools pool with
  | some code, _ => (.error code, t)
  | none, none => (.error .initializationFailed, t)
  | none, some usage =>
    if usage.isFullFor layouts.length then (.error .outOfPoolMemory, t)
    else
      let t := { t with pools := PoolUsage.update t.pools pool (.give layouts.length) }
      let (sets, t) := t.mintMany .descriptorSet layouts.length
      (.ok sets, t.note (.allocateDescriptorSets pool layouts sets))

/-- A request goes into the log entry by entry; nothing is reported. -/
def request (t : Trace) (r : Request) : List Message × Trace :=
  ([], r.entries.foldl (fun t entry => t.note (.request entry)) t)

instance : Driver Trace where
  deviceHandle _ := device
  createCommandPool t family := let (pool, t) := t.createCommandPool family; (.ok pool, t)
  destroyCommandPool t pool := t.note (.destroyCommandPool pool)
  allocateCommandBuffers := allocateCommandBuffers
  freeCommandBuffers t pool buffers := t.note (.freeCommandBuffers pool buffers)
  createDescriptorPool t maxSets _ := let (pool, t) := t.createDescriptorPool maxSets; (.ok pool, t)
  destroyDescriptorPool := destroyDescriptorPool
  resetDescriptorPool t pool := (.ok (), t.resetDescriptorPool pool)
  allocateDescriptorSets := allocateDescriptorSets
  submit t queue buffers fence := (.ok (), t.note (.submit queue buffers fence))
  beginRecording t buffer args := (.ok (), t.note (.begin buffer args))
  endRecording t buffer := (.ok (), t.note (.finish buffer))
  request := request

/-! ## 4. Failures and views -/

/-- Every following allocation of descriptor sets fails. -/
def failSets (t : Trace) (code : ResultCode) : Trace := { t with setFailure := some code }

/-- Every following allocation of command buffers fails. -/
def failBuffers (t : Trace) (code : ResultCode) : Trace := { t with bufferFailure := some code }

def clearFailures (t : Trace) : Trace := { t with setFailure := none, bufferFailure := none }

def clearLog (t : Trace) : Trace := { t with log := #[] }

/-- The calls recorded into one command buffer, in order. -/
def commandsOf (t : Trace) (buffer : Handle .commandBuffer) : List Call :=
  t.log.toList.filter fun c => c.target? = some buffer

/-- The calls made on the device, in order. -/
def deviceCalls (t : Trace) : List Call := t.log.toList.filter fun c => c.target?.isNone

@[simp] theorem log_note (t : Trace) (c : Call) : (t.note c).log.toList = t.log.toList ++ [c] := by
  simp [note]

@[simp] theorem next_note (t : Trace) (c : Call) : (t.note c).next = t.next := rfl

end Trace

end GpuRecorder.Native
