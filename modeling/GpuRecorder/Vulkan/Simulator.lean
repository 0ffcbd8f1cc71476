import GpuRecorder.Native.Trace
import GpuRecorder.Vulkan.Production
import GpuRecorder.Vulkan.Query

/-!
# A simulated device

A device that logs the calls it gets and hands out consecutive handles.  Single functions can be
told to fail: such a call returns the code it was given, is not logged and has no effect.  Packed
descriptor data is logged as the entries of its template read it.
-/

namespace GpuRecorder.Vulkan

open Native

/-! ## 1. The log -/

/-- The functions that can be told to fail. -/
inductive Fallible where
  | enumerateDeviceExtensionProperties
  | createCommandPool
  | allocateCommandBuffers
  | createDescriptorPool
  | resetDescriptorPool
  | allocateDescriptorSets
  | createDescriptorUpdateTemplate
  | queueSubmit
  | beginCommandBuffer
  | endCommandBuffer
  deriving DecidableEq, Repr

def Fallible.name : Fallible → String
  | .enumerateDeviceExtensionProperties => "vkEnumerateDeviceExtensionProperties"
  | .createCommandPool => "vkCreateCommandPool"
  | .allocateCommandBuffers => "vkAllocateCommandBuffers"
  | .createDescriptorPool => "vkCreateDescriptorPool"
  | .resetDescriptorPool => "vkResetDescriptorPool"
  | .allocateDescriptorSets => "vkAllocateDescriptorSets"
  | .createDescriptorUpdateTemplate => "vkCreateDescriptorUpdateTemplate"
  | .queueSubmit => "vkQueueSubmit"
  | .beginCommandBuffer => "vkBeginCommandBuffer"
  | .endCommandBuffer => "vkEndCommandBuffer"

def Fallible.all : List Fallible :=
  [.enumerateDeviceExtensionProperties, .createCommandPool, .allocateCommandBuffers,
    .createDescriptorPool, .resetDescriptorPool, .allocateDescriptorSets,
    .createDescriptorUpdateTemplate, .queueSubmit, .beginCommandBuffer, .endCommandBuffer]

def Fallible.ofName? (name : String) : Option Fallible := all.find? fun f => f.name = name

/-- A successful call, with its output. -/
inductive Entry where
  | createCommandPool (flags family : Nat) (pool : Handle .commandPool)
  | allocateCommandBuffers (pool : Handle .commandPool) (level : Level)
      (buffers : List (Handle .commandBuffer))
  | createDescriptorPool (flags maxSets : Nat) (sizes : List PoolSize)
      (pool : Handle .descriptorPool)
  | resetDescriptorPool (pool : Handle .descriptorPool) (flags : Nat)
  | allocateDescriptorSets (pool : Handle .descriptorPool) (layouts : List (Handle .setLayout))
      (sets : List (Handle .descriptorSet))
  | createDescriptorUpdateTemplate (args : TemplateCreation) (template : Handle .updateTemplate)
  | queueSubmit (queue : Handle .queue) (submits : List (List (Handle .commandBuffer)))
      (fence : Handle .fence)
  | beginCommandBuffer (buffer : Handle .commandBuffer) (args : RecordingBegin)
  | endCommandBuffer (buffer : Handle .commandBuffer)
  /-- A call without an answer, with the descriptors that its template read. -/
  | call (c : Call) (read : List Payload)
  deriving Repr

/-! ## 2. The device -/

structure Simulator where
  next : Nat := 4096
  log : Array Entry := #[]
  pools : List PoolUsage := []
  templates : List (Handle .updateTemplate × List TemplateEntry) := []
  /-- The functions that fail, the latest word on each one first. -/
  failures : List (Fallible × ResultCode) := []
  deriving Repr

namespace Simulator

/-- The handle of every simulated device. -/
def device : Handle .device := ⟨1⟩

def note (s : Simulator) (e : Entry) : Simulator := { s with log := s.log.push e }

def failure? (s : Simulator) (f : Fallible) : Option ResultCode := s.failures.lookup f

def fail (s : Simulator) (f : Fallible) (code : ResultCode) : Simulator :=
  { s with failures := (f, code) :: s.failures }

def clearFailures (s : Simulator) : Simulator := { s with failures := [] }

def clearLog (s : Simulator) : Simulator := { s with log := #[] }

/-- The next `count` handles, which are taken. -/
def mint (s : Simulator) (kind : Kind) (count : Nat) : List (Handle kind) × Simulator :=
  (Handle.freshList s.next count, { s with next := s.next + count })

/-- Run a call, unless its function was told to fail. -/
def unlessFailing {α : Type} [Inhabited α] (s : Simulator) (f : Fallible)
    (run : Returned α × Simulator) : Returned α × Simulator :=
  match s.failure? f with
  | some code => (⟨code, default⟩, s)
  | none => run

/-- Log a call that has no output. -/
def logged (s : Simulator) (f : Fallible) (e : Entry) : Returned Unit × Simulator :=
  s.unlessFailing f (⟨success, ()⟩, s.note e)

/-- Make one object, log the call that made it and keep what is to be known about it. -/
def created {kind : Kind} (s : Simulator) (f : Fallible) (e : Handle kind → Entry)
    (keep : Handle kind → Simulator → Simulator := fun _ s => s) :
    Returned (Handle kind) × Simulator :=
  let made : Handle kind := ⟨s.next⟩
  s.unlessFailing f (⟨success, made⟩, keep made ({ s with next := s.next + 1 }.note (e made)))

/-! ## 3. Its functions -/

/-- List the extensions of a physical device. -/
def listExtensions (s : Simulator) (p : PhysicalDevice) : Returned (List String) :=
  (s.unlessFailing .enumerateDeviceExtensionProperties (⟨success, p.extensions⟩, s)).1

def createDescriptorPool (s : Simulator) (flags maxSets : Nat) (sizes : List PoolSize) :
    Returned (Handle .descriptorPool) × Simulator :=
  s.created .createDescriptorPool (.createDescriptorPool flags maxSets sizes) fun pool s =>
    { s with pools := s.pools ++ [PoolUsage.mk pool maxSets 0] }

def resetDescriptorPool (s : Simulator) (pool : Handle .descriptorPool) (flags : Nat) :
    Returned Unit × Simulator :=
  let empty := fun u : PoolUsage => { u with allocated := 0 }
  s.unlessFailing .resetDescriptorPool
    (⟨success, ()⟩, { s with pools := PoolUsage.update s.pools pool empty }.note
      (.resetDescriptorPool pool flags))

/-- One set per layout, if the pool is known and has room for all of them. -/
def allocateDescriptorSets (s : Simulator) (pool : Handle .descriptorPool)
    (layouts : List (Handle .setLayout)) :
    Returned (List (Handle .descriptorSet)) × Simulator :=
  let room := (PoolUsage.find? s.pools pool).any fun u =>
    u.allocated + layouts.length ≤ u.maxSets
  let grow := fun u : PoolUsage => { u with allocated := u.allocated + layouts.length }
  s.unlessFailing .allocateDescriptorSets <|
    if room then
      let (sets, t) := s.mint .descriptorSet layouts.length
      (⟨success, sets⟩,
        { t with pools := PoolUsage.update t.pools pool grow }.note
          (.allocateDescriptorSets pool layouts sets))
    else (⟨.outOfPoolMemory, []⟩, s)

def createTemplate (s : Simulator) (args : TemplateCreation) :
    Returned (Handle .updateTemplate) × Simulator :=
  s.created .createDescriptorUpdateTemplate (.createDescriptorUpdateTemplate args)
    fun template s => { s with templates := (template, args.entries) :: s.templates }

/-- What a template reads out of a block; an unknown template has no entries. -/
def readThrough (s : Simulator) (template : Handle .updateTemplate) (data : List UInt8) :
    List Payload :=
  ((s.templates.lookup template).getD []).map (·.read data)

/-- The descriptors that a call reads through a template. -/
def payloadsOf (s : Simulator) : Call → List Payload
  | .updateDescriptorSetWithTemplate _ template data => s.readThrough template data
  | .cmdPushDescriptorSetWithTemplate _ template _ _ data => s.readThrough template data
  | _ => []

/-- A call without an answer is only logged.  So a pool that was destroyed keeps its room. -/
def call (s : Simulator) (c : Call) : Simulator := s.note (.call c (s.payloadsOf c))

instance : Api Simulator where
  device _ := device
  createCommandPool s flags family :=
    s.created .createCommandPool (.createCommandPool flags family)
  allocateCommandBuffers s pool level count :=
    let (buffers, t) := s.mint .commandBuffer count
    s.unlessFailing .allocateCommandBuffers
      (⟨success, buffers⟩, t.note (.allocateCommandBuffers pool level buffers))
  createDescriptorPool := createDescriptorPool
  resetDescriptorPool := resetDescriptorPool
  allocateDescriptorSets := allocateDescriptorSets
  createDescriptorUpdateTemplate := createTemplate
  queueSubmit s queue submits fence := s.logged .queueSubmit (.queueSubmit queue submits fence)
  beginCommandBuffer s buffer args :=
    s.logged .beginCommandBuffer (.beginCommandBuffer buffer args)
  endCommandBuffer s buffer := s.logged .endCommandBuffer (.endCommandBuffer buffer)
  call := call

end Simulator

end GpuRecorder.Vulkan
