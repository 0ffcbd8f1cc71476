import GpuRecorder.Device.Capabilities
import GpuRecorder.Device.CommandPools
import GpuRecorder.Device.DescriptorPools

/-!
# Devices

A device is a driver with what is kept beside it: the capabilities in effect, the pools, and a
lock for native calls that tolerate no other.  An operation answers with an `Outcome`: its answer,
the device afterwards and the messages in between.  `close` destroys what is still there,
descriptor pools before command pools.
-/

namespace GpuRecorder

open Native Device

/-- A driver of state `σ` and what the recorder keeps beside it. -/
structure Device (σ : Type) where
  driver : σ
  capabilities : Capabilities
  commandPools : CommandPools := {}
  descriptorPools : DescriptorPools := {}
  /-- Exclusive native access is held. -/
  held : Bool := false

namespace Device

variable {σ : Type}

/-- What an operation leaves behind. -/
structure Outcome (σ α : Type) where
  answer : α
  device : Device σ
  messages : List Message := []

/-! ## 1. Opening and exclusive access -/

/-- A device with nothing made yet; what the settings disable is left out of its capabilities. -/
def start (driver : σ) (available : Capabilities) (settings : Settings) : Outcome σ Unit :=
  let capabilities := available.withOverrides settings.capabilities
  let { pushDescriptor, descriptorUpdateTemplate, multiDrawIndirect } := capabilities
  { answer := ()
    device := { driver, capabilities, descriptorPools := { sizing := settings.descriptorPool } }
    messages := [.debug
      (s!"Device: push descriptors {pushDescriptor}, " ++
        s!"update templates {descriptorUpdateTemplate}, " ++
        s!"multi-draw indirect {multiDrawIndirect}")] }

/-- Take exclusive access, unless it is held. -/
def tryHold (d : Device σ) : Option (Device σ) :=
  if d.held then none else some { d with held := true }

def letGo (d : Device σ) : Device σ := { d with held := false }

/-! ## 2. Operations -/

section

variable [Driver σ]

def handle (d : Device σ) : Handle .device := Driver.deviceHandle d.driver

def requestBuffer (d : Device σ) (level : Level) (family : Nat) :
    Outcome σ (Except DeviceError (Handle .commandBuffer)) :=
  let (answer, commandPools, driver, messages) := d.commandPools.request d.driver level family
  { answer, device := { d with commandPools, driver }, messages }

def allocateSets (d : Device σ) (layouts : List (Handle .setLayout)) :
    Outcome σ (Except Failure (List (Handle .descriptorSet))) :=
  let a := d.descriptorPools.allocate d.driver layouts
  { answer := a.answer
    device := { d with descriptorPools := a.pools, driver := a.driver }
    messages := a.messages }

def resetSets (d : Device σ) : Outcome σ (Except DeviceError Unit) :=
  let (answer, descriptorPools, driver) := d.descriptorPools.reset d.driver
  { answer, device := { d with descriptorPools, driver } }

/-- A driver call whose only failure is a result code. -/
def call (d : Device σ) (f : σ → Except ResultCode Unit × σ) :
    Outcome σ (Except DeviceError Unit) :=
  let (answer, driver) := f d.driver
  { answer := answer.mapError .api, device := { d with driver } }

/-- Submit recorded buffers in one batch.  A missing buffer is left out, and nothing is submitted
when none is left. -/
def submit (d : Device σ) (queue : Handle .queue) (buffers : List (Option (Handle .commandBuffer)))
    (fence : Handle .fence) : Outcome σ (Except DeviceError Unit) :=
  let missing := buffers.filter Option.isNone
  let messages := missing.map fun _ =>
    .warn "Skipping submit of an uninitialized command buffer"
  match buffers.filterMap id with
  | [] => { answer := .ok (), device := d, messages }
  | ready =>
    let outcome := d.call fun driver => Driver.submit driver queue ready fence
    { outcome with messages }

/-- Send a script to the driver. -/
def play (d : Device σ) (s : Script) : Outcome σ Unit :=
  let (messages, driver) := s.play d.driver
  { answer := (), device := { d with driver }, messages }

/-- Destroy the pools, descriptor pools first. -/
def close (d : Device σ) : Device σ :=
  let (descriptorPools, driver) := d.descriptorPools.destroyAll d.driver
  let (commandPools, driver) := d.commandPools.destroyAll driver
  { d with descriptorPools, commandPools, driver }

end

/-- Park a command buffer that is given back. -/
def giveBackBuffer (d : Device σ) (level : Level) (family : Nat) (buffer : Handle .commandBuffer) :
    Outcome σ Unit :=
  let (commandPools, messages) := d.commandPools.giveBack level family buffer
  { answer := (), device := { d with commandPools }, messages }

/-! ## 3. Small facts -/

@[simp] theorem tryHold_isNone (d : Device σ) : d.tryHold.isNone = d.held := by
  unfold tryHold
  cases d.held <;> rfl

/-- Requests of a script reach the driver and nothing else of the device changes. -/
theorem play_device [Driver σ] (d : Device σ) (s : Script) :
    (d.play s).device = { d with driver := (s.play d.driver).2 } := rfl

end Device

end GpuRecorder
