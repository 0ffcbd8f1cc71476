import GpuRecorder.Native.Command
import GpuRecorder.Native.Message
import GpuRecorder.Native.ResultCode

/-!
# Drivers

`Driver σ` is everything the recorder asks of the layer below it, where `σ` is that layer's
state.  Calls that can fail answer with a result code or a value; the others are `Request`s, which
always go through.  A `Script` is a list of requests with the messages reported between them, so
an operation that needs no answer is a pure function to a script.
-/

namespace GpuRecorder.Native

/-! ## 1. Requests -/

/-- A call that needs no answer. -/
inductive Request where
  /-- Write a whole set through a template. -/
  | updateSet (set : Handle .descriptorSet) (template : UpdateTemplate)
      (infos : List DescriptorInfo)
  /-- Write descriptors one by one. -/
  | writeDescriptors (writes : List DescriptorWrite)
  /-- Record a command into a command buffer. -/
  | record (buffer : Handle .commandBuffer) (command : Command)
  deriving DecidableEq, Repr

/-! ## 2. The interface -/

/-- The calls of a driver with state `σ`. -/
class Driver (σ : Type) where
  deviceHandle : σ → Handle .device
  createCommandPool : σ → (family : Nat) → Except ResultCode (Handle .commandPool) × σ
  destroyCommandPool : σ → Handle .commandPool → σ
  allocateCommandBuffers : σ → Handle .commandPool → Level → (count : Nat) →
    Except ResultCode (List (Handle .commandBuffer)) × σ
  freeCommandBuffers : σ → Handle .commandPool → List (Handle .commandBuffer) → σ
  createDescriptorPool : σ → (maxSets : Nat) → List PoolSize →
    Except ResultCode (Handle .descriptorPool) × σ
  destroyDescriptorPool : σ → Handle .descriptorPool → σ
  resetDescriptorPool : σ → Handle .descriptorPool → Except ResultCode Unit × σ
  allocateDescriptorSets : σ → Handle .descriptorPool → List (Handle .setLayout) →
    Except ResultCode (List (Handle .descriptorSet)) × σ
  submit : σ → Handle .queue → List (Handle .commandBuffer) → Handle .fence →
    Except ResultCode Unit × σ
  beginRecording : σ → Handle .commandBuffer → RecordingBegin → Except ResultCode Unit × σ
  endRecording : σ → Handle .commandBuffer → Except ResultCode Unit × σ
  request : σ → Request → List Message × σ

/-! ## 3. Scripts -/

/-- One step of a script. -/
inductive Effect where
  | request (r : Request)
  | report (m : Message)
  deriving DecidableEq, Repr

abbrev Script := List Effect

namespace Script

/-- The requests of a script, in order. -/
def requests (s : Script) : List Request :=
  s.filterMap fun
    | .request r => some r
    | .report _ => none

/-- Recording some commands into one buffer. -/
def record (buffer : Handle .commandBuffer) (commands : List Command) : Script :=
  commands.map fun c => .request (.record buffer c)

/-- Run a script on a driver; its messages and the driver's come out in order. -/
def play {σ : Type} [Driver σ] (driver : σ) : Script → List Message × σ
  | [] => ([], driver)
  | .report m :: rest =>
    let (messages, driver) := play driver rest
    (m :: messages, driver)
  | .request r :: rest =>
    let (reported, driver) := Driver.request driver r
    let (messages, driver) := play driver rest
    (reported ++ messages, driver)

@[simp] theorem requests_nil : requests [] = [] := rfl

@[simp] theorem requests_append (s t : Script) : requests (s ++ t) = requests s ++ requests t := by
  simp [requests]

@[simp] theorem requests_report (m : Message) (s : Script) :
    requests (.report m :: s) = requests s := rfl

@[simp] theorem requests_request (r : Request) (s : Script) :
    requests (.request r :: s) = r :: requests s := rfl

@[simp] theorem requests_record (buffer : Handle .commandBuffer) (commands : List Command) :
    requests (record buffer commands) = commands.map (.record buffer) := by
  induction commands with
  | nil => rfl
  | cons c commands ih =>
    rw [List.map_cons, ← ih]
    rfl

theorem play_append {σ : Type} [Driver σ] (driver : σ) (s t : Script) :
    play driver (s ++ t) =
      ((play driver s).1 ++ (play (play driver s).2 t).1, (play (play driver s).2 t).2) := by
  induction s generalizing driver with
  | nil => simp [play]
  | cons e s ih => cases e <;> simp [play, ih]

/-- The driver after a script has seen its requests and nothing else of it. -/
theorem play_state {σ : Type} [Driver σ] (driver : σ) (s : Script) :
    (play driver s).2 = s.requests.foldl (fun d r => (Driver.request d r).2) driver := by
  induction s generalizing driver with
  | nil => rfl
  | cons e s ih => cases e <;> simp [play, ih]

end Script

end GpuRecorder.Native
