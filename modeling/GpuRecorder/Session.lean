import GpuRecorder.Recording.Operation
import GpuRecorder.Resource.Change

/-!
# Sessions

A device, the shared objects and the command buffers recorded against them.  An `Action` is one
thing that can happen in a session, so a run is a list of actions, and the command buffers of a
run may take turns in any order.  `close` releases the command buffers and then closes the device.
-/

namespace GpuRecorder

open Native Resource Recording

/-- Command buffers are numbered in the order they were made, from zero. -/
structure Session (σ : Type) where
  device : Device σ
  store : Store := {}
  buffers : List CommandBuffer := []

/-- What can happen in a session. -/
inductive Action where
  | change (c : Change)
  /-- Make a command buffer, not set up yet. -/
  | create
  | perform (buffer : Nat) (op : Operation)
  /-- Execute buffers as they are now from another.  A buffer does not execute itself, so its own
  number is left out. -/
  | execute (buffer : Nat) (children : List Nat)
  | submit (queue : Handle .queue) (buffers : List Nat) (fence : Handle .fence)
  | resetSets
  deriving Repr

namespace Session

variable {σ : Type}

/-- What one action leaves behind. -/
structure Step (σ : Type) where
  session : Session σ
  answer : Answer
  messages : List Message := []

/-- The buffers of some numbers; a number that names none is left out. -/
def select (s : Session σ) (numbers : List Nat) : List CommandBuffer :=
  numbers.filterMap (s.buffers[·]?)

section

variable [Driver σ]

/-- Let one command buffer perform an operation. -/
def perform (s : Session σ) (buffer : Nat) (op : Operation) : Step σ :=
  match s.buffers[buffer]? with
  | none => { session := s, answer := .done }
  | some c =>
    let p := c.perform s.device s.store op
    { session :=
        { device := p.outcome.device, store := p.store, buffers := s.buffers.set buffer p.buffer }
      answer := p.outcome.answer
      messages := p.outcome.messages }

/-- An outcome that concerns the device alone. -/
def ofDevice (s : Session σ) (outcome : Device.Outcome σ (Except DeviceError Unit)) : Step σ :=
  { session := { s with device := outcome.device }
    answer := .ofExcept outcome.answer
    messages := outcome.messages }

def step (s : Session σ) : Action → Step σ
  | .change c =>
    let (answer, store) := s.store.apply c
    { session := { s with store }, answer := .ofExcept answer }
  | .create => { session := { s with buffers := s.buffers ++ [{}] }, answer := .done }
  | .perform buffer op => s.perform buffer op
  | .execute buffer children =>
    s.perform buffer (.execute (s.select (children.filter (· ≠ buffer))))
  | .submit queue buffers fence =>
    s.ofDevice (s.device.submit queue ((s.select buffers).map (·.handle?)) fence)
  | .resetSets => s.ofDevice s.device.resetSets

/-- The session after a run. -/
def run (s : Session σ) (actions : List Action) : Session σ :=
  actions.foldl (fun s a => (s.step a).session) s

/-- Release one command buffer after the other. -/
def releaseAll (s : Session σ) : Session σ :=
  (List.range s.buffers.length).foldl (fun s n => (s.perform n .release).session) s

/-- Release every command buffer, then close the device. -/
def close (s : Session σ) : Session σ :=
  let s := s.releaseAll
  { s with device := s.device.close }

@[simp] theorem run_nil (s : Session σ) : s.run [] = s := rfl

@[simp] theorem run_cons (s : Session σ) (a : Action) (actions : List Action) :
    s.run (a :: actions) = (s.step a).session.run actions := rfl

theorem run_append (s : Session σ) (actions more : List Action) :
    s.run (actions ++ more) = (s.run actions).run more := by
  simp [run]

/-- An operation of one buffer leaves the others as they are. -/
theorem buffers_perform_of_ne (s : Session σ) {buffer other : Nat} (h : buffer ≠ other)
    (op : Operation) : (s.perform buffer op).session.buffers[other]? = s.buffers[other]? := by
  unfold perform
  split
  · rfl
  · simp [List.getElem?_set_ne h]

end

end Session

end GpuRecorder
