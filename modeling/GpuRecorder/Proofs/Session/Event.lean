import GpuRecorder.Proofs.Session.Driving

/-!
# Runs of a session on a trace

An `Event` is one thing that can happen to a session over the trace driver: an action, sets
allocated on the device itself, or a switch that somebody flips on the driver.  A run is a list of
events from a session in which nothing has happened yet.  Command buffers come from the pools of
the device only through `setUp` and go back only through `release`.
-/

namespace GpuRecorder

open Native Resource Recording Device

/-! ## 1. Events -/

/-- What can be done to the trace driver from outside. -/
inductive Switch where
  | takeHandle
  | failSets (code : ResultCode)
  | failBuffers (code : ResultCode)
  | clearFailures
  | clearLog

def Switch.flip (t : Trace) : Switch → Trace
  | .takeHandle => { t with next := t.next + 1 }
  | .failSets code => t.failSets code
  | .failBuffers code => t.failBuffers code
  | .clearFailures => t.clearFailures
  | .clearLog => t.clearLog

inductive Event where
  | act (a : Action)
  | allocateSets (layouts : List (Handle .setLayout))
  | switch (x : Switch)

/-- Only a layout that has been made can be bound. -/
def Action.isPossible (a : Action) (s : Store) : Bool :=
  match a with
  | .perform _ (.bindLayout id) => decide (id.number < s.next)
  | _ => true

namespace Session

def start (available : Capabilities) (settings : Settings) : Session Trace where
  device := (Device.start {} available settings).device

/-- The session after an event; an action that is not possible does not happen. -/
def after (s : Session Trace) : Event → Session Trace
  | .act a => if a.isPossible s.store then (s.step a).session else s
  | .allocateSets layouts => { s with device := (s.device.allocateSets layouts).device }
  | .switch x => { s with device := { s.device with driver := x.flip s.device.driver } }

def through (s : Session Trace) (events : List Event) : Session Trace := events.foldl after s

theorem through_append (s : Session Trace) (events more : List Event) :
    s.through (events ++ more) = (s.through events).through more := by
  simp [through]

@[simp] theorem through_concat (s : Session Trace) (events : List Event) (e : Event) :
    s.through (events ++ [e]) = (s.through events).after e := by
  simp [through]

theorem through_induction {P : Session Trace → Prop} {s : Session Trace} (start : P s)
    (after : ∀ s e, P s → P (s.after e)) (events : List Event) : P (s.through events) := by
  induction events generalizing s with
  | nil => exact start
  | cons e events ih => exact ih (after s e start)

/-! ## 2. What an event can be -/

/-- The operation that an event lets one of the buffers perform. -/
def operation? (s : Session Trace) : Event → Option (Nat × Operation)
  | .act (.perform buffer op) => some (buffer, op)
  | .act (.execute buffer children) =>
    some (buffer, .execute (s.select (children.filter (· ≠ buffer))))
  | _ => none

/-- Every operation but the execution of other buffers is named by its own event only. -/
theorem eq_of_operation? {s : Session Trace} {e : Event} {n : Nat} {op : Operation}
    (h : s.operation? e = some (n, op)) (hop : ∀ children, op ≠ .execute children) :
    e = .act (.perform n op) := by
  cases e with
  | act a =>
    cases a with
    | perform n' op' =>
      cases h
      rfl
    | execute n' children =>
      cases h
      exact absurd rfl (hop _)
    | _ => cases h
  | _ => cases h

/-- No operation is performed: the buffers stay, but for new ones, and nothing is recorded. -/
structure Quiet (s s' : Session Trace) : Prop where
  buffers : ∃ more, s'.buffers = s.buffers ++ more ∧ ∀ c ∈ more, c = {}
  commandPools : s'.device.commandPools = s.device.commandPools
  next_le : s.device.driver.next ≤ s'.device.driver.next
  calls : Confined none (s.device.driver.callsSince s'.device.driver)

theorem Quiet.refl (s : Session Trace) : Quiet s s where
  buffers := ⟨[], by simp, by simp⟩
  commandPools := rfl
  next_le := Nat.le_refl _
  calls := Trace.confined_of_log_eq rfl

theorem Quiet.of_growsOnly {s s' : Session Trace} (hbuffers : s'.buffers = s.buffers)
    (hpools : s'.device.commandPools = s.device.commandPools)
    (h : Trace.GrowsOnly none s.device.driver s'.device.driver) : Quiet s s' where
  buffers := ⟨[], by simp [hbuffers], by simp⟩
  commandPools := hpools
  next_le := h.1
  calls := by
    obtain ⟨_, calls, hlog, hcalls⟩ := h
    rwa [Trace.callsSince_of_append hlog]

theorem quiet_change (s : Session Trace) (c : Change) : Quiet s (s.step (.change c)).session :=
  Quiet.of_growsOnly rfl rfl (.refl _)

theorem quiet_create (s : Session Trace) : Quiet s (s.step .create).session where
  buffers := ⟨[{}], rfl, by simp⟩
  commandPools := rfl
  next_le := Nat.le_refl _
  calls := (Quiet.refl s).calls

theorem quiet_submit (s : Session Trace) (queue : Handle .queue) (buffers : List Nat)
    (fence : Handle .fence) : Quiet s (s.step (.submit queue buffers fence)).session := by
  simp only [step, ofDevice, Device.submit]
  split
  · exact Quiet.of_growsOnly rfl rfl (.refl _)
  · exact Quiet.of_growsOnly rfl rfl (.note (Nat.le_refl _) rfl (Or.inl rfl))

theorem quiet_resetSets (s : Session Trace) : Quiet s (s.step .resetSets).session :=
  Quiet.of_growsOnly rfl rfl (growsOnly_of_pools (poolCalls_appends.reset _ _))

theorem quiet_switch (s : Session Trace) (x : Switch) : Quiet s (s.after (.switch x)) where
  buffers := ⟨[], by simp [after], by simp⟩
  commandPools := rfl
  next_le := by
    cases x with
    | takeHandle => exact Nat.le_succ _
    | _ => exact Nat.le_refl _
  calls := by
    cases x with
    | clearLog => simp [after, Switch.flip, Trace.clearLog, Trace.callsSince, Confined]
    | _ => exact Trace.confined_of_log_eq rfl

/-- What an event does: one of the buffers performs an operation, or the event is quiet.  What a
quiet event names is an operation of a missing buffer or a binding that is not possible. -/
inductive Happens (s : Session Trace) (e : Event) : Prop
  | operation {buffer : Nat} {op : Operation} {c : CommandBuffer}
      (named : s.operation? e = some (buffer, op)) (found : s.buffers[buffer]? = some c)
      (done : s.after e = (s.perform buffer op).session)
  | quiet
      (idle : ∀ buffer op, s.operation? e = some (buffer, op) →
        s.buffers[buffer]? = none ∨ ∃ id, op = .bindLayout id)
      (still : Quiet s (s.after e))

theorem Happens.of_none {s : Session Trace} {e : Event} (h : s.operation? e = none)
    (still : Quiet s (s.after e)) : s.Happens e := by
  refine .quiet (fun buffer op named => ?_) still
  rw [h] at named
  cases named

theorem Happens.of_perform {s : Session Trace} {e : Event} {buffer : Nat} {op : Operation}
    (named : s.operation? e = some (buffer, op))
    (done : s.after e = (s.perform buffer op).session) : s.Happens e := by
  cases found : s.buffers[buffer]? with
  | some c => exact .operation named found done
  | none =>
    refine .quiet ?_ ?_
    · intro buffer' op' named'
      rw [named] at named'
      cases named'
      exact Or.inl found
    · rw [done, perform, found]
      exact Quiet.refl s

theorem happens (s : Session Trace) (e : Event) : s.Happens e := by
  cases e with
  | allocateSets layouts =>
    -- The device allocates on its own; no command buffer is concerned.
    have hgrows := growsOnly_of_pools
      (poolCalls_appends.allocate s.device.descriptorPools s.device.driver layouts)
    exact .of_none rfl (Quiet.of_growsOnly rfl rfl hgrows)
  | switch x => exact .of_none rfl (quiet_switch s x)
  | act a =>
    by_cases hpossible : a.isPossible s.store
    · have done : s.after (.act a) = (s.step a).session := by simp [after, hpossible]
      cases a with
      | change c => exact .of_none rfl (done ▸ quiet_change s c)
      | create => exact .of_none rfl (done ▸ quiet_create s)
      | perform buffer op => exact .of_perform rfl done
      | execute buffer children => exact .of_perform rfl done
      | submit queue buffers fence => exact .of_none rfl (done ▸ quiet_submit s queue buffers fence)
      | resetSets => exact .of_none rfl (done ▸ quiet_resetSets s)
    · have done : s.after (.act a) = s := by simp [after, hpossible]
      refine .quiet (fun buffer op named => Or.inr ?_) (by rw [done]; exact Quiet.refl s)
      -- Only the binding of a layout can be impossible.
      cases a with
      | perform buffer' op' =>
        cases named
        cases op with
        | bindLayout id => exact ⟨id, rfl⟩
        | _ => exact absurd rfl hpossible
      | _ => exact absurd rfl hpossible

/-- What holds of a session holds after an event if it survives whatever an event can do: let a
command buffer perform, change the store, make a command buffer, submit, or ask the descriptor
pools. -/
theorem after_cases {P : Session Trace → Prop} {s : Session Trace} {e : Event} (stays : P s)
    (perform : ∀ n c op, s.buffers[n]? = some c → let p := c.perform s.device s.store op
      P ⟨p.outcome.device, p.store, s.buffers.set n p.buffer⟩)
    (change : ∀ c, e = .act (.change c) → P { s with store := (s.store.apply c).2 })
    (create : P { s with buffers := s.buffers ++ [{}] })
    (submit : ∀ queue buffers fence,
      P { s with device.driver := s.device.driver.note (.submit queue buffers fence) })
    (resetSets : P { s with device := s.device.resetSets.device })
    (allocateSets : ∀ layouts, P { s with device := (s.device.allocateSets layouts).device })
    (switch : ∀ x : Switch, P { s with device.driver := x.flip s.device.driver }) :
    P (s.after e) := by
  have hperform (n : Nat) (op : Operation) : P (s.perform n op).session := by
    unfold Session.perform
    split
    · exact stays
    · rename_i c found
      exact perform n c op found
  cases e with
  | allocateSets layouts => exact allocateSets layouts
  | switch x => exact switch x
  | act a =>
    simp only [after]
    split
    · cases a with
      | change c => exact change c rfl
      | create => exact create
      | perform n op => exact hperform n op
      | execute n children => exact hperform n _
      | submit queue buffers fence =>
        simp only [step, ofDevice, Device.submit]
        split
        · exact stays
        · exact submit _ _ _
      | resetSets => exact resetSets
    · exact stays

/-- An event before the last one is among those that the last one comes after. -/
theorem prefix_of_concat_eq {events before between : List Event} {e last : Event}
    (h : events ++ [last] = before ++ e :: between) : before <+: events := by
  have hprefix : before <+: events ++ [last] := ⟨_, h.symm⟩
  refine (List.prefix_concat_iff.1 hprefix).resolve_left fun hall => ?_
  rw [hall] at h
  simp at h

/-! ## 3. The store -/

theorem keeps_after (s : Session Trace) (e : Event) : s.store.Keeps (s.after e).store := by
  cases e with
  | allocateSets layouts => exact .refl _
  | switch x => exact .refl _
  | act a =>
    simp only [after]
    split
    · exact keeps_step s a
    · exact .refl _

theorem keeps_through (s : Session Trace) (events : List Event) :
    s.store.Keeps (s.through events).store := by
  induction events generalizing s with
  | nil => exact .refl _
  | cons e events ih => exact (keeps_after s e).trans (ih (s.after e))

theorem sound_layouts (available : Capabilities) (settings : Settings) (events : List Event)
    (id : ResourceId) :
    (((start available settings).through events).store.layouts.get id).Sound :=
  (keeps_through (start available settings) events).sound (fun _ => Layout.sound_default) id

end Session

end GpuRecorder
