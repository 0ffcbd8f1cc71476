import GpuRecorder.Proofs.Native.Log

/-!
# Observed drivers

Any driver can be observed: beside its state stands every call that went through on it, in order
and with its answer, and every request entry by entry.  An observed driver answers and reports as
the driver itself does, and a call that was refused leaves nothing.
-/

namespace GpuRecorder.Native

/-- A driver and the calls that went through on it. -/
structure Observed (σ : Type) where
  driver : σ
  history : List Call := []

namespace Observed

variable {σ : Type}

/-! ## 1. The driver -/

/-- A call that was answered with a value is written down. -/
def answered {α : Type} (o : Observed σ) (call : α → Call) (r : Except ResultCode α × σ) :
    Except ResultCode α × Observed σ :=
  (r.1, ⟨r.2, o.history ++ r.1.toOption.toList.map call⟩)

instance [Driver σ] : Driver (Observed σ) where
  deviceHandle o := Driver.deviceHandle o.driver
  createCommandPool o family :=
    o.answered (.createCommandPool family) (Driver.createCommandPool o.driver family)
  destroyCommandPool o pool :=
    ⟨Driver.destroyCommandPool o.driver pool, o.history ++ [.destroyCommandPool pool]⟩
  allocateCommandBuffers o pool level count :=
    o.answered (.allocateCommandBuffers pool level)
      (Driver.allocateCommandBuffers o.driver pool level count)
  freeCommandBuffers o pool buffers :=
    ⟨Driver.freeCommandBuffers o.driver pool buffers,
      o.history ++ [.freeCommandBuffers pool buffers]⟩
  createDescriptorPool o maxSets sizes :=
    o.answered (.createDescriptorPool · maxSets)
      (Driver.createDescriptorPool o.driver maxSets sizes)
  destroyDescriptorPool o pool :=
    ⟨Driver.destroyDescriptorPool o.driver pool, o.history ++ [.destroyDescriptorPool pool]⟩
  resetDescriptorPool o pool :=
    o.answered (fun _ => .resetDescriptorPool pool) (Driver.resetDescriptorPool o.driver pool)
  allocateDescriptorSets o pool layouts :=
    o.answered (.allocateDescriptorSets pool layouts)
      (Driver.allocateDescriptorSets o.driver pool layouts)
  submit o queue buffers fence :=
    o.answered (fun _ => .submit queue buffers fence)
      (Driver.submit o.driver queue buffers fence)
  beginRecording o buffer args :=
    o.answered (fun _ => .begin buffer args) (Driver.beginRecording o.driver buffer args)
  endRecording o buffer :=
    o.answered (fun _ => .finish buffer) (Driver.endRecording o.driver buffer)
  request o r :=
    ((Driver.request o.driver r).1,
      ⟨(Driver.request o.driver r).2, o.history ++ r.entries.map .request⟩)

@[simp] theorem answered_error {α : Type} (o : Observed σ) (call : α → Call) (code : ResultCode)
    (driver : σ) : o.answered call (.error code, driver) = (.error code, ⟨driver, o.history⟩) := by
  rw [answered, Except.toOption, Option.toList_none, List.map_nil, List.append_nil]

theorem history_answered_ok {α : Type} {o : Observed σ} {call : α → Call}
    {r : Except ResultCode α × σ} {a : α} {o' : Observed σ}
    (h : o.answered call r = (.ok a, o')) : o'.history = o.history ++ [call a] := by
  obtain ⟨answer, driver⟩ := r
  cases answer with
  | error code => cases h
  | ok a' =>
    cases h
    rfl

theorem history_answered_error {α : Type} {o : Observed σ} {call : α → Call}
    {r : Except ResultCode α × σ} {code : ResultCode} {o' : Observed σ}
    (h : o.answered call r = (.error code, o')) : o'.history = o.history := by
  obtain ⟨answer, driver⟩ := r
  cases answer with
  | ok a => cases h
  | error code' =>
    rw [answered_error] at h
    cases h
    rfl

theorem answer_of_answered {α : Type} {o o' : Observed σ} {call : α → Call}
    {r : Except ResultCode α × σ} {answer : Except ResultCode α}
    (h : o.answered call r = (answer, o')) : r.1 = answer :=
  congrArg Prod.fst h

/-- A script on an observed driver: its calls are written down. -/
theorem history_play [Driver σ] (o : Observed σ) (s : Script) :
    (s.play o).2.history = o.history ++ s.calls := by
  induction s generalizing o with
  | nil => exact (List.append_nil _).symm
  | cons e s ih =>
    cases e with
    | report m => exact ih o
    | request r =>
      have hr : (Driver.request o r).2.history = o.history ++ r.entries.map .request := rfl
      show (Script.play (Driver.request o r).2 s).2.history = _
      rw [ih, hr, List.append_assoc]
      simp [Script.calls]

/-! ## 2. What is added -/

/-- The second history is the first one with calls of one sort added. -/
def Appends (Q : Call → Prop) (o o' : Observed σ) : Prop :=
  ∃ calls, o'.history = o.history ++ calls ∧ ∀ c ∈ calls, Q c

variable {Q Q' : Call → Prop} {o o' o'' : Observed σ}

theorem Appends.refl (o : Observed σ) : Appends Q o o := ⟨[], by simp, by simp⟩

theorem Appends.of_history_eq (h : o'.history = o.history) : Appends Q o o' :=
  ⟨[], by simp [h], by simp⟩

theorem Appends.trans (h : Appends Q o o') (h' : Appends Q o' o'') : Appends Q o o'' := by
  obtain ⟨calls, hhistory, hcalls⟩ := h
  obtain ⟨calls', hhistory', hcalls'⟩ := h'
  refine ⟨calls ++ calls', by rw [hhistory', hhistory, List.append_assoc], ?_⟩
  intro c hc
  exact (List.mem_append.1 hc).elim (hcalls c) (hcalls' c)

theorem Appends.mono (h : Appends Q o o') (hQ : ∀ c, Q c → Q' c) : Appends Q' o o' := by
  obtain ⟨calls, hhistory, hcalls⟩ := h
  exact ⟨calls, hhistory, fun c hc => hQ c (hcalls c hc)⟩

theorem Appends.mem_history (h : Appends Q o o') {c : Call} (hc : c ∈ o.history) :
    c ∈ o'.history := by
  obtain ⟨calls, hhistory, _⟩ := h
  rw [hhistory]
  exact List.mem_append_left _ hc

theorem Appends.of_append {calls : List Call} (h : o'.history = o.history ++ calls)
    (hQ : ∀ c ∈ calls, Q c) : Appends Q o o' :=
  ⟨calls, h, hQ⟩

theorem Appends.answered {α : Type} {call : α → Call} (h : ∀ a, Q (call a)) (o : Observed σ)
    (r : Except ResultCode α × σ) : Appends Q o (o.answered call r).2 := by
  refine ⟨_, rfl, fun c hc => ?_⟩
  obtain ⟨a, _, rfl⟩ := List.mem_map.1 hc
  exact h a

end Observed

end GpuRecorder.Native
