import GpuRecorder.Proofs.Session.TwoDrivers

/-!
# Watching changes nothing

A journal and a tap only write down what goes on.  A map of driver states that every call commutes
with (`Erases`) leaves the replies of a run as they are; forgetting what was written down is such a
map.
-/

namespace GpuRecorder

open Native Device Resource Vulkan

/-! ## 1. Handles that keep their names -/

theorem map_same {α : Type} {f : α → α} (hf : ∀ a, f a = a) (answer : Except ResultCode α) :
    answer.map f = answer := by
  rw [show f = id from funext hf]
  exact congrFun Except.map_id answer

theorem Native.Request.named_same (r : Request) : r.named .same = r := by
  cases r with
  | updateSet set template infos => rfl
  | writeDescriptors writes => exact congrArg Request.writeDescriptors (List.map_id writes)
  | record buffer c =>
    cases c with
    | bindDescriptorSets point layout first sets offsets =>
      exact congrArg (fun sets => Request.record buffer
        (.bindDescriptorSets point layout first sets offsets)) (List.map_id sets)
    | executeCommands buffers =>
      exact congrArg (fun buffers => Request.record buffer (.executeCommands buffers))
        (List.map_id buffers)
    | _ => rfl

theorem Reply.named_same (r : Reply) : r.named .same = r := by
  cases r with
  | buffer a => cases a <;> rfl
  | sets a =>
    cases a with
    | error e => rfl
    | ok sets => exact congrArg (fun sets => Reply.sets (.ok sets)) (List.map_id sets)
  | _ => rfl

section

variable {σ τ : Type} [Driver σ] [Driver τ]

/-! ## 2. What is forgotten -/

/-- Every call commutes with forgetting. -/
structure Erases (forget : σ → τ) : Prop where
  createCommandPool : ∀ d family, Driver.createCommandPool (forget d) family =
    (Driver.createCommandPool d family).map id forget
  destroyCommandPool : ∀ d pool, Driver.destroyCommandPool (forget d) pool =
    forget (Driver.destroyCommandPool d pool)
  allocateCommandBuffers : ∀ d pool level count,
    Driver.allocateCommandBuffers (forget d) pool level count =
      (Driver.allocateCommandBuffers d pool level count).map id forget
  createDescriptorPool : ∀ d maxSets sizes, Driver.createDescriptorPool (forget d) maxSets sizes =
    (Driver.createDescriptorPool d maxSets sizes).map id forget
  destroyDescriptorPool : ∀ d pool, Driver.destroyDescriptorPool (forget d) pool =
    forget (Driver.destroyDescriptorPool d pool)
  resetDescriptorPool : ∀ d pool, Driver.resetDescriptorPool (forget d) pool =
    (Driver.resetDescriptorPool d pool).map id forget
  allocateDescriptorSets : ∀ d pool layouts,
    Driver.allocateDescriptorSets (forget d) pool layouts =
      (Driver.allocateDescriptorSets d pool layouts).map id forget
  submit : ∀ d queue buffers fence, Driver.submit (forget d) queue buffers fence =
    (Driver.submit d queue buffers fence).map id forget
  beginRecording : ∀ d buffer args, Driver.beginRecording (forget d) buffer args =
    (Driver.beginRecording d buffer args).map id forget
  endRecording : ∀ d buffer, Driver.endRecording (forget d) buffer =
    (Driver.endRecording d buffer).map id forget
  request : ∀ d r, Driver.request (forget d) r = (Driver.request d r).map id forget

theorem erases_journal : Erases (Journal.driver (σ := σ)) := by
  constructor <;> intros <;> rfl

/-- The production driver on the device itself, without its journal. -/
def Vulkan.Production.unwatched {σ : Type} (j : Journal (Production (Tapped σ))) : Production σ :=
  ⟨j.driver.api.api, j.driver.pushLoaded⟩

theorem erases_production {σ : Type} [Api σ] : Erases (Production.unwatched (σ := σ)) where
  createCommandPool _ _ := rfl
  destroyCommandPool _ _ := rfl
  allocateCommandBuffers _ _ _ _ := rfl
  createDescriptorPool _ _ _ := rfl
  destroyDescriptorPool _ _ := rfl
  resetDescriptorPool _ _ := rfl
  allocateDescriptorSets _ _ _ := rfl
  submit _ _ _ _ := rfl
  beginRecording _ _ _ := rfl
  endRecording _ _ := rfl
  request j r := by
    show (Production.unwatched j).request r = ((j.driver.request r).1, _)
    have hrequest : (Production.unwatched j).request r =
        ((j.driver.request r).1,
          ⟨(j.driver.request r).2.api.api, (j.driver.request r).2.pushLoaded⟩) := by
      unfold Production.request
      rw [show (Production.unwatched j).pushLoaded = j.driver.pushLoaded from rfl]
      cases Call.ofRequest j.driver.pushLoaded r <;> rfl
    exact hrequest

theorem closingCalls_trivial : ClosingCalls fun _ _ : σ => True → True where
  refl _ := id
  trans _ _ := id
  createCommandPool _ _ := id
  allocateCommandBuffers _ _ _ _ := id
  createDescriptorPool _ _ _ := id
  allocateDescriptorSets _ _ _ := id
  resetDescriptorPool _ _ := id
  submit _ _ _ _ := id
  beginRecording _ _ _ := id
  endRecording _ _ := id
  request _ _ := id
  destroyCommandPool _ _ := id
  destroyDescriptorPool _ _ := id

variable {forget : σ → τ}

omit [Driver σ] [Driver τ] in
theorem agrees_of_erased {α : Type} {name : α → α} (hname : ∀ a, name a = a)
    {r : Except ResultCode α × σ} {r' : Except ResultCode α × τ} (h : r' = r.map id forget) :
    Agrees (fun d d' => d' = forget d) (fun _ => True) (fun _ => True) r.2 r'.2
      (r'.1 = r.1.map name) := by
  rw [h]
  exact fun _ _ => ⟨(map_same hname _).symm, rfl⟩

omit [Driver σ] [Driver τ] in
theorem agrees_of_erased_unit {α : Type} {r : α × σ} {r' : α × τ} (h : r' = r.map id forget) :
    Agrees (fun d d' => d' = forget d) (fun _ => True) (fun _ => True) r.2 r'.2 (r'.1 = r.1) := by
  rw [h]
  exact fun _ _ => ⟨rfl, rfl⟩

/-- What is left after forgetting mirrors what was there, every handle under its own name. -/
theorem Erases.mirror (h : Erases forget) (grants : Journal.Grants σ) :
    DriverMirror .same true (fun d d' => d' = forget d) (fun _ => True) fun _ => True where
  back := closingCalls_trivial.toPoolCalls
  back' := closingCalls_trivial.toPoolCalls
  calls := closingCalls_trivial
  calls' := closingCalls_trivial
  createCommandPool hd family := by
    rw [hd]
    exact agrees_of_erased (fun _ => rfl) (h.createCommandPool _ family)
  allocateCommandBuffers hd pool level count := by
    rw [hd]
    exact agrees_of_erased List.map_id (h.allocateCommandBuffers _ pool level count)
  createDescriptorPool hd maxSets sizes := by
    rw [hd]
    exact agrees_of_erased (fun _ => rfl) (h.createDescriptorPool _ maxSets sizes)
  allocateDescriptorSets hd pool layouts := by
    rw [hd]
    exact agrees_of_erased List.map_id (h.allocateDescriptorSets _ pool layouts)
  resetDescriptorPool hd pool := by
    rw [hd]
    exact agrees_of_erased_unit (h.resetDescriptorPool _ pool)
  submit {d _} hd queue buffers fence := by
    rw [hd, show buffers.map Names.same.commandBuffer = buffers from List.map_id buffers]
    exact agrees_of_erased_unit (h.submit d queue buffers fence)
  beginRecording hd buffer args := by
    rw [hd]
    exact agrees_of_erased_unit (h.beginRecording _ buffer args)
  endRecording hd buffer := by
    rw [hd]
    exact agrees_of_erased_unit (h.endRecording _ buffer)
  request hd r _ := by
    rw [hd, r.named_same]
    exact agrees_of_erased_unit (h.request _ r)
  destroyCommandPool hd pool := by
    rw [hd]
    exact h.destroyCommandPool _ pool
  destroyDescriptorPool hd pool := by
    rw [hd]
    exact h.destroyDescriptorPool _ pool
  grants h := grants (congrArg Prod.fst h)

/-! ## 3. Runs -/

/-- Without what is forgotten a run gets the same replies, and leaves the driver without it. -/
theorem Erases.runs (h : Erases forget) (grants : Journal.Grants σ) {flip : Switch → σ → σ}
    {flip' : Switch → τ → τ}
    (flips : ∀ x, (Task.switch x).IsPlain → ∀ d, flip' x (forget d) = forget (flip x d))
    {b : Bench σ} {b' : Bench τ} (hb : b.Mirrors .same (fun d d' => d' = forget d) b')
    {tasks : List Task} (hplain : ∀ t ∈ tasks, t.IsPlain) :
    b'.replies flip' tasks = b.replies flip tasks ∧
      (b'.run flip' tasks).driver = forget (b.run flip tasks).driver := by
  have hflips : FlipMirror (fun d d' => d' = forget d) (fun _ => True) (fun _ => True) flip flip' :=
    ⟨fun hx d _ hd => hd ▸ flips _ hx d, fun _ _ _ => id, fun _ _ _ => id⟩
  obtain ⟨hreplies, hend⟩ :=
    (h.mirror grants).runs hflips hb (fun _ => rfl) hplain trivial trivial
  refine ⟨hreplies.trans (List.map_id'' (fun (reply, messages) => ?_) _),
    hend.session.device.driver⟩
  exact congrArg (·, messages) reply.named_same

end

namespace Bench

/-- A trace without a journal. -/
theorem replies_onTrace (available : Capabilities) (settings : Settings) {tasks : List Task}
    (hplain : ∀ t ∈ tasks, t.IsPlain) :
    let b : Bench Trace := start {} available settings
    b.replies (fun x t => x.flip t) tasks = (onTrace available settings).replies flipTrace tasks ∧
      (b.run (fun x t => x.flip t) tasks).driver =
        ((onTrace available settings).run flipTrace tasks).driver.driver :=
  erases_journal.runs (fun h => Journal.grants_trace h) (fun _ _ _ => rfl)
    (mirrors_start (by rfl) available settings) hplain

/-- A device that is neither tapped nor behind a journal, if it grants one set for each layout. -/
theorem replies_onDevice {σ : Type} [Api σ] (grants : Journal.Grants (Production σ))
    (t : Tapped σ) (available : Capabilities) (settings : Settings) {tasks : List Task}
    (hplain : ∀ t ∈ tasks, t.IsPlain) :
    let b : Bench (Production σ) := start ⟨t.api, available.pushDescriptor⟩ available settings
    b.replies (fun _ p => p) tasks = (onDevice t available settings).replies flipNothing tasks ∧
      (b.run (fun _ p => p) tasks).driver =
        Production.unwatched ((onDevice t available settings).run flipNothing tasks).driver :=
  erases_production.runs (fun {j _ _ _} h => grants (d := Production.unwatched j) h)
    (fun _ _ _ => rfl) (mirrors_start (by rfl) available settings) hplain

end Bench

end GpuRecorder
