import GpuRecorder.Proofs.Native.Names
import Mathlib.Data.List.Flatten

/-!
# Drivers with a journal

A journal keeps every call that was made on a driver, in order: one that went through with its
answer, one that was refused with the code.  The driver answers and reports as before.  Two drivers
answer alike when call by call they refuse with the same code or hand out as many handles.
-/

namespace GpuRecorder.Native

/-! ## 1. Attempts -/

/-- What a driver may refuse. -/
inductive Question where
  | commandPool
  | commandBuffers
  | descriptorPool
  | poolReset
  | descriptorSets
  | submission
  | opening
  | closing
  deriving DecidableEq, Repr

def Call.question? : Call → Option Question
  | .createCommandPool _ _ => some .commandPool
  | .allocateCommandBuffers _ _ _ => some .commandBuffers
  | .createDescriptorPool _ _ => some .descriptorPool
  | .resetDescriptorPool _ => some .poolReset
  | .allocateDescriptorSets _ _ _ => some .descriptorSets
  | .submit _ _ _ => some .submission
  | .begin _ _ => some .opening
  | .finish _ => some .closing
  | .destroyCommandPool _ | .freeCommandBuffers _ _ | .destroyDescriptorPool _ | .request _ => none

/-- A call that was made, whether or not it went through. -/
inductive Attempt where
  | through (c : Call)
  | refused (q : Question) (code : ResultCode)
  deriving DecidableEq, Repr

namespace Attempt

def question? : Attempt → Option Question
  | .through c => c.question?
  | .refused q _ => some q

def call? : Attempt → Option Call
  | .through c => some c
  | .refused _ _ => none

def refusal? : Attempt → Option ResultCode
  | .through _ => none
  | .refused _ code => some code

/-- The command pools that it was answered with, and so on for every kind that is handed out. -/
def commandPools : Attempt → List (Handle .commandPool)
  | .through (.createCommandPool _ pool) => [pool]
  | _ => []

def commandBuffers : Attempt → List (Handle .commandBuffer)
  | .through (.allocateCommandBuffers _ _ buffers) => buffers
  | _ => []

def descriptorPools : Attempt → List (Handle .descriptorPool)
  | .through (.createDescriptorPool pool _) => [pool]
  | _ => []

def descriptorSets : Attempt → List (Handle .descriptorSet)
  | .through (.allocateDescriptorSets _ _ sets) => sets
  | _ => []

def named (f : Names) : Attempt → Attempt
  | .through c => .through (c.named f)
  | .refused q code => .refused q code

/-- Both were refused with the same code, or both were answered with as many handles. -/
structure AnsweredAlike (a b : Attempt) : Prop where
  refusal : b.refusal? = a.refusal?
  commandPools : b.commandPools.length = a.commandPools.length
  commandBuffers : b.commandBuffers.length = a.commandBuffers.length
  descriptorPools : b.descriptorPools.length = a.descriptorPools.length
  descriptorSets : b.descriptorSets.length = a.descriptorSets.length

instance (a b : Attempt) : Decidable (AnsweredAlike a b) :=
  decidable_of_iff (b.refusal? = a.refusal? ∧ b.commandPools.length = a.commandPools.length ∧
      b.commandBuffers.length = a.commandBuffers.length ∧
      b.descriptorPools.length = a.descriptorPools.length ∧
      b.descriptorSets.length = a.descriptorSets.length)
    ⟨fun ⟨h, h₁, h₂, h₃, h₄⟩ => ⟨h, h₁, h₂, h₃, h₄⟩, fun ⟨h, h₁, h₂, h₃, h₄⟩ => ⟨h, h₁, h₂, h₃, h₄⟩⟩

/-- They were answered alike, and the handles go by these names. -/
structure AnsweredAs (f : Names) (a b : Attempt) : Prop where
  refusal : b.refusal? = a.refusal?
  commandPools : b.commandPools = a.commandPools.map f.commandPool
  commandBuffers : b.commandBuffers = a.commandBuffers.map f.commandBuffer
  descriptorPools : b.descriptorPools = a.descriptorPools.map f.descriptorPool
  descriptorSets : b.descriptorSets = a.descriptorSets.map f.descriptorSet

/-- What a call with this answer leaves in the journal. -/
def ofAnswer {α : Type} (q : Question) (call : α → Call) : Except ResultCode α → Attempt
  | .ok a => .through (call a)
  | .error code => .refused q code

end Attempt

/-! ## 2. The driver -/

/-- A driver and the calls that were made on it. -/
structure Journal (σ : Type) where
  driver : σ
  attempts : List Attempt := []
  deriving Repr

namespace Journal

variable {σ : Type}

def answered {α : Type} (j : Journal σ) (q : Question) (call : α → Call)
    (r : Except ResultCode α × σ) : Except ResultCode α × Journal σ :=
  (r.1, ⟨r.2, j.attempts ++ [.ofAnswer q call r.1]⟩)

def told (j : Journal σ) (c : Call) (driver : σ) : Journal σ := ⟨driver, j.attempts ++ [.through c]⟩

instance [Driver σ] : Driver (Journal σ) where
  deviceHandle j := Driver.deviceHandle j.driver
  createCommandPool j family :=
    j.answered .commandPool (.createCommandPool family) (Driver.createCommandPool j.driver family)
  destroyCommandPool j pool :=
    j.told (.destroyCommandPool pool) (Driver.destroyCommandPool j.driver pool)
  allocateCommandBuffers j pool level count :=
    j.answered .commandBuffers (.allocateCommandBuffers pool level)
      (Driver.allocateCommandBuffers j.driver pool level count)
  freeCommandBuffers j pool buffers :=
    j.told (.freeCommandBuffers pool buffers) (Driver.freeCommandBuffers j.driver pool buffers)
  createDescriptorPool j maxSets sizes :=
    j.answered .descriptorPool (.createDescriptorPool · maxSets)
      (Driver.createDescriptorPool j.driver maxSets sizes)
  destroyDescriptorPool j pool :=
    j.told (.destroyDescriptorPool pool) (Driver.destroyDescriptorPool j.driver pool)
  resetDescriptorPool j pool :=
    j.answered .poolReset (fun _ => .resetDescriptorPool pool)
      (Driver.resetDescriptorPool j.driver pool)
  allocateDescriptorSets j pool layouts :=
    j.answered .descriptorSets (.allocateDescriptorSets pool layouts)
      (Driver.allocateDescriptorSets j.driver pool layouts)
  submit j queue buffers fence :=
    j.answered .submission (fun _ => .submit queue buffers fence)
      (Driver.submit j.driver queue buffers fence)
  beginRecording j buffer args :=
    j.answered .opening (fun _ => .begin buffer args) (Driver.beginRecording j.driver buffer args)
  endRecording j buffer :=
    j.answered .closing (fun _ => .finish buffer) (Driver.endRecording j.driver buffer)
  request j r :=
    ((Driver.request j.driver r).1, j.told (.request r) (Driver.request j.driver r).2)

/-- Change the driver behind the journal. -/
def adjust (g : σ → σ) (j : Journal σ) : Journal σ := { j with driver := g j.driver }

/-- The calls that went through. -/
def calls (j : Journal σ) : List Call := j.attempts.filterMap Attempt.call?

/-- A script adds its requests, in order. -/
theorem attempts_play [Driver σ] (j : Journal σ) (script : Script) :
    (script.play j).2.attempts =
      j.attempts ++ script.requests.map fun r => .through (.request r) := by
  induction script generalizing j with
  | nil => exact (List.append_nil _).symm
  | cons e script ih =>
    cases e with
    | report m => exact ih j
    | request r =>
      rw [Script.requests_request, List.map_cons, List.append_cons]
      exact ih _

end Journal

/-! ## 3. Answers under other names -/

/-- Call by call, where both journals have the same question it was answered alike up to names. -/
def AnsweredUnder (f : Names) (attempts attempts' : List Attempt) : Prop :=
  ∀ p ∈ attempts.zip attempts', p.2.question? = p.1.question? → p.1.AnsweredAs f p.2

/-- Call by call, where both journals have the same question it was answered alike. -/
def AnswerAlike (attempts attempts' : List Attempt) : Prop :=
  ∀ p ∈ attempts.zip attempts', p.2.question? = p.1.question? → p.1.AnsweredAlike p.2

instance (attempts attempts' : List Attempt) : Decidable (AnswerAlike attempts attempts') :=
  inferInstanceAs (Decidable (∀ p ∈ attempts.zip attempts', _ → _))

/-- No handle of any kind was handed out twice. -/
structure HandsOutFresh (attempts : List Attempt) : Prop where
  commandPools : (attempts.flatMap Attempt.commandPools).Nodup
  commandBuffers : (attempts.flatMap Attempt.commandBuffers).Nodup
  descriptorPools : (attempts.flatMap Attempt.descriptorPools).Nodup
  descriptorSets : (attempts.flatMap Attempt.descriptorSets).Nodup

instance (attempts : List Attempt) : Decidable (HandsOutFresh attempts) :=
  decidable_of_iff ((attempts.flatMap Attempt.commandPools).Nodup ∧
      (attempts.flatMap Attempt.commandBuffers).Nodup ∧
      (attempts.flatMap Attempt.descriptorPools).Nodup ∧
      (attempts.flatMap Attempt.descriptorSets).Nodup)
    ⟨fun ⟨h, h₁, h₂, h₃⟩ => ⟨h, h₁, h₂, h₃⟩, fun ⟨h, h₁, h₂, h₃⟩ => ⟨h, h₁, h₂, h₃⟩⟩

theorem zip_sublists {α β : Type} (xs : List α) (ys : List β) :
    ((xs.zip ys).map Prod.fst).Sublist xs ∧ ((xs.zip ys).map Prod.snd).Sublist ys := by
  induction xs generalizing ys with
  | nil => exact ⟨.slnil, List.nil_sublist ys⟩
  | cons x xs ih =>
    cases ys with
    | nil => exact ⟨List.nil_sublist _, .slnil⟩
    | cons y ys => exact ⟨(ih ys).1.cons_cons x, (ih ys).2.cons_cons y⟩

section

variable {pairs : List (Attempt × Attempt)} {α : Type} {made : Attempt → List α}

/-- As many handles of one kind on either side, all different, go by other names. -/
theorem exists_perm_of_pairs [DecidableEq α]
    (hlength : ∀ p ∈ pairs, (made p.2).length = (made p.1).length)
    (hmade : (pairs.flatMap fun p => made p.1).Nodup)
    (hmade' : (pairs.flatMap fun p => made p.2).Nodup) :
    ∃ f : Equiv.Perm α, ∀ p ∈ pairs, made p.2 = (made p.1).map f := by
  have htotal : (pairs.flatMap fun p => made p.1).length =
      (pairs.flatMap fun p => made p.2).length := by
    rw [List.length_flatMap, List.length_flatMap]
    exact congrArg List.sum (List.map_congr_left fun p hp => (hlength p hp).symm)
  obtain ⟨f, hf, -⟩ := exists_perm_map_eq hmade hmade' htotal
  refine ⟨f, ?_⟩
  clear htotal hmade hmade'
  -- As many were made on either side each time, so both lists split at the same places.
  induction pairs with
  | nil => exact fun p hp => absurd hp List.not_mem_nil
  | cons p pairs ih =>
    rw [List.flatMap_cons, List.flatMap_cons, List.map_append] at hf
    have hone := hlength p List.mem_cons_self
    obtain ⟨hfirst, hrest⟩ := List.append_inj hf (by rw [List.length_map, hone])
    intro x hx
    rcases List.mem_cons.1 hx with rfl | hx
    · exact hfirst.symm
    · exact ih (fun q hq => hlength q (List.mem_cons_of_mem _ hq)) hrest x hx

end

/-- Attempts that are answered alike, with handles that are all different, are answered alike up to
names. -/
theorem exists_names {attempts attempts' : List Attempt} (fresh : HandsOutFresh attempts)
    (fresh' : HandsOutFresh attempts') (alike : AnswerAlike attempts attempts') :
    ∃ f, AnsweredUnder f attempts attempts' := by
  let pairs := (attempts.zip attempts').filter fun p => p.2.question? = p.1.question?
  have halike : ∀ p ∈ pairs, p.1.AnsweredAlike p.2 := by
    intro p hp
    obtain ⟨hzip, hq⟩ := List.mem_filter.1 hp
    exact alike p hzip (of_decide_eq_true hq)
  have hfirst : (pairs.map Prod.fst).Sublist attempts :=
    (List.filter_sublist.map Prod.fst).trans (zip_sublists attempts attempts').1
  have hsecond : (pairs.map Prod.snd).Sublist attempts' :=
    (List.filter_sublist.map Prod.snd).trans (zip_sublists attempts attempts').2
  have hnodup {α : Type} {made : Attempt → List α} (h : (attempts.flatMap made).Nodup) :
      (pairs.flatMap fun p => made p.1).Nodup := by
    have hsub := h.sublist (hfirst.flatMap made)
    rwa [List.flatMap_map] at hsub
  have hnodup' {α : Type} {made : Attempt → List α} (h : (attempts'.flatMap made).Nodup) :
      (pairs.flatMap fun p => made p.2).Nodup := by
    have hsub := h.sublist (hsecond.flatMap made)
    rwa [List.flatMap_map] at hsub
  obtain ⟨commandPool, hcommandPool⟩ := exists_perm_of_pairs
    (fun p hp => (halike p hp).commandPools) (hnodup fresh.commandPools)
    (hnodup' fresh'.commandPools)
  obtain ⟨commandBuffer, hcommandBuffer⟩ := exists_perm_of_pairs
    (fun p hp => (halike p hp).commandBuffers) (hnodup fresh.commandBuffers)
    (hnodup' fresh'.commandBuffers)
  obtain ⟨descriptorPool, hdescriptorPool⟩ := exists_perm_of_pairs
    (fun p hp => (halike p hp).descriptorPools) (hnodup fresh.descriptorPools)
    (hnodup' fresh'.descriptorPools)
  obtain ⟨descriptorSet, hdescriptorSet⟩ := exists_perm_of_pairs
    (fun p hp => (halike p hp).descriptorSets) (hnodup fresh.descriptorSets)
    (hnodup' fresh'.descriptorSets)
  refine ⟨⟨commandPool, commandBuffer, descriptorPool, descriptorSet⟩, fun p hp hq => ?_⟩
  have hpair : p ∈ pairs := List.mem_filter.2 ⟨hp, decide_eq_true hq⟩
  exact ⟨(halike p hpair).refusal, hcommandPool p hpair, hcommandBuffer p hpair,
    hdescriptorPool p hpair, hdescriptorSet p hpair⟩

end GpuRecorder.Native
