import GpuRecorder.Proofs.Native.Renaming

/-!
# Other names for handles

Two drivers number what they hand out differently, so all that is said to one of them is said to the
other under other names.  `Names` renames the four kinds of handles that a driver hands out to the
recorder; every other handle comes from outside and is the same for both.
-/

namespace GpuRecorder.Native

/-- Other names for the handles that a driver hands out. -/
structure Names where
  commandPool : Equiv.Perm (Handle .commandPool)
  commandBuffer : Equiv.Perm (Handle .commandBuffer)
  descriptorPool : Equiv.Perm (Handle .descriptorPool)
  descriptorSet : Equiv.Perm (Handle .descriptorSet)

/-- Every handle keeps its name. -/
def Names.same : Names := ⟨.refl _, .refl _, .refl _, .refl _⟩

variable {f : Names}

/-! ## 1. Requests -/

def Command.named (f : Names) : Command → Command
  | .bindDescriptorSets point layout first sets offsets =>
    .bindDescriptorSets point layout first (sets.map f.descriptorSet) offsets
  | .executeCommands buffers => .executeCommands (buffers.map f.commandBuffer)
  | c => c

def DescriptorWrite.named (f : Names) (w : DescriptorWrite) : DescriptorWrite :=
  { w with set := f.descriptorSet w.set }

def Request.named (f : Names) : Request → Request
  | .updateSet set template infos => .updateSet (f.descriptorSet set) template infos
  | .writeDescriptors writes => .writeDescriptors (writes.map (·.named f))
  | .record buffer c => .record (f.commandBuffer buffer) (c.named f)

theorem ofSlots_named (set : Handle .descriptorSet) (slots : List Slot)
    (infos : List DescriptorInfo) :
    DescriptorWrite.ofSlots (f.descriptorSet set) slots infos =
      (DescriptorWrite.ofSlots set slots infos).map (·.named f) := by
  rw [DescriptorWrite.ofSlots, DescriptorWrite.ofSlots, List.map_filterMap]
  refine List.filterMap_congr fun x _ => ?_
  rw [Option.map_map]
  rfl

/-! ## 2. Calls -/

def Call.named (f : Names) : Call → Call
  | .createCommandPool family pool => .createCommandPool family (f.commandPool pool)
  | .destroyCommandPool pool => .destroyCommandPool (f.commandPool pool)
  | .allocateCommandBuffers pool level buffers =>
    .allocateCommandBuffers (f.commandPool pool) level (buffers.map f.commandBuffer)
  | .freeCommandBuffers pool buffers =>
    .freeCommandBuffers (f.commandPool pool) (buffers.map f.commandBuffer)
  | .createDescriptorPool pool maxSets => .createDescriptorPool (f.descriptorPool pool) maxSets
  | .destroyDescriptorPool pool => .destroyDescriptorPool (f.descriptorPool pool)
  | .resetDescriptorPool pool => .resetDescriptorPool (f.descriptorPool pool)
  | .allocateDescriptorSets pool layouts sets =>
    .allocateDescriptorSets (f.descriptorPool pool) layouts (sets.map f.descriptorSet)
  | .submit queue buffers fence => .submit queue (buffers.map f.commandBuffer) fence
  | .begin buffer args => .begin (f.commandBuffer buffer) args
  | .finish buffer => .finish (f.commandBuffer buffer)
  | .request r => .request (r.named f)

/-! ## 3. Scripts -/

def Effect.named (f : Names) : Effect → Effect
  | .request r => .request (r.named f)
  | .report m => .report m

namespace Script

def named (f : Names) (s : Script) : Script := s.map (Effect.named f)

theorem named_append (s t : Script) : (s ++ t).named f = s.named f ++ t.named f := List.map_append

theorem named_of_quiet {s : Script} (h : s.requests = []) : s.named f = s := by
  induction s with
  | nil => rfl
  | cons e s ih =>
    cases e with
    | report m => exact congrArg (Effect.report m :: ·) (ih h)
    | request r => cases h

theorem named_record (buffer : Handle .commandBuffer) (commands : List Command) :
    (record buffer commands).named f =
      record (f.commandBuffer buffer) (commands.map (Command.named f)) := by
  simp [record, named, Effect.named, Request.named]

end Script

end GpuRecorder.Native
