import GpuRecorder.Recording.Operation

/-!
# What an indirect draw reads

An indirect draw names packed records in a buffer.  A device that takes several at once gets them
in one call, any other gets one call for each.  `Command.records` lists what a call reads, so the
two ways can be compared: record for record they are the same.
-/

namespace GpuRecorder.Native

/-! ## 1. Records -/

/-- A record that an indirect draw reads, and whether it is an indexed one. -/
structure DrawRecord where
  indexed : Bool
  place : BufferPoint
  deriving DecidableEq, Repr

/-- Records of one kind that lie `stride` bytes apart. -/
def packedRecords (indexed : Bool) (start : BufferPoint) (count stride : Nat) : List DrawRecord :=
  (List.range count).map fun k => ⟨indexed, { start with offset := start.offset + k * stride }⟩

/-- The records that a command reads, in order. -/
def Command.records : Command → List DrawRecord
  | .drawIndirect start count stride => packedRecords false start count stride
  | .drawIndexedIndirect start count stride => packedRecords true start count stride
  | _ => []

/-- Whether a command draws records of one kind. -/
def Command.drawsRecords (indexed : Bool) : Command → Bool
  | .drawIndirect _ _ _ => !indexed
  | .drawIndexedIndirect _ _ _ => indexed
  | _ => false

theorem packedRecords_one (indexed : Bool) (start : BufferPoint) (stride : Nat) :
    packedRecords indexed start 1 stride = [⟨indexed, start⟩] := by
  show [(⟨indexed, ⟨start.buffer, start.offset + 0 * stride⟩⟩ : DrawRecord)] = _
  rw [Nat.zero_mul, Nat.add_zero]

end GpuRecorder.Native

namespace GpuRecorder.Recording

open Draw Native Resource

namespace CommandBuffer

/-! ## 2. Both ways to draw them -/

/-- The call that draws some records of an indirect buffer. -/
def recordsCommand (i : Indirect) (start : BufferPoint) (count : Nat) : Command :=
  if i.indexed then .drawIndexedIndirect start count i.stride
  else .drawIndirect start count i.stride

theorem records_recordsCommand (i : Indirect) (start : BufferPoint) (count : Nat) :
    (recordsCommand i start count).records = packedRecords i.indexed start count i.stride := by
  rw [recordsCommand]
  cases i.indexed <;> rfl

theorem drawsRecords_recordsCommand (i : Indirect) (start : BufferPoint) (count : Nat) :
    (recordsCommand i start count).drawsRecords i.indexed = true := by
  rw [recordsCommand]
  cases i.indexed <;> rfl

variable {multiDraw : Bool} {start : BufferPoint} {i : Indirect}

theorem exists_of_mem_indirectCommands {x : Command}
    (h : x ∈ indirectCommands multiDraw start i) :
    ∃ place count, x = recordsCommand i place count := by
  cases multiDraw with
  | true => exact ⟨start, i.count, List.mem_singleton.1 h⟩
  | false =>
    obtain ⟨k, _, rfl⟩ := List.mem_map.1 h
    exact ⟨{ start with offset := start.offset + k * i.stride }, 1, rfl⟩

/-- One call for all the records, or one for each: they are read one after the other. -/
theorem records_indirectCommands (multiDraw : Bool) (start : BufferPoint) (i : Indirect) :
    (indirectCommands multiDraw start i).flatMap Command.records =
      packedRecords i.indexed start i.count i.stride := by
  cases multiDraw with
  | true =>
    show (recordsCommand i start i.count).records ++ [] = _
    rw [List.append_nil, records_recordsCommand]
  | false =>
    let place (k : Nat) : BufferPoint := { start with offset := start.offset + k * i.stride }
    have hone (k : Nat) : (recordsCommand i (place k) 1).records = [⟨i.indexed, place k⟩] := by
      rw [records_recordsCommand, packedRecords_one]
    calc ((List.range i.count).map fun k => recordsCommand i (place k) 1).flatMap Command.records
      _ = (List.range i.count).flatMap fun k => (recordsCommand i (place k) 1).records :=
        List.flatMap_map ..
      _ = (List.range i.count).flatMap fun k => [⟨i.indexed, place k⟩] := by simp only [hone]
      _ = (List.range i.count).map fun k => ⟨i.indexed, place k⟩ := List.map_eq_flatMap.symm

/-! ## 3. The draw -/

variable {c : CommandBuffer} {s : Store} {a : ResourceId} {b : Handle .commandBuffer}

theorem draw_of_indirect (hb : c.handle? = some b) (hinside : c.passIsMissing = false)
    (hindirect : (s.assemblers.get a).indirect = some i) (multiDraw : Bool) :
    c.draw multiDraw s a = (c, .record b (indirectCommands multiDraw (s.start i.buffer) i)) := by
  obtain ⟨n, hn, rfl⟩ := Option.map_eq_some_iff.1 hb
  have hpass : ¬ c.passIsMissing = true := by simp [hinside]
  rw [draw, withNative_of_ready hn, if_neg hpass]
  simp only [hindirect]

/-- An indirect draw that is in place, over any driver: it records one call, or one call for each
record where the device does not take several, and it leaves the command buffer as it is, so
nothing is counted and nothing is bound.  Either way the calls draw records of the buffer's kind,
and what they read is the same: the records from the start of the buffer's range on, each as far
from the one before as a record of its kind is long. -/
theorem indirect_draw_reads_all_records (hb : c.handle? = some b)
    (hinside : c.passIsMissing = false)
    (hindirect : (s.assemblers.get a).indirect = some i) :
    let backing := s.backing i.buffer
    ∃ commands : Bool → List Command,
      (∀ (σ : Type) [Driver σ] (d : Device σ),
        c.perform d s (.draw a) =
            send d s .done (c, .record b (commands d.capabilities.multiDrawIndirect)) ∧
          (c.perform d s (.draw a)).buffer = c) ∧
      ∀ multiDraw,
        (commands multiDraw).length = (if multiDraw then 1 else i.count) ∧
        (∀ x ∈ commands multiDraw, x.drawsRecords i.indexed) ∧
        (commands multiDraw).flatMap Command.records = (List.range i.count).map fun k =>
          ⟨i.indexed, ⟨backing.handle, backing.offset + k * if i.indexed then 20 else 16⟩⟩ := by
  intro backing
  refine ⟨fun multiDraw => indirectCommands multiDraw (s.start i.buffer) i, fun σ _ d => ?_,
    fun multiDraw => ⟨?_, fun x hx => ?_, records_indirectCommands multiDraw _ i⟩⟩
  · have hperform : c.perform d s (.draw a) = send d s .done (c, .record b
        (indirectCommands d.capabilities.multiDrawIndirect (s.start i.buffer) i)) := by
      simp only [perform]
      rw [draw_of_indirect hb hinside hindirect]
    exact ⟨hperform, by rw [hperform]; rfl⟩
  · cases multiDraw with
    | true => rfl
    | false => exact length_indirectCommands_single _ i
  · obtain ⟨place, count, rfl⟩ := exists_of_mem_indirectCommands hx
    exact drawsRecords_recordsCommand i place count

/-- An assembler whose three indexed records lie 64 bytes into a native buffer. -/
def threeRecords : Store where
  buffers := ⟨[(⟨1⟩, .ofRange ⟨700⟩ 0 64 256 0)]⟩
  assemblers := ⟨[(⟨2⟩, { indirect := some ⟨⟨1⟩, 3, true⟩ })]⟩

theorem three_records_are_read :
    let c : CommandBuffer := { native := some ⟨⟨7⟩, .secondary, 0⟩, kind := .secondary }
    c.handle? = some ⟨7⟩ ∧ c.passIsMissing = false ∧
      (threeRecords.assemblers.get ⟨2⟩).indirect = some ⟨⟨1⟩, 3, true⟩ ∧
      ∃ commands : Bool → List Command,
        (commands true).length = 1 ∧ (commands false).length = 3 ∧
        ∀ multiDraw, (commands multiDraw).flatMap Command.records =
          [⟨true, ⟨⟨700⟩, 64⟩⟩, ⟨true, ⟨⟨700⟩, 84⟩⟩, ⟨true, ⟨⟨700⟩, 104⟩⟩] := by
  intro c
  have hb : c.handle? = some ⟨7⟩ := rfl
  have hinside : c.passIsMissing = false := rfl
  have hindirect : (threeRecords.assemblers.get ⟨2⟩).indirect = some ⟨⟨1⟩, 3, true⟩ := by decide
  obtain ⟨commands, _, hcommands⟩ := indirect_draw_reads_all_records hb hinside hindirect
  exact ⟨hb, hinside, hindirect, commands, (hcommands true).1, (hcommands false).1,
    fun multiDraw => (hcommands multiDraw).2.2⟩

end CommandBuffer

end GpuRecorder.Recording
