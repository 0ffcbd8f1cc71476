import GpuRecorder.Native.Command
import GpuRecorder.Resource.Buffer
import GpuRecorder.Resource.Table

/-!
# Input assemblers

Where a draw takes its vertices, indices and parameters from.  Streams are bound from binding
zero in the order they were given and added.  The arrays they are bound from are kept, and every
binding writes the current starts into them first.
-/

namespace GpuRecorder.Resource

open Native

/-! ## 1. Vertex arrays -/

/-- A native buffer and an offset for every stream that was ever bound, as of the last binding. -/
structure VertexArrays where
  buffers : List (Handle .buffer)
  offsets : List Nat
  even : buffers.length = offsets.length
  deriving DecidableEq, Repr

namespace VertexArrays

instance : Inhabited VertexArrays := ⟨⟨[], [], rfl⟩⟩

/-- Make room for `count` streams; arrays that have the room stay. -/
def grow (a : VertexArrays) (count : Nat) : VertexArrays where
  buffers := a.buffers ++ List.replicate (count - a.buffers.length) .null
  offsets := a.offsets ++ List.replicate (count - a.offsets.length) 0
  even := by simp [a.even]

/-- Write where some streams start, one after the other from a place on. -/
def write (a : VertexArrays) (place : Nat) : List BufferPoint → VertexArrays
  | [] => a
  | start :: rest =>
    let a : VertexArrays :=
      { buffers := a.buffers.set place start.buffer
        offsets := a.offsets.set place start.offset
        even := by simp [a.even] }
    a.write (place + 1) rest

/-- The first `count` streams. -/
def firsts (a : VertexArrays) (count : Nat) : List BufferPoint :=
  List.zipWith BufferPoint.mk (a.buffers.take count) (a.offsets.take count)

theorem le_length_grow (a : VertexArrays) (count : Nat) : count ≤ (a.grow count).buffers.length := by
  simp only [grow, List.length_append, List.length_replicate]
  omega

theorem write_spec {a : VertexArrays} {place : Nat} {starts : List BufferPoint}
    (h : place + starts.length ≤ a.buffers.length) :
    (a.write place starts).buffers.take (place + starts.length) =
        a.buffers.take place ++ starts.map (·.buffer) ∧
      (a.write place starts).offsets.take (place + starts.length) =
        a.offsets.take place ++ starts.map (·.offset) := by
  -- By the starts: the one that is written stands in front of the places of the others.
  induction starts generalizing a place with
  | nil => simp [write]
  | cons start rest ih =>
    rw [List.length_cons] at h
    have hoffsets : place < a.offsets.length := by
      rw [← a.even]
      omega
    have hplace : place + 1 + rest.length = place + (rest.length + 1) := by omega
    obtain ⟨hb, ho⟩ := @ih { buffers := a.buffers.set place start.buffer
                             offsets := a.offsets.set place start.offset
                             even := by simp [a.even] } (place + 1) (by
      rw [List.length_set]
      omega)
    rw [hplace] at hb ho
    rw [List.length_cons, write]
    refine ⟨hb.trans ?_, ho.trans ?_⟩
    · rw [List.take_succ_eq_append_getElem (by rw [List.length_set]; omega),
        List.getElem_set_self, List.take_set_of_le (Nat.le_refl _), List.append_assoc]
      rfl
    · rw [List.take_succ_eq_append_getElem (by rw [List.length_set]; omega),
        List.getElem_set_self, List.take_set_of_le (Nat.le_refl _), List.append_assoc]
      rfl

/-- Whatever the arrays held before, the streams that are written are read back. -/
theorem firsts_write_grow (a : VertexArrays) (starts : List BufferPoint) :
    ((a.grow starts.length).write 0 starts).firsts starts.length = starts := by
  have hroom : 0 + starts.length ≤ (a.grow starts.length).buffers.length := by
    rw [Nat.zero_add]
    exact a.le_length_grow starts.length
  obtain ⟨hbuffers, hoffsets⟩ := write_spec hroom
  rw [Nat.zero_add] at hbuffers hoffsets
  rw [firsts, hbuffers, hoffsets, List.take_zero, List.take_zero, List.nil_append, List.nil_append,
    List.zipWith_map_left, List.zipWith_map_right, List.zipWith_self]
  exact List.map_id starts

end VertexArrays

/-! ## 2. Assemblers -/

/-- A buffer of packed draw records. -/
structure Indirect where
  buffer : ResourceId
  count : Nat
  indexed : Bool
  deriving DecidableEq, Repr

/-- The bytes of one record: five numbers when indexed, four when not. -/
def Indirect.stride (i : Indirect) : Nat := if i.indexed then 20 else 16

structure Assembler where
  streams : List ResourceId := []
  index : Option ResourceId := none
  indirect : Option Indirect := none
  parameters : Draw.Parameters := {}
  arrays : VertexArrays := default
  deriving DecidableEq, Repr, Inhabited

namespace Assembler

def addStream (a : Assembler) (buffer : ResourceId) : Assembler :=
  { a with streams := a.streams ++ [buffer] }

def setParameters (a : Assembler) (p : Draw.Parameters) : Assembler := { a with parameters := p }

def setVertexCount (a : Assembler) (count : Nat) : Assembler :=
  { a with parameters := { a.parameters with vertexCount := count } }

def setIndexCount (a : Assembler) (count : Nat) : Assembler :=
  { a with parameters := { a.parameters with indexCount := count } }

def setInstanceCount (a : Assembler) (count : Nat) : Assembler :=
  { a with parameters := { a.parameters with instanceCount := count } }

end Assembler

end GpuRecorder.Resource
