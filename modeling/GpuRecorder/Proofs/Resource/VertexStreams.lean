import GpuRecorder.Resource.Change
import Mathlib.Data.List.Induction

/-!
# Vertex streams

The buffers and the offsets that an assembler's streams are bound from stand in two arrays that
outlive the binding.  Room is made by a look at the buffers alone, and the arrays are written in
place.  Here the same is done with arrays that nothing ties together, and every access is checked:
none ever falls outside, and what is read after any history are the starts of the streams as they
are now.
-/

namespace GpuRecorder.Resource

open Native

/-! ## 1. Checked arrays -/

/-- A buffer and an offset for every stream, in two arrays of any lengths. -/
structure RawArrays where
  buffers : List (Handle .buffer) := []
  offsets : List Nat := []

namespace RawArrays

/-- Cut an array or fill it up to a length. -/
def resize {α : Type} (l : List α) (count : Nat) (fill : α) : List α :=
  l.take count ++ List.replicate (count - l.length) fill

/-- Make room for `count` streams, if there are fewer buffers. -/
def grow (a : RawArrays) (count : Nat) : RawArrays :=
  if a.buffers.length < count then ⟨resize a.buffers count .null, resize a.offsets count 0⟩ else a

/-- Write where some streams start, from a place on; nothing can be written past an end. -/
def write? (a : RawArrays) (place : Nat) : List BufferPoint → Option RawArrays
  | [] => some a
  | start :: rest =>
    if place < a.buffers.length ∧ place < a.offsets.length then
      write? ⟨a.buffers.set place start.buffer, a.offsets.set place start.offset⟩ (place + 1) rest
    else none

/-- The first `count` buffers and offsets, if there are as many. -/
def firsts? (a : RawArrays) (count : Nat) : Option (List (Handle .buffer) × List Nat) :=
  if count ≤ a.buffers.length ∧ count ≤ a.offsets.length then
    some (a.buffers.take count, a.offsets.take count)
  else none

/-- Bring the arrays up to date and read the streams from them. -/
def refresh? (a : RawArrays) (starts : List BufferPoint) :
    Option ((List (Handle .buffer) × List Nat) × RawArrays) := do
  let a ← (a.grow starts.length).write? 0 starts
  let slices ← a.firsts? starts.length
  return (slices, a)

end RawArrays

namespace VertexArrays

def raw (a : VertexArrays) : RawArrays := ⟨a.buffers, a.offsets⟩

theorem resize_of_lt {α : Type} {l : List α} {count : Nat} (h : l.length < count) (fill : α) :
    RawArrays.resize l count fill = l ++ List.replicate (count - l.length) fill := by
  rw [RawArrays.resize, List.take_of_length_le (Nat.le_of_lt h)]

/-- As both have one length, a look at the buffers tells enough. -/
theorem raw_grow (a : VertexArrays) (count : Nat) : (a.grow count).raw = a.raw.grow count := by
  unfold RawArrays.grow
  split
  · rename_i hshort
    have hbuffers : a.buffers.length < count := hshort
    have hoffsets : a.offsets.length < count := a.even ▸ hbuffers
    simp only [raw, grow, resize_of_lt hbuffers, resize_of_lt hoffsets]
  · rename_i hroom
    have hnone : count - a.buffers.length = 0 := Nat.sub_eq_zero_of_le (Nat.le_of_not_lt hroom)
    have hnone' : count - a.offsets.length = 0 := a.even ▸ hnone
    simp only [raw, grow, hnone, hnone', List.replicate_zero, List.append_nil]

theorem write?_raw {a : VertexArrays} {place : Nat} {starts : List BufferPoint}
    (h : place + starts.length ≤ a.buffers.length) :
    a.raw.write? place starts = some (a.write place starts).raw := by
  -- A write keeps both lengths, so the next place is inside as well.
  induction starts generalizing a place with
  | nil => rfl
  | cons start rest ih =>
    rw [List.length_cons] at h
    have hbuffers : place < a.buffers.length := by omega
    have hoffsets : place < a.offsets.length := a.even ▸ hbuffers
    rw [RawArrays.write?, if_pos ⟨hbuffers, hoffsets⟩]
    exact @ih { buffers := a.buffers.set place start.buffer
                offsets := a.offsets.set place start.offset
                even := by simp [a.even] } (place + 1) (by rw [List.length_set]; omega)

theorem length_write (a : VertexArrays) (place : Nat) (starts : List BufferPoint) :
    (a.write place starts).buffers.length = a.buffers.length := by
  induction starts generalizing a place with
  | nil => rfl
  | cons start rest ih =>
    rw [write, ih, List.length_set]

/-- Bringing arrays of one length up to date never leaves them, and reads what was written. -/
theorem refresh?_raw (a : VertexArrays) (starts : List BufferPoint) :
    a.raw.refresh? starts =
      some ((starts.map (·.buffer), starts.map (·.offset)),
        ((a.grow starts.length).write 0 starts).raw) := by
  have hroom : 0 + starts.length ≤ (a.grow starts.length).buffers.length := by
    rw [Nat.zero_add]
    exact a.le_length_grow starts.length
  obtain ⟨hbuffers, hoffsets⟩ := write_spec hroom
  rw [Nat.zero_add, List.take_zero, List.nil_append] at hbuffers hoffsets
  have hlength : starts.length ≤ ((a.grow starts.length).write 0 starts).buffers.length := by
    rw [length_write]
    exact a.le_length_grow starts.length
  have hfirsts : ((a.grow starts.length).write 0 starts).raw.firsts? starts.length =
      some (starts.map (·.buffer), starts.map (·.offset)) := by
    have hoffsets_length := hlength
    rw [even] at hoffsets_length
    rw [RawArrays.firsts?, if_pos ⟨hlength, hoffsets_length⟩]
    exact congrArg some (Prod.ext hbuffers hoffsets)
  rw [RawArrays.refresh?, ← raw_grow, write?_raw hroom]
  simp only [Option.bind_eq_bind, Option.bind_some, hfirsts, Option.pure_def]

end VertexArrays

/-! ## 2. One assembler -/

/-- What can happen to the shared objects, or that an assembler is bound. -/
inductive StreamTurn where
  | change (c : Change)
  | bind (assembler : ResourceId)

/-- The buffer that is added to the streams of an assembler. -/
def StreamTurn.adds? (id : ResourceId) : StreamTurn → Option ResourceId
  | .change (.addStream other buffer) => if other = id then some buffer else none
  | _ => none

namespace Store

def streamTurn (s : Store) : StreamTurn → Store
  | .change c => (s.apply c).2
  | .bind id => (s.refreshArrays id).2

def streamTurns (s : Store) (history : List StreamTurn) : Store := history.foldl streamTurn s

theorem streamTurns_concat (s : Store) (history : List StreamTurn) (t : StreamTurn) :
    s.streamTurns (history ++ [t]) = (s.streamTurns history).streamTurn t := by
  simp [streamTurns]

theorem next_le_streamTurn (s : Store) (t : StreamTurn) : s.next ≤ (s.streamTurn t).next := by
  cases t with
  | change c => exact s.next_le_next_apply c
  | bind id => exact Nat.le_refl _

/-- The streams of an assembler change only as buffers are added to it, and its arrays only as it is
bound. -/
theorem assembler_streamTurn {s : Store} {id : ResourceId} (hid : id.number < s.next)
    (t : StreamTurn) :
    ((s.streamTurn t).assemblers.get id).streams =
        (s.assemblers.get id).streams ++ (t.adds? id).toList ∧
      (t ≠ .bind id →
        ((s.streamTurn t).assemblers.get id).arrays = (s.assemblers.get id).arrays) := by
  have hsame {s' : Store} (h : s'.assemblers.get id = s.assemblers.get id) :
      (s'.assemblers.get id).streams = (s.assemblers.get id).streams ++ [] ∧
        (t ≠ .bind id → (s'.assemblers.get id).arrays = (s.assemblers.get id).arrays) := by
    rw [h, List.append_nil]
    exact ⟨rfl, fun _ => rfl⟩
  have hmodify (other : ResourceId) {f : Assembler → Assembler}
      (hstreams : ∀ a, (f a).streams = a.streams) (harrays : ∀ a, (f a).arrays = a.arrays) :
      ((s.modifyAssembler other f).assemblers.get id).streams =
          (s.assemblers.get id).streams ++ [] ∧
        (t ≠ .bind id →
          ((s.modifyAssembler other f).assemblers.get id).arrays =
            (s.assemblers.get id).arrays) := by
    by_cases hother : id = other
    · rw [List.append_nil, modifyAssembler, hother, Table.get_modify_self, hstreams, harrays]
      exact ⟨rfl, fun _ => rfl⟩
    · exact hsame (Table.get_modify_of_ne _ hother _)
  cases t with
  | bind other =>
    by_cases hother : id = other
    · subst hother
      refine ⟨?_, fun hne => absurd rfl hne⟩
      show ((s.assemblers.set id _).get id).streams = _ ++ []
      rw [Table.get_set_self, List.append_nil]
    · exact hsame (Table.get_set_of_ne _ hother _)
  | change c =>
    cases c with
    | addAssembler a =>
      have hne : id ≠ ⟨s.next⟩ := by
        rintro rfl
        exact Nat.lt_irrefl _ hid
      exact hsame (Table.get_set_of_ne _ hne _)
    | addStream other buffer =>
      by_cases hother : other = id
      · have hadded : ((s.streamTurn (.change (.addStream other buffer))).assemblers.get id) =
            (s.assemblers.get id).addStream buffer := by
          rw [hother]
          exact Table.get_modify_self _ _ _
        rw [hadded, StreamTurn.adds?, if_pos hother]
        exact ⟨rfl, fun _ => rfl⟩
      · rw [StreamTurn.adds?, if_neg hother]
        exact hsame (Table.get_modify_of_ne _ (Ne.symm hother) _)
    | setParameters other p => exact hmodify other (fun _ => rfl) fun _ => rfl
    | setVertexCount other count => exact hmodify other (fun _ => rfl) fun _ => rfl
    | setIndexCount other count => exact hmodify other (fun _ => rfl) fun _ => rfl
    | setInstanceCount other count => exact hmodify other (fun _ => rfl) fun _ => rfl
    | bind layout r set binding element =>
      refine hsame ?_
      show (s.bindSlot layout r set binding element).2.assemblers.get id = _
      unfold bindSlot
      split <;> rfl
    | _ => exact hsame rfl

/-- A binding leaves the arrays as checked accesses leave them. -/
theorem refresh?_arrays (s : Store) (id : ResourceId) :
    (s.assemblers.get id).arrays.raw.refresh? (s.vertexStreams (s.assemblers.get id)) =
      some (((s.vertexStreams (s.assemblers.get id)).map (·.buffer),
          (s.vertexStreams (s.assemblers.get id)).map (·.offset)),
        ((s.streamTurn (.bind id)).assemblers.get id).arrays.raw) := by
  simp only [VertexArrays.refresh?_raw, streamTurn, refreshArrays, Table.get_set_self]

/-- A store and, beside it, the arrays of one assembler: a binding of it refreshes them, if every
access is inside. -/
def checkedTurn (id : ResourceId) (x : Store × RawArrays) (t : StreamTurn) :
    Option (Store × RawArrays) :=
  match t with
  | .bind other =>
    if other = id then
      (x.2.refresh? (x.1.vertexStreams (x.1.assemblers.get id))).map fun refreshed =>
        (x.1.streamTurn t, refreshed.2)
    else some (x.1.streamTurn t, x.2)
  | .change _ => some (x.1.streamTurn t, x.2)

theorem checkedTurn_arrays {s : Store} {id : ResourceId} (hid : id.number < s.next)
    (t : StreamTurn) :
    checkedTurn id (s, (s.assemblers.get id).arrays.raw) t =
      some (s.streamTurn t, ((s.streamTurn t).assemblers.get id).arrays.raw) := by
  by_cases hbind : t = .bind id
  · rw [hbind, checkedTurn, if_pos rfl, refresh?_arrays]
    rfl
  · rw [(assembler_streamTurn hid t).2 hbind]
    cases t with
    | bind other =>
      have hother : other ≠ id := fun heq => hbind (congrArg StreamTurn.bind heq)
      rw [checkedTurn, if_neg hother]
    | change c => rfl

/-- A new assembler after a history: its streams are those that were given and those that were
added, and its arrays are what checked accesses make of them. -/
structure Streams (s : Store) (a : Assembler) (history : List StreamTurn) (now : Store) :
    Prop where
  made : s.next < now.next
  streams : (now.assemblers.get ⟨s.next⟩).streams =
    a.streams ++ history.filterMap (·.adds? ⟨s.next⟩)
  checked : history.foldlM (checkedTurn ⟨s.next⟩) ((s.addAssembler a).2, a.arrays.raw) =
    some (now, (now.assemblers.get ⟨s.next⟩).arrays.raw)

theorem Streams.turn {s : Store} {a : Assembler} {history : List StreamTurn} {now : Store}
    (h : s.Streams a history now) (t : StreamTurn) :
    s.Streams a (history ++ [t]) (now.streamTurn t) where
  made := Nat.lt_of_lt_of_le h.made (next_le_streamTurn now t)
  streams := by
    rw [(assembler_streamTurn h.made t).1, h.streams, List.filterMap_append, List.append_assoc]
    cases hadds : t.adds? ⟨s.next⟩ <;> simp [hadds]
  checked := by
    have hid : (⟨s.next⟩ : ResourceId).number < now.next := h.made
    rw [List.foldlM_append, h.checked]
    simp only [Option.bind_eq_bind, Option.bind_some, List.foldlM_cons, List.foldlM_nil,
      checkedTurn_arrays hid, Option.pure_def]

theorem streams_streamTurns (s : Store) (a : Assembler) (history : List StreamTurn) :
    s.Streams a history ((s.addAssembler a).2.streamTurns history) := by
  -- By the last turn.
  induction history using List.reverseRecOn with
  | nil =>
    have hmade : (s.addAssembler a).2.assemblers.get ⟨s.next⟩ = a := Table.get_set_self _ _ _
    refine ⟨Nat.lt_succ_self _, ?_, ?_⟩
    · rw [streamTurns, List.foldl_nil, hmade]
      exact (List.append_nil _).symm
    · rw [streamTurns, List.foldl_nil, hmade]
      rfl
  | append_singleton history t ih =>
    rw [streamTurns_concat]
    exact ih.turn t

/-- An assembler is made in any store.  All through any history, in which buffers are added to it
and moved and it is bound, no access falls outside its arrays, and the next binding stays inside as
well.  It reads one buffer and one offset for each of its streams, in the order that they were given
and added, as each stream starts now. -/
theorem bound_streams_are_current (s : Store) (a : Assembler) (history : List StreamTurn) :
    let id : ResourceId := ⟨s.next⟩
    let now := (s.addAssembler a).2.streamTurns history
    let streams := a.streams ++ history.filterMap (·.adds? id)
    let arrays (s : Store) := (s.assemblers.get id).arrays.raw
    history.foldlM (checkedTurn id) ((s.addAssembler a).2, a.arrays.raw) = some (now, arrays now) ∧
    ∃ slices : List (Handle .buffer) × List Nat,
      (arrays now).refresh? (now.vertexStreams (now.assemblers.get id)) =
        some (slices, arrays (now.streamTurn (.bind id))) ∧
      slices.1 = streams.map (fun b => (now.backing b).handle) ∧
      slices.2 = streams.map (fun b => (now.backing b).offset) ∧
      slices.1.length = streams.length ∧ slices.2.length = streams.length ∧
      (now.refreshArrays id).1 = List.zipWith BufferPoint.mk slices.1 slices.2 := by
  intro id now streams arrays
  have hnow : s.Streams a history now := streams_streamTurns s a history
  have hstarts : now.vertexStreams (now.assemblers.get id) = streams.map now.start :=
    congrArg (List.map now.start) hnow.streams
  refine ⟨hnow.checked, _, now.refresh?_arrays id, ?_⟩
  rw [streams_refreshArrays, hstarts]
  simp [List.map_map, Function.comp_def, start, List.zipWith_map_left, List.zipWith_map_right]

end Store

end GpuRecorder.Resource
