import GpuRecorder.Proofs.Session.Misuse
import Mathlib.Data.List.GetD

/-!
# What an update writes

Data for a buffer goes out in pieces, since one call carries only so much.  The pieces stand one
after the other, so carrying out the calls on any memory is one write of all the data at the place
that was asked for.
-/

namespace GpuRecorder.Native

/-! ## 1. Memory -/

/-- The bytes of all native buffers. -/
def Memory : Type := Handle .buffer → Nat → UInt8

namespace Memory

/-- Write data from a point on; every other byte stays. -/
def write (m : Memory) (start : BufferPoint) (data : List UInt8) : Memory := fun b place =>
  if b = start.buffer ∧ start.offset ≤ place then data.getD (place - start.offset) (m b place)
  else m b place

/-- What a command does to the memory; only updates write into it. -/
def carryOut (m : Memory) : Command → Memory
  | .updateBuffer destination data => m.write destination data
  | _ => m

def carryOutAll (m : Memory) (commands : List Command) : Memory := commands.foldl carryOut m

theorem write_nil (m : Memory) (start : BufferPoint) : m.write start [] = m := by
  funext b place
  simp [write]

/-- Writing on from where a write ended is one write. -/
theorem write_append (m : Memory) (start : BufferPoint) (data more : List UInt8) :
    (m.write start data).write { start with offset := start.offset + data.length } more =
      m.write start (data ++ more) := by
  funext b place
  simp only [write]
  by_cases hstart : b = start.buffer ∧ start.offset ≤ place
  · rw [if_pos hstart, if_pos hstart]
    by_cases hmore : start.offset + data.length ≤ place
    · -- Past the first data: its write does not show.
      have hpast : data.length ≤ place - start.offset := by omega
      rw [if_pos ⟨hstart.1, hmore⟩, List.getD_append_right _ _ _ _ hpast,
        List.getD_eq_default _ _ hpast, Nat.sub_add_eq]
    · rw [if_neg fun h => hmore h.2, List.getD_append _ _ _ _ (by omega)]
  · rw [if_neg hstart, if_neg hstart, if_neg]
    intro hlater
    have hplace : start.offset + data.length ≤ place := hlater.2
    exact hstart ⟨hlater.1, by omega⟩

end Memory

end GpuRecorder.Native

namespace GpuRecorder.Recording

open Draw Native Resource

/-! ## 2. Pieces -/

/-- Updates that write data into a buffer from a place on, piece after piece: each piece is one or
more whole words that a single call can carry. -/
inductive Writes (b : Handle .buffer) : (place : Nat) → (data : List UInt8) → List Command → Prop
  | nothing {place : Nat} : Writes b place [] []
  | piece {place : Nat} {piece data : List UInt8} {rest : List Command} (filled : piece ≠ [])
      (words : 4 ∣ piece.length) (carried : piece.length ≤ maxUpdateBytes)
      (next : Writes b (place + piece.length) data rest) :
    Writes b place (piece ++ data) (.updateBuffer ⟨b, place⟩ piece :: rest)

namespace Writes

variable {b : Handle .buffer} {place : Nat} {data : List UInt8} {commands : List Command}

/-- Together the pieces are one write. -/
theorem carryOutAll (h : Writes b place data commands) (m : Memory) :
    m.carryOutAll commands = m.write ⟨b, place⟩ data := by
  induction h generalizing m with
  | nothing => exact (m.write_nil _).symm
  | @piece place piece data rest filled words carried next ih =>
    calc m.carryOutAll (.updateBuffer ⟨b, place⟩ piece :: rest)
      _ = (m.write ⟨b, place⟩ piece).carryOutAll rest := rfl
      _ = (m.write ⟨b, place⟩ piece).write ⟨b, place + piece.length⟩ data := ih _
      _ = m.write ⟨b, place⟩ (piece ++ data) := m.write_append ⟨b, place⟩ piece data

/-- No piece reaches out of the range of the whole. -/
theorem inside (h : Writes b place data commands) {x : Command} (hx : x ∈ commands) :
    ∃ first piece, x = .updateBuffer ⟨b, first⟩ piece ∧ place ≤ first ∧
      first + piece.length ≤ place + data.length := by
  induction h with
  | nothing => cases hx
  | @piece place piece data rest filled words carried next ih =>
    rw [List.length_append]
    rcases List.mem_cons.1 hx with rfl | hrest
    · exact ⟨place, piece, rfl, Nat.le_refl _, by omega⟩
    · obtain ⟨first, later, heq, hfirst, hlast⟩ := ih hrest
      exact ⟨first, later, heq, by omega, by omega⟩

/-- Data of whole words is cut into such pieces. -/
theorem updateCommands (start : BufferPoint) {data : List UInt8} (hwords : 4 ∣ data.length) :
    Writes start.buffer start.offset data
      (Recording.updateCommands start (chunks maxUpdateBytes data)) := by
  induction data using chunks.induct maxUpdateBytes generalizing start with
  | case1 data hdone =>
    obtain rfl : data = [] := hdone.resolve_left (by decide)
    rw [chunks, dif_pos (Or.inr rfl)]
    exact .nothing
  | case2 data hmore ih =>
    have hdata : 0 < data.length := List.length_pos_iff.2 fun h => hmore (Or.inr h)
    have hpiece : (data.take maxUpdateBytes).length = min maxUpdateBytes data.length :=
      List.length_take
    rw [chunks, dif_neg hmore]
    -- The data is the piece that is cut off and what is left of it.
    nth_rewrite 1 [← List.take_append_drop maxUpdateBytes data]
    unfold maxUpdateBytes at hpiece ih ⊢
    apply Writes.piece
    · rw [← List.length_pos_iff]
      omega
    · omega
    · rw [hpiece]
      exact Nat.min_le_left _ _
    · have hrest : 4 ∣ (data.drop 65536).length := by
        rw [List.length_drop]
        omega
      exact ih ⟨start.buffer, start.offset + (data.take 65536).length⟩ hrest

end Writes

/-! ## 3. Updates -/

namespace CommandBuffer

/-- Data can be written at an offset of a buffer, now. -/
def AcceptsUpdate (c : CommandBuffer) (s : Store) (buffer : ResourceId) (offset : Nat)
    (data : List UInt8) : Prop :=
  c.isReady ∧ c.passIsOpen = false ∧ data ≠ [] ∧ 4 ∣ offset ∧ 4 ∣ data.length ∧
    offset + data.length ≤ (s.backing buffer).size

instance (c : CommandBuffer) (s : Store) (buffer : ResourceId) (offset : Nat)
    (data : List UInt8) : Decidable (c.AcceptsUpdate s buffer offset data) :=
  inferInstanceAs (Decidable (_ ∧ _))

variable {c : CommandBuffer} {s : Store} {buffer : ResourceId} {offset : Nat} {data : List UInt8}

theorem updateBuffer_of_accepts (h : c.AcceptsUpdate s buffer offset data)
    {b : Handle .commandBuffer} (hb : c.handle? = some b) :
    let start : BufferPoint := ⟨(s.backing buffer).handle, (s.backing buffer).offset + offset⟩
    c.updateBuffer s buffer offset data =
      (true, c, .record b (Recording.updateCommands start (chunks maxUpdateBytes data))) := by
  obtain ⟨_, hclosed, hdata, hoffset, hlength, hfits⟩ := h
  have hfault : updateFault (s.backing buffer).size offset data.length = none := by
    rw [updateFault_eq_none_iff]
    omega
  have hsome : ¬ data.isEmpty = true := by simpa using hdata
  simp only [updateBuffer, hb, hclosed, hfault, if_neg hsome, Bool.false_eq_true, if_false]

/-- An update answers whether it is accepted. -/
theorem updateBuffer_fst_iff :
    (c.updateBuffer s buffer offset data).1 = true ↔ c.AcceptsUpdate s buffer offset data := by
  constructor
  · intro hrecorded
    unfold updateBuffer at hrecorded
    split at hrecorded
    · cases hrecorded
    · rename_i b hb
      have hready : c.isReady = true := by
        obtain ⟨n, hn, _⟩ := Option.map_eq_some_iff.1 hb
        rw [isReady, hn, Option.isSome_some]
      split at hrecorded
      · cases hrecorded
      · rename_i hclosed
        split at hrecorded
        · cases hrecorded
        · rename_i hdata
          dsimp only at hrecorded
          split at hrecorded
          · cases hrecorded
          · rename_i hfault
            rw [updateFault_eq_none_iff] at hfault
            exact ⟨hready, by simpa using hclosed, by simpa using hdata,
              Nat.dvd_of_mod_eq_zero hfault.1, Nat.dvd_of_mod_eq_zero hfault.2.1, hfault.2.2⟩
  · intro haccepts
    obtain ⟨n, hn⟩ := Option.isSome_iff_exists.1 haccepts.1
    have hb : c.handle? = some n.handle := by rw [handle?, hn, Option.map_some]
    rw [updateBuffer_of_accepts haccepts hb]

/-- An update that is not accepted is out of place, or its arguments do not fit. -/
theorem misuse_of_not_accepts (h : ¬ c.AcceptsUpdate s buffer offset data) :
    c.Misuse s (.updateBuffer buffer offset data) := by
  by_cases hready : c.isReady = true
  swap
  · exact .notReady (by simpa using hready) rfl
  by_cases hopen : c.passIsOpen = true
  · have hinside : c.kind = .primary ∧ c.inPass = true := by simpa [passIsOpen] using hopen
    exact .updateInsidePass hinside.1 hinside.2
  by_cases hdata : data = []
  · rw [hdata]
    exact .noData
  by_cases hwords : 4 ∣ offset ∧ 4 ∣ data.length
  swap
  · exact .misaligned (by omega)
  · apply Misuse.outOfBounds
    have hpast : ¬ offset + data.length ≤ (s.backing buffer).size := fun hfits =>
      h ⟨hready, by simpa using hopen, hdata, hwords.1, hwords.2, hfits⟩
    omega

/-- An update is recorded if there is a native buffer, transfers are allowed, and the data is some
whole words that fit from a word's boundary on; otherwise it answers so, and over any driver
nothing is called and nothing changes.  When it is recorded, its calls write the data from the
start of the buffer's range plus the offset on, piece after piece and inside the range, and on any
memory they come to one write. -/
theorem update_writes_data (c : CommandBuffer) (s : Store) (buffer : ResourceId) (offset : Nat)
    (data : List UInt8) :
    let backing := s.backing buffer
    let op : Operation := .updateBuffer buffer offset data
    if c.AcceptsUpdate s buffer offset data then
      ∃ b commands, c.handle? = some b ∧
        (∀ (σ : Type) [Driver σ] (d : Device σ),
          c.perform d s op = send d s (.updated true) (c, .record b commands)) ∧
        Writes backing.handle (backing.offset + offset) data commands ∧
        (∀ x ∈ commands, ∃ first piece, x = .updateBuffer ⟨backing.handle, first⟩ piece ∧
          backing.offset ≤ first ∧ first + piece.length ≤ backing.offset + backing.size) ∧
        ∀ m : Memory, m.carryOutAll commands =
          m.write ⟨backing.handle, backing.offset + offset⟩ data
    else
      ∀ (σ : Type) [Driver σ] (d : Device σ), ∃ messages,
        c.perform d s op = ⟨c, s, { answer := .updated false, device := d, messages }⟩ := by
  intro backing op
  split
  · rename_i haccepts
    obtain ⟨n, hn⟩ := Option.isSome_iff_exists.1 haccepts.1
    have hb : c.handle? = some n.handle := by rw [handle?, hn, Option.map_some]
    have hwrites := Writes.updateCommands ⟨backing.handle, backing.offset + offset⟩
      haccepts.2.2.2.2.1
    refine ⟨n.handle, _, hb, fun σ _ d => ?_, hwrites, fun x hx => ?_, hwrites.carryOutAll⟩
    · have hupdate := updateBuffer_of_accepts haccepts hb
      simp only [op, perform, hupdate]
      rfl
    · have hfits : offset + data.length ≤ backing.size := haccepts.2.2.2.2.2
      obtain ⟨first, piece, heq, hfirst, hlast⟩ := hwrites.inside hx
      dsimp only at hfirst hlast
      exact ⟨first, piece, heq, by omega, by omega⟩
  · rename_i hrefused
    intro σ _ d
    exact drops_of_misuse (misuse_of_not_accepts hrefused) d

end CommandBuffer

end GpuRecorder.Recording
