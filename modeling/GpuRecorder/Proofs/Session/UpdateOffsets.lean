import GpuRecorder.Proofs.Native.Journal
import GpuRecorder.Proofs.Recording.BufferUpdates
import GpuRecorder.Proofs.Session.RetainedObjects
import Mathlib.Data.List.Induction

/-!
# Where updates are written

A driver takes an update only at a word's boundary of the native buffer.  The offset of an update
is checked against the buffer's range, and the range may start anywhere inside the native buffer.
So the calls of an update are at words' boundaries exactly if the range was last placed at one.
-/

namespace GpuRecorder

open Native Resource Recording

/-! ## 1. Places of a range -/

/-- The offset that a buffer's range is moved to. -/
def Action.placing? (id : ResourceId) : Action → Option Nat
  | .change (.rebuildBuffer other _ offset _) => if other = id then some offset else none
  | _ => none

/-- The offset that a buffer's range was placed at last, from its first one on. -/
def lastPlace (id : ResourceId) (first : Nat) (actions : List Action) : Nat :=
  (actions.filterMap (Action.placing? id)).getLast?.getD first

theorem lastPlace_concat (id : ResourceId) (first : Nat) (actions : List Action) (a : Action) :
    lastPlace id first (actions ++ [a]) = (a.placing? id).getD (lastPlace id first actions) := by
  simp only [lastPlace, List.filterMap_append, List.filterMap_cons, List.filterMap_nil]
  cases a.placing? id with
  | none => rw [List.append_nil]; rfl
  | some offset => rw [List.getLast?_append]; rfl

/-- Where the range of a buffer starts inside its native buffer. -/
def Resource.Store.offset (s : Store) (id : ResourceId) : Nat := (s.backing id).offset

namespace Resource.Store

theorem offset_congr {s s' : Store} (h : s'.buffers = s.buffers) (id : ResourceId) :
    s'.offset id = s.offset id := by
  simp only [offset, backing, h]

theorem offset_modifyBuffer (s : Store) (other id : ResourceId) (f : Buffer → Buffer) :
    (s.modifyBuffer other f).offset id =
      if other = id then (f (s.buffers.get id)).backing.offset else s.offset id := by
  simp only [offset, backing, modifyBuffer]
  by_cases hother : other = id
  · rw [if_pos hother, hother, Table.get_modify_self]
  · rw [if_neg hother, Table.get_modify_of_ne _ (Ne.symm hother)]

/-- Only its owner moves a buffer. -/
theorem offset_apply {s : Store} {id : ResourceId} (hid : id.number < s.next) (c : Change) :
    (s.apply c).2.offset id = ((Action.change c).placing? id).getD (s.offset id) := by
  cases c with
  | addBuffer b =>
    have hne : id ≠ ⟨s.next⟩ := by
      rintro rfl
      exact Nat.lt_irrefl _ hid
    show ((s.buffers.set ⟨s.next⟩ b).get id).backing.offset = _
    rw [Table.get_set_of_ne _ hne]
    rfl
  | rebuildBuffer other handle offset size =>
    show (s.modifyBuffer other _).offset id = _
    rw [offset_modifyBuffer, Action.placing?]
    split <;> rfl
  | setTexelView other view =>
    show (s.modifyBuffer other _).offset id = _
    rw [offset_modifyBuffer]
    split <;> rfl
  | bind layout r set binding element =>
    have hsame : (s.bindSlot layout r set binding element).2.buffers = s.buffers := by
      unfold bindSlot
      split <;> rfl
    exact offset_congr hsame id
  | _ => rfl

end Resource.Store

/-- Recording moves no buffer. -/
theorem Recording.CommandBuffer.buffers_perform {σ : Type} [Driver σ] (c : CommandBuffer)
    (d : Device σ) (s : Store) (op : Operation) : (c.perform d s op).store.buffers = s.buffers := by
  cases op with
  | bindLayout id =>
    show (c.bindLayout d s id).store.buffers = s.buffers
    have hends := c.endsBinding d s id
    generalize c.bindLayout d s id = result at hends ⊢
    cases hends with
    | left why => rfl
    | resolved ready pipeline fresh fits done => rfl
  | bindAssembler id =>
    show (c.bindAssembler s id).1.buffers = s.buffers
    unfold bindAssembler
    split
    · rfl
    · split <;> rfl
  | _ => rfl

namespace Session

variable {σ : Type} [Driver σ]

theorem offset_step {s : Session σ} {id : ResourceId} (hid : id.number < s.store.next)
    (a : Action) :
    (s.step a).session.store.offset id = (a.placing? id).getD (s.store.offset id) := by
  have hperform (n : Nat) (op : Operation) :
      (s.perform n op).session.store.offset id = s.store.offset id := by
    unfold perform
    split
    · rfl
    · exact Store.offset_congr (CommandBuffer.buffers_perform _ _ _ _) id
  cases a with
  | change c => exact Store.offset_apply hid c
  | perform n op => exact hperform n op
  | execute n children => exact hperform n _
  | _ => rfl

theorem next_le_run (s : Session σ) (actions : List Action) :
    s.store.next ≤ (s.run actions).store.next := by
  induction actions generalizing s with
  | nil => exact Nat.le_refl _
  | cons a actions ih => exact Nat.le_trans (s.retains_step a).next_le (ih _)

/-- A buffer's range starts where it was placed last. -/
theorem offset_run {s : Session σ} {id : ResourceId} (hid : id.number < s.store.next)
    (actions : List Action) :
    (s.run actions).store.offset id = lastPlace id (s.store.offset id) actions := by
  -- By the last action.
  induction actions using List.reverseRecOn with
  | nil => rfl
  | append_singleton actions a ih =>
    have hlater : id.number < (s.run actions).store.next :=
      Nat.lt_of_lt_of_le hid (s.next_le_run actions)
    rw [run_append, run_cons, run_nil, offset_step hlater, ih, lastPlace_concat]

end Session

/-! ## 2. Calls of an update -/

/-- Data of whole words is written in pieces that are all as far from a word's boundary as the
first one is. -/
theorem Recording.Writes.aligned_iff {b : Handle .buffer} {place : Nat} {data : List UInt8}
    {commands : List Command} (h : Writes b place data commands) {x : Command}
    (hx : x ∈ commands) :
    ∃ first piece, x = .updateBuffer ⟨b, first⟩ piece ∧ (4 ∣ first ↔ 4 ∣ place) := by
  induction h with
  | nothing => cases hx
  | @piece place piece data rest filled words carried next ih =>
    rcases List.mem_cons.1 hx with rfl | hrest
    · exact ⟨place, piece, rfl, Iff.rfl⟩
    · obtain ⟨first, later, heq, haligned⟩ := ih hrest
      exact ⟨first, later, heq, haligned.trans (Nat.dvd_add_iff_left words).symm⟩

theorem Recording.Writes.ne_nil {b : Handle .buffer} {place : Nat} {data : List UInt8}
    {commands : List Command} (h : Writes b place data commands) (hdata : data ≠ []) :
    commands ≠ [] := by
  cases h with
  | nothing => exact absurd rfl hdata
  | piece filled words carried next => exact List.cons_ne_nil _ _

namespace Session

variable {σ : Type} [Driver σ]

/-- The calls that an action makes on the driver. -/
def attempted (s : Session (Journal σ)) (a : Action) : List Attempt :=
  (s.step a).session.device.driver.attempts.drop s.device.driver.attempts.length

/-- A buffer was made over some range, and after any run data is written into it and the update is
accepted.  Then the driver is called, and only with updates; and every one of these is at a word's
boundary of the native buffer if, and only if, the place that the range was given last is. -/
theorem update_aligned_iff (s : Session (Journal σ)) (b : Buffer) (earlier : List Action) (n : Nat)
    (offset : Nat) (data : List UInt8)
    (haccepted : (((s.step (.change (.addBuffer b))).session.run earlier).step
      (.perform n (.updateBuffer ⟨s.store.next⟩ offset data))).answer = .updated true) :
    let id : ResourceId := ⟨s.store.next⟩
    let found := (s.step (.change (.addBuffer b))).session.run earlier
    let calls := found.attempted (.perform n (.updateBuffer id offset data))
    calls ≠ [] ∧ ∀ call ∈ calls, ∃ handle start piece,
      call = .through (.request (.record handle (.updateBuffer start piece))) ∧
        (4 ∣ start.offset ↔ 4 ∣ lastPlace id b.backing.offset earlier) := by
  intro id found calls
  have hid : id.number < (s.step (.change (.addBuffer b))).session.store.next := Nat.lt_succ_self _
  have hplace : found.store.offset id = lastPlace id b.backing.offset earlier := by
    have hfirst : (s.step (.change (.addBuffer b))).session.store.offset id = b.backing.offset := by
      show ((s.store.buffers.set id b).get id).backing.offset = _
      rw [Table.get_set_self]
    rw [← hfirst]
    exact offset_run hid earlier
  obtain ⟨c, hc⟩ : ∃ c, found.buffers[n]? = some c := by
    cases hc : found.buffers[n]? with
    | some c => exact ⟨c, rfl⟩
    | none =>
      have hnone : (found.perform n (.updateBuffer id offset data)).answer = .done := by
        rw [perform, hc]
      exact absurd (hnone.symm.trans haccepted) (by simp)
  have hcalls : calls = (c.updateBuffer found.store id offset data).2.2.requests.map
      fun r => .through (.request r) := by
    simp only [calls, attempted, step, perform, hc, CommandBuffer.perform, CommandBuffer.send,
      Device.play_device, Journal.attempts_play, List.drop_left]
  have hrecorded : (c.updateBuffer found.store id offset data).1 = true := by
    have hanswer : (found.perform n (.updateBuffer id offset data)).answer =
        .updated (c.updateBuffer found.store id offset data).1 := by
      rw [perform, hc]
      rfl
    exact Answer.updated.inj (hanswer.symm.trans haccepted)
  have haccepts := CommandBuffer.updateBuffer_fst_iff.1 hrecorded
  obtain ⟨m, hm⟩ := Option.isSome_iff_exists.1 haccepts.1
  have hb : c.handle? = some m.handle := by rw [CommandBuffer.handle?, hm, Option.map_some]
  rw [hcalls, CommandBuffer.updateBuffer_of_accepts haccepts hb, Script.requests_record,
    List.map_map]
  obtain ⟨_, _, hdata, hoffset, hwords, _⟩ := haccepts
  have hwrites := Writes.updateCommands
    ⟨(found.store.backing id).handle, found.store.offset id + offset⟩ hwords
  refine ⟨fun hnil => hwrites.ne_nil hdata (List.map_eq_nil_iff.1 hnil), fun call hcall => ?_⟩
  obtain ⟨x, hx, rfl⟩ := List.mem_map.1 hcall
  obtain ⟨first, piece, rfl, haligned⟩ := hwrites.aligned_iff hx
  exact ⟨m.handle, _, piece, rfl,
    haligned.trans (hplace ▸ (Nat.dvd_add_iff_left hoffset).symm)⟩

/-- One command buffer, which is recording. -/
def recording : Session (Journal Trace) :=
  run { device := (Device.start { driver := ({} : Trace) } {} {}).device } [
    .create, .perform 0 (.setUp .primary ⟨⟨800⟩, 0⟩), .perform 0 (.begin none 0 none)]

/-- A range that was between words is moved to a word's boundary. -/
theorem moved_range_written_at_words :
    let b := Buffer.ofRange ⟨700⟩ 2 6 16 0
    let earlier : List Action := [.change (.rebuildBuffer ⟨1⟩ ⟨701⟩ 64 32)]
    let found := (recording.step (.change (.addBuffer b))).session.run earlier
    let update : Action := .perform 0 (.updateBuffer ⟨1⟩ 4 [0, 17, 34, 51])
    (found.step update).answer = .updated true ∧ 4 ∣ lastPlace ⟨1⟩ b.backing.offset earlier ∧
      found.attempted update ≠ [] ∧
      ∀ call ∈ found.attempted update, ∃ handle start piece,
        call = .through (.request (.record handle (.updateBuffer start piece))) ∧
          (4 ∣ start.offset ↔ 4 ∣ lastPlace ⟨1⟩ b.backing.offset earlier) := by
  intro b earlier found update
  have haccepted : (found.step update).answer = .updated true := by decide
  exact ⟨haccepted, by decide,
    update_aligned_iff recording b earlier 0 4 [0, 17, 34, 51] haccepted⟩

/-- A range that starts between words is written between words: the offset in the range is a word's
boundary, and the one in the native buffer is none. -/
theorem range_between_words_written :
    let s := (recording.step (.change (.addBuffer (.ofRange ⟨700⟩ 2 6 16 0)))).session
    let update : Action := .perform 0 (.updateBuffer ⟨1⟩ 4 [0, 17, 34, 51])
    (s.step update).answer = .updated true ∧
      s.attempted update =
        [.through (.request (.record ⟨4097⟩ (.updateBuffer ⟨⟨700⟩, 10⟩ [0, 17, 34, 51])))] ∧
      ¬ 4 ∣ 10 := by
  decide +kernel

end Session

end GpuRecorder
