import GpuRecorder.Proofs.Native.Log
import Mathlib.Data.List.Nodup
import Mathlib.Logic.Equiv.Basic

/-!
# New handles and their names

A trace numbers handles one after the other, so which number a descriptor set gets depends on
everything that was made before it.  Two streams that differ in nothing else are the same up to a
renaming: one permutation of the descriptor sets takes all of the one to the other.
-/

namespace GpuRecorder.Native

/-! ## 1. New handles -/

/-- Some handles are new: all different, and numbered from the next number on. -/
def New {kind : Kind} (next next' : Nat) (handles : List (Handle kind)) : Prop :=
  handles.Nodup ∧ ∀ h ∈ handles, next ≤ h.number ∧ h.number < next'

section

variable {kind : Kind} {next next' next'' : Nat}

theorem new_nil : New next next' ([] : List (Handle kind)) :=
  ⟨List.nodup_nil, fun _ h => absurd h List.not_mem_nil⟩

theorem new_freshList {count : Nat} (h : next + count ≤ next') :
    New next next' (Handle.freshList next count : List (Handle kind)) :=
  ⟨Handle.nodup_freshList next count, fun x hx => by
    have hbounds := Handle.mem_freshList.1 hx
    omega⟩

theorem nodup_append_of_new {old new : List (Handle kind)} (hold : old.Nodup)
    (hbelow : ∀ h ∈ old, h.number < next) (hnew : New next next' new) : (old ++ new).Nodup := by
  rw [List.nodup_append]
  refine ⟨hold, hnew.1, fun h hh h' hh' heq => ?_⟩
  have hlt := hbelow h hh
  have hle := (hnew.2 h' hh').1
  rw [heq] at hlt
  omega

theorem New.mono {handles : List (Handle kind)} (h : New next' next'' handles)
    (hle : next ≤ next') : New next next'' handles :=
  ⟨h.1, fun x hx => ⟨Nat.le_trans hle (h.2 x hx).1, (h.2 x hx).2⟩⟩

theorem New.append {handles more : List (Handle kind)} (h : New next next' handles)
    (hmore : New next' next'' more) (hle : next ≤ next') (hle' : next' ≤ next'') :
    New next next'' (handles ++ more) := by
  refine ⟨nodup_append_of_new h.1 (fun x hx => (h.2 x hx).2) hmore, fun x hx => ?_⟩
  rcases List.mem_append.1 hx with hx | hx
  · exact ⟨(h.2 x hx).1, Nat.lt_of_lt_of_le (h.2 x hx).2 hle'⟩
  · exact (hmore.mono hle).2 x hx

end

/-- Two lists of different elements and equal length are taken to each other by a permutation that
moves nothing else. -/
theorem exists_perm_map_eq {α : Type} [DecidableEq α] {xs ys : List α} (hxs : xs.Nodup)
    (hys : ys.Nodup) (hlength : xs.length = ys.length) :
    ∃ f : Equiv.Perm α, xs.map f = ys ∧ ∀ a, a ∉ xs → a ∉ ys → f a = a := by
  induction xs generalizing ys with
  | nil =>
    obtain rfl := List.length_eq_zero_iff.1 hlength.symm
    exact ⟨Equiv.refl α, rfl, fun _ _ _ => rfl⟩
  | cons x xs ih =>
    cases ys with
    | nil => cases hlength
    | cons y ys =>
      rw [List.nodup_cons] at hxs hys
      obtain ⟨f, hf, hfixed⟩ := ih hxs.2 hys.2 (Nat.succ.inj hlength)
      -- Wherever `x` goes so far, it is exchanged with `y`; the others have neither place.
      refine ⟨f.trans (Equiv.swap (f x) y), ?_, fun a hax hay => ?_⟩
      · have hothers : xs.map (f.trans (Equiv.swap (f x) y)) = xs.map f := by
          apply List.map_congr_left
          intro a ha
          have hmem : f a ∈ ys := hf ▸ List.mem_map_of_mem ha
          refine Equiv.swap_apply_of_ne_of_ne (fun heq => hxs.1 ?_) fun heq => hys.1 (heq ▸ hmem)
          rwa [← f.injective heq]
        rw [List.map_cons, hothers, hf]
        exact congrArg (· :: ys) (Equiv.swap_apply_left (f x) y)
      · rw [List.mem_cons, not_or] at hax hay
        have hstays := hfixed a hax.2 hay.2
        refine (congrArg (Equiv.swap (f x) y) hstays).trans ?_
        refine Equiv.swap_apply_of_ne_of_ne (fun heq => hax.1 ?_) hay.1
        exact f.injective (hstays.trans heq)

/-! ## 2. Streams under other names -/

/-- The same command with its descriptor sets under other names. -/
def Command.renameSets (f : Handle .descriptorSet → Handle .descriptorSet) : Command → Command
  | .bindDescriptorSets point layout first sets offsets =>
    .bindDescriptorSets point layout first (sets.map f) offsets
  | c => c

/-- The same request, recorded into another buffer and with its descriptor sets under other
names. -/
def Request.moved (buffer : Handle .commandBuffer)
    (f : Handle .descriptorSet → Handle .descriptorSet) : Request → Request
  | .record _ c => .record buffer (c.renameSets f)
  | r => r

/-- The same call on another buffer. -/
def Call.moved (buffer : Handle .commandBuffer)
    (f : Handle .descriptorSet → Handle .descriptorSet) : Call → Call
  | .begin _ args => .begin buffer args
  | .finish _ => .finish buffer
  | .request r => .request (r.moved buffer f)
  | c => c

section

variable {b b' : Handle .commandBuffer} {f : Handle .descriptorSet → Handle .descriptorSet}

theorem entries_moved (r : Request) :
    (r.moved b f).entries = r.entries.map (Request.moved b f) := by
  cases r with
  | record b' c =>
    cases c with
    | setViewports first viewports =>
      simp [Request.moved, Request.entries, Command.renameSets]
    | setScissors first scissors =>
      simp [Request.moved, Request.entries, Command.renameSets]
    | _ => rfl
  | _ => rfl

theorem recordedCalls_renameSets (commands : List Command) :
    recordedCalls b' (commands.map (Command.renameSets f)) =
      (recordedCalls b commands).map (Call.moved b' f) := by
  induction commands with
  | nil => rfl
  | cons c commands ih =>
    have hone : recordedCalls b' [c.renameSets f] = (recordedCalls b [c]).map (Call.moved b' f) := by
      have hentries := entries_moved (.record b c) (b := b') (f := f)
      simp only [recordedCalls, List.flatMap_singleton, List.map_map]
      rw [show Request.record b' (c.renameSets f) = (Request.record b c).moved b' f from rfl,
        hentries, List.map_map]
      rfl
    rw [List.map_cons, ← List.singleton_append, recordedCalls_append, ih, hone,
      ← List.map_append, ← recordedCalls_append, List.singleton_append]

/-- A stream of one buffer becomes one of the other. -/
theorem callsInto_moved {calls : List Call} (h : ∀ c ∈ calls, c.target? = some b) :
    callsInto b' (calls.map (Call.moved b' f)) = calls.map (Call.moved b' f) := by
  apply callsInto_eq_self
  intro c hc
  obtain ⟨c, hmem, rfl⟩ := List.mem_map.1 hc
  have htarget := h c hmem
  cases c with
  | begin b args => rfl
  | finish b => rfl
  | request r =>
    cases r with
    | record b c => rfl
    | _ => cases htarget
  | _ => cases htarget

end

/-- Two parts of streams are the same but for the buffer they go into and for the names of the
descriptor sets that were made meanwhile, while the next number went up on either side. -/
structure SameUpToNames (next final next' final' : Nat) (buffer : Handle .commandBuffer)
    (calls calls' : List Call) : Prop where
  le : next ≤ final
  le' : next' ≤ final'
  named : ∃ sets sets' : List (Handle .descriptorSet),
    New next final sets ∧ New next' final' sets' ∧ sets.length = sets'.length ∧
      ∀ f : Handle .descriptorSet → Handle .descriptorSet, sets.map f = sets' →
        calls' = calls.map (Call.moved buffer f)

namespace SameUpToNames

variable {next final last next' final' last' : Nat} {buffer : Handle .commandBuffer}
  {calls calls' more more' : List Call}

/-- No set was made that matters. -/
theorem of_forall (hle : next ≤ final) (hle' : next' ≤ final')
    (h : ∀ f : Handle .descriptorSet → Handle .descriptorSet,
      calls' = calls.map (Call.moved buffer f)) :
    SameUpToNames next final next' final' buffer calls calls' :=
  ⟨hle, hle', [], [], new_nil, new_nil, rfl, fun f _ => h f⟩

theorem append (h : SameUpToNames next final next' final' buffer calls calls')
    (hmore : SameUpToNames final last final' last' buffer more more') :
    SameUpToNames next last next' last' buffer (calls ++ more) (calls' ++ more') := by
  obtain ⟨sets, sets', hnew, hnew', hlength, hcalls⟩ := h.named
  obtain ⟨more, more', hmoreNew, hmoreNew', hmoreLength, hmoreCalls⟩ := hmore.named
  refine ⟨Nat.le_trans h.le hmore.le, Nat.le_trans h.le' hmore.le', sets ++ more, sets' ++ more',
    hnew.append hmoreNew h.le hmore.le, hnew'.append hmoreNew' h.le' hmore.le', ?_,
    fun f hf => ?_⟩
  · rw [List.length_append, List.length_append, hlength, hmoreLength]
  · -- As many sets were new on either side, so the renaming splits at the seam.
    rw [List.map_append] at hf
    obtain ⟨hfirst, hsecond⟩ := List.append_inj hf (by rw [List.length_map, hlength])
    rw [List.map_append, ← hcalls f hfirst, ← hmoreCalls f hsecond]

/-- One permutation of the descriptor sets takes the one part to the other, and leaves alone what
was made before. -/
theorem exists_perm (h : SameUpToNames next final next' final' buffer calls calls') :
    ∃ f : Equiv.Perm (Handle .descriptorSet), calls' = calls.map (Call.moved buffer f) ∧
      ∀ set, set.number < next → set.number < next' → f set = set := by
  obtain ⟨sets, sets', hnew, hnew', hlength, hcalls⟩ := h.named
  obtain ⟨f, hf, hfixed⟩ := exists_perm_map_eq hnew.1 hnew'.1 hlength
  refine ⟨f, hcalls f hf, fun set hlt hlt' => hfixed set (fun hmem => ?_) fun hmem => ?_⟩
  · exact Nat.not_le_of_gt hlt (hnew.2 set hmem).1
  · exact Nat.not_le_of_gt hlt' (hnew'.2 set hmem).1

end SameUpToNames

/-- Two traces have grown by the same calls into two buffers, up to names. -/
def GrownAlike (b b' : Handle .commandBuffer) (t u t' u' : Trace) : Prop :=
  ∃ calls calls', u.log.toList = t.log.toList ++ calls ∧ u'.log.toList = t'.log.toList ++ calls' ∧
    SameUpToNames t.next u.next t'.next u'.next b' (callsInto b calls) (callsInto b' calls')

namespace GrownAlike

variable {b b' : Handle .commandBuffer} {t u v t' u' v' : Trace}

theorem refl (b b' : Handle .commandBuffer) (t t' : Trace) : GrownAlike b b' t t t' t' :=
  ⟨[], [], (List.append_nil _).symm, (List.append_nil _).symm,
    .of_forall (Nat.le_refl _) (Nat.le_refl _) fun _ => rfl⟩

theorem trans (h : GrownAlike b b' t u t' u') (hmore : GrownAlike b b' u v u' v') :
    GrownAlike b b' t v t' v' := by
  obtain ⟨calls, calls', hlog, hlog', hsame⟩ := h
  obtain ⟨more, more', hmoreLog, hmoreLog', hmoreSame⟩ := hmore
  refine ⟨calls ++ more, calls' ++ more', ?_, ?_, ?_⟩
  · rw [hmoreLog, hlog, List.append_assoc]
  · rw [hmoreLog', hlog', List.append_assoc]
  · rw [callsInto_append, callsInto_append]
    exact hsame.append hmoreSame

/-- The first trace has grown, but not by calls into its buffer. -/
theorem of_apart {buffer? : Option (Handle .commandBuffer)} (h : Trace.GrowsOnly buffer? t u)
    (hother : buffer? ≠ some b) (b' : Handle .commandBuffer) (t' : Trace) :
    GrownAlike b b' t u t' t' := by
  have hnone := h.callsInto_other hother
  obtain ⟨hle, calls, hlog, _⟩ := h
  rw [Trace.callsSince_of_append hlog] at hnone
  refine ⟨calls, [], hlog, (List.append_nil _).symm, .of_forall hle (Nat.le_refl _) fun _ => ?_⟩
  rw [hnone]
  rfl

end GrownAlike

end GpuRecorder.Native
