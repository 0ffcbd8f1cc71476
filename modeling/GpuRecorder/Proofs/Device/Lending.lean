import GpuRecorder.Proofs.Device.Driving
import GpuRecorder.Recording.Buffer
import Mathlib.Data.List.Perm.Subperm
import Mathlib.Tactic.Common

/-!
# Lending command buffers

Which buffers are parked in the command pools, each with the level and the family it is parked
under.  A request either takes one parked under what it asks for or makes a new one, and giving
back parks the buffer again.  All this is over any driver.
-/

namespace GpuRecorder.Device

open Native Recording

open scoped List

/-! ## 1. What is parked -/

namespace FamilyPool

/-- The parked buffers of a family, with the level and family they are parked under. -/
def parkedBuffers (f : FamilyPool) : List NativeBuffer :=
  (f.primary.map fun h => ⟨h, .primary, f.family⟩) ++
    f.secondary.map fun h => ⟨h, .secondary, f.family⟩

theorem parkedBuffers_park (f : FamilyPool) (kind : BufferKind) (h : Handle .commandBuffer) :
    (f.park kind.level h).parkedBuffers.Perm (⟨h, kind.level, f.family⟩ :: f.parkedBuffers) := by
  cases kind with
  | primary => exact List.Perm.refl _
  | secondary => exact List.perm_middle

/-- Taking the buffer that was parked last leaves the others. -/
theorem parkedBuffers_setParked {f : FamilyPool} {kind : BufferKind} {h : Handle .commandBuffer}
    {rest : List (Handle .commandBuffer)} (hparked : f.parked kind.level = h :: rest) :
    f.parkedBuffers.Perm
      (⟨h, kind.level, f.family⟩ :: (f.setParked kind.level rest).parkedBuffers) := by
  cases kind with
  | primary =>
    have hprimary : f.primary = h :: rest := hparked
    rw [parkedBuffers, hprimary]
    exact List.Perm.refl _
  | secondary =>
    have hsecondary : f.secondary = h :: rest := hparked
    rw [parkedBuffers, hsecondary, List.map_cons]
    exact List.perm_middle

end FamilyPool

namespace CommandPools

/-- All parked buffers. -/
def parkedBuffers (p : CommandPools) : List NativeBuffer :=
  p.families.flatMap FamilyPool.parkedBuffers

/-- Every family has one pool. -/
def Distinct (p : CommandPools) : Prop := (p.families.map (·.family)).Nodup

theorem distinct_replace {p : CommandPools} (h : p.Distinct) (f : FamilyPool) :
    (p.replace f).Distinct := by
  rw [Distinct, families_replace]
  exact h

theorem family_of_find? {p : CommandPools} {family : Nat} {f : FamilyPool}
    (h : p.find? family = some f) : f.family = family := by
  simpa using List.find?_some h

/-- Replacing the pool of a family exchanges what is parked in it, and nothing else. -/
theorem parkedBuffers_replace {p : CommandPools} (hp : p.Distinct) {family : Nat}
    {f new : FamilyPool} (hfind : p.find? family = some f) (hnew : new.family = f.family) :
    ∃ others, p.parkedBuffers.Perm (f.parkedBuffers ++ others) ∧
      (p.replace new).parkedBuffers.Perm (new.parkedBuffers ++ others) := by
  obtain ⟨left, right, hsplit⟩ := List.append_of_mem (List.mem_of_find?_eq_some hfind)
  rw [Distinct, hsplit, List.map_append, List.map_cons, List.nodup_append] at hp
  obtain ⟨_, hright, hleft⟩ := hp
  -- The families differ, so the entry of one family is exchanged and no other.
  have keep {others : List FamilyPool} (hothers : ∀ g ∈ others, g.family ≠ f.family) :
      others.map (fun g => if g.family = new.family then new else g) = others := by
    rw [List.map_congr_left (g := id), List.map_id]
    intro g hg
    rw [if_neg (by rw [hnew]; exact hothers g hg), id]
  have hleft' : ∀ g ∈ left, g.family ≠ f.family := fun g hg =>
    hleft g.family (List.mem_map_of_mem hg) f.family List.mem_cons_self
  have hright' : ∀ g ∈ right, g.family ≠ f.family := fun g hg heq =>
    (List.nodup_cons.1 hright).1 (List.mem_map.2 ⟨g, hg, heq⟩)
  have hreplace : (p.replace new).families = left ++ new :: right := by
    rw [replace, hsplit, List.map_append, List.map_cons, keep hleft', keep hright',
      if_pos hnew.symm]
  refine ⟨left.flatMap FamilyPool.parkedBuffers ++ right.flatMap FamilyPool.parkedBuffers, ?_, ?_⟩
  · rw [parkedBuffers, hsplit, List.flatMap_append, List.flatMap_cons]
    exact List.perm_append_comm_assoc _ _ _
  · rw [parkedBuffers, hreplace, List.flatMap_append, List.flatMap_cons]
    exact List.perm_append_comm_assoc _ _ _

/-! ## 2. Giving back -/

theorem distinct_giveBack {p : CommandPools} (h : p.Distinct) (level : Level) (family : Nat)
    (buffer : Handle .commandBuffer) : (p.giveBack level family buffer).1.Distinct := by
  unfold giveBack
  split
  · exact distinct_replace h _
  · exact h

theorem parkedBuffers_giveBack {p : CommandPools} (hp : p.Distinct) (kind : BufferKind)
    (family : Nat) (h : Handle .commandBuffer) :
    (p.giveBack kind.level family h).1.parkedBuffers.Perm
        (⟨h, kind.level, family⟩ :: p.parkedBuffers) ∨
      p.find? family = none ∧ (p.giveBack kind.level family h).1 = p := by
  unfold giveBack
  split
  · rename_i f hfind
    refine Or.inl ?_
    obtain ⟨others, hbefore, hafter⟩ :=
      parkedBuffers_replace hp hfind (family_setParked f kind.level (h :: f.parked kind.level))
    have hfamily := family_of_find? hfind
    calc (p.replace (f.park kind.level h)).parkedBuffers
      _ ~ (f.park kind.level h).parkedBuffers ++ others := hafter
      _ ~ ⟨h, kind.level, f.family⟩ :: f.parkedBuffers ++ others :=
        (f.parkedBuffers_park kind h).append_right others
      _ ~ ⟨h, kind.level, family⟩ :: p.parkedBuffers := by
        rw [hfamily]
        exact hbefore.symm.cons _
  · rename_i hfind
    exact Or.inr ⟨hfind, rfl⟩

/-! ## 3. Requests -/

section

variable {σ : Type} [Driver σ]

/-- Once a family is asked for it has a pool, and nothing more is parked than before. -/
theorem ensure_spec {p : CommandPools} (hp : p.Distinct) {driver driver' : σ} {family : Nat}
    {f : FamilyPool} {p' : CommandPools} {messages : List Message}
    (h : p.ensure driver family = (.ok (f, p'), driver', messages)) :
    p'.find? family = some f ∧ p'.Distinct ∧ p'.parkedBuffers = p.parkedBuffers := by
  unfold ensure at h
  split at h
  · rename_i g hfind
    cases h
    exact ⟨hfind, hp, rfl⟩
  · rename_i hfind
    split at h
    · cases h
    · cases h
      -- The new pool comes last and parks nothing.
      have hnew : ∀ g ∈ p.families, g.family ≠ family := by
        simpa [find?] using hfind
      refine ⟨?_, ?_, ?_⟩
      · rw [find?, List.find?_append, List.find?_eq_none.2 (by simpa using hnew)]
        simp
      · rw [Distinct, List.map_append, List.nodup_append]
        refine ⟨hp, by simp, ?_⟩
        intro a ha b hb
        obtain ⟨g, hg, rfl⟩ := List.mem_map.1 ha
        obtain rfl : b = family := by simpa using hb
        exact hnew g hg
      · simp [parkedBuffers, FamilyPool.parkedBuffers]

/-- The driver once a family is looked up: a pool may have been asked for. -/
def Opened (driver : σ) (family : Nat) (before : σ) : Prop :=
  before = driver ∨ before = (Driver.createCommandPool driver family).2

/-- What a request for a buffer of a kind and family comes to. -/
inductive Lent (p : CommandPools) (driver : σ) (kind : BufferKind) (family : Nat) :
    Except DeviceError (Handle .commandBuffer) × CommandPools × σ × List Message → Prop
  | refused {e p' driver' messages before} (same : p'.parkedBuffers = p.parkedBuffers)
      (opened : Opened driver family before)
      (empty : driver' = before ∨ ∃ pool answer,
        Driver.allocateCommandBuffers before pool kind.level 1 = (answer, driver') ∧
          ∀ buffers, answer = .ok buffers → buffers = []) :
    Lent p driver kind family (.error e, p', driver', messages)
  | parked {h p' driver' messages}
      (taken : p.parkedBuffers.Perm (⟨h, kind.level, family⟩ :: p'.parkedBuffers))
      (opened : Opened driver family driver') :
    Lent p driver kind family (.ok h, p', driver', messages)
  | made {h p' driver' messages before pool rest} (same : p'.parkedBuffers = p.parkedBuffers)
      (opened : Opened driver family before)
      (answered :
        Driver.allocateCommandBuffers before pool kind.level 1 = (.ok (h :: rest), driver'))
      (home : ∃ f ∈ p'.families, f.family = family ∧ f.pool = pool) :
    Lent p driver kind family (.ok h, p', driver', messages)

theorem lent_request {p : CommandPools} (hp : p.Distinct) (driver : σ) (kind : BufferKind)
    (family : Nat) : Lent p driver kind family (p.request driver kind.level family) := by
  have hopened : Opened driver family (p.ensure driver family).2.1 := by
    unfold ensure
    split
    · exact Or.inl rfl
    · split <;>
      · rename_i heq
        exact Or.inr (by rw [heq])
  unfold request
  split
  · rename_i hensure
    rw [hensure] at hopened
    exact .refused rfl hopened (Or.inl rfl)
  · rename_i f p' driver' messages hensure
    rw [hensure] at hopened
    obtain ⟨hfind, hp', hsame⟩ := ensure_spec hp hensure
    split
    · -- The buffer that was parked last is taken.
      rename_i buffer rest hparked
      obtain ⟨others, hbefore, hafter⟩ :=
        parkedBuffers_replace hp' hfind (family_setParked f kind.level rest)
      refine .parked ?_ hopened
      have hfamily := family_of_find? hfind
      have htaken := FamilyPool.parkedBuffers_setParked hparked
      rw [hfamily] at htaken
      calc p.parkedBuffers
        _ ~ f.parkedBuffers ++ others := hsame ▸ hbefore
        _ ~ ⟨buffer, kind.level, family⟩ ::
              (f.setParked kind.level rest).parkedBuffers ++ others :=
          htaken.append_right others
        _ ~ ⟨buffer, kind.level, family⟩ ::
              (p'.replace (f.setParked kind.level rest)).parkedBuffers :=
          hafter.symm.cons _
    · split
      · rename_i heq
        exact .refused hsame hopened (Or.inr ⟨_, _, heq, nofun⟩)
      · rename_i heq
        exact .made hsame hopened heq
          ⟨f, List.mem_of_find?_eq_some hfind, family_of_find? hfind, rfl⟩
      · rename_i heq
        exact .refused hsame hopened (Or.inr ⟨_, _, heq, fun _ h => (Except.ok.inj h).symm⟩)

theorem distinct_request {p : CommandPools} (hp : p.Distinct) (driver : σ) (level : Level)
    (family : Nat) : (p.request driver level family).2.1.Distinct := by
  unfold request
  split
  · exact hp
  · rename_i hensure
    obtain ⟨_, hp', _⟩ := ensure_spec hp hensure
    split
    · exact distinct_replace hp' _
    · split <;> exact hp'

end

/-! ## 4. On a trace no buffer is lent twice -/

/-- The buffers that are out on loan and those that are parked are all different, and the next
handle is none of them. -/
structure Accounts (held : List NativeBuffer) (p : CommandPools) (next : Nat) : Prop where
  families : p.Distinct
  handles : ((held ++ p.parkedBuffers).map (·.handle)).Nodup
  made : ∀ n ∈ held ++ p.parkedBuffers, n.handle.number < next
  kinds : ∀ n ∈ held, ∃ kind : BufferKind, n.level = kind.level

namespace Accounts

variable {held held' : List NativeBuffer} {p p' : CommandPools} {next next' : Nat}

theorem exchange (h : Accounts held p next) (hfamilies : p'.Distinct) (hnext : next ≤ next')
    (hsub : held' ++ p'.parkedBuffers <+~ held ++ p.parkedBuffers)
    (hkinds : ∀ n ∈ held', ∃ kind : BufferKind, n.level = kind.level) :
    Accounts held' p' next' where
  families := hfamilies
  handles := by
    obtain ⟨same, hsame, hless⟩ := hsub
    have hnodup := h.handles.sublist (hless.map (·.handle))
    exact (hsame.map _).nodup_iff.1 hnodup
  made := fun n hn => Nat.lt_of_lt_of_le (h.made n (hsub.subset hn)) hnext
  kinds := hkinds

theorem mono (h : Accounts held p next) (hnext : next ≤ next') : Accounts held p next' :=
  h.exchange h.families hnext (List.Perm.refl _).subperm h.kinds

theorem of_perm (h : Accounts held p next) (hperm : held ~ held') : Accounts held' p next := by
  apply h.exchange h.families (Nat.le_refl _) (hperm.symm.append_right _).subperm
  intro n hn
  exact h.kinds n (hperm.mem_iff.2 hn)

theorem giveBack {n : NativeBuffer} (h : Accounts (n :: held) p next) :
    Accounts held (p.giveBack n.level n.family n.handle).1 next := by
  have hrest : ∀ m ∈ held, ∃ kind : BufferKind, m.level = kind.level := fun m hm =>
    h.kinds m (List.mem_cons_of_mem _ hm)
  obtain ⟨kind, hkind⟩ := h.kinds n List.mem_cons_self
  refine h.exchange (distinct_giveBack h.families _ _ _) (Nat.le_refl _) ?_ hrest
  rw [hkind]
  rcases parkedBuffers_giveBack h.families kind n.family n.handle with hparked | ⟨_, hlost⟩
  · rw [← hkind] at hparked ⊢
    -- The buffer moves from the front of the held ones to the front of the parked ones.
    exact ((hparked.append_left held).trans List.perm_middle).subperm
  · rw [hlost]
    exact ((List.sublist_cons_self n held).append_right _).subperm

/-- A buffer that is lent was parked or is new. -/
theorem request {t : Trace} (h : Accounts held p t.next) (kind : BufferKind) (family : Nat) :
    let lent := p.request t kind.level family
    Accounts (lent.1.toOption.toList.map (⟨·, kind.level, family⟩) ++ held) lent.2.1
      lent.2.2.1.next := by
  have hnext : t.next ≤ (p.request t kind.level family).2.2.1.next :=
    (poolCalls_appends.request p t kind.level family).1
  have hdistinct := distinct_request h.families t kind.level family
  have hcase := lent_request h.families t kind family
  generalize p.request t kind.level family = lent at hnext hdistinct hcase ⊢
  cases hcase with
  | refused same =>
    refine h.exchange hdistinct hnext ?_ h.kinds
    show held ++ _ <+~ _
    rw [same]
  | parked taken =>
    refine h.exchange hdistinct hnext ?_ ?_
    · exact ((taken.append_left held).trans List.perm_middle).symm.subperm
    · intro n hn
      rcases List.mem_cons.1 hn with rfl | hn
      · exact ⟨kind, rfl⟩
      · exact h.kinds n hn
  | @made buffer p' t' _ before pool rest same opened answered =>
    -- The new buffer has the number of the next handle.
    have hbefore : t.next ≤ before.next := by
      rcases opened with rfl | rfl
      · exact Nat.le_refl _
      · exact Nat.le_succ _
    have hmade : buffer.number = before.next ∧ t'.next = before.next + 1 := by
      simp only [Driver.allocateCommandBuffers, Trace.allocateCommandBuffers] at answered
      split at answered
      · cases answered
      · cases answered
        exact ⟨rfl, rfl⟩
    have hall : ∀ n ∈ held ++ p'.parkedBuffers, n.handle.number < before.next := by
      intro n hn
      rw [same] at hn
      exact Nat.lt_of_lt_of_le (h.made n hn) hbefore
    refine ⟨hdistinct, ?_, ?_, ?_⟩
    · -- All the others have smaller numbers.
      have hhandles := h.handles
      rw [← same] at hhandles
      refine List.nodup_cons.2 ⟨?_, hhandles⟩
      intro hmem
      obtain ⟨n, hn, heq⟩ := List.mem_map.1 hmem
      have hlt := hall n hn
      rw [heq, hmade.1] at hlt
      exact Nat.lt_irrefl _ hlt
    · intro n hn
      show n.handle.number < t'.next
      rcases List.mem_cons.1 hn with rfl | hn
      · show buffer.number < t'.next
        omega
      · have hlt := hall n hn
        omega
    · intro n hn
      rcases List.mem_cons.1 hn with rfl | hn
      · exact ⟨kind, rfl⟩
      · exact h.kinds n hn

end Accounts

end CommandPools

end GpuRecorder.Device
