import GpuRecorder.Proofs.Recording.SetUse
import GpuRecorder.Proofs.Session.BoundLayout
import GpuRecorder.Proofs.Session.SideBySide

/-!
# A recording forgets the past

Opening a recording forgets what the command buffer remembers, and what the store and the pools keep
from before makes no difference but for the names of the descriptor sets.  So after any two pasts
that leave the same contents in the store, the same operations from an opening on are answered alike
and record the same.
-/

namespace GpuRecorder

open Native Resource Recording Device

/-! ## 1. Opening -/

namespace Recording.CommandBuffer

/-- What was bound and drawn before has no part in how a recording is opened. -/
theorem perform_begin_forgets {σ : Type} [Driver σ] {c : CommandBuffer} {n : NativeBuffer}
    (ready : c.native = some n) (bindings : Bindings) (stats : Draw.Stats) (d : Device σ) (s : Store)
    (pass : Option RenderPass) (subpass : Nat) (framebuffer : Option Framebuffer) :
    ({ c with bindings, stats } : CommandBuffer).perform d s (.begin pass subpass framebuffer) =
      c.perform d s (.begin pass subpass framebuffer) := by
  have ready' : ({ c with bindings, stats } : CommandBuffer).native = some n := ready
  simp only [perform, asked, CommandBuffer.begin, handle?_of_native ready, handle?_of_native ready']

end Recording.CommandBuffer

/-! ## 2. What the past leaves -/

namespace Session

/-- What a recording does leaves the contents of the store alone, and so does whatever is not done
by the owner of the store. -/
theorem alike_after {s : Session Trace} (settled : ∀ id, (s.store.layouts.get id).Settled)
    {e : Event} (h : ∀ c, e ≠ .act (.change c)) : s.store.Alike (s.after e).store := by
  apply after_cases (P := fun s' => s.store.Alike s'.store)
  case perform => exact fun n c op found => (c.alike_perform s.device settled op).1
  case change => exact fun c heq => absurd heq (h c)
  case stays | create | resetSets => exact .refl _
  case allocateSets | switch => exact fun _ => .refl _
  case submit => exact fun _ _ _ => .refl _

theorem alike_through (available : Capabilities) (settings : Settings) (events more : List Event)
    (h : ∀ c, .act (.change c) ∉ more) :
    ((start available settings).through events).store.Alike
      ((start available settings).through (events ++ more)).store := by
  induction more using List.reverseRecOn with
  | nil =>
    rw [List.append_nil]
    exact .refl _
  | append_singleton more e ih =>
    rw [← List.append_assoc, through_concat]
    refine (ih fun c hmem => h c (List.mem_append_left _ hmem)).trans (alike_after ?_ ?_)
    · exact settled_through available settings (events ++ more)
    · rintro c rfl
      exact h c (by simp)

/-- A command buffer of one kind holds a native buffer. -/
def IsReady (s : Session Trace) (n : Nat) (kind : BufferKind) (b : Handle .commandBuffer) : Prop :=
  ∃ c, s.buffers[n]? = some c ∧ c.kind = kind ∧ c.handle? = some b

/-! ## 3. Two pasts -/

/-- The same is recorded from two moments on, up to the names of the descriptor sets, with the same
answers and the same statistics. -/
structure RecordsAlike (n n' : Nat) (b b' : Handle .commandBuffer) (s s' : Session Trace)
    (ops : List Operation) : Prop where
  entries : ∃ f : Equiv.Perm (Handle .descriptorSet),
    callsInto b' (s'.device.driver.callsSince (s'.run (ops.map (.perform n'))).device.driver) =
      (callsInto b
        (s.device.driver.callsSince (s.run (ops.map (.perform n))).device.driver)).map
          (Call.moved b' f)
  answers : s'.answersOf n' (ops.map (.perform n')) = s.answersOf n (ops.map (.perform n))
  stats : (s'.run (ops.map (.perform n'))).buffers[n']?.map (·.stats) =
    (s.run (ops.map (.perform n))).buffers[n]?.map (·.stats)

theorem Twins.recordsAlike {x x' : Seat} {s s' : Session Trace} (h : Twins x x' s s')
    {ops : List Operation} (stay : ∀ op ∈ ops, op.moves = false) :
    RecordsAlike x.number x'.number x.native.handle x'.native.handle s s' ops := by
  obtain ⟨htwins, hanswers, calls, calls', hlog, hlog', hsame⟩ := h.run stay
  obtain ⟨c, found, _, _, found'⟩ := htwins.held
  refine ⟨?_, hanswers, by rw [found, found']; rfl⟩
  obtain ⟨f, hf, _⟩ := hsame.exists_perm
  rw [Trace.callsSince_of_append hlog, Trace.callsSince_of_append hlog']
  exact ⟨f, hf⟩

/-- From any two pasts that leave the same contents in the store: a buffer of the same kind that is
opened records the same from there on, whatever is asked of it, up to the names of the descriptor
sets.  It answers the same and counts the same. -/
theorem recording_forgets_past (available : Capabilities) (settings : Settings)
    {past past' : List Event} {n n' : Nat} {kind : BufferKind} {b b' : Handle .commandBuffer}
    (ready : ((start available settings).through past).IsReady n kind b)
    (ready' : ((start available settings).through past').IsReady n' kind b')
    (works : ((start available settings).through past).device.driver.setFailure = none)
    (works' : ((start available settings).through past').device.driver.setFailure = none)
    (alike : ((start available settings).through past).store.Alike
      ((start available settings).through past').store)
    (pass : Option RenderPass) (subpass : Nat) (framebuffer : Option Framebuffer)
    {ops : List Operation} (stay : ∀ op ∈ ops, op.moves = false) :
    RecordsAlike n n' b b' ((start available settings).through past)
      ((start available settings).through past') (.begin pass subpass framebuffer :: ops) := by
  have order := inOrder_through available settings past works
  have order' := inOrder_through available settings past' works'
  have capable := (capabilities_through available settings past').trans
    (capabilities_through available settings past).symm
  generalize (start available settings).through past = s at *
  generalize (start available settings).through past' = s' at *
  obtain ⟨c, found, rfl, hb⟩ := ready
  obtain ⟨c', found', hkind, hb'⟩ := ready'
  obtain ⟨native, hnative, rfl⟩ := Option.map_eq_some_iff.1 hb
  obtain ⟨native', hnative', rfl⟩ := Option.map_eq_some_iff.1 hb'
  have hlt := (List.getElem?_eq_some_iff.1 found').1
  -- What the second buffer remembers is forgotten at once, so it may as well be what the first does.
  let forged : Session Trace := { s' with buffers := s'.buffers.set n' (c.on native' c'.queue) }
  have hforged : forged.buffers[n']? = some (c.on native' c'.queue) := List.getElem?_set_self hlt
  have htwins : Twins ⟨n, native, c.queue⟩ ⟨n', native', c'.queue⟩ s forged :=
    ⟨⟨c, found, hnative, rfl, hforged⟩, ⟨_, order, order'⟩, capable, alike⟩
  have hsame : forged.perform n' (.begin pass subpass framebuffer) =
      s'.perform n' (.begin pass subpass framebuffer) := by
    have hbuffer : c.on native' c'.queue =
        { c' with bindings := c.bindings, stats := c.stats } := by
      rw [CommandBuffer.on, ← hkind, ← hnative']
    have hperform (d : Device Trace) (s : Store) := CommandBuffer.perform_begin_forgets hnative'
      c.bindings c.stats d s pass subpass framebuffer
    simp only [Session.perform, hforged, found', hbuffer, hperform]
    simp only [forged, List.set_set]
  have hrun : forged.run ((.begin pass subpass framebuffer :: ops).map (.perform n')) =
      s'.run ((.begin pass subpass framebuffer :: ops).map (.perform n')) :=
    congrArg (fun done => done.session.run (ops.map (.perform n'))) hsame
  have hanswers : forged.answersOf n' ((.begin pass subpass framebuffer :: ops).map (.perform n')) =
      s'.answersOf n' ((.begin pass subpass framebuffer :: ops).map (.perform n')) :=
    congrArg (fun done => (if some n' = some n' then [done.answer] else []) ++
      done.session.answersOf n' (ops.map (.perform n'))) hsame
  obtain ⟨hentries, hsameAnswers, hstats⟩ :
      RecordsAlike n n' native.handle native'.handle s forged
        (.begin pass subpass framebuffer :: ops) :=
    htwins.recordsAlike fun op hop => by
      rcases List.mem_cons.1 hop with rfl | hop
      · rfl
      · exact stay op hop
  rw [hrun] at hentries hstats
  rw [hanswers] at hsameAnswers
  exact ⟨hentries, hsameAnswers, hstats⟩

/-- A buffer bound in a layout and given to an assembler, and a command buffer that is set up. -/
def furnished : List Event := [
  .act (.change (.addBuffer { backing := { handle := ⟨300⟩, size := 64 } })),
  .act (.change (.addLayout (uniformPipeline 9 501).shader)),
  .act (.change (.addAssembler { streams := [⟨1⟩] })),
  .act (.change (.bind ⟨2⟩ (.buffer ⟨1⟩) 0 0 0)),
  .act .create,
  .act (.perform 0 (.setUp .primary ⟨⟨800⟩, 0⟩))]

def everythingBound : List Operation := [
  .begin none 0 none,
  .bindPipeline (uniformPipeline 9 501),
  .bindLayout ⟨2⟩,
  .bindAssembler ⟨3⟩,
  .finish]

/-- All of it was recorded before, or none of it: what differs is the name of the set. -/
theorem second_recording_like_first :
    let past' := furnished ++ everythingBound.map fun op => .act (.perform 0 op)
    let s := (start {} {}).through furnished
    let s' := (start {} {}).through past'
    let entries (s : Session Trace) := callsInto ⟨4097⟩
      (s.device.driver.callsSince (s.run (everythingBound.map (.perform 0))).device.driver)
    s.IsReady 0 .primary ⟨4097⟩ ∧ s'.IsReady 0 .primary ⟨4097⟩ ∧
      s.device.driver.setFailure = none ∧ s'.device.driver.setFailure = none ∧
      s.store.Alike s'.store ∧ RecordsAlike 0 0 ⟨4097⟩ ⟨4097⟩ s s' everythingBound ∧
      (entries s).flatMap boundSets = [⟨4099⟩] ∧ (entries s').flatMap boundSets = [⟨4100⟩] := by
  intro past' s s' entries
  have ready : s.IsReady 0 .primary ⟨4097⟩ := ⟨_, rfl, rfl, rfl⟩
  have ready' : s'.IsReady 0 .primary ⟨4097⟩ := ⟨_, rfl, rfl, rfl⟩
  have alike : s.store.Alike s'.store :=
    alike_through {} {} furnished _ (by simp [everythingBound])
  exact ⟨ready, ready', rfl, rfl, alike,
    recording_forgets_past {} {} ready ready' rfl rfl alike none 0 none (by decide),
    by decide +kernel, by decide +kernel⟩

end Session

end GpuRecorder
