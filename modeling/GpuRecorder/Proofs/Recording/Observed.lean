import GpuRecorder.Proofs.Device.Asking
import GpuRecorder.Proofs.Device.Ledger
import GpuRecorder.Proofs.Recording.BindLayout

/-!
# Operations on an observed driver

What an operation adds to the history of an observed driver.  Borrowing asks the command pools,
binding a layout asks the descriptor pools and sends one script, and every other operation only
records into command buffers and delivers no descriptors.
-/

namespace GpuRecorder.Recording

open Native Resource Device

variable {σ : Type} [Driver σ]

/-! ## 1. Recording -/

theorem lends_of_plain {c : Call} (h : Plain c) : lends c = false := by
  have htarget := h.target
  cases c with
  | createCommandPool family pool => cases htarget
  | allocateCommandBuffers pool level buffers => cases htarget
  | _ => rfl

namespace CommandBuffer

theorem appends_perform (c : CommandBuffer) (d : Device (Observed σ)) (s : Store) {op : Operation}
    (hmoves : op.moves = false) (hbind : ∀ id, op ≠ .bindLayout id) :
    Observed.Appends Plain d.driver (c.perform d s op).outcome.device.driver := by
  cases hscript : c.scripted? d s op with
  | some r =>
    rw [(perform_scripted hscript).2]
    exact .of_append (d.driver.history_play r.2) (plain_scripted hscript)
  | none =>
    cases op with
    | setUp kind queue => cases hmoves
    | release => cases hmoves
    | bindLayout id => exact absurd rfl (hbind id)
    | begin pass subpass framebuffer =>
      simp only [perform, asked, CommandBuffer.begin]
      split
      · exact .refl _
      · split
        · exact .refl _
        · exact .answered (fun _ => ⟨rfl, by simp [Call.sort?]⟩) _ _
    | finish =>
      simp only [perform, asked, finish]
      split
      · exact .refl _
      · exact .answered (fun _ => ⟨rfl, by simp [Call.sort?]⟩) _ _
    | _ => cases hscript

/-- Borrowing and giving back asks the command pools. -/
theorem lends_of_moves (c : CommandBuffer) (d : Device (Observed σ)) (s : Store) {op : Operation}
    (hmoves : op.moves = true) :
    Observed.Appends (lends ·) d.driver (c.perform d s op).outcome.device.driver := by
  cases op with
  | setUp kind queue =>
    show Observed.Appends _ d.driver (c.setUp d kind queue).outcome.device.driver
    rw [(setUp_spec c d kind queue).1, ← driver_release c d]
    exact Ledger.lendingCalls_observed.request _ _ kind.level queue.family
  | release =>
    show Observed.Appends _ d.driver (c.release d).outcome.device.driver
    rw [driver_release]
    exact .refl _
  | _ => cases hmoves

end CommandBuffer

/-! ## 2. Resolving a layout -/

/-- Asking for what a layout needs leaves nothing, or pools that were made and then the grant. -/
theorem history_pooled (d : Device (Observed σ)) (p : Pipeline) (l : Layout) :
    Observed.Appends (lends · = false) d.driver (pooled d p l).driver := by
  unfold pooled
  split
  · exact .refl _
  · obtain ⟨tries, htries, hanswer⟩ := history_allocate d.descriptorPools d.driver
      (p.shader.nativeLayouts (sharedSets l p.shader))
    have hquiet : ∀ c ∈ tries, lends c = false := by
      intro c hc
      have hmakes := htries c hc
      cases c with
      | createDescriptorPool pool maxSets => rfl
      | _ => cases hmakes
    show Observed.Appends _ d.driver (d.descriptorPools.allocate d.driver _).driver
    split at hanswer
    · rcases hanswer with ⟨_, _, hsame⟩ | ⟨pool, hhistory⟩
      · exact .of_history_eq hsame
      · refine .of_append hhistory fun c hc => ?_
        rcases List.mem_append.1 hc with hc | hc
        · exact hquiet c hc
        · rw [List.mem_singleton.1 hc]
          rfl
    · exact .of_append hanswer hquiet

namespace CommandBuffer

theorem lends_bindLayout (c : CommandBuffer) (d : Device (Observed σ)) (s : Store)
    (id : ResourceId) :
    Observed.Appends (lends · = false) d.driver (c.bindLayout d s id).outcome.device.driver := by
  have hends := c.endsBinding d s id
  generalize c.bindLayout d s id = result at hends ⊢
  cases hends with
  | left why => exact .refl _
  | @resolved b p r ready pipeline fresh fits done =>
    obtain ⟨script, _, hdevice⟩ : ∃ script, _ ∧ _ :=
      resolves_played d b p (s.refreshed (s.layouts.get id))
    rw [← done] at hdevice
    rw [hdevice]
    refine (history_pooled d p _).trans (.of_append (Observed.history_play _ script) ?_)
    intro c hc
    obtain ⟨r, _, rfl⟩ := List.mem_map.1 hc
    rfl

/-- Unless it borrows, an operation hands out no command buffer. -/
theorem lends_perform (c : CommandBuffer) (d : Device (Observed σ)) (s : Store) {op : Operation}
    (hmoves : op.moves = false) :
    Observed.Appends (lends · = false) d.driver (c.perform d s op).outcome.device.driver := by
  by_cases hbind : ∃ id, op = .bindLayout id
  · obtain ⟨id, rfl⟩ := hbind
    exact c.lends_bindLayout d s id
  · exact (c.appends_perform d s hmoves fun id hid => hbind ⟨id, hid⟩).mono fun _ => lends_of_plain

end CommandBuffer

end GpuRecorder.Recording
