import GpuRecorder.Proofs.Session.Bench

/-!
# Invariants of a device

What holds of a device, and is kept by each of the few things that are ever asked of it, holds
after every operation of a command buffer, every action of a session and every task: they reach
the device in no other way.
-/

namespace GpuRecorder

open Native Resource Recording Device

variable {σ : Type} [Driver σ]

/-- A property that everything that is asked of a device keeps. -/
structure DeviceInvariant (I : Device σ → Prop) : Prop where
  request : ∀ {d}, I d → ∀ r, I { d with driver := (Driver.request d.driver r).2 }
  beginRecording : ∀ {d}, I d → ∀ buffer args,
    I { d with driver := (Driver.beginRecording d.driver buffer args).2 }
  endRecording : ∀ {d}, I d → ∀ buffer,
    I { d with driver := (Driver.endRecording d.driver buffer).2 }
  submit : ∀ {d}, I d → ∀ queue buffers fence,
    I { d with driver := (Driver.submit d.driver queue buffers fence).2 }
  requestBuffer : ∀ {d}, I d → ∀ level family, I (d.requestBuffer level family).device
  giveBackBuffer : ∀ {d}, I d → ∀ level family buffer,
    I (d.giveBackBuffer level family buffer).device
  allocateSets : ∀ {d}, I d → ∀ layouts, I (d.allocateSets layouts).device
  resetSets : ∀ {d}, I d → I d.resetSets.device
  held : ∀ {d}, I d → ∀ held, I { d with held }

namespace DeviceInvariant

variable {I : Device σ → Prop} {d : Device σ}

/-! ## 1. One operation -/

theorem play (h : DeviceInvariant I) (hd : I d) (script : Script) : I (d.play script).device := by
  show I { d with driver := (script.play d.driver).2 }
  induction script generalizing d with
  | nil => exact hd
  | cons e script ih =>
    cases e with
    | report m => exact ih hd
    | request r => exact ih (h.request hd r)

theorem release (h : DeviceInvariant I) (hd : I d) (c : CommandBuffer) :
    I (c.release d).outcome.device := by
  unfold CommandBuffer.release
  split
  · exact hd
  · exact h.giveBackBuffer hd _ _ _

theorem resolveLayout (h : DeviceInvariant I) (hd : I d) (handle : Handle .commandBuffer)
    (p : Pipeline) (l : Layout) : I (resolveLayout d handle p l).outcome.device := by
  obtain ⟨script, _, hdevice⟩ : ∃ script, _ ∧ _ := resolves_played d handle p l
  rw [hdevice]
  apply h.play
  unfold pooled
  split
  · exact hd
  · exact h.allocateSets hd _

theorem perform (h : DeviceInvariant I) (hd : I d) (c : CommandBuffer) (s : Store)
    (op : Operation) : I (c.perform d s op).outcome.device := by
  cases hscript : c.scripted? d s op with
  | some r =>
    rw [(CommandBuffer.perform_scripted hscript).2]
    exact h.play hd r.2
  | none =>
    -- What is left asks the device itself.
    cases op with
    | setUp kind queue =>
      show I (c.setUp d kind queue).outcome.device
      rw [(CommandBuffer.setUp_spec c d kind queue).1]
      exact h.requestBuffer (h.release hd c) _ _
    | release => exact h.release hd c
    | begin pass subpass framebuffer =>
      simp only [CommandBuffer.perform, CommandBuffer.asked, CommandBuffer.begin]
      split
      · exact hd
      · split
        · exact hd
        · exact h.beginRecording hd _ _
    | finish =>
      simp only [CommandBuffer.perform, CommandBuffer.asked, CommandBuffer.finish]
      split
      · exact hd
      · exact h.endRecording hd _
    | bindLayout id =>
      show I (c.bindLayout d s id).outcome.device
      have hends := c.endsBinding d s id
      generalize c.bindLayout d s id = result at hends ⊢
      cases hends with
      | left why => exact hd
      | resolved ready pipeline fresh fits done =>
        rw [done]
        exact h.resolveLayout hd _ _ _
    | _ => cases hscript

/-! ## 2. Runs -/

theorem step (h : DeviceInvariant I) {s : Session σ} (hs : I s.device) (a : Action) :
    I (s.step a).session.device := by
  have hperform (n : Nat) (op : Operation) : I (s.perform n op).session.device := by
    unfold Session.perform
    split
    · exact hs
    · exact h.perform hs _ _ op
  cases a with
  | change c => exact hs
  | create => exact hs
  | perform n op => exact hperform n op
  | execute n children => exact hperform n _
  | submit queue buffers fence =>
    simp only [Session.step, Session.ofDevice, Device.submit]
    split
    · exact hs
    · exact h.submit hs _ _ _
  | resetSets => exact h.resetSets hs

theorem run (h : DeviceInvariant I) {s : Session σ} (hs : I s.device) (actions : List Action) :
    I (s.run actions).device := by
  induction actions generalizing s with
  | nil => exact hs
  | cons a actions ih => exact ih (h.step hs a)

theorem releaseAll (h : DeviceInvariant I) {s : Session σ} (hs : I s.device) :
    I s.releaseAll.device := by
  rw [s.releaseAll_eq_run]
  exact h.run hs _

/-- Until the device is dropped, a task keeps what actions and switches keep. -/
theorem task (h : DeviceInvariant I) {flip : Switch → σ → σ}
    (flips : ∀ {d}, I d → ∀ x, I { d with driver := flip x d.driver }) {b : Bench σ}
    (hb : I b.session.device) {t : Task} (notClosed : t ≠ .close) :
    I (b.step flip t).bench.session.device := by
  cases t with
  | act a => exact h.step hb a
  | borrow level family => exact h.requestBuffer hb level family
  | giveBack level family n =>
    show I (b.giveBack level family n).bench.session.device
    unfold Bench.giveBack
    split
    · exact hb
    · exact h.giveBackBuffer hb _ _ _
  | allocateSets layouts => exact h.allocateSets hb layouts
  | hold =>
    show I b.hold.bench.session.device
    unfold Bench.hold tryHold
    split
    · exact hb
    · rename_i heq
      split at heq
      · cases heq
      · cases heq
        exact h.held hb true
  | letGo => exact h.held hb false
  | close => exact absurd rfl notClosed
  | switch x => exact flips hb x

theorem tasks (h : DeviceInvariant I) {flip : Switch → σ → σ}
    (flips : ∀ {d}, I d → ∀ x, I { d with driver := flip x d.driver }) {b : Bench σ}
    (hb : I b.session.device) {tasks : List Task} (notClosed : ∀ t ∈ tasks, t ≠ .close) :
    I (b.run flip tasks).session.device := by
  induction tasks generalizing b with
  | nil => exact hb
  | cons t tasks ih =>
    exact ih (h.task flips hb (notClosed t List.mem_cons_self)) fun t ht =>
      notClosed t (List.mem_cons_of_mem _ ht)

end DeviceInvariant

end GpuRecorder
