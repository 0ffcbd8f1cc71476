import GpuRecorder.Proofs.Native.Observed
import GpuRecorder.Proofs.Recording.BindLayout
import GpuRecorder.Session

/-!
# What a session does to its driver

Whatever happens in a session, its driver is only ever called.  So a relation between driver states
that can be chained and holds across every call holds across every run.
-/

namespace GpuRecorder

open Native Resource Recording Device

variable {σ : Type} [Driver σ]

/-- A relation that can be chained and holds across every call that a session makes. -/
structure DriverCalls (R : σ → σ → Prop) : Prop extends PoolCalls R where
  submit : ∀ d queue buffers fence, R d (Driver.submit d queue buffers fence).2
  beginRecording : ∀ d buffer args, R d (Driver.beginRecording d buffer args).2
  endRecording : ∀ d buffer, R d (Driver.endRecording d buffer).2
  request : ∀ d r, R d (Driver.request d r).2

namespace DriverCalls

variable {R : σ → σ → Prop}

theorem play (h : DriverCalls R) (driver : σ) (s : Script) : R driver (s.play driver).2 := by
  induction s generalizing driver with
  | nil => exact h.refl driver
  | cons e s ih =>
    cases e with
    | report m => exact ih driver
    | request r => exact h.trans (h.request driver r) (ih _)

theorem resolveLayout (h : DriverCalls R) (d : Device σ) (handle : Handle .commandBuffer)
    (p : Pipeline) (l : Layout) :
    R d.driver (resolveLayout d handle p l).outcome.device.driver := by
  obtain ⟨script, _, hdevice⟩ : ∃ script, _ ∧ _ := resolves_played d handle p l
  rw [hdevice]
  refine h.trans ?_ (h.play _ script)
  unfold pooled
  split
  · exact h.refl _
  · exact h.allocate _ _ _

theorem perform (h : DriverCalls R) (c : CommandBuffer) (d : Device σ) (s : Store)
    (op : Operation) : R d.driver (c.perform d s op).outcome.device.driver := by
  cases hscript : c.scripted? d s op with
  | some r =>
    rw [(CommandBuffer.perform_scripted hscript).2]
    exact h.play d.driver r.2
  | none =>
    cases op with
    | setUp kind queue =>
      show R d.driver (c.setUp d kind queue).outcome.device.driver
      rw [(CommandBuffer.setUp_spec c d kind queue).1, ← CommandBuffer.driver_release c d]
      exact h.toPoolCalls.request _ _ kind.level queue.family
    | release =>
      show R d.driver (c.release d).outcome.device.driver
      rw [CommandBuffer.driver_release]
      exact h.refl _
    | begin pass subpass framebuffer =>
      simp only [CommandBuffer.perform, CommandBuffer.asked, CommandBuffer.begin]
      split
      · exact h.refl _
      · split
        · exact h.refl _
        · exact h.beginRecording _ _ _
    | finish =>
      simp only [CommandBuffer.perform, CommandBuffer.asked, CommandBuffer.finish]
      split
      · exact h.refl _
      · exact h.endRecording _ _
    | bindLayout id =>
      show R d.driver (c.bindLayout d s id).outcome.device.driver
      have hends := c.endsBinding d s id
      generalize c.bindLayout d s id = result at hends ⊢
      cases hends with
      | left why => exact h.refl _
      | resolved ready pipeline fresh fits done =>
        rw [done]
        exact h.resolveLayout _ _ _ _
    | _ => cases hscript

theorem step (h : DriverCalls R) (s : Session σ) (a : Action) :
    R s.device.driver (s.step a).session.device.driver := by
  have hperform (n : Nat) (op : Operation) :
      R s.device.driver (s.perform n op).session.device.driver := by
    unfold Session.perform
    split
    · exact h.refl _
    · exact h.perform _ _ _ op
  cases a with
  | change c => exact h.refl _
  | create => exact h.refl _
  | perform n op => exact hperform n op
  | execute n children => exact hperform n _
  | submit queue buffers fence =>
    simp only [Session.step, Session.ofDevice, Device.submit]
    split
    · exact h.refl _
    · exact h.submit _ _ _ _
  | resetSets => exact h.reset _ _

theorem run (h : DriverCalls R) (s : Session σ) (actions : List Action) :
    R s.device.driver (s.run actions).device.driver := by
  induction actions generalizing s with
  | nil => exact h.refl _
  | cons a actions ih => exact h.trans (h.step s a) (ih _)

end DriverCalls

/-- A relation that can be chained and holds across every call that closing a device makes. -/
structure DestroyingCalls (R : σ → σ → Prop) : Prop where
  refl : ∀ d, R d d
  trans : ∀ {a b c}, R a b → R b c → R a c
  destroyCommandPool : ∀ d pool, R d (Driver.destroyCommandPool d pool)
  destroyDescriptorPool : ∀ d pool, R d (Driver.destroyDescriptorPool d pool)

theorem DestroyingCalls.destroys {R : σ → σ → Prop} (h : DestroyingCalls R) (d : Device σ) :
    R d.driver d.close.driver := by
  have hfold {α : Type} (f : σ → α → σ) (hf : ∀ d a, R d (f d a)) (d : σ) (xs : List α) :
      R d (xs.foldl f d) :=
    List.foldlRecOn (motive := R d) xs f (h.refl d) fun d' hd' a _ => h.trans hd' (hf d' a)
  exact h.trans (hfold _ h.destroyDescriptorPool _ d.descriptorPools.pools)
    (hfold _ (fun d (f : FamilyPool) => h.destroyCommandPool d f.pool) _ d.commandPools.families)

/-- It also holds across every call that a session makes. -/
structure ClosingCalls (R : σ → σ → Prop) : Prop extends DriverCalls R, DestroyingCalls R

/-- Letting go of every command buffer is a run. -/
theorem Session.releaseAll_eq_run (s : Session σ) :
    s.releaseAll = s.run ((List.range s.buffers.length).map (.perform · .release)) := by
  rw [run, List.foldl_map]
  rfl

theorem ClosingCalls.close {R : σ → σ → Prop} (h : ClosingCalls R) (s : Session σ) :
    R s.device.driver s.close.device.driver := by
  refine h.trans ?_ (h.toDestroyingCalls.destroys s.releaseAll.device)
  rw [s.releaseAll_eq_run]
  exact h.run s _

/-! ## What stays -/

namespace Session

theorem keeps_step (s : Session σ) (a : Action) : s.store.Keeps (s.step a).session.store := by
  have hperform (n : Nat) (op : Operation) :
      s.store.Keeps (s.perform n op).session.store := by
    unfold Session.perform
    split
    · exact .refl _
    · exact CommandBuffer.keeps_perform _ _ _ op
  cases a with
  | change c => exact Store.keeps_apply s.store c
  | perform n op => exact hperform n op
  | execute n children => exact hperform n _
  | _ => exact .refl _

theorem capabilities_step (s : Session σ) (a : Action) :
    (s.step a).session.device.capabilities = s.device.capabilities := by
  have hperform (n : Nat) (op : Operation) :
      (s.perform n op).session.device.capabilities = s.device.capabilities := by
    unfold Session.perform
    split
    · rfl
    · exact CommandBuffer.capabilities_perform _ _ _ op
  cases a with
  | perform n op => exact hperform n op
  | execute n children => exact hperform n _
  | submit queue buffers fence =>
    simp only [step, ofDevice, Device.submit]
    split <;> rfl
  | _ => rfl

theorem capabilities_run (s : Session σ) (actions : List Action) :
    (s.run actions).device.capabilities = s.device.capabilities := by
  induction actions generalizing s with
  | nil => rfl
  | cons a actions ih => exact (ih _).trans (s.capabilities_step a)

theorem capabilities_close (s : Session σ) :
    s.close.device.capabilities = s.device.capabilities := by
  show s.releaseAll.device.capabilities = s.device.capabilities
  rw [s.releaseAll_eq_run]
  exact s.capabilities_run _

/-! ## Observed sessions -/

/-- A session that nothing has happened in, on an observed driver. -/
def observed {σ : Type} (driver : σ) (available : Capabilities) (settings : Settings) :
    Session (Observed σ) where
  device := (Device.start { driver } available settings).device

def history {σ : Type} (s : Session (Observed σ)) : List Call := s.device.driver.history

end Session

end GpuRecorder
