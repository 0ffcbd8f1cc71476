import GpuRecorder.Proofs.Device.Asking
import GpuRecorder.Proofs.Device.PoolCursor
import GpuRecorder.Proofs.Native.Journal
import GpuRecorder.Proofs.Session.BoundLayout

/-!
# A binding that fails

Binding a layout fails only where no sets can be had for it, and then nothing has been sent.  Over
any driver, whatever it refuses: the journal has grown by attempts to make pools and by requests
for sets that were refused, every command buffer is as before, and the layout has the sets it had.
Only its data was refreshed.  So binding the layout again is not left out until it has succeeded.
-/

namespace GpuRecorder.Native

variable {σ : Type}

/-! ## 1. Attempts that lead to nothing -/

/-- An attempt to make a descriptor pool, or one to have sets that was refused. -/
def Attempt.Barren : Attempt → Prop
  | .through (.createDescriptorPool _ _) => True
  | .refused .descriptorPool _ | .refused .descriptorSets _ => True
  | _ => False

/-- Since a moment the journal has grown by attempts of one sort. -/
def Journal.Grows (Q : Attempt → Prop) (j j' : Journal σ) : Prop :=
  ∃ more, j'.attempts = j.attempts ++ more ∧ ∀ a ∈ more, Q a

theorem Journal.Grows.refl (Q : Attempt → Prop) (j : Journal σ) : Journal.Grows Q j j :=
  ⟨[], (List.append_nil _).symm, fun _ h => absurd h List.not_mem_nil⟩

theorem Journal.Grows.trans {Q : Attempt → Prop} {j j' j'' : Journal σ} (h : Journal.Grows Q j j')
    (h' : Journal.Grows Q j' j'') : Journal.Grows Q j j'' := by
  obtain ⟨more, hattempts, hmore⟩ := h
  obtain ⟨more', hattempts', hmore'⟩ := h'
  refine ⟨more ++ more', by rw [hattempts', hattempts, List.append_assoc], fun a ha => ?_⟩
  exact (List.mem_append.1 ha).elim (hmore a) (hmore' a)

theorem attempts_barren [Driver σ] : Device.Attempts (Journal.Grows (σ := σ) Attempt.Barren) where
  refl := .refl _
  trans := .trans
  createDescriptorPool j maxSets sizes := by
    refine ⟨[_], rfl, fun a ha => ?_⟩
    rw [List.mem_singleton.1 ha]
    cases (Driver.createDescriptorPool j.driver maxSets sizes).1 <;> trivial
  refused := by
    intro j pool layouts code j' h
    have hanswer : (Driver.allocateDescriptorSets j.driver pool layouts).1 = .error code :=
      congrArg Prod.fst h
    have hattempts : (Driver.allocateDescriptorSets j pool layouts).2.attempts = j'.attempts := by
      rw [h]
    refine ⟨[.refused .descriptorSets code], ?_, fun a ha => ?_⟩
    · rw [← hattempts]
      show j.attempts ++ [_] = _
      rw [hanswer]
      rfl
    · rw [List.mem_singleton.1 ha]
      trivial

end GpuRecorder.Native

namespace GpuRecorder.Recording

open Native Resource Device

variable {σ : Type} [Driver σ]

/-! ## 2. One command buffer -/

/-- A layout fails to be resolved only where the pools have no sets for it; nothing was sent. -/
theorem resolveLayout_of_error {d : Device σ} {b : Handle .commandBuffer} {p : Pipeline}
    {l : Layout} {f : Failure} (h : (resolveLayout d b p l).outcome.answer = .error f) :
    let count := sharedSets l p.shader
    0 < count ∧ (resolveLayout d b p l).layout = l ∧
      (d.allocateSets (p.shader.nativeLayouts count)).answer = .error f ∧
      (resolveLayout d b p l).outcome.device =
        (d.allocateSets (p.shader.nativeLayouts count)).device := by
  obtain ⟨script, hresolves, hdevice⟩ := resolves_played d b p l
  rw [h] at hresolves
  generalize (resolveLayout d b p l).layout = l' at hresolves ⊢
  cases hresolves with
  | refused hpos hpush hsets =>
    rw [pooled_of_pos hpos hpush] at hdevice
    exact ⟨hpos, rfl, hsets, hdevice⟩

namespace CommandBuffer

/-- How a binding that fails was made: everything was in place for it but the sets. -/
structure FailsBinding (c : CommandBuffer) (d : Device σ) (store : Store) (id : ResourceId)
    (f : Failure) (result : LayoutBinding σ) (b : Handle .commandBuffer) (p : Pipeline) :
    Prop where
  ready : c.handle? = some b
  pipeline : c.bindings.pipeline = some p
  fresh : c.bindings.layout ≠ some id
  fits : mismatch? (store.layouts.get id) p.shader = none
  shared : 0 < sharedSets (store.layouts.get id) p.shader
  unchanged : result.buffer = c
  refreshed : result.store = store.setLayout id (store.refreshed (store.layouts.get id))
  refused : (d.allocateSets
    (p.shader.nativeLayouts (sharedSets (store.layouts.get id) p.shader))).answer = .error f
  device : result.outcome.device = (d.allocateSets
    (p.shader.nativeLayouts (sharedSets (store.layouts.get id) p.shader))).device

theorem failsBinding {c : CommandBuffer} {d : Device σ} {store : Store} {id : ResourceId}
    {f : Failure} (h : (c.bindLayout d store id).outcome.answer = .error f) :
    ∃ b p, c.FailsBinding d store id f (c.bindLayout d store id) b p := by
  have hends := c.endsBinding d store id
  generalize c.bindLayout d store id = result at hends h ⊢
  cases hends with
  | left why => cases h
  | @resolved b p r ready pipeline fresh fits done =>
    subst done
    obtain ⟨hshared, hlayout, hrefused, hdevice⟩ := resolveLayout_of_error h
    have hcount : sharedSets (store.refreshed (store.layouts.get id)) p.shader =
        sharedSets (store.layouts.get id) p.shader :=
      sharedSets_of_shape_eq (Layout.shape_refresh _ _ _) p.shader
    rw [hcount] at hshared hrefused hdevice
    exact ⟨b, p,
      { ready
        pipeline
        fresh
        fits := mismatch?_eq_none_iff.2 fits
        shared := hshared
        unchanged := by
          show c.withLayout id _ = c
          rw [h]
          rfl
        refreshed := by
          show store.setLayout id _ = _
          rw [hlayout]
        refused := hrefused
        device := hdevice }⟩

/-- A layout that was not the bound one is bound only by binding it successfully. -/
theorem layout_perform {c : CommandBuffer} {d : Device σ} {s : Store} {op : Operation}
    {id : ResourceId} (hbefore : c.bindings.layout ≠ some id)
    (hafter : (c.perform d s op).buffer.bindings.layout = some id) :
    op = .bindLayout id ∧ (c.perform d s op).outcome.answer = .done := by
  cases hscript : c.scripted? d s op with
  | some r =>
    rw [(perform_scripted hscript).1, (leaves_scripted hscript).layout] at hafter
    exact absurd hafter hbefore
  | none =>
    cases op with
    | setUp kind queue =>
      change (c.setUp d kind queue).buffer.bindings.layout = some id at hafter
      rw [(setUp_spec c d kind queue).2] at hafter
      change (if c.isReady then {} else c.bindings : Bindings).layout = some id at hafter
      split at hafter
      · cases hafter
      · exact absurd hafter hbefore
    | release => cases hafter
    | begin pass subpass framebuffer =>
      simp only [perform, asked, CommandBuffer.begin] at hafter
      split at hafter
      · exact absurd hafter hbefore
      · split at hafter <;> cases hafter
    | finish =>
      simp only [perform, asked, finish] at hafter
      split at hafter <;> exact absurd hafter hbefore
    | bindLayout other =>
      change (c.bindLayout d s other).buffer.bindings.layout = some id at hafter
      show _ ∧ Answer.ofAttempt (c.bindLayout d s other).outcome.answer = .done
      have hends := c.endsBinding d s other
      generalize c.bindLayout d s other = result at hends hafter ⊢
      cases hends with
      | left why => exact absurd hafter hbefore
      | @resolved b p r ready pipeline fresh fits done =>
        cases hanswer : r.outcome.answer with
        | error f =>
          rw [hanswer] at hafter
          exact absurd hafter hbefore
        | ok u =>
          rw [hanswer] at hafter
          cases hafter
          exact ⟨rfl, rfl⟩
    | _ => cases hscript

end CommandBuffer

end GpuRecorder.Recording

/-! ## 3. A session -/

namespace GpuRecorder.Session

open Native Resource Recording Device

variable {σ : Type}

/-- A command buffer has a layout for its bound one, so that binding it is left out. -/
def Remembers (s : Session σ) (n : Nat) (id : ResourceId) : Prop :=
  ∃ c, s.buffers[n]? = some c ∧ c.bindings.layout = some id

theorem buffers_set_self {s : Session σ} {n : Nat} {c : CommandBuffer}
    (hc : s.buffers[n]? = some c) : s.buffers.set n c = s.buffers := by
  obtain ⟨hlt, rfl⟩ := List.getElem?_eq_some_iff.1 hc
  exact List.set_getElem_self hlt

variable [Driver σ]

/-- What a command buffer comes to remember, it was successfully bound to. -/
theorem remembers_step {s : Session σ} {n : Nat} {id : ResourceId} {a : Action}
    (hbefore : ¬ s.Remembers n id) (hafter : (s.step a).session.Remembers n id) :
    a = .perform n (.bindLayout id) ∧ (s.step a).answer = .done := by
  have hperformed {m : Nat} {op : Operation} (h : (s.perform m op).session.Remembers n id) :
      m = n ∧ op = .bindLayout id ∧ (s.perform m op).answer = .done := by
    obtain ⟨c', hc', hid⟩ := h
    unfold perform at hc' ⊢
    split at hc'
    · exact absurd ⟨c', hc', hid⟩ hbefore
    · rename_i c hc
      by_cases hm : m = n
      · subst hm
        have hlt : m < s.buffers.length := (List.getElem?_eq_some_iff.1 hc).1
        rw [List.getElem?_set_self hlt] at hc'
        obtain rfl := Option.some.inj hc'
        have hne : c.bindings.layout ≠ some id := fun heq => hbefore ⟨c, hc, heq⟩
        exact ⟨rfl, CommandBuffer.layout_perform hne hid⟩
      · rw [List.getElem?_set_ne hm] at hc'
        exact absurd ⟨c', hc', hid⟩ hbefore
  cases a with
  | change x => exact absurd hafter hbefore
  | create =>
    obtain ⟨c, hc, hid⟩ := hafter
    rcases Nat.lt_or_ge n s.buffers.length with hlt | hge
    · rw [show (s.step .create).session.buffers = s.buffers ++ [{}] from rfl,
        List.getElem?_append_left hlt] at hc
      exact absurd ⟨c, hc, hid⟩ hbefore
    · -- The new command buffer has nothing bound.
      rw [show (s.step .create).session.buffers = s.buffers ++ [{}] from rfl,
        List.getElem?_append_right hge] at hc
      obtain rfl := List.mem_singleton.1 (List.mem_of_getElem? hc)
      cases hid
  | perform m op =>
    obtain ⟨rfl, rfl, hanswer⟩ := hperformed hafter
    exact ⟨rfl, hanswer⟩
  | execute m children =>
    obtain ⟨_, hop, _⟩ := hperformed hafter
    cases hop
  | submit queue buffers fence => exact absurd hafter hbefore
  | resetSets => exact absurd hafter hbefore

/-- Over a run: where a layout is remembered that was not before, it was bound on the way. -/
theorem remembers_run {s : Session σ} {n : Nat} {id : ResourceId} {actions : List Action}
    (hbefore : ¬ s.Remembers n id) (hafter : (s.run actions).Remembers n id) :
    ∃ earlier later, actions = earlier ++ .perform n (.bindLayout id) :: later ∧
      ¬ (s.run earlier).Remembers n id ∧
      ((s.run earlier).perform n (.bindLayout id)).answer = .done := by
  induction actions generalizing s with
  | nil => exact absurd hafter hbefore
  | cons a actions ih =>
    by_cases hnext : (s.step a).session.Remembers n id
    · obtain ⟨rfl, hanswer⟩ := remembers_step hbefore hnext
      exact ⟨[], actions, rfl, hbefore, hanswer⟩
    · obtain ⟨earlier, later, rfl, hnot, hanswer⟩ := ih hnext hafter
      exact ⟨a :: earlier, later, rfl, hnot, hanswer⟩

theorem perform_bindLayout {s : Session σ} {n : Nat} {c : CommandBuffer}
    (hc : s.buffers[n]? = some c) (id : ResourceId) :
    s.perform n (.bindLayout id) =
      { session :=
          { device := (c.bindLayout s.device s.store id).outcome.device
            store := (c.bindLayout s.device s.store id).store
            buffers := s.buffers.set n (c.bindLayout s.device s.store id).buffer }
        answer := .ofAttempt (c.bindLayout s.device s.store id).outcome.answer
        messages := (c.bindLayout s.device s.store id).outcome.messages } := by
  simp only [perform, hc]
  rfl

/-- Binding a layout now delivers it for the bound pipeline. -/
def Delivers (s : Session σ) (n : Nat) (id : ResourceId) : Prop :=
  ∃ c b p, s.buffers[n]? = some c ∧ c.handle? = some b ∧ c.bindings.pipeline = some p ∧
    0 < sharedSets (s.store.layouts.get id) p.shader ∧
    let r := resolveLayout s.device b p (s.store.refreshed (s.store.layouts.get id))
    (s.perform n (.bindLayout id)).answer = .ofAttempt r.outcome.answer ∧
      (s.perform n (.bindLayout id)).session.device = r.outcome.device

theorem delivers_of_fresh {s : Session σ} {n : Nat} {id : ResourceId} {c : CommandBuffer}
    {b : Handle .commandBuffer} {p : Pipeline} (hc : s.buffers[n]? = some c)
    (hb : c.handle? = some b) (hp : c.bindings.pipeline = some p)
    (hfresh : c.bindings.layout ≠ some id)
    (hfits : mismatch? (s.store.layouts.get id) p.shader = none)
    (hshared : 0 < sharedSets (s.store.layouts.get id) p.shader) : s.Delivers n id := by
  refine ⟨c, b, p, hc, hb, hp, hshared, ?_⟩
  rw [perform_bindLayout hc, CommandBuffer.outcome_bindLayout hb hp hfresh hfits]
  exact ⟨rfl, rfl⟩

/-! ## 4. A binding that fails -/

/-- What a failed binding of a layout leaves: attempts in the journal that led to nothing, every
command buffer as it was, and the data of the layout refreshed. -/
structure Unbound (s s' : Session (Journal σ)) (id : ResourceId) : Prop where
  tried : s.device.driver.Grows Attempt.Barren s'.device.driver
  buffers : s'.buffers = s.buffers
  store : s'.store = s.store.setLayout id (s.store.refreshed (s.store.layouts.get id))
  nativeSets : ∀ l, (s'.store.layouts.get l).nativeSets = (s.store.layouts.get l).nativeSets

theorem grows_of_refused {d : Device (Journal σ)} {layouts : List (Handle .setLayout)} {f : Failure}
    (h : (d.allocateSets layouts).answer = .error f) :
    d.driver.Grows Attempt.Barren (d.allocateSets layouts).device.driver := by
  have hasked := asked_allocate attempts_barren d.descriptorPools d.driver layouts
  change (d.descriptorPools.allocate d.driver layouts).answer = _ at h
  show d.driver.Grows _ (d.descriptorPools.allocate d.driver layouts).driver
  generalize d.descriptorPools.allocate d.driver layouts = a at hasked h ⊢
  cases hasked with
  | nothing _ => cases h
  | refused tried => exact tried
  | granted _ _ => cases h

theorem ofAttempt_eq_failed {answer : Except Failure Unit} {f : Failure}
    (h : Answer.ofAttempt answer = .failed f) : answer = .error f := by
  cases answer with
  | ok u => cases h
  | error f' => exact congrArg Except.error (Answer.failed.inj h)

/-- Over every driver, whatever it refuses: a binding that fails has recorded nothing, written no
set and changed no command buffer, and the layout has the sets it had.  The next one is delivered,
and the layout is not left out later on but after a binding that succeeded. -/
theorem failed_bindLayout_leaves_all (s : Session (Journal σ)) (n : Nat) (id : ResourceId)
    (f : Failure) (h : (s.perform n (.bindLayout id)).answer = .failed f) :
    let s' := (s.perform n (.bindLayout id)).session
    s.Unbound s' id ∧ s'.Delivers n id ∧
      ∀ actions, (s'.run actions).Remembers n id →
        ∃ earlier later, actions = earlier ++ .perform n (.bindLayout id) :: later ∧
          ¬ (s'.run earlier).Remembers n id ∧
          ((s'.run earlier).perform n (.bindLayout id)).answer = .done := by
  intro s'
  obtain ⟨c, hc⟩ : ∃ c, s.buffers[n]? = some c := by
    cases hc : s.buffers[n]? with
    | none =>
      rw [perform, hc] at h
      cases h
    | some c => exact ⟨c, rfl⟩
  have hperform := perform_bindLayout hc id
  rw [hperform] at h
  obtain ⟨b, p, hfails⟩ := CommandBuffer.failsBinding (ofAttempt_eq_failed h)
  have hs' : s' = _ := congrArg Step.session hperform
  rw [hfails.device, hfails.refreshed, hfails.unchanged, buffers_set_self hc] at hs'
  have hlayout : s'.store.layouts.get id = s.store.refreshed (s.store.layouts.get id) := by
    rw [hs']
    exact Table.get_set_self _ _ _
  have hshape : (s'.store.layouts.get id).shape = (s.store.layouts.get id).shape := by
    rw [hlayout]
    exact Layout.shape_refresh _ _ _
  have hc' : s'.buffers[n]? = some c := by
    rw [hs']
    exact hc
  have hforgotten : ¬ s'.Remembers n id := by
    rintro ⟨c', hmem, hid⟩
    cases hc'.symm.trans hmem
    exact hfails.fresh hid
  refine ⟨⟨?_, ?_, ?_, ?_⟩, ?_, fun actions => remembers_run hforgotten⟩
  · rw [hs']
    exact grows_of_refused hfails.refused
  · rw [hs']
  · rw [hs']
  · intro l
    by_cases hl : l = id
    · rw [hl, hlayout]
      rfl
    · rw [hs']
      exact congrArg Layout.nativeSets (Table.get_set_of_ne _ hl _)
  · -- The refreshed layout fits the pipeline as it did before.
    refine delivers_of_fresh hc' hfails.ready hfails.pipeline hfails.fresh ?_ ?_
    · refine mismatch?_eq_none_iff.2 fun set hset => ?_
      rw [sharedSets_of_shape_eq hshape] at hset
      rw [Layout.slots_of_shape_eq hshape]
      exact mismatch?_eq_none_iff.1 hfails.fits set hset
    · rw [sharedSets_of_shape_eq hshape]
      exact hfails.shared

/-- A recording with a pipeline bound, over a driver that goes on to refuse sets for lack of room,
makes one more pool and refuses again. -/
theorem failed_bindLayout_after_growth :
    let driver : Journal Prepared :=
      { driver := { outcomes := [none, none, none, some .outOfPoolMemory, none,
          some .fragmentedPool] } }
    let p := uniformPipeline 2 501
    let s : Session (Journal Prepared) := run { device := (Device.start driver {} {}).device } [
      .change (.addLayout p.shader), .create, .perform 0 (.setUp .primary ⟨⟨800⟩, 0⟩),
      .perform 0 (.begin none 0 none), .perform 0 (.bindPipeline p)]
    let step := s.perform 0 (.bindLayout ⟨1⟩)
    let s' := step.session
    step.answer = .failed (.error (.outOfPoolMemory 1)) ∧
      s'.device.driver.attempts = s.device.driver.attempts ++ [
        .through (.createDescriptorPool ⟨3⟩ 128), .refused .descriptorSets .outOfPoolMemory,
        .through (.createDescriptorPool ⟨4⟩ 128), .refused .descriptorSets .fragmentedPool] ∧
      (s.Unbound s' ⟨1⟩ ∧ s'.Delivers 0 ⟨1⟩ ∧
        ∀ actions, (s'.run actions).Remembers 0 ⟨1⟩ →
          ∃ earlier later, actions = earlier ++ .perform 0 (.bindLayout ⟨1⟩) :: later ∧
            ¬ (s'.run earlier).Remembers 0 ⟨1⟩ ∧
            ((s'.run earlier).perform 0 (.bindLayout ⟨1⟩)).answer = .done) ∧
      (s'.perform 0 (.bindLayout ⟨1⟩)).answer = .done := by
  intro driver p s step s'
  have hanswer : step.answer = .failed (.error (.outOfPoolMemory 1)) := by decide
  exact ⟨hanswer, by decide, failed_bindLayout_leaves_all s 0 ⟨1⟩ _ hanswer, by decide⟩

end GpuRecorder.Session
