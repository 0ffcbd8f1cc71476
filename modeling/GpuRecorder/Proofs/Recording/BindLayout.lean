import GpuRecorder.Proofs.Recording.Frame

/-!
# Binding a layout

A layout is resolved only for a pipeline that it fits and only if it is not the bound one; in every
other case nothing is sent and nothing changes (`BindsLayout`).
-/

namespace GpuRecorder.Recording

open Native Resource Device

theorem sharedSets_of_shape_eq {l l' : Layout} (h : l'.shape = l.shape) (s : Shader) :
    sharedSets l' s = sharedSets l s := by
  rw [sharedSets, Layout.setCount_of_shape_eq h, sharedSets]

namespace CommandBuffer

/-- The command buffer after a layout was resolved for it: bound if that went well. -/
def withLayout (c : CommandBuffer) (id : ResourceId) : Except Failure Unit → CommandBuffer
  | .ok () => { c with bindings := { c.bindings with layout := some id } }
  | .error _ => c

@[simp] theorem inPass_withLayout (c : CommandBuffer) (id : ResourceId)
    (answer : Except Failure Unit) : (c.withLayout id answer).inPass = c.inPass := by
  cases answer <;> rfl

/-- How the binding of a layout can end, over any driver. -/
inductive EndsBinding {σ : Type} [Driver σ] (c : CommandBuffer) (d : Device σ) (store : Store)
    (id : ResourceId) : LayoutBinding σ → Prop
  /-- It is reported as out of place, or the layout is bound already. -/
  | left {messages : List Message}
      (why : (∃ m ∈ messages, m.severity = .error) ∨ c.bindings.layout = some id) :
    EndsBinding c d store id ⟨c, store, { answer := .ok (), device := d, messages }⟩
  /-- The layout is resolved for the bound pipeline. -/
  | resolved {b : Handle .commandBuffer} {p : Pipeline} {r : Resolution σ}
      (ready : c.handle? = some b) (pipeline : c.bindings.pipeline = some p)
      (fresh : c.bindings.layout ≠ some id)
      (fits : ∀ set < sharedSets (store.layouts.get id) p.shader,
        (store.layouts.get id).slots set = p.shader.slots set)
      (done : r = resolveLayout d b p (store.refreshed (store.layouts.get id))) :
    EndsBinding c d store id
      ⟨c.withLayout id r.outcome.answer, store.setLayout id r.layout, r.outcome⟩

theorem endsBinding {σ : Type} [Driver σ] (c : CommandBuffer) (d : Device σ) (store : Store)
    (id : ResourceId) : c.EndsBinding d store id (c.bindLayout d store id) := by
  unfold bindLayout
  simp only
  -- No native buffer, no pipeline, or both are there.
  split
  · exact .left (Or.inl ⟨_, List.mem_singleton_self _, rfl⟩)
  · exact .left (Or.inl ⟨_, List.mem_singleton_self _, rfl⟩)
  · rename_i b p hhandle hpipeline
    by_cases hbound : c.bindings.layout = some id
    · rw [if_pos hbound]
      exact .left (Or.inr hbound)
    · rw [if_neg hbound]
      split
      · exact .left (Or.inl ⟨_, List.mem_singleton_self _, rfl⟩)
      · rename_i hmismatch
        have hresolved : c.EndsBinding d store id _ :=
          .resolved hhandle hpipeline hbound (mismatch?_eq_none_iff.1 hmismatch) rfl
        split <;>
        · rename_i hanswer
          rw [hanswer] at hresolved
          exact hresolved

/-- A layout that is not the bound one and fits the bound pipeline is resolved for it. -/
theorem outcome_bindLayout {σ : Type} [Driver σ] {c : CommandBuffer} {b : Handle .commandBuffer}
    {p : Pipeline} (hb : c.handle? = some b) (hp : c.bindings.pipeline = some p) {id : ResourceId}
    (hnew : c.bindings.layout ≠ some id) {store : Store}
    (hfits : mismatch? (store.layouts.get id) p.shader = none) (d : Device σ) :
    (c.bindLayout d store id).outcome =
      (resolveLayout d b p (store.refreshed (store.layouts.get id))).outcome := by
  unfold bindLayout
  simp only [hb, hp, if_neg hnew, hfits]
  split <;> rfl

/-- How the binding of a layout can go. -/
inductive BindsLayout (c : CommandBuffer) (d : Device Trace) (store : Store) (id : ResourceId) :
    LayoutBinding Trace → List Call → Prop
  /-- It is reported as out of place, or the layout is bound already. -/
  | left {messages : List Message}
      (why : (∃ m ∈ messages, m.severity = .error) ∨ c.bindings.layout = some id) :
    BindsLayout c d store id ⟨c, store, { answer := .ok (), device := d, messages }⟩ []
  /-- The layout is resolved for the bound pipeline. -/
  | resolved {b : Handle .commandBuffer} {p : Pipeline} {r : Resolution Trace}
      {commands : List Command} (ready : c.handle? = some b)
      (pipeline : c.bindings.pipeline = some p) (fresh : c.bindings.layout ≠ some id)
      (fits : ∀ set < sharedSets (store.layouts.get id) p.shader,
        (store.layouts.get id).slots set = p.shader.slots set)
      (done : r = resolveLayout d b p (store.refreshed (store.layouts.get id)))
      (delivers : Delivers p (store.refreshed (store.layouts.get id)) r.outcome.answer commands)
      (speaks : 0 < sharedSets (store.layouts.get id) p.shader → r.outcome.answer = .ok () →
        (∀ m ∈ r.outcome.messages, m.severity ≠ .error) → commands ≠ []) :
    BindsLayout c d store id
      ⟨c.withLayout id r.outcome.answer, store.setLayout id r.layout, r.outcome⟩
      (recordedCalls b commands)

theorem bindsLayout (c : CommandBuffer) (d : Device Trace) (store : Store) (id : ResourceId) :
    c.BindsLayout d store id (c.bindLayout d store id) (c.recorded d store (.bindLayout id)) := by
  have hrecorded : c.recorded d store (.bindLayout id) = (c.handle?.map fun b =>
      callsInto b
        (d.driver.callsSince (c.bindLayout d store id).outcome.device.driver)).getD [] := by
    rw [recorded]
    cases c.handle? <;> rfl
  rw [hrecorded]
  have hends := c.endsBinding d store id
  generalize c.bindLayout d store id = result at hends ⊢
  cases hends with
  | left why =>
    -- The device is as before, so nothing went into any buffer.
    have hnone : ((c.handle?.map fun b => callsInto b (d.driver.callsSince d.driver)).getD []) =
        [] := by
      rw [Trace.callsSince_of_log_eq rfl]
      cases c.handle? <;> rfl
    rw [hnone]
    exact .left why
  | @resolved b p r ready pipeline fresh fits done =>
    obtain ⟨commands, hdelivers, hcalls, hsome⟩ :=
      delivers d b p (store.refreshed (store.layouts.get id))
    have hshape : (store.refreshed (store.layouts.get id)).shape =
        (store.layouts.get id).shape := Layout.shape_refresh _ _ _
    rw [sharedSets_of_shape_eq hshape] at hsome
    rw [← done] at hdelivers hcalls hsome
    rw [ready, Option.map_some, Option.getD_some, hcalls]
    exact .resolved ready pipeline fresh fits done hdelivers hsome

/-- Whatever an operation asks of the trace: plain calls are written down, pools are asked, or a
layout of the store is resolved as it is now. -/
theorem driver_cases {P : Trace → Prop} (c : CommandBuffer) (d : Device Trace) (s : Store)
    (op : Operation)
    (noted : ∀ calls, (∀ call ∈ calls, Plain call) → P (d.driver.noteAll calls))
    (pooled : ∀ t, Trace.Appends (madeByPools ·) d.driver t → P t)
    (resolved : ∀ b p id,
      P (resolveLayout d b p (s.refreshed (s.layouts.get id))).outcome.device.driver) :
    P (c.perform d s op).outcome.device.driver := by
  have stays : P d.driver := pooled _ (.refl _)
  have note (call : Call) (h : Plain call) : P (d.driver.note call) := by
    rw [Trace.note_eq_noteAll]
    exact noted _ fun call' hmem => List.mem_singleton.1 hmem ▸ h
  cases hscript : c.scripted? d s op with
  | some r =>
    rw [(perform_scripted hscript).2, Script.play_trace]
    exact noted _ (plain_scripted hscript)
  | none =>
    cases op with
    | setUp kind queue =>
      show P (c.setUp d kind queue).outcome.device.driver
      rw [(setUp_spec c d kind queue).1]
      apply pooled
      rw [← driver_release c d]
      exact poolCalls_appends.request _ _ kind.level queue.family
    | release =>
      show P (c.release d).outcome.device.driver
      rwa [driver_release]
    | begin pass subpass framebuffer =>
      simp only [perform, asked, CommandBuffer.begin]
      split
      · exact stays
      · split
        · exact stays
        · exact note _ ⟨rfl, by simp [Call.sort?]⟩
    | finish =>
      simp only [perform, asked, finish]
      split
      · exact stays
      · exact note _ ⟨rfl, by simp [Call.sort?]⟩
    | bindLayout id =>
      show P (c.bindLayout d s id).outcome.device.driver
      have hends := c.endsBinding d s id
      generalize c.bindLayout d s id = result at hends ⊢
      cases hends with
      | left why => exact stays
      | resolved ready pipeline fresh fits done =>
        rw [done]
        exact resolved _ _ id
    | _ => cases hscript

theorem keeps_perform {σ : Type} [Driver σ] (c : CommandBuffer) (d : Device σ) (s : Store)
    (op : Operation) : s.Keeps (c.perform d s op).store := by
  cases op with
  | bindLayout id =>
    show s.Keeps (c.bindLayout d s id).store
    have hends := c.endsBinding d s id
    generalize c.bindLayout d s id = result at hends ⊢
    cases hends with
    | left why => exact .refl s
    | @resolved b p r ready pipeline fresh fits done =>
      obtain ⟨hshape, hsound⟩ := layout_resolveLayout d b p (s.refreshed (s.layouts.get id))
      rw [← done] at hshape hsound
      apply Store.keeps_setLayout
      · rw [hshape, Store.refreshed, Layout.shape_refresh]
      · exact fun hs => hsound ((hs id).refresh _ _)
  | bindAssembler id =>
    show s.Keeps (c.bindAssembler s id).1
    unfold bindAssembler
    split
    · exact .refl s
    · split
      · exact .refl s
      · exact .of_layouts_eq (Nat.le_refl _) rfl
  | _ => exact .refl s

end CommandBuffer

end GpuRecorder.Recording
