import GpuRecorder.Proofs.Recording.Deliveries
import GpuRecorder.Proofs.Session.PoolInvariant

/-!
# Every tier delivers the same

What a device can do decides how descriptors are delivered, by pushing, through templates or one by
one, but not what arrives.  In every run the pools of the device are ready to grant sets, so the
descriptors of a layout that is bound in a new recording all arrive, on every tier.
-/

namespace GpuRecorder

open Native Resource Recording Device

/-! ## 1. The pools in a run -/

namespace Recording

variable {capacity : Nat} {d : Device Trace}

theorem ready_noteAll (h : d.descriptorPools.Ready capacity d.driver) (calls : List Call) :
    d.descriptorPools.Ready capacity (d.driver.noteAll calls) :=
  h.mono (.of_pools_eq rfl (Nat.le_refl _))

end Recording

namespace Session

/-! ## 2. A layout in a new recording -/

/-- The session, had the device been of another tier. -/
def onTier (s : Session Trace) (tier : Capabilities) : Session Trace :=
  { s with device := { s.device with capabilities := tier } }

/-- Open a recording, bind a pipeline and then a layout. -/
def recordLayout (s : Session Trace) (n : Nat) (pass : Option RenderPass) (subpass : Nat)
    (framebuffer : Option Framebuffer) (p : Pipeline) (id : ResourceId) : Step Trace :=
  let opened := (s.step (.perform n (.begin pass subpass framebuffer))).session
  let ready := (opened.step (.perform n (.bindPipeline p))).session
  ready.step (.perform n (.bindLayout id))

end Session

namespace Recording.CommandBuffer

theorem begin_spec {c : CommandBuffer} {b : Handle .commandBuffer} (hb : c.handle? = some b)
    (d : Device Trace) (s : Store) (pass : Option RenderPass) (subpass : Nat)
    (framebuffer : Option Framebuffer) (p : Pipeline) :
    ∃ calls, (∀ x ∈ calls, Idle b p x) ∧
      (c.begin d s pass subpass framebuffer).outcome.device =
        { d with driver := d.driver.noteAll calls } ∧
      (c.begin d s pass subpass framebuffer).buffer = { c with bindings := {}, stats := {} } := by
  unfold CommandBuffer.begin
  simp only [hb]
  split
  · exact ⟨[], by simp, by simp, rfl⟩
  · rename_i opening _
    refine ⟨[.begin b opening], fun x hx => ?_, ?_, rfl⟩
    · obtain rfl := List.mem_singleton.1 hx
      exact idle_begin b opening
    · rw [← Trace.note_eq_noteAll]
      rfl

/-- In a new recording every pipeline gets bound. -/
theorem bindPipeline_spec {c : CommandBuffer} {b : Handle .commandBuffer}
    (hb : c.handle? = some b) (hnew : c.bindings.pipeline = none) (p : Pipeline) :
    c.bindPipeline p = ({ c with bindings := { c.bindings with pipeline := some p } },
      .record b [.bindPipeline p.point p.handle]) := by
  have hother : c.boundPipeline ≠ some p.id := by simp [boundPipeline, hnew]
  unfold bindPipeline withNative
  simp only [hb, if_neg hother]

end Recording.CommandBuffer

namespace Session

/-- When the layout's turn comes the pipeline is bound, and nothing has been delivered yet. -/
theorem recordLayout_eq {s : Session Trace} {n : Nat} {c : CommandBuffer}
    (hc : s.buffers[n]? = some c) {b : Handle .commandBuffer} (hb : c.handle? = some b)
    (pass : Option RenderPass) (subpass : Nat) (framebuffer : Option Framebuffer) (p : Pipeline)
    (id : ResourceId) :
    ∃ calls, (∀ x ∈ calls, Idle b p x) ∧
      s.recordLayout n pass subpass framebuffer p id =
        perform
          { s with
            device := { s.device with driver := s.device.driver.noteAll calls }
            buffers := s.buffers.set n { c with bindings := { pipeline := some p }, stats := {} } }
          n (.bindLayout id) := by
  have hlt := (List.getElem?_eq_some_iff.1 hc).1
  obtain ⟨opening, hopening, hdevice, hbuffer⟩ :=
    CommandBuffer.begin_spec hb s.device s.store pass subpass framebuffer p
  -- The recording is open and nothing is bound.
  have hopened : (s.step (.perform n (.begin pass subpass framebuffer))).session =
      { s with
        device := { s.device with driver := s.device.driver.noteAll opening }
        buffers := s.buffers.set n { c with bindings := {}, stats := {} } } := by
    rw [← hdevice, ← hbuffer]
    simp only [step, perform, hc]
    rfl
  refine ⟨opening ++ recordedCalls b [.bindPipeline p.point p.handle], fun x hx => ?_, ?_⟩
  · rcases List.mem_append.1 hx with hx | hx
    · exact hopening x hx
    · refine idle_recorded (fun command hcommand => ?_) x hx
      obtain rfl := List.mem_singleton.1 hcommand
      simp [Command.sort]
  · have hfound : (s.buffers.set n { c with bindings := {}, stats := {} })[n]? =
        some { c with bindings := {}, stats := {} } := List.getElem?_set_self hlt
    have hpipeline := CommandBuffer.bindPipeline_spec
      (c := { c with bindings := {}, stats := {} }) hb rfl p
    rw [recordLayout, hopened]
    simp only [step, perform, hfound, CommandBuffer.perform, CommandBuffer.send, hpipeline,
      Device.play_device, Script.play_trace, Script.calls_record, Trace.noteAll_noteAll,
      List.set_set]

theorem recordLayout_resolves {s : Session Trace} {n : Nat} {c : CommandBuffer}
    (hc : s.buffers[n]? = some c) {b : Handle .commandBuffer} (hb : c.handle? = some b)
    (pass : Option RenderPass) (subpass : Nat) (framebuffer : Option Framebuffer) {p : Pipeline}
    {id : ResourceId} (hfits : mismatch? (s.store.layouts.get id) p.shader = none) :
    ∃ calls, (∀ x ∈ calls, Idle b p x) ∧
      let r := resolveLayout { s.device with driver := s.device.driver.noteAll calls } b p
        (s.store.refreshed (s.store.layouts.get id))
      (s.recordLayout n pass subpass framebuffer p id).answer = .ofAttempt r.outcome.answer ∧
        (s.recordLayout n pass subpass framebuffer p id).session.device = r.outcome.device := by
  obtain ⟨calls, hcalls, hrecord⟩ := recordLayout_eq hc hb pass subpass framebuffer p id
  have hfound : (s.buffers.set n
      { c with bindings := { pipeline := some p }, stats := {} })[n]? =
        some { c with bindings := { pipeline := some p }, stats := {} } :=
    List.getElem?_set_self (List.getElem?_eq_some_iff.1 hc).1
  have houtcome := CommandBuffer.outcome_bindLayout
    (c := { c with bindings := { pipeline := some p }, stats := {} }) hb rfl (by simp) hfits
    { s.device with driver := s.device.driver.noteAll calls }
  refine ⟨calls, hcalls, ?_, ?_⟩ <;>
  · rw [hrecord, ← houtcome]
    simp only [perform, hfound, CommandBuffer.perform]

/-! ## 3. Deliveries -/

theorem shape_of_made (available : Capabilities) (settings : Settings) (before after : List Event)
    (declared : Shader) :
    let made := (start available settings).through before
    let s := (start available settings).through
      (before ++ .act (.change (.addLayout declared)) :: after)
    (s.store.layouts.get ⟨made.store.next⟩).shape = declared.sets.map SetLayout.slots := by
  intro made s
  have hs : s = (made.after (.act (.change (.addLayout declared)))).through after := by
    show (start available settings).through _ = _
    rw [through_append]
    rfl
  have hnew : (made.after (.act (.change (.addLayout declared)))).store =
      (made.store.addLayout (.ofShader declared)).2 := rfl
  have hkeeps := (keeps_through (made.after (.act (.change (.addLayout declared)))) after).shape
    ⟨made.store.next⟩ (by rw [hnew]; exact Nat.lt_succ_self _)
  rw [hs, hkeeps, hnew, Store.addLayout, Store.fresh, Table.get_set_self, Layout.shape_ofShader]

/-- A layout with any mix of bound and unbound slots is delivered alike on every tier: the
deliveries are those that are due by the current state of the bound resources, set by set and slot
by slot, and every slot gets exactly one. -/
theorem same_deliveries_on_every_tier (available : Capabilities) (settings : Settings)
    (before after : List Event) (declared : Shader) (n : Nat) (c : CommandBuffer)
    (b : Handle .commandBuffer) (pass : Option RenderPass) (subpass : Nat)
    (framebuffer : Option Framebuffer) (p : Pipeline) (tier : Capabilities) :
    let id : ResourceId := ⟨((start available settings).through before).store.next⟩
    let s := (start available settings).through
      (before ++ .act (.change (.addLayout declared)) :: after)
    let l := s.store.layouts.get id
    let bound := (s.onTier tier).recordLayout n pass subpass framebuffer p id
    let delivered := deliveries b p (s.device.driver.callsSince bound.session.device.driver)
    s.buffers[n]? = some c → c.handle? = some b → s.device.driver.setFailure = none →
      p.shader.sets = declared.sets → Deliverable p.shader →
      p.shader.sets.length ≤ settings.descriptorPool.maxSetsPerPool.toNat →
        bound.answer = .done ∧ l.shape = p.shader.sets.map SetLayout.slots ∧
          delivered = dueToAll s.store l ∧
          ∀ set slots x, l.sets[set]? = some slots → x ∈ slots →
            ∃ payload, s.store.currentPayload? x.slot x.bound = some payload ∧
              delivered.filter (fun y => y.place = (set, x.slot.binding, x.slot.element)) =
                [⟨set, x.slot, payload⟩] := by
  intro id s l bound delivered hc hb hfailure hsets hdeliverable hroom
  have hshape : l.shape = p.shader.sets.map SetLayout.slots := by
    rw [hsets]
    exact shape_of_made available settings before after declared
  have hsound : l.Sound := sound_layouts available settings _ id
  have hfits : mismatch? l p.shader = none := by
    rw [mismatch?_eq_none_iff]
    intro set _
    rw [Layout.slots_eq_shape, hshape, List.getElem?_map, Shader.slots]
  obtain ⟨calls, hcalls, hanswer, hdevice⟩ :=
    recordLayout_resolves (s := s.onTier tier) hc hb pass subpass framebuffer hfits
  obtain ⟨pooled, script, hresolves, hpooled, _, hlog, _⟩ :
      ∃ pooled script, Resolves _ b p (s.store.refreshed l) _ _ script ∧ _ :=
    resolves { s.device with capabilities := tier, driver := s.device.driver.noteAll calls } b p
      (s.store.refreshed l)
  -- The pools were ready when the recording was opened, and still are.
  have hgranted : ∃ first, (s.device.descriptorPools.allocate (s.device.driver.noteAll calls)
      (p.shader.nativeLayouts p.shader.sets.length)).answer =
        .ok (Handle.freshList first p.shader.sets.length) := by
    have hlength : (p.shader.nativeLayouts p.shader.sets.length).length =
        p.shader.sets.length := by
      simp [Shader.nativeLayouts]
    have hready : s.PoolsReady settings := poolsReady_through available settings _
    have hready := ready_noteAll hready calls
    have hgranting := (DescriptorPools.granting_allocate hready
      (p.shader.nativeLayouts p.shader.sets.length)).2
    rw [hlength] at hgranting
    exact hgranting (Nat.le_trans hroom (Nat.le_max_right _ _)) hfailure
  obtain ⟨hok, hdeliveries⟩ :=
    deliveries_of_resolves (d := { s.device with capabilities := tier, driver := _ }) hsound hshape
      hdeliverable.templates hgranted hresolves
  have hdelivered : delivered = dueToAll s.store l := by
    -- Opening, binding the pipeline and asking the pools deliver nothing.
    have hsince : s.device.driver.callsSince bound.session.device.driver =
        calls ++ (pooled ++ script.calls) := by
      apply Trace.callsSince_of_append
      rw [hdevice]
      rw [Trace.log_noteAll, List.append_assoc] at hlog
      exact hlog
    show deliveries b p (s.device.driver.callsSince bound.session.device.driver) = _
    rw [hsince, deliveries_append_of_idle hcalls,
      deliveries_append_of_idle fun call hcall => idle_of_madeByPools (hpooled call hcall),
      hdeliveries]
  refine ⟨?_, hshape, hdelivered, ?_⟩
  · rw [hanswer]
    exact congrArg Answer.ofAttempt hok
  · intro set slots x hset hx
    rw [hdelivered]
    exact dueToAll_once s.store hdeliverable hshape hset hx

def mixedPipeline : Pipeline where
  id := ⟨21⟩
  handle := ⟨620⟩
  primitive := .triangleList
  shader :=
    (Shader.attachTemplates
      ⟨⟨20⟩, "mixed", ⟨500⟩,
        [⟨⟨510⟩, [⟨0, .uniformBuffer, 1, 1⟩, ⟨2, .combinedImageSampler, 2, 16⟩]⟩,
          ⟨⟨511⟩, [⟨0, .storageTexelBuffer, 1, 16⟩]⟩], []⟩ [⟨600⟩, ⟨601⟩]).2

/-- The buffer and a sampler are bound, then the buffer is moved; the rest stays unbound. -/
def mixedBinding : List Event := [
  .act (.change (.addBuffer (Buffer.ofRange ⟨700⟩ 16 0 64 0))),
  .act (.change (.bind ⟨1⟩ (.buffer ⟨2⟩) 0 0 0)),
  .act (.change (.bind ⟨1⟩ (.sampler ⟨⟨30⟩, ⟨710⟩⟩) 0 2 1)),
  .act (.change (.rebuildBuffer ⟨2⟩ ⟨701⟩ 32 16)),
  .act .create,
  .act (.perform 0 (.setUp .primary ⟨⟨800⟩, 0⟩))]

theorem deliverable_mixedPipeline : Deliverable mixedPipeline.shader where
  templates := rfl
  bindings := by decide
  types := by decide

theorem mixedBinding_same_deliveries :
    let s := (start {} {}).through
      (.act (.change (.addLayout mixedPipeline.shader)) :: mixedBinding)
    let l := s.store.layouts.get ⟨1⟩
    let bound := (s.onTier { descriptorUpdateTemplate := true }).recordLayout 0 none 0 none
      mixedPipeline ⟨1⟩
    let delivered :=
      deliveries ⟨4097⟩ mixedPipeline (s.device.driver.callsSince bound.session.device.driver)
    Deliverable mixedPipeline.shader ∧ bound.answer = .done ∧
      l.shape = mixedPipeline.shader.sets.map SetLayout.slots ∧
      delivered = dueToAll s.store l ∧
        ∀ set slots x, l.sets[set]? = some slots → x ∈ slots →
          ∃ payload, s.store.currentPayload? x.slot x.bound = some payload ∧
            delivered.filter (fun y => y.place = (set, x.slot.binding, x.slot.element)) =
              [⟨set, x.slot, payload⟩] :=
  ⟨deliverable_mixedPipeline,
    same_deliveries_on_every_tier {} {} [] mixedBinding mixedPipeline.shader 0 _ ⟨4097⟩ none 0 none
      mixedPipeline { descriptorUpdateTemplate := true } rfl rfl rfl rfl deliverable_mixedPipeline
      (by decide)⟩

example :
    let s := (start {} {}).through
      (.act (.change (.addLayout mixedPipeline.shader)) :: mixedBinding)
    dueToAll s.store (s.store.layouts.get ⟨1⟩) =
      [⟨0, ⟨0, 0, .uniformBuffer⟩, .buffer ⟨⟨701⟩, 32, 16⟩⟩,
        ⟨0, ⟨2, 0, .combinedImageSampler⟩, .image {}⟩,
        ⟨0, ⟨2, 1, .combinedImageSampler⟩, .image { sampler := ⟨710⟩ }⟩,
        ⟨1, ⟨0, 0, .storageTexelBuffer⟩, .texel .null⟩] := by
  decide

end Session

end GpuRecorder
