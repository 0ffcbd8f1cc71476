import GpuRecorder.Proofs.Session.Templated
import GpuRecorder.Proofs.Vulkan.Packing
import GpuRecorder.Vulkan.Simulator

/-!
# What the production driver calls

Any device can be tapped: beside it stands every call that succeeded on it, and what the templates
among them read.  `Carries` says which native call stands for a call that a trace notes: it agrees
with it on every argument that is noted, and what a template reads is picked out of the data that
is noted.  Whatever the production driver is asked for, it makes that one call.
-/

namespace GpuRecorder.Vulkan

open Binary Draw Native Resource

/-! ## 1. Tapped devices -/

/-- A device, the calls that succeeded on it, and the entries of its templates. -/
structure Tapped (σ : Type) where
  api : σ
  log : List Entry := []
  /-- The template that was made last stands first. -/
  templates : List (Handle .updateTemplate × List TemplateEntry) := []

namespace Tapped

variable {σ : Type}

def answered {α : Type} (t : Tapped σ) (entry : α → Entry) (r : Returned α × σ) :
    Returned α × Tapped σ :=
  (r.1, { t with api := r.2, log := t.log ++ r.1.toExcept.toOption.toList.map entry })

/-- The template is kept under its handle, if it was made. -/
def keepTemplate (t : Tapped σ) (entries : List TemplateEntry)
    (made : Except ResultCode (Handle .updateTemplate)) : Tapped σ :=
  { t with templates := made.toOption.toList.map (·, entries) ++ t.templates }

/-- What a template reads out of a block; an unknown template has no entries. -/
def readThrough (t : Tapped σ) (template : Handle .updateTemplate) (data : List UInt8) :
    List Payload :=
  ((t.templates.lookup template).getD []).map (·.read data)

def payloadsOf (t : Tapped σ) : Call → List Payload
  | .updateDescriptorSetWithTemplate _ template data => t.readThrough template data
  | .cmdPushDescriptorSetWithTemplate _ template _ _ data => t.readThrough template data
  | _ => []

instance [Api σ] : Api (Tapped σ) where
  device t := Api.device t.api
  createCommandPool t flags family :=
    t.answered (.createCommandPool flags family) (Api.createCommandPool t.api flags family)
  allocateCommandBuffers t pool level count :=
    t.answered (.allocateCommandBuffers pool level)
      (Api.allocateCommandBuffers t.api pool level count)
  createDescriptorPool t flags maxSets sizes :=
    t.answered (.createDescriptorPool flags maxSets sizes)
      (Api.createDescriptorPool t.api flags maxSets sizes)
  resetDescriptorPool t pool flags :=
    t.answered (fun _ => .resetDescriptorPool pool flags)
      (Api.resetDescriptorPool t.api pool flags)
  allocateDescriptorSets t pool layouts :=
    t.answered (.allocateDescriptorSets pool layouts)
      (Api.allocateDescriptorSets t.api pool layouts)
  createDescriptorUpdateTemplate t args :=
    let r := t.answered (.createDescriptorUpdateTemplate args)
      (Api.createDescriptorUpdateTemplate t.api args)
    (r.1, r.2.keepTemplate args.entries r.1.toExcept)
  queueSubmit t queue submits fence :=
    t.answered (fun _ => .queueSubmit queue submits fence)
      (Api.queueSubmit t.api queue submits fence)
  beginCommandBuffer t buffer args :=
    t.answered (fun _ => .beginCommandBuffer buffer args)
      (Api.beginCommandBuffer t.api buffer args)
  endCommandBuffer t buffer :=
    t.answered (fun _ => .endCommandBuffer buffer) (Api.endCommandBuffer t.api buffer)
  call t c := { t with api := Api.call t.api c, log := t.log ++ [.call c (t.payloadsOf c)] }

end Tapped

/-! ## 2. What a native call carries -/

/-- There is data for every entry of the template; what was read of it, each number within its
field, are the payloads that the types of the entries pick. -/
def Picked (template : UpdateTemplate) (infos : List DescriptorInfo) (read : List Payload) : Prop :=
  infos.length = template.entryTypes.length ∧
    ((∀ info ∈ infos, info.InRange) →
      read.map some = List.zipWith Payload.select template.entryTypes infos)

/-- The call without an answer that stands for a request, and what it reads through a template. -/
inductive CarriesRequest : Request → Call → List Payload → Prop
  | updateSet {set template infos data read} (picked : Picked template infos read) :
    CarriesRequest (.updateSet set template infos)
      (.updateDescriptorSetWithTemplate set template.handle data) read
  | writeDescriptors {writes} :
    CarriesRequest (.writeDescriptors writes)
      (.updateDescriptorSets
        (writes.map fun w => ⟨w.set, w.binding, w.element, 1, w.type, [w.payload]⟩) 0) []
  | beginRenderPass {b args} :
    CarriesRequest (.record b (.beginRenderPass args)) (.cmdBeginRenderPass b args inlineContents) []
  | endRenderPass {b} : CarriesRequest (.record b .endRenderPass) (.cmdEndRenderPass b) []
  | bindPipeline {b point pipeline} :
    CarriesRequest (.record b (.bindPipeline point pipeline)) (.cmdBindPipeline b point pipeline) []
  | bindVertexBuffers {b first streams buffers offsets}
      (starts : streams = List.zipWith BufferPoint.mk buffers offsets)
      (count : offsets.length = buffers.length) :
    CarriesRequest (.record b (.bindVertexBuffers first streams))
      (.cmdBindVertexBuffers b first buffers offsets) []
  | bindIndexBuffer {b index offset type} :
    CarriesRequest (.record b (.bindIndexBuffer ⟨index, offset⟩ type))
      (.cmdBindIndexBuffer b index offset type.code) []
  | bindDescriptorSets {b point layout first sets offsets} :
    CarriesRequest (.record b (.bindDescriptorSets point layout first sets offsets))
      (.cmdBindDescriptorSets b point layout first sets offsets) []
  | pushDescriptors {b template layout set infos data read} (picked : Picked template infos read) :
    CarriesRequest (.record b (.pushDescriptors template layout set infos))
      (.cmdPushDescriptorSetWithTemplate b template.handle layout set data) read
  | setViewports {b first viewports} :
    CarriesRequest (.record b (.setViewports first viewports)) (.cmdSetViewport b first viewports) []
  | setScissors {b first scissors} :
    CarriesRequest (.record b (.setScissors first scissors)) (.cmdSetScissor b first scissors) []
  | setLineWidth {b width} :
    CarriesRequest (.record b (.setLineWidth width)) (.cmdSetLineWidth b width) []
  | setDepthBias {b constant clamp slope} :
    CarriesRequest (.record b (.setDepthBias constant clamp slope))
      (.cmdSetDepthBias b constant clamp slope) []
  | setBlendConstants {b red green blue alpha} :
    CarriesRequest (.record b (.setBlendConstants ⟨red, green, blue, alpha⟩))
      (.cmdSetBlendConstants b [red, green, blue, alpha]) []
  | setDepthBounds {b lower upper} :
    CarriesRequest (.record b (.setDepthBounds lower upper)) (.cmdSetDepthBounds b lower upper) []
  | setStencilWriteMask {b face mask} :
    CarriesRequest (.record b (.setStencilWriteMask face mask))
      (.cmdSetStencilWriteMask b (Face.bit face) mask) []
  | setStencilCompareMask {b face mask} :
    CarriesRequest (.record b (.setStencilCompareMask face mask))
      (.cmdSetStencilCompareMask b (Face.bit face) mask) []
  | setStencilReference {b face reference} :
    CarriesRequest (.record b (.setStencilReference face reference))
      (.cmdSetStencilReference b (Face.bit face) reference) []
  | draw {b vertexCount instanceCount firstVertex firstInstance} :
    CarriesRequest (.record b (.draw vertexCount instanceCount firstVertex firstInstance))
      (.cmdDraw b vertexCount instanceCount firstVertex firstInstance) []
  | drawIndexed {b indexCount instanceCount firstIndex vertexOffset firstInstance} :
    CarriesRequest
      (.record b (.drawIndexed indexCount instanceCount firstIndex vertexOffset firstInstance))
      (.cmdDrawIndexed b indexCount instanceCount firstIndex vertexOffset firstInstance) []
  | drawIndirect {b records offset count stride} :
    CarriesRequest (.record b (.drawIndirect ⟨records, offset⟩ count stride))
      (.cmdDrawIndirect b records offset count stride) []
  | drawIndexedIndirect {b records offset count stride} :
    CarriesRequest (.record b (.drawIndexedIndirect ⟨records, offset⟩ count stride))
      (.cmdDrawIndexedIndirect b records offset count stride) []
  | executeCommands {b children} :
    CarriesRequest (.record b (.executeCommands children)) (.cmdExecuteCommands b children) []
  | updateBuffer {b destination offset data} :
    CarriesRequest (.record b (.updateBuffer ⟨destination, offset⟩ data))
      (.cmdUpdateBuffer b destination offset data) []
  | pipelineBarrier {b src dst transitions} :
    CarriesRequest (.record b (.pipelineBarrier src dst transitions))
      (.cmdPipelineBarrier b
        ⟨Stage.bits src, Stage.bits dst, 0, 0, 0,
          transitions.map fun t => ⟨t, ignoredFamily, ignoredFamily⟩⟩) []
  | copyBufferToImage {b src dst layout regions} :
    CarriesRequest (.record b (.copyBufferToImage src dst layout regions))
      (.cmdCopyBufferToImage b src dst layout regions) []

/-- The native call that stands for a call that is noted. -/
inductive Carries : Native.Call → Entry → Prop
  | createCommandPool {family pool} :
    Carries (.createCommandPool family pool) (.createCommandPool resetCommandBuffer family pool)
  | allocateCommandBuffers {pool level buffers} :
    Carries (.allocateCommandBuffers pool level buffers)
      (.allocateCommandBuffers pool level buffers)
  | createDescriptorPool {pool maxSets sizes} :
    Carries (.createDescriptorPool pool maxSets) (.createDescriptorPool 0 maxSets sizes pool)
  | resetDescriptorPool {pool} :
    Carries (.resetDescriptorPool pool) (.resetDescriptorPool pool 0)
  | allocateDescriptorSets {pool layouts sets} :
    Carries (.allocateDescriptorSets pool layouts sets) (.allocateDescriptorSets pool layouts sets)
  | submit {queue buffers fence} :
    Carries (.submit queue buffers fence) (.queueSubmit queue [buffers] fence)
  | begin {buffer args} : Carries (.begin buffer args) (.beginCommandBuffer buffer args)
  | destroyCommandPool {pool} :
    Carries (.destroyCommandPool pool) (.call (.destroyCommandPool pool) [])
  | destroyDescriptorPool {pool} :
    Carries (.destroyDescriptorPool pool) (.call (.destroyDescriptorPool pool) [])
  | finish {buffer} : Carries (.finish buffer) (.endCommandBuffer buffer)
  | request {r c read} (h : CarriesRequest r c read) : Carries (.request r) (.call c read)

/-! ## 3. Requests -/

/-- The template was made for some slots of classified types, and there is data for each. -/
def MadeFor (templates : List (Handle .updateTemplate × List TemplateEntry))
    (template : UpdateTemplate) (infos : List DescriptorInfo) : Prop :=
  ∃ slots, templates.lookup template.handle = some (TemplateEntry.ofSlots slots) ∧
    template.entryTypes = slots.map (·.type) ∧ infos.length = slots.length ∧
    ∀ slot ∈ slots, slot.type.class?.isSome

section

variable {σ : Type} {t : Tapped σ}

theorem picked_of_madeFor {template : UpdateTemplate} {infos : List DescriptorInfo}
    (h : MadeFor t.templates template infos) :
    Picked template infos (t.readThrough template.handle (dataOf template infos)) := by
  obtain ⟨slots, hlookup, htypes, hlength, hclasses⟩ := h
  refine ⟨by rw [hlength, htypes, List.length_map], fun hrange => ?_⟩
  rw [Tapped.readThrough, hlookup, dataOf, htypes, List.zipWith_map_left]
  exact read_block_select hlength hrange hclasses

/-- What the production driver can pass on: no push if none is known, and only templates that were
made for what goes through them. -/
structure Ready (loaded : Bool) (templates : List (Handle .updateTemplate × List TemplateEntry))
    (r : Request) : Prop where
  pushed : r.pushes = true → loaded = true
  made : ∀ {template infos}, r.templated? = some (template, infos) →
    MadeFor templates template infos

theorem zipWith_starts (streams : List BufferPoint) :
    streams = List.zipWith BufferPoint.mk (streams.map (·.buffer)) (streams.map (·.offset)) := by
  rw [List.zipWith_map, List.zipWith_self]
  exact (List.map_id _).symm

/-- A request that can be passed on is one native call that carries it. -/
theorem carries_ofRequest {loaded : Bool} {r : Request} (h : Ready loaded t.templates r) :
    ∃ c, Call.ofRequest loaded r = some c ∧ CarriesRequest r c (t.payloadsOf c) := by
  cases r with
  | updateSet set template infos =>
    exact ⟨_, rfl, .updateSet (picked_of_madeFor (h.made rfl))⟩
  | writeDescriptors writes => exact ⟨_, rfl, .writeDescriptors⟩
  | record b command =>
    cases command with
    | pushDescriptors template layout set infos =>
      refine ⟨_, if_pos (h.pushed rfl), .pushDescriptors (picked_of_madeFor (h.made rfl))⟩
    | bindVertexBuffers first streams =>
      exact ⟨_, rfl, .bindVertexBuffers (zipWith_starts streams) (by simp)⟩
    | beginRenderPass args => exact ⟨_, rfl, .beginRenderPass⟩
    | endRenderPass => exact ⟨_, rfl, .endRenderPass⟩
    | bindPipeline point pipeline => exact ⟨_, rfl, .bindPipeline⟩
    | bindIndexBuffer start type => exact ⟨_, rfl, .bindIndexBuffer⟩
    | bindDescriptorSets point layout first sets offsets => exact ⟨_, rfl, .bindDescriptorSets⟩
    | setViewports first viewports => exact ⟨_, rfl, .setViewports⟩
    | setScissors first scissors => exact ⟨_, rfl, .setScissors⟩
    | setLineWidth width => exact ⟨_, rfl, .setLineWidth⟩
    | setDepthBias constant clamp slope => exact ⟨_, rfl, .setDepthBias⟩
    | setBlendConstants c => exact ⟨_, rfl, .setBlendConstants⟩
    | setDepthBounds lower upper => exact ⟨_, rfl, .setDepthBounds⟩
    | setStencilWriteMask face mask => exact ⟨_, rfl, .setStencilWriteMask⟩
    | setStencilCompareMask face mask => exact ⟨_, rfl, .setStencilCompareMask⟩
    | setStencilReference face reference => exact ⟨_, rfl, .setStencilReference⟩
    | draw vertexCount instanceCount firstVertex firstInstance => exact ⟨_, rfl, .draw⟩
    | drawIndexed indexCount instanceCount firstIndex vertexOffset firstInstance =>
      exact ⟨_, rfl, .drawIndexed⟩
    | drawIndirect records count stride => exact ⟨_, rfl, .drawIndirect⟩
    | drawIndexedIndirect records count stride => exact ⟨_, rfl, .drawIndexedIndirect⟩
    | executeCommands buffers => exact ⟨_, rfl, .executeCommands⟩
    | updateBuffer destination data => exact ⟨_, rfl, .updateBuffer⟩
    | pipelineBarrier src dst transitions => exact ⟨_, rfl, .pipelineBarrier⟩
    | copyBufferToImage src dst layout regions => exact ⟨_, rfl, .copyBufferToImage⟩

end

/-! ## 4. Runs -/

namespace Production

variable {σ : Type}

/-- What an attempt leaves on the tapped device: nothing where it was refused, and else the call
that carries it, if it is one that can be passed on. -/
def Leaves (loaded : Bool) (templates : List (Handle .updateTemplate × List TemplateEntry)) :
    Attempt → List Entry → Prop
  | .refused _ _, entries => entries = []
  | .through (.request r), entries =>
    Ready loaded templates r → ∃ e, entries = [e] ∧ Carries (.request r) e
  | .through c, entries => ∃ e, entries = [e] ∧ Carries c e

/-- Between two moments every attempt left what it has to. -/
structure Sends (j j' : Journal (Production (Tapped σ))) : Prop where
  loaded : j'.driver.pushLoaded = j.driver.pushLoaded
  templates : j'.driver.api.templates = j.driver.api.templates
  sent : ∃ more left, j'.attempts = j.attempts ++ more ∧
    j'.driver.api.log = j.driver.api.log ++ left.flatten ∧
    List.Forall₂ (Leaves j.driver.pushLoaded j.driver.api.templates) more left

variable {j j' j'' : Journal (Production (Tapped σ))}

theorem Sends.refl (j : Journal (Production (Tapped σ))) : Sends j j :=
  ⟨rfl, rfl, [], [], (List.append_nil _).symm, (List.append_nil _).symm, .nil⟩

theorem Sends.trans (h : Sends j j') (h' : Sends j' j'') : Sends j j'' := by
  obtain ⟨hloaded, htemplates, more, left, hattempts, hlog, hleaves⟩ := h
  obtain ⟨hloaded', htemplates', more', left', hattempts', hlog', hleaves'⟩ := h'
  rw [hloaded, htemplates] at hleaves'
  refine ⟨hloaded'.trans hloaded, htemplates'.trans htemplates, more ++ more', left ++ left', ?_, ?_,
    List.rel_append hleaves hleaves'⟩
  · rw [hattempts', hattempts, List.append_assoc]
  · rw [hlog', hlog, List.flatten_append, List.append_assoc]

/-- An answered call is logged with its answer, a refused one is not. -/
theorem sends_answered (j : Journal (Production (Tapped σ))) {α : Type} {q : Question}
    {call : α → Native.Call} {entry : α → Entry} (carries : ∀ a, Carries (call a) (entry a))
    (hcall : ∀ a r, call a ≠ .request r) (r : Returned α × σ) :
    Sends j (j.answered q call (j.driver.answered (j.driver.api.answered entry r))).2 := by
  refine ⟨rfl, rfl, [Attempt.ofAnswer q call r.1.toExcept],
    [r.1.toExcept.toOption.toList.map entry], rfl, ?_, .cons ?_ .nil⟩
  · rw [List.flatten_singleton]
    rfl
  · cases r.1.toExcept with
    | error code => rfl
    | ok a =>
      have hcarries := carries a
      show Leaves _ _ (.through (call a)) [entry a]
      cases hc : call a with
      | request r => exact absurd hc (hcall a r)
      | _ => exact ⟨_, rfl, hc ▸ hcarries⟩

theorem sends_told [Api σ] (j : Journal (Production (Tapped σ))) {call : Native.Call} {c : Call}
    (carries : Carries call (.call c [])) (hcall : ∀ r, call ≠ .request r)
    (hreads : j.driver.api.payloadsOf c = []) : Sends j (j.told call (j.driver.tell c)) := by
  refine ⟨rfl, rfl, [.through call], [[.call c []]], rfl, ?_, .cons ?_ .nil⟩
  · rw [← hreads]
    rfl
  · cases hc : call with
    | request r => exact absurd hc (hcall r)
    | _ => exact ⟨_, rfl, hc ▸ carries⟩

theorem sends_request [Api σ] (j : Journal (Production (Tapped σ))) (r : Request) :
    Sends j (j.told (.request r) (j.driver.request r).2) := by
  unfold request
  cases hc : Call.ofRequest j.driver.pushLoaded r with
  | none =>
    -- Without a native call the request was not one that can be passed on.
    refine ⟨rfl, rfl, [_], [[]], rfl, (List.append_nil _).symm, .cons (fun hready => ?_) .nil⟩
    obtain ⟨c, hsome, _⟩ := carries_ofRequest hready
    rw [hc] at hsome
    cases hsome
  | some c =>
    refine ⟨rfl, rfl, [_], [[.call c (j.driver.api.payloadsOf c)]], rfl, rfl,
      .cons (fun hready => ?_) .nil⟩
    obtain ⟨c', hsome, hcarries⟩ := carries_ofRequest hready
    rw [hc] at hsome
    obtain rfl := Option.some.inj hsome
    exact ⟨_, rfl, .request hcarries⟩

theorem closingCalls_sends [Api σ] : ClosingCalls (Sends (σ := σ)) where
  refl := .refl
  trans := .trans
  createCommandPool j _ := sends_answered j (fun _ => .createCommandPool) nofun _
  allocateCommandBuffers j _ _ _ := sends_answered j (fun _ => .allocateCommandBuffers) nofun _
  createDescriptorPool j _ _ := sends_answered j (fun _ => .createDescriptorPool) nofun _
  allocateDescriptorSets j _ _ := sends_answered j (fun _ => .allocateDescriptorSets) nofun _
  resetDescriptorPool j _ := sends_answered j (fun _ => .resetDescriptorPool) nofun _
  submit j _ _ _ := sends_answered j (fun _ => .submit) nofun _
  beginRecording j _ _ := sends_answered j (fun _ => .begin) nofun _
  endRecording j _ := sends_answered j (fun _ => .finish) nofun _
  request := sends_request
  destroyCommandPool j _ := sends_told j .destroyCommandPool (by simp) rfl
  destroyDescriptorPool j _ := sends_told j .destroyDescriptorPool (by simp) rfl

/-- Whether pushes are known does not change. -/
theorem closingCalls_loaded [Api σ] (loaded : Bool) :
    ClosingCalls fun p p' : Production σ => p.pushLoaded = loaded → p'.pushLoaded = loaded where
  refl _ := id
  trans h h' := h' ∘ h
  createCommandPool _ _ := id
  allocateCommandBuffers _ _ _ _ := id
  createDescriptorPool _ _ _ := id
  allocateDescriptorSets _ _ _ := id
  resetDescriptorPool _ _ := id
  submit _ _ _ _ := id
  beginRecording _ _ _ := id
  endRecording _ _ := id
  request p r h := by
    show (p.request r).2.pushLoaded = loaded
    unfold request
    split <;> exact h
  destroyCommandPool _ _ := id
  destroyDescriptorPool _ _ := id

theorem silent [Api σ] (loaded : Bool) :
    Journal.Silent (Production σ) loaded fun p => p.pushLoaded = loaded := by
  intro p hloaded r hpush
  show (p.request r).1 = []
  unfold request
  split
  · rfl
  · rename_i hnone
    obtain ⟨hnot, b, template, layout, set, infos, rfl⟩ := ofRequest_eq_none_iff.1 hnone
    rw [hloaded, hpush rfl] at hnot
    cases hnot

end Production

end GpuRecorder.Vulkan
