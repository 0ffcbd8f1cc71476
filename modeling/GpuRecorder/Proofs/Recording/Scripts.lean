import GpuRecorder.Proofs.Native.Log
import GpuRecorder.Recording.Operation

/-!
# Operations that send a script

Most operations ask nothing of the device: they compute a script and send it (`scripted?`).  Such a
script records commands of the operation's own sorts into the held buffer, and nothing else.
-/

namespace GpuRecorder.Native

/-! ## 1. Sorts of commands -/

inductive CommandSort where
  | passStart
  | passEnd
  | pipeline
  | assembler
  | descriptors
  | setting
  | draw
  | execution
  | transfer
  deriving DecidableEq

def Command.sort : Command → CommandSort
  | .beginRenderPass _ => .passStart
  | .endRenderPass => .passEnd
  | .bindPipeline _ _ => .pipeline
  | .bindVertexBuffers _ _ | .bindIndexBuffer _ _ => .assembler
  | .bindDescriptorSets _ _ _ _ _ | .pushDescriptors _ _ _ _ => .descriptors
  | .draw _ _ _ _ | .drawIndexed _ _ _ _ _ | .drawIndirect _ _ _ | .drawIndexedIndirect _ _ _ =>
    .draw
  | .executeCommands _ => .execution
  | .updateBuffer _ _ | .pipelineBarrier _ _ _ | .copyBufferToImage _ _ _ _ => .transfer
  | .setViewports _ _ | .setScissors _ _ | .setLineWidth _ | .setDepthBias _ _ _
  | .setBlendConstants _ | .setDepthBounds _ _ | .setStencilWriteMask _ _
  | .setStencilCompareMask _ _ | .setStencilReference _ _ => .setting

def Call.sort? : Call → Option CommandSort
  | .request (.record _ c) => some c.sort
  | _ => none

/-- The command is one entry of the log. -/
def Command.IsWhole (c : Command) : Prop :=
  ∀ buffer, (Request.record buffer c).entries = [.record buffer c]

/-- Only viewports and scissors are entered one by one. -/
theorem whole_of_sort {c : Command} (h : c.sort ≠ .setting) : c.IsWhole := by
  intro buffer
  cases c with
  | setViewports first viewports => exact absurd rfl h
  | setScissors first scissors => exact absurd rfl h
  | _ => rfl

theorem sort_of_mem_recordedCalls {b : Handle .commandBuffer} {commands : List Command}
    {call : Call} (h : call ∈ recordedCalls b commands) :
    ∃ c ∈ commands, ∃ c', call = .request (.record b c') ∧ c'.sort = c.sort := by
  obtain ⟨r, hr, rfl⟩ := List.mem_map.1 h
  obtain ⟨c, hc, hentry⟩ := List.mem_flatMap.1 hr
  refine ⟨c, hc, ?_⟩
  cases c with
  | setViewports first viewports =>
    obtain ⟨v, _, rfl⟩ := List.mem_map.1 hentry
    exact ⟨_, rfl, rfl⟩
  | setScissors first scissors =>
    obtain ⟨s, _, rfl⟩ := List.mem_map.1 hentry
    exact ⟨_, rfl, rfl⟩
  | _ =>
    obtain rfl := List.mem_singleton.1 hentry
    exact ⟨_, rfl, rfl⟩

end GpuRecorder.Native

namespace GpuRecorder.Recording

open Draw Native Resource Device

/-- Recorded into a command buffer, without any descriptors. -/
structure Plain (c : Call) : Prop where
  target : c.target?.isSome
  sort : c.sort? ≠ some .descriptors

theorem plain_recorded {b : Handle .commandBuffer} {commands : List Command}
    (h : ∀ x ∈ commands, x.sort ≠ .descriptors) : ∀ c ∈ recordedCalls b commands, Plain c := by
  intro c hc
  obtain ⟨x, hx, x', rfl, hsort⟩ := sort_of_mem_recordedCalls hc
  refine ⟨rfl, fun heq => h x hx ?_⟩
  rw [← hsort]
  exact Option.some.inj heq

/-! ## 2. Operations and their scripts -/

namespace Operation

def moves : Operation → Bool
  | .setUp _ _ | .release => true
  | _ => false

/-- The sorts of commands that an operation records. -/
def sorts : Operation → List CommandSort
  | .beginPass _ => [.passStart, .setting]
  | .endPass => [.passEnd]
  | .bindPipeline _ => [.pipeline]
  | .bindLayout _ => [.descriptors]
  | .bindAssembler _ => [.assembler]
  | .set _ => [.setting]
  | .draw _ => [.draw]
  | .execute _ => [.execution]
  | .updateBuffer _ _ _ | .copyToTexture _ _ _ => [.transfer]
  | .setUp _ _ | .release | .begin _ _ _ | .finish => []

end Operation

namespace CommandBuffer

section

variable {σ : Type} [Driver σ]

/-- What is sent by an operation that asks nothing of the device. -/
def scripted? (c : CommandBuffer) (d : Device σ) (s : Store) :
    Operation → Option (CommandBuffer × Script)
  | .beginPass p => some (c.beginPass s p)
  | .endPass => some c.endPass
  | .bindPipeline p => some (c.bindPipeline p)
  | .bindAssembler id => some (c.bindAssembler s id).2
  | .set x => some (c.set x)
  | .draw id => some (c.draw d.capabilities.multiDrawIndirect s id)
  | .execute children => some (c.execute children)
  | .updateBuffer buffer offset data => some (c.updateBuffer s buffer offset data).2
  | .copyToTexture sources texture regions => some (c.copyToTexture s sources texture regions).2
  | .setUp _ _ | .release | .begin _ _ _ | .finish | .bindLayout _ => none

theorem perform_scripted {c : CommandBuffer} {d : Device σ} {s : Store} {op : Operation}
    {r : CommandBuffer × Script} (h : c.scripted? d s op = some r) :
    (c.perform d s op).buffer = r.1 ∧
      (c.perform d s op).outcome.device = { d with driver := (r.2.play d.driver).2 } := by
  cases op with
  | setUp kind queue => cases h
  | release => cases h
  | begin pass subpass framebuffer => cases h
  | finish => cases h
  | bindLayout id => cases h
  | _ =>
    obtain rfl := Option.some.inj h
    exact ⟨rfl, rfl⟩

end

theorem handle?_of_native {c : CommandBuffer} {n : NativeBuffer} (h : c.native = some n) :
    c.handle? = some n.handle := by
  rw [handle?, h, Option.map_some]

/-! ## 3. What a script records -/

/-- A script records commands of the given sorts into the held buffer, if anything. -/
def Sends (c : CommandBuffer) (sorts : List CommandSort) (s : Script) : Prop :=
  s.calls = [] ∨ ∃ b commands, c.handle? = some b ∧ s.calls = recordedCalls b commands ∧
    ∀ x ∈ commands, x.sort ∈ sorts

/-- It records them one by one, and requests nothing else. -/
def Records (c : CommandBuffer) (sorts : List CommandSort) (s : Script) : Prop :=
  s.requests = [] ∨ ∃ (b : Handle .commandBuffer) (commands : List Command), c.handle? = some b ∧
    s.requests = commands.map (Request.record b) ∧ ∀ x ∈ commands, x.sort ∈ sorts ∧ x.IsWhole

theorem Records.sends {c : CommandBuffer} {sorts : List CommandSort} {s : Script}
    (h : c.Records sorts s) : c.Sends sorts s := by
  rcases h with hnone | ⟨b, commands, hb, hrequests, hsorts⟩
  · exact Or.inl (Script.calls_of_requests_nil hnone)
  · refine Or.inr ⟨b, commands, hb, ?_, fun x hx => (hsorts x hx).1⟩
    rw [Script.calls, hrequests, List.flatMap_map]
    rfl

theorem records_record {c : CommandBuffer} {sorts : List CommandSort} {b : Handle .commandBuffer}
    {commands : List Command} (hb : c.handle? = some b)
    (h : ∀ x ∈ commands, x.sort ∈ sorts ∧ x.IsWhole) : c.Records sorts (.record b commands) :=
  Or.inr ⟨b, commands, hb, Script.requests_record b commands, h⟩

theorem records_after {c : CommandBuffer} {sorts : List CommandSort} {s t : Script}
    (hs : s.requests = []) (h : c.Records sorts t) : c.Records sorts (s ++ t) := by
  rw [Records, Script.requests_append, hs, List.nil_append]
  exact h

theorem records_withNative {c : CommandBuffer} {sorts : List CommandSort} {command : String}
    {f : Handle .commandBuffer → CommandBuffer × Script}
    (h : ∀ b, c.handle? = some b → c.Records sorts (f b).2) :
    c.Records sorts (c.withNative command f).2 := by
  cases hn : c.native with
  | none =>
    rw [withNative_of_not_ready hn]
    exact Or.inl rfl
  | some n =>
    rw [withNative_of_ready hn]
    exact h n.handle (handle?_of_native hn)

theorem sort_setting (x : Setting) : ∀ c ∈ x.commands, c.sort = .setting := by
  intro c hc
  cases x <;> simp only [Setting.commands, List.mem_cons, List.not_mem_nil, or_false] at hc
  case stencilCompare face v => rcases hc with rfl | rfl <;> rfl
  all_goals rw [hc]; rfl

theorem whole_setting (x : Setting) : ∀ c ∈ x.commands, c.IsWhole := by
  intro c hc
  cases x <;> simp only [Setting.commands, List.mem_cons, List.not_mem_nil, or_false] at hc
  case stencilCompare face v => rcases hc with rfl | rfl <;> exact fun _ => rfl
  all_goals rw [hc]; exact fun _ => rfl

theorem recordedCalls_setting_ne_nil (b : Handle .commandBuffer) (x : Setting) :
    recordedCalls b x.commands ≠ [] := by
  cases x <;> exact List.cons_ne_nil _ _

theorem sort_assembler (streams : List BufferPoint) (index : Option (BufferPoint × IndexType)) :
    ∀ c ∈ assemblerCommands streams index, c.sort = .assembler := by
  intro c hc
  rcases List.mem_append.1 hc with hc | hc <;>
  · split at hc
    · cases hc
    · obtain rfl := List.mem_singleton.1 hc
      rfl

theorem sort_indirect (multiDraw : Bool) (start : BufferPoint) (i : Indirect) :
    ∀ c ∈ indirectCommands multiDraw start i, c.sort = .draw := by
  have one (records : BufferPoint) (count : Nat) :
      Command.sort (if i.indexed then .drawIndexedIndirect records count i.stride
        else .drawIndirect records count i.stride) = .draw := by
    cases i.indexed <;> rfl
  intro c hc
  cases multiDraw with
  | true =>
    obtain rfl := List.mem_singleton.1 hc
    exact one _ _
  | false =>
    obtain ⟨record, _, rfl⟩ := List.mem_map.1 hc
    exact one _ _

theorem sort_direct (indexed : Bool) (p : Parameters) : (directCommand indexed p).sort = .draw := by
  cases indexed <;> rfl

theorem sort_update (start : BufferPoint) (pieces : List (List UInt8)) :
    ∀ c ∈ updateCommands start pieces, c.sort = .transfer := by
  induction pieces generalizing start with
  | nil =>
    intro c hc
    cases hc
  | cons piece rest ih =>
    intro c hc
    rcases List.mem_cons.1 hc with rfl | hc
    · rfl
    · exact ih _ c hc

theorem sort_copy (s : Store) (sources : List ResourceId) (t : Texture)
    (regions : List CopyRegion) : ∀ c ∈ copiedCommands s sources t regions, c.sort = .transfer := by
  intro c hc
  rcases List.mem_append.1 (copiedCommands_subset s sources t regions hc) with hc | hc
  · rcases List.mem_cons.1 hc with rfl | hc
    · rfl
    · obtain ⟨x, _, rfl⟩ := List.mem_map.1 hc
      rfl
  · obtain rfl := List.mem_singleton.1 hc
    rfl

/-- Every script records its operation's sorts of commands one by one into the held buffer. -/
theorem records_scripted {σ : Type} [Driver σ] {c : CommandBuffer} {d : Device σ} {s : Store}
    {op : Operation} {r : CommandBuffer × Script} (h : c.scripted? d s op = some r) :
    c.Records op.sorts r.2 := by
  -- Most scripts record commands of one sort only, and most sorts are whole.
  have of_sort {commands : List Command} {sort : CommandSort} {sorts : List CommandSort}
      (hsort : ∀ x ∈ commands, x.sort = sort) (hmem : sort ∈ sorts) (hother : sort ≠ .setting) :
      ∀ x ∈ commands, x.sort ∈ sorts ∧ x.IsWhole :=
    fun x hx => ⟨hsort x hx ▸ hmem, whole_of_sort (hsort x hx ▸ hother)⟩
  have of_setting {sorts : List CommandSort} (hmem : .setting ∈ sorts) (x : Setting) :
      ∀ c ∈ x.commands, c.sort ∈ sorts ∧ c.IsWhole :=
    fun c hc => ⟨sort_setting x c hc ▸ hmem, whole_setting x c hc⟩
  cases op with
  | setUp kind queue => cases h
  | release => cases h
  | begin pass subpass framebuffer => cases h
  | finish => cases h
  | bindLayout id => cases h
  | beginPass p =>
    obtain rfl := Option.some.inj h
    apply records_withNative
    intro b hb
    split
    · exact Or.inl rfl
    · refine records_after p.requests_shortage (records_record hb fun x hx => ?_)
      rcases List.mem_append.1 hx with hx | hx
      · rcases List.mem_cons.1 hx with rfl | hx
        · exact ⟨by simp [Operation.sorts, Command.sort], fun _ => rfl⟩
        · exact of_setting (by simp [Operation.sorts]) _ x hx
      · exact of_setting (by simp [Operation.sorts]) _ x hx
  | endPass =>
    obtain rfl := Option.some.inj h
    refine records_withNative fun b hb => records_record hb ?_
    have hsort : ∀ x ∈ [Command.endRenderPass], x.sort = .passEnd := by simp [Command.sort]
    exact of_sort hsort (by simp [Operation.sorts]) (by simp)
  | bindPipeline p =>
    obtain rfl := Option.some.inj h
    apply records_withNative
    intro b hb
    split
    · exact Or.inl rfl
    · refine records_record hb ?_
      have hsort : ∀ x ∈ [Command.bindPipeline p.point p.handle], x.sort = .pipeline := by
        simp [Command.sort]
      exact of_sort hsort (by simp [Operation.sorts]) (by simp)
  | bindAssembler id =>
    obtain rfl := Option.some.inj h
    unfold bindAssembler
    split
    · exact Or.inl rfl
    · rename_i b hb
      split
      · exact Or.inl rfl
      · exact records_record hb (of_sort (sort_assembler _ _) (by simp [Operation.sorts]) (by simp))
  | set x =>
    obtain rfl := Option.some.inj h
    apply records_withNative
    intro b hb
    split
    · exact Or.inl rfl
    · exact records_record hb (of_setting (by simp [Operation.sorts]) x)
  | draw id =>
    obtain rfl := Option.some.inj h
    apply records_withNative
    intro b hb
    split
    · exact Or.inl rfl
    · simp only
      split
      · exact records_record hb (of_sort (sort_indirect _ _ _) (by simp [Operation.sorts]) (by simp))
      · refine records_record hb fun x hx => ?_
        obtain rfl := List.mem_singleton.1 hx
        exact of_sort (fun y hy => List.mem_singleton.1 hy ▸ sort_direct _ _)
          (by simp [Operation.sorts]) (by simp) _ hx
  | execute children =>
    obtain rfl := Option.some.inj h
    unfold execute
    split
    · exact Or.inl rfl
    · refine records_withNative fun b hb => records_after (requests_skipped children) ?_
      refine records_record hb fun x hx => ?_
      split at hx
      · cases hx
      · obtain rfl := List.mem_singleton.1 hx
        exact ⟨by simp [Operation.sorts, Command.sort], fun _ => rfl⟩
  | updateBuffer buffer offset data =>
    obtain rfl := Option.some.inj h
    unfold updateBuffer
    split
    · exact Or.inl rfl
    · rename_i b hb
      split
      · exact Or.inl rfl
      · split
        · exact Or.inl rfl
        · simp only
          split
          · exact Or.inl rfl
          · exact records_record hb (of_sort (sort_update _ _) (by simp [Operation.sorts]) (by simp))
  | copyToTexture sources texture regions =>
    obtain rfl := Option.some.inj h
    unfold copyToTexture
    split
    · exact Or.inl rfl
    · rename_i b hb
      split
      · exact Or.inl rfl
      · split
        · exact Or.inl rfl
        · split
          · exact Or.inl rfl
          · exact records_record hb (of_sort (sort_copy _ _ _ _) (by simp [Operation.sorts]) (by simp))

theorem sends_scripted {σ : Type} [Driver σ] {c : CommandBuffer} {d : Device σ} {s : Store}
    {op : Operation} {r : CommandBuffer × Script} (h : c.scripted? d s op = some r) :
    c.Sends op.sorts r.2 :=
  (records_scripted h).sends

/-- Only binding a layout records descriptors, and it sends no script. -/
theorem descriptors_not_mem_sorts {σ : Type} [Driver σ] {c : CommandBuffer} {d : Device σ}
    {s : Store} {op : Operation} {r : CommandBuffer × Script} (h : c.scripted? d s op = some r) :
    .descriptors ∉ op.sorts := by
  intro hmem
  cases op <;> simp [Operation.sorts] at hmem
  cases h

theorem confined_scripted {σ : Type} [Driver σ] {c : CommandBuffer} {d : Device σ} {s : Store}
    {op : Operation} {r : CommandBuffer × Script} (h : c.scripted? d s op = some r) :
    Confined c.handle? r.2.calls := by
  rcases sends_scripted h with hnone | ⟨b, commands, hb, hcalls, _⟩
  · rw [hnone]
    exact Confined.nil _
  · rw [hcalls, hb]
    exact Confined.recorded b commands

theorem plain_scripted {σ : Type} [Driver σ] {c : CommandBuffer} {d : Device σ} {s : Store}
    {op : Operation} {r : CommandBuffer × Script} (h : c.scripted? d s op = some r) :
    ∀ call ∈ r.2.calls, Plain call := by
  rcases sends_scripted h with hnone | ⟨b, commands, _, hcalls, hsorts⟩
  · rw [hnone]
    exact fun _ hc => absurd hc List.not_mem_nil
  · rw [hcalls]
    exact plain_recorded fun x hx hsort => descriptors_not_mem_sorts h (hsort ▸ hsorts x hx)

/-! ## 4. What a script leaves alone -/

/-- The native buffer, the kind, the queue and the bound layout stay, the pipeline stays unless a
pipeline is bound, the framebuffer stays unless a pass is opened or closed, and so do the dynamic
settings unless one is made or a pass is opened. -/
structure Leaves (c : CommandBuffer) (op : Operation) (c' : CommandBuffer) : Prop where
  native : c'.native = c.native
  kind : c'.kind = c.kind
  queue : c'.queue = c.queue
  layout : c'.bindings.layout = c.bindings.layout
  pipeline : (∀ p, op ≠ .bindPipeline p) → c'.bindings.pipeline = c.bindings.pipeline
  framebuffer : (∀ p, op ≠ .beginPass p) → op ≠ .endPass →
    c'.bindings.framebuffer = c.bindings.framebuffer
  dynamic : (∀ p, op ≠ .beginPass p) → (∀ x, op ≠ .set x) →
    c'.bindings.dynamic = c.bindings.dynamic

theorem Leaves.refl (c : CommandBuffer) (op : Operation) : c.Leaves op c :=
  ⟨rfl, rfl, rfl, rfl, fun _ => rfl, fun _ _ => rfl, fun _ _ => rfl⟩

theorem leaves_withNative {c : CommandBuffer} {op : Operation} {command : String}
    {f : Handle .commandBuffer → CommandBuffer × Script} (h : ∀ b, c.Leaves op (f b).1) :
    c.Leaves op (c.withNative command f).1 := by
  unfold withNative
  split
  · exact .refl c op
  · exact h _

theorem leaves_scripted {σ : Type} [Driver σ] {c : CommandBuffer} {d : Device σ} {s : Store}
    {op : Operation} {r : CommandBuffer × Script} (h : c.scripted? d s op = some r) :
    c.Leaves op r.1 := by
  -- Whatever else changes: the statistics, or the assembler.
  have others {c' : CommandBuffer} (hnative : c'.native = c.native) (hkind : c'.kind = c.kind)
      (hqueue : c'.queue = c.queue) (hlayout : c'.bindings.layout = c.bindings.layout)
      (hpipeline : c'.bindings.pipeline = c.bindings.pipeline)
      (hframebuffer : c'.bindings.framebuffer = c.bindings.framebuffer)
      (hdynamic : c'.bindings.dynamic = c.bindings.dynamic) : c.Leaves op c' :=
    ⟨hnative, hkind, hqueue, hlayout, fun _ => hpipeline, fun _ _ => hframebuffer,
      fun _ _ => hdynamic⟩
  cases op with
  | setUp kind queue => cases h
  | release => cases h
  | begin pass subpass framebuffer => cases h
  | finish => cases h
  | bindLayout id => cases h
  | beginPass p =>
    obtain rfl := Option.some.inj h
    apply leaves_withNative
    intro b
    split
    · exact .refl c _
    · exact ⟨rfl, rfl, rfl, rfl, fun _ => rfl, fun hop => absurd rfl (hop p),
        fun hop => absurd rfl (hop p)⟩
  | endPass =>
    obtain rfl := Option.some.inj h
    exact leaves_withNative fun _ =>
      ⟨rfl, rfl, rfl, rfl, fun _ => rfl, fun _ hop => absurd rfl hop, fun _ _ => rfl⟩
  | bindPipeline p =>
    obtain rfl := Option.some.inj h
    apply leaves_withNative
    intro b
    split
    · exact .refl c _
    · exact ⟨rfl, rfl, rfl, rfl, fun hop => absurd rfl (hop p), fun _ _ => rfl, fun _ _ => rfl⟩
  | set x =>
    obtain rfl := Option.some.inj h
    apply leaves_withNative
    intro b
    split
    · exact .refl c _
    · exact ⟨rfl, rfl, rfl, rfl, fun _ => rfl, fun _ _ => rfl, fun _ hop => absurd rfl (hop x)⟩
  | execute children =>
    obtain rfl := Option.some.inj h
    unfold execute
    split
    · exact .refl c _
    · exact leaves_withNative fun _ => others rfl rfl rfl rfl rfl rfl rfl
  | bindAssembler id =>
    obtain rfl := Option.some.inj h
    simp only [bindAssembler]
    repeat' split
    all_goals exact others rfl rfl rfl rfl rfl rfl rfl
  | updateBuffer buffer offset data =>
    obtain rfl := Option.some.inj h
    simp only [updateBuffer]
    repeat' split
    all_goals exact others rfl rfl rfl rfl rfl rfl rfl
  | draw id =>
    obtain rfl := Option.some.inj h
    apply leaves_withNative
    intro b
    simp only
    repeat' split
    all_goals exact others rfl rfl rfl rfl rfl rfl rfl
  | copyToTexture sources texture regions =>
    obtain rfl := Option.some.inj h
    simp only [copyToTexture]
    repeat' split
    all_goals exact others rfl rfl rfl rfl rfl rfl rfl

end CommandBuffer

end GpuRecorder.Recording
