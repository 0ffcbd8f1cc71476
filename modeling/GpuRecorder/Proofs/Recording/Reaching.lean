import GpuRecorder.Proofs.Recording.Observed

/-!
# What reaches the driver

Which operations of a ready command buffer record something, as their guards decide.  The guards
look at the open pass, at what is bound and at the arguments.  Whether the recording is open is
nothing that a command buffer knows, so no guard looks at it.
-/

namespace GpuRecorder.Native

/-! ## 1. Calls that commands leave -/

theorem entries_of_sort {x : Command} (h : x.sort ≠ .setting) (b : Handle .commandBuffer) :
    (Request.record b x).entries = [.record b x] := by
  cases x with
  | setViewports first viewports => exact absurd rfl h
  | setScissors first scissors => exact absurd rfl h
  | _ => rfl

/-- Commands that are not settings are written down as they are. -/
theorem mem_recordedCalls_of_sort {commands : List Command} (h : ∀ x ∈ commands, x.sort ≠ .setting)
    {b : Handle .commandBuffer} {call : Call} (hcall : call ∈ recordedCalls b commands) :
    ∃ x ∈ commands, call = .request (.record b x) := by
  obtain ⟨r, hr, rfl⟩ := List.mem_map.1 hcall
  obtain ⟨x, hx, hentry⟩ := List.mem_flatMap.1 hr
  rw [entries_of_sort (h x hx)] at hentry
  exact ⟨x, hx, by rw [List.mem_singleton.1 hentry]⟩

/-- Only viewports and scissors are split into entries, so any other command leaves a call. -/
theorem recordedCalls_ne_nil_iff {commands : List Command} (h : ∀ x ∈ commands, x.sort ≠ .setting)
    (b : Handle .commandBuffer) : recordedCalls b commands ≠ [] ↔ commands ≠ [] := by
  cases commands with
  | nil => simp
  | cons x rest =>
    rw [recordedCalls, List.flatMap_cons, entries_of_sort (h x List.mem_cons_self)]
    simp

end GpuRecorder.Native

namespace GpuRecorder.Recording

open Draw Native Resource Device

/-! ## 2. Guards -/

section

variable {σ : Type} [Driver σ]

/-- Resolving a layout records something: a set is shared, and it can be pushed, or the pools grant
native sets. -/
def ResolutionReaches (d : Device σ) (p : Pipeline) (l : Layout) : Prop :=
  0 < sharedSets l p.shader ∧
    if d.capabilities.pushDescriptor then
      ∃ set < sharedSets l p.shader, (p.shader.template? set).isSome
    else
      ∃ sets, (d.allocateSets (p.shader.nativeLayouts (sharedSets l p.shader))).answer = .ok sets

/-- An operation of a ready command buffer gets past its guards and records something. -/
def CommandBuffer.Reaches (c : CommandBuffer) (d : Device σ) (s : Store) : Operation → Prop
  | .setUp _ _ | .release | .begin _ _ _ | .finish => False
  | .beginPass p => (s.resolve p.framebuffer).isSome
  | .endPass => True
  | .bindPipeline p => c.boundPipeline ≠ some p.id
  | .bindLayout id =>
    c.bindings.layout ≠ some id ∧ ∃ p, c.bindings.pipeline = some p ∧
      (∀ set < sharedSets (s.layouts.get id) p.shader,
        (s.layouts.get id).slots set = p.shader.slots set) ∧
      ResolutionReaches d p (s.refreshed (s.layouts.get id))
  | .bindAssembler id =>
    c.bindings.assembler ≠ some id ∧
      ((s.assemblers.get id).streams ≠ [] ∨ (s.assemblers.get id).index.isSome)
  | .set x => c.bindings.dynamic.holds x = false
  | .draw id =>
    c.passIsMissing = false ∧ ∀ i, (s.assemblers.get id).indirect = some i →
      d.capabilities.multiDrawIndirect = true ∨ 0 < i.count
  | .execute children => ∃ child ∈ children, child.isReady = true
  | .updateBuffer buffer offset data =>
    c.passIsOpen = false ∧ data ≠ [] ∧
      CommandBuffer.updateFault (s.backing buffer).size offset data.length = none
  | .copyToTexture sources _ regions =>
    c.passIsOpen = false ∧ regions ≠ [] ∧ regions.length ≤ sources.length ∧
      CommandBuffer.boxOverflows regions = false

end

namespace CommandBuffer

/-! ## 3. Commands -/

theorem assemblerCommands_ne_nil_iff (s : Store) (a : Assembler) :
    assemblerCommands (s.vertexStreams a) (s.indexBinding a) ≠ [] ↔
      a.streams ≠ [] ∨ a.index.isSome := by
  unfold assemblerCommands Store.vertexStreams Store.indexBinding
  cases a.streams <;> cases a.index <;> simp

theorem indirectCommands_ne_nil_iff (multiDraw : Bool) (start : BufferPoint) (i : Indirect) :
    indirectCommands multiDraw start i ≠ [] ↔ multiDraw = true ∨ 0 < i.count := by
  cases multiDraw with
  | true => simp [indirectCommands]
  | false =>
    rw [← List.length_pos_iff, length_indirectCommands_single]
    simp

/-- A copy whose box can be worked out has recorded its first barrier wherever it stops. -/
theorem copiedCommands_ne_nil_iff (s : Store) (sources : List ResourceId) (t : Texture)
    (regions : List CopyRegion) :
    copiedCommands s sources t regions ≠ [] ↔ boxOverflows regions = false := by
  cases hbox : boxOverflows regions with
  | true => simp [copiedCommands, copyStop?, hbox]
  | false =>
    have hstop (stop : Nat) (h : copyStop? s sources regions = some stop) : stop ≠ 0 := by
      simp only [copyStop?, hbox, Bool.false_eq_true, if_false, Option.map_eq_some_iff] at h
      obtain ⟨i, -, rfl⟩ := h
      exact Nat.succ_ne_zero i
    refine iff_of_true ?_ rfl
    unfold copiedCommands
    simp only
    split
    · simp [copyCommands]
    · rename_i stop h
      simp [copyCommands, hstop stop h]

theorem updateCommands_chunks_ne_nil {data : List UInt8} (h : data ≠ []) (start : BufferPoint) :
    updateCommands start (chunks maxUpdateBytes data) ≠ [] := by
  rw [chunks, dif_neg (by simp [maxUpdateBytes, h])]
  exact List.cons_ne_nil _ _

theorem readyHandles_isEmpty (children : List CommandBuffer) :
    (children.filter isReady).isEmpty = false ↔ ∃ child ∈ children, child.isReady = true := by
  rw [← Bool.not_eq_true, List.isEmpty_iff, List.filter_eq_nil_iff]
  simp

/-! ## 4. Scripts -/

section

variable {σ : Type} [Driver σ] {c : CommandBuffer} {b : Handle .commandBuffer}

theorem record_reaches {commands : List Command} (h : ∀ x ∈ commands, x.sort ≠ .setting) :
    (Script.record b commands).calls ≠ [] ↔ commands ≠ [] := by
  rw [Script.calls_record]
  exact recordedCalls_ne_nil_iff h b

theorem beginPass_reaches (hb : c.handle? = some b) (s : Store) (p : PassOpening) :
    (c.beginPass s p).2.calls ≠ [] ↔ (s.resolve p.framebuffer).isSome := by
  obtain ⟨native, hn, rfl⟩ := Option.map_eq_some_iff.1 hb
  rw [beginPass, withNative_of_ready hn]
  cases s.resolve p.framebuffer with
  | none => simp [refuse, Script.calls]
  | some framebuffer =>
    simp only
    rw [Script.calls_append, Script.calls_of_requests_nil p.requests_shortage, Script.calls_record]
    -- The opening of the pass comes first, whatever the settings after it leave.
    exact iff_of_true (List.cons_ne_nil _ _) rfl

theorem draw_reaches (hb : c.handle? = some b) (d : Device σ) (s : Store) (id : ResourceId) :
    (c.draw d.capabilities.multiDrawIndirect s id).2.calls ≠ [] ↔ c.Reaches d s (.draw id) := by
  obtain ⟨native, hn, rfl⟩ := Option.map_eq_some_iff.1 hb
  rw [draw, withNative_of_ready hn, Reaches]
  cases hmissing : c.passIsMissing with
  | true => simp [refuse, Script.calls]
  | false =>
    simp only [Bool.false_eq_true, if_false, true_and]
    cases hindirect : (s.assemblers.get id).indirect with
    | some i =>
      simp only [Option.some.injEq, forall_eq']
      rw [record_reaches fun x hx => by simp [sort_indirect _ _ _ x hx],
        indirectCommands_ne_nil_iff]
    | none =>
      have hsort (indexed : Bool) (p : Parameters) :
          ∀ x ∈ [directCommand indexed p], x.sort ≠ .setting := by
        intro x hx
        rw [List.mem_singleton.1 hx, sort_direct]
        decide
      simp only
      rw [record_reaches (hsort _ _)]
      simp

theorem execute_reaches (hb : c.handle? = some b) (children : List CommandBuffer) :
    (c.execute children).2.calls ≠ [] ↔ ∃ child ∈ children, child.isReady = true := by
  by_cases hnone : children = []
  · simp [execute, hnone]
  obtain ⟨native, hn, rfl⟩ := Option.map_eq_some_iff.1 hb
  rw [execute, if_neg (by simpa using hnone), withNative_of_ready hn, ← readyHandles_isEmpty]
  simp only
  rw [Script.calls_append, Script.calls_of_requests_nil (requests_skipped children),
    List.nil_append]
  cases (children.filter isReady).isEmpty with
  | true => simp
  | false => exact iff_of_true (List.cons_ne_nil _ _) rfl

theorem updateBuffer_reaches (hb : c.handle? = some b) (d : Device σ) (s : Store)
    (buffer : ResourceId) (offset : Nat) (data : List UInt8) :
    (c.updateBuffer s buffer offset data).2.2.calls ≠ [] ↔
      c.Reaches d s (.updateBuffer buffer offset data) := by
  rw [updateBuffer, hb, Reaches]
  simp only
  -- One guard after the other; what is left is cut into at least one piece.
  by_cases hopen : c.passIsOpen
  · simp [hopen, refuseInPass, refuse, Script.calls]
  rw [if_neg hopen]
  by_cases hdata : data = []
  · simp [hdata]
  rw [if_neg (by simpa using hdata)]
  cases hfault : updateFault (s.backing buffer).size offset data.length with
  | some text => simp [refuse, Script.calls]
  | none =>
    simp only
    rw [record_reaches fun x hx => by simp [sort_update _ _ x hx]]
    refine iff_of_true (updateCommands_chunks_ne_nil hdata _) ⟨?_, hdata, trivial⟩
    simpa using hopen

theorem copyToTexture_reaches (hb : c.handle? = some b) (d : Device σ) (s : Store)
    (sources : List ResourceId) (texture : ResourceId) (regions : List CopyRegion) :
    (c.copyToTexture s sources texture regions).2.2.calls ≠ [] ↔
      c.Reaches d s (.copyToTexture sources texture regions) := by
  simp only [copyToTexture, hb, Reaches]
  by_cases hopen : c.passIsOpen
  · simp [hopen, refuseInPass, refuse, Script.calls]
  rw [if_neg hopen]
  by_cases hregions : regions = []
  · simp [hregions]
  rw [if_neg (by simpa using hregions)]
  by_cases hshort : sources.length < regions.length
  · simp [hshort, Nat.not_le.2 hshort, refuse, Script.calls]
  rw [if_neg hshort]
  simp only
  rw [record_reaches fun x hx => by simp [sort_copy _ _ _ _ x hx], copiedCommands_ne_nil_iff]
  exact ⟨fun hbox => ⟨by simpa using hopen, hregions, Nat.le_of_not_lt hshort, hbox⟩,
    fun h => h.2.2.2⟩

theorem scripted_reaches (hb : c.handle? = some b) {d : Device σ} {s : Store} {op : Operation}
    {r : CommandBuffer × Script} (h : c.scripted? d s op = some r) :
    r.2.calls ≠ [] ↔ c.Reaches d s op := by
  obtain ⟨native, hn, rfl⟩ := Option.map_eq_some_iff.1 hb
  cases op with
  | setUp kind queue => cases h
  | release => cases h
  | begin pass subpass framebuffer => cases h
  | finish => cases h
  | bindLayout id => cases h
  | beginPass p =>
    obtain rfl := Option.some.inj h
    exact beginPass_reaches hb s p
  | endPass =>
    obtain rfl := Option.some.inj h
    rw [endPass, withNative_of_ready hn, Script.calls_record]
    exact iff_of_true (List.cons_ne_nil _ _) trivial
  | bindPipeline p =>
    obtain rfl := Option.some.inj h
    rw [bindPipeline, withNative_of_ready hn, Reaches]
    split
    · simp_all
    · rename_i hfresh
      rw [Script.calls_record]
      exact iff_of_true (List.cons_ne_nil _ _) hfresh
  | bindAssembler id =>
    obtain rfl := Option.some.inj h
    rw [bindAssembler_of_ready hn, Reaches]
    split
    · simp_all
    · rename_i hfresh
      rw [record_reaches fun x hx => by simp [sort_assembler _ _ x hx],
        assemblerCommands_ne_nil_iff]
      simp [hfresh]
  | set x =>
    obtain rfl := Option.some.inj h
    rw [set, withNative_of_ready hn, Reaches]
    split
    · simp_all
    · rename_i hnew
      rw [Script.calls_record]
      exact iff_of_true (recordedCalls_setting_ne_nil _ x) (by simpa using hnew)
  | draw id =>
    obtain rfl := Option.some.inj h
    exact draw_reaches hb d s id
  | execute children =>
    obtain rfl := Option.some.inj h
    exact execute_reaches hb children
  | updateBuffer buffer offset data =>
    obtain rfl := Option.some.inj h
    exact updateBuffer_reaches hb d s buffer offset data
  | copyToTexture sources texture regions =>
    obtain rfl := Option.some.inj h
    exact copyToTexture_reaches hb d s sources texture regions

end

end CommandBuffer

/-! ## 5. Layouts -/

section

variable {σ : Type} [Driver σ]

theorem poolCalls_observed : PoolCalls (Observed.Appends (σ := σ) (madeByPools ·)) where
  refl := .refl
  trans := .trans
  createCommandPool o family := by
    apply Observed.Appends.answered
    exact fun _ => rfl
  allocateCommandBuffers o pool level count := by
    apply Observed.Appends.answered
    exact fun _ => rfl
  createDescriptorPool o maxSets sizes := by
    apply Observed.Appends.answered
    exact fun _ => rfl
  allocateDescriptorSets o pool layouts := by
    apply Observed.Appends.answered
    exact fun _ => rfl
  resetDescriptorPool o pool := by
    apply Observed.Appends.answered
    exact fun _ => rfl

theorem pushCommands_ne_nil_iff (s : Shader) (l : Layout) (count : Nat) :
    pushCommands s l (List.range count) ≠ [] ↔ ∃ set < count, (s.template? set).isSome := by
  rw [pushCommands, ne_eq, List.filterMap_eq_nil_iff]
  simp [Option.ne_none_iff_isSome]

theorem resolution_reaches (d : Device (Observed σ)) (b : Handle .commandBuffer) (p : Pipeline)
    (l : Layout) :
    ∃ news commands,
      (resolveLayout d b p l).outcome.device.driver.history = d.driver.history ++ news ∧
        Confined (some b) news ∧ callsInto b news = recordedCalls b commands ∧
          (recordedCalls b commands ≠ [] ↔ ResolutionReaches d p l) := by
  obtain ⟨script, hresolves, hdevice⟩ : ∃ script, _ ∧ _ := resolves_played d b p l
  obtain ⟨tries, hpooled, htries⟩ :
      Observed.Appends (madeByPools ·) d.driver (pooled d p l).driver := by
    unfold pooled
    split
    · exact .refl _
    · exact poolCalls_observed.allocate _ _ _
  have hhistory : (resolveLayout d b p l).outcome.device.driver.history =
      d.driver.history ++ (tries ++ script.calls) := by
    rw [hdevice, play_device, Observed.history_play, hpooled, List.append_assoc]
  have hapart : Confined (some b) tries := fun x hx => Or.inl (target_of_madeByPools (htries x hx))
  -- What the pools do is done on the device, so only the script matters here.
  suffices hscript : Confined (some b) script.calls ∧ ∃ commands,
      callsInto b script.calls = recordedCalls b commands ∧
        (recordedCalls b commands ≠ [] ↔ ResolutionReaches d p l) by
    obtain ⟨hconfined, commands, hcalls, hreaches⟩ := hscript
    refine ⟨_, commands, hhistory, hapart.append hconfined, ?_, hreaches⟩
    rw [callsInto_append, callsInto_of_madeByPools b htries, List.nil_append, hcalls]
  clear hhistory hdevice
  generalize (resolveLayout d b p l).outcome.answer = answer,
    (resolveLayout d b p l).layout = l' at hresolves
  cases hresolves with
  | nothing hzero =>
    refine ⟨Confined.nil _, [], rfl, iff_of_false (by simp) ?_⟩
    exact fun h => absurd hzero (Nat.ne_of_gt h.1)
  | pushed hpos hpush =>
    rw [calls_pushes]
    refine ⟨Confined.recorded _ _, _, callsInto_recordedCalls _ _, ?_⟩
    rw [recordedCalls_ne_nil_iff, pushCommands_ne_nil_iff]
    · simp [ResolutionReaches, hpos, hpush]
    · intro x hx
      rw [sort_delivers (.pushed hpos) x hx]
      decide
  | refused hpos hpush hsets =>
    refine ⟨Confined.nil _, [], rfl, iff_of_false (by simp) ?_⟩
    simp [ResolutionReaches, hpush, hsets]
  | written hpos hpush hsets hnatives =>
    rw [Script.calls_append, callsInto_append, callsInto_writeSets, List.nil_append,
      Script.calls_record]
    refine ⟨?_, _, callsInto_recordedCalls _ _, iff_of_true (List.cons_ne_nil _ _) ?_⟩
    · refine Confined.append (fun x hx => Or.inl ?_) (Confined.recorded _ _)
      exact (confined_writeSets _ _ _ _ x hx).elim id id
    · simp [ResolutionReaches, hpos, hpush, hsets]

namespace CommandBuffer

/-- Binding a layout leaves the device alone, or resolves the layout for the bound pipeline. -/
theorem bindLayout_reaches {c : CommandBuffer} {b : Handle .commandBuffer} (hb : c.handle? = some b)
    (d : Device σ) (s : Store) (id : ResourceId) :
    ((c.bindLayout d s id).outcome.device = d ∧ ¬ c.Reaches d s (.bindLayout id)) ∨
      ∃ p, (c.bindLayout d s id).outcome.device =
          (resolveLayout d b p (s.refreshed (s.layouts.get id))).outcome.device ∧
        (c.Reaches d s (.bindLayout id) ↔
          ResolutionReaches d p (s.refreshed (s.layouts.get id))) := by
  unfold bindLayout Reaches
  rw [hb]
  cases hpipeline : c.bindings.pipeline with
  | none => exact Or.inl ⟨rfl, by simp⟩
  | some p =>
    simp only
    by_cases hbound : c.bindings.layout = some id
    · rw [if_pos hbound]
      exact Or.inl ⟨rfl, fun h => h.1 hbound⟩
    rw [if_neg hbound]
    cases hmismatch : mismatch? (s.layouts.get id) p.shader with
    | some set =>
      refine Or.inl ⟨rfl, ?_⟩
      rintro ⟨-, p', heq, hfits, -⟩
      obtain rfl := Option.some.inj heq
      rw [mismatch?_eq_none_iff.2 hfits] at hmismatch
      cases hmismatch
    | none =>
      refine Or.inr ⟨p, ?_, ?_⟩
      · simp only
        split <;> rfl
      · refine ⟨?_, fun h => ⟨hbound, p, rfl, mismatch?_eq_none_iff.1 hmismatch, h⟩⟩
        rintro ⟨-, p', heq, -, h⟩
        cases heq
        exact h

end CommandBuffer

/-! ## 6. Operations -/

/-- The operation opens or closes a recording. -/
def Operation.delimits : Operation → Bool
  | .begin _ _ _ | .finish => true
  | _ => false

namespace CommandBuffer

/-- Whether recording is open after an operation.  It is opened only by a `begin` that has what it
needs and that the driver accepts. -/
def isOpenAfter (c : CommandBuffer) (d : Device σ) (s : Store) (recording : Bool) :
    Operation → Bool
  | .begin pass subpass framebuffer =>
    (openingOf c.kind s pass subpass framebuffer).isSome &&
      (c.perform d s (.begin pass subpass framebuffer)).outcome.answer = .done
  | .finish => false
  | _ => recording

/-- What an operation puts into the buffer that is held. -/
inductive Puts (c : CommandBuffer) (d : Device (Observed σ)) (s : Store)
    (b : Handle .commandBuffer) : Operation → List Call → Prop
  | opened {pass subpass framebuffer args}
      (opens : ∀ recording,
        c.isOpenAfter d s recording (.begin pass subpass framebuffer) = true) :
    Puts c d s b (.begin pass subpass framebuffer) [.begin b args]
  | unopened {pass subpass framebuffer}
      (stays : ∀ recording,
        c.isOpenAfter d s recording (.begin pass subpass framebuffer) = false) :
    Puts c d s b (.begin pass subpass framebuffer) []
  | closed {calls} (ends : ∀ x ∈ calls, x = .finish b) : Puts c d s b .finish calls
  | recorded {op commands} (inside : op.delimits = false)
      (reaches : recordedCalls b commands ≠ [] ↔ c.Reaches d s op) :
    Puts c d s b op (recordedCalls b commands)

/-- An operation adds calls to the buffer that is held and to no other. -/
def PutsOwn (c : CommandBuffer) (d : Device (Observed σ)) (s : Store) (op : Operation)
    (o : Observed σ) : Prop :=
  ∃ news, o.history = d.driver.history ++ news ∧ Confined c.handle? news ∧
    ∀ b, c.handle? = some b → c.Puts d s b op (callsInto b news)

section

variable {c : CommandBuffer} {d : Device (Observed σ)} {s : Store}

/-- Calls on the device put nothing into any buffer. -/
theorem putsOwn_apart {op : Operation} {o : Observed σ}
    (happends : Observed.Appends (·.target? = none) d.driver o) (inside : op.delimits = false)
    (hreaches : c.handle?.isSome → ¬ c.Reaches d s op) : c.PutsOwn d s op o := by
  obtain ⟨news, hhistory, hnews⟩ := happends
  refine ⟨news, hhistory, fun x hx => Or.inl (hnews x hx), fun b hb => ?_⟩
  rw [callsInto_eq_nil fun x hx => by simp [hnews x hx]]
  show c.Puts d s b op (recordedCalls b [])
  exact .recorded inside (iff_of_false (by simp) (hreaches (by simp [hb])))

theorem putsOwn_scripted {op : Operation} {r : CommandBuffer × Script}
    (h : c.scripted? d s op = some r) (inside : op.delimits = false) :
    c.PutsOwn d s op (r.2.play d.driver).2 := by
  refine ⟨_, d.driver.history_play r.2, confined_scripted h, fun b hb => ?_⟩
  have hreaches := scripted_reaches hb h
  rcases sends_scripted h with hnone | ⟨b', commands, hb', hcalls, _⟩
  · rw [hnone] at hreaches ⊢
    show c.Puts d s b op (recordedCalls b [])
    exact .recorded inside hreaches
  · cases hb.symm.trans hb'
    rw [hcalls] at hreaches ⊢
    rw [callsInto_recordedCalls]
    exact .recorded inside hreaches

theorem putsOwn_begin (c : CommandBuffer) (d : Device (Observed σ)) (s : Store)
    (pass : Option RenderPass) (subpass : Nat) (framebuffer : Option Framebuffer) :
    c.PutsOwn d s (.begin pass subpass framebuffer)
      (c.begin d s pass subpass framebuffer).outcome.device.driver := by
  -- Without a native buffer or without a pass for a secondary one the driver is not asked.
  cases hb : c.handle? with
  | none =>
    refine ⟨[], ?_, Confined.nil _, fun b heq => absurd (hb.symm.trans heq) nofun⟩
    simp [CommandBuffer.begin, hb]
  | some b =>
    cases hopening : openingOf c.kind s pass subpass framebuffer with
    | none =>
      refine ⟨[], ?_, Confined.nil _, fun b' _ => .unopened fun _ => ?_⟩
      · simp [CommandBuffer.begin, hb, hopening]
      · simp [isOpenAfter, hopening]
    | some opening =>
      have hbegin : c.begin d s pass subpass framebuffer =
          ⟨{ c with bindings := {}, stats := {} },
            d.call fun driver => Driver.beginRecording driver b opening⟩ := by
        simp [CommandBuffer.begin, hb, hopening]
      have hopens (recording : Bool) :
          c.isOpenAfter d s recording (.begin pass subpass framebuffer) = decide
            (Answer.ofExcept ((Driver.beginRecording d.driver.driver b opening).1.mapError .api) =
              .done) := by
        rw [isOpenAfter, hopening, perform, asked, hbegin]
        rfl
      rw [hbegin]
      refine ⟨_, rfl, fun x hx => Or.inr ?_, fun b' hb' => ?_⟩
      · obtain ⟨_, _, rfl⟩ := List.mem_map.1 hx
        exact hb.symm
      · cases hb.symm.trans hb'
        cases hanswer : (Driver.beginRecording d.driver.driver b opening).1 with
        | error code =>
          rw [hanswer] at hopens
          exact .unopened hopens
        | ok u =>
          rw [hanswer] at hopens
          rw [callsInto_eq_self fun x hx => by rw [List.mem_singleton.1 hx]; rfl]
          exact .opened hopens

theorem putsOwn_finish (c : CommandBuffer) (d : Device (Observed σ)) (s : Store) :
    c.PutsOwn d s .finish (c.finish d).outcome.device.driver := by
  cases hb : c.handle? with
  | none =>
    refine ⟨[], ?_, Confined.nil _, fun b heq => absurd (hb.symm.trans heq) nofun⟩
    simp [finish, hb]
  | some b =>
    have hfinish : c.finish d = ⟨{ c with bindings := { c.bindings with framebuffer := none } },
        d.call fun driver => Driver.endRecording driver b⟩ := by
      simp [finish, hb]
    rw [hfinish]
    refine ⟨_, rfl, fun x hx => Or.inr ?_, fun b' hb' => .closed fun x hx => ?_⟩
    · obtain ⟨_, _, rfl⟩ := List.mem_map.1 hx
      exact hb.symm
    · cases hb.symm.trans hb'
      obtain ⟨_, _, rfl⟩ := List.mem_map.1 (List.mem_of_mem_filter hx)
      rfl

theorem putsOwn_bindLayout (c : CommandBuffer) (d : Device (Observed σ)) (s : Store)
    (id : ResourceId) :
    c.PutsOwn d s (.bindLayout id) (c.bindLayout d s id).outcome.device.driver := by
  cases hb : c.handle? with
  | none =>
    have hstill : (c.bindLayout d s id).outcome.device = d := by simp [bindLayout, hb]
    rw [hstill]
    exact putsOwn_apart (.refl _) rfl (by simp [hb])
  | some b =>
    rcases bindLayout_reaches hb d s id with ⟨hstill, hreaches⟩ | ⟨p, hdevice, hreaches⟩
    · rw [hstill]
      exact putsOwn_apart (.refl _) rfl fun _ => hreaches
    · obtain ⟨news, commands, hhistory, hconfined, hcalls, hresolution⟩ :=
        resolution_reaches d b p (s.refreshed (s.layouts.get id))
      rw [hdevice]
      refine ⟨news, hhistory, hb ▸ hconfined, fun b' hb' => ?_⟩
      cases hb.symm.trans hb'
      rw [hcalls]
      exact .recorded rfl (hresolution.trans hreaches.symm)

/-- Every operation puts calls into the buffer that is held and into no other. -/
theorem putsOwn_perform (c : CommandBuffer) (d : Device (Observed σ)) (s : Store)
    (op : Operation) : c.PutsOwn d s op (c.perform d s op).outcome.device.driver := by
  cases hscript : c.scripted? d s op with
  | some r =>
    rw [(perform_scripted hscript).2]
    apply putsOwn_scripted hscript
    cases op <;> first | rfl | cases hscript
  | none =>
    cases op with
    | setUp kind queue =>
      show c.PutsOwn d s _ (c.setUp d kind queue).outcome.device.driver
      rw [(setUp_spec c d kind queue).1]
      refine putsOwn_apart ?_ rfl fun _ => not_false
      rw [← driver_release c d]
      exact (poolCalls_observed.toLendingCalls.request _ _ kind.level queue.family).mono
        fun _ => target_of_madeByPools
    | release =>
      show c.PutsOwn d s _ (c.release d).outcome.device.driver
      rw [driver_release]
      exact putsOwn_apart (.refl _) rfl fun _ => not_false
    | begin pass subpass framebuffer => exact c.putsOwn_begin d s pass subpass framebuffer
    | finish => exact c.putsOwn_finish d s
    | bindLayout id => exact c.putsOwn_bindLayout d s id
    | _ => cases hscript

end

end CommandBuffer

end

end GpuRecorder.Recording
