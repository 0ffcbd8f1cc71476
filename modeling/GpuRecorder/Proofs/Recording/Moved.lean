import GpuRecorder.Proofs.Device.Asking
import GpuRecorder.Proofs.Device.TracePools
import GpuRecorder.Proofs.Native.Renaming
import GpuRecorder.Proofs.Recording.BindLayout
import GpuRecorder.Proofs.Recording.SetUse
import GpuRecorder.Proofs.Resource.Alike

/-!
# The same recording elsewhere

What an operation records depends on what its command buffer remembers, on the current contents of
the store and on what the device can do.  On another native buffer, beside an alike store and over
pools with another past it records the same, but for the names of the descriptor sets.
-/

namespace GpuRecorder.Native

/-! ## 1. Scripts -/

/-- The same effect on another buffer. -/
def Effect.moved (buffer : Handle .commandBuffer)
    (f : Handle .descriptorSet → Handle .descriptorSet) : Effect → Effect
  | .request r => .request (r.moved buffer f)
  | .report m => .report m

namespace Script

variable {b b' : Handle .commandBuffer} {f : Handle .descriptorSet → Handle .descriptorSet}

/-- The same script on another buffer. -/
def moved (buffer : Handle .commandBuffer) (f : Handle .descriptorSet → Handle .descriptorSet)
    (s : Script) : Script :=
  s.map (Effect.moved buffer f)

theorem moved_append (s t : Script) : (s ++ t).moved b f = s.moved b f ++ t.moved b f :=
  List.map_append

theorem moved_of_quiet {s : Script} (h : s.requests = []) : s.moved b f = s := by
  induction s with
  | nil => rfl
  | cons e s ih =>
    cases e with
    | report m => exact congrArg (Effect.report m :: ·) (ih h)
    | request r => cases h

theorem renameSets_of_sort {c : Command} (h : c.sort ≠ .descriptors) : c.renameSets f = c := by
  cases c with
  | bindDescriptorSets point layout first sets offsets => exact absurd rfl h
  | _ => rfl

/-- Commands that deliver no descriptors name no sets. -/
theorem moved_record {commands : List Command} (h : ∀ c ∈ commands, c.sort ≠ .descriptors) :
    (record b commands).moved b' f = record b' commands := by
  rw [record, moved, List.map_map, record]
  refine List.map_congr_left fun c hc => ?_
  exact congrArg (fun c => Effect.request (.record b' c)) (renameSets_of_sort (h c hc))

theorem calls_moved (s : Script) : (s.moved b f).calls = s.calls.map (Call.moved b f) := by
  have hrequests : (s.moved b f).requests = s.requests.map (Request.moved b f) := by
    induction s with
    | nil => rfl
    | cons e s ih =>
      cases e with
      | report m => exact ih
      | request r => exact congrArg (r.moved b f :: ·) ih
  rw [calls, hrequests, calls, List.map_map, List.flatMap_map, List.map_flatMap, List.map_flatMap]
  simp only [entries_moved, List.map_map]
  rfl

end Script

end GpuRecorder.Native

namespace GpuRecorder.Recording

open Draw Native Resource Device

namespace CommandBuffer

/-! ## 2. Operations that send a script -/

/-- The same command buffer, holding another native buffer. -/
def on (c : CommandBuffer) (native : NativeBuffer) (queue : Option Queue) : CommandBuffer :=
  { c with native := some native, queue }

/-- What is sent, sent from there instead. -/
def sentOn (native : NativeBuffer) (queue : Option Queue)
    (f : Handle .descriptorSet → Handle .descriptorSet) (r : CommandBuffer × Script) :
    CommandBuffer × Script :=
  (r.1.on native queue, r.2.moved native.handle f)

section

variable {c : CommandBuffer} {n n' : NativeBuffer} {queue : Option Queue}
  {f : Handle .descriptorSet → Handle .descriptorSet} {s s' : Store}

theorem withNative_on (ready : c.native = some n) {command : String}
    {g g' : Handle .commandBuffer → CommandBuffer × Script}
    (h : g' n'.handle = sentOn n' queue f (g n.handle)) :
    (c.on n' queue).withNative command g' = sentOn n' queue f (c.withNative command g) := by
  rw [withNative_of_ready ready, withNative_of_ready rfl, h]

theorem sentOn_record (c : CommandBuffer) (b : Handle .commandBuffer) {commands : List Command}
    (h : ∀ x ∈ commands, x.sort ≠ .descriptors) :
    (c.on n' queue, Script.record n'.handle commands) =
      sentOn n' queue f (c, Script.record b commands) := by
  rw [sentOn, Script.moved_record h]

theorem sort_ne_descriptors {commands : List Command} {sort : CommandSort}
    (hsort : ∀ x ∈ commands, x.sort = sort) (hother : sort ≠ .descriptors) :
    ∀ x ∈ commands, x.sort ≠ .descriptors :=
  fun x hx => hsort x hx ▸ hother

theorem beginPass_on (ready : c.native = some n) (alike : s.Alike s') (p : PassOpening) :
    (c.on n' queue).beginPass s' p = sentOn n' queue f (c.beginPass s p) := by
  apply withNative_on ready
  rw [alike.resolve]
  cases s.resolve p.framebuffer with
  | none => rfl
  | some framebuffer =>
    simp only [sentOn, Script.moved_append, Script.moved_of_quiet p.requests_shortage]
    rw [Script.moved_record]
    · rfl
    · intro x hx
      rcases List.mem_append.1 hx with hx | hx
      · rcases List.mem_cons.1 hx with rfl | hx
        · simp [Command.sort]
        · simp [sort_setting _ x hx]
      · simp [sort_setting _ x hx]

theorem bindAssembler_on (ready : c.native = some n) (alike : s.Alike s') (id : ResourceId) :
    ((c.on n' queue).bindAssembler s' id).2 = sentOn n' queue f (c.bindAssembler s id).2 := by
  have hbindings : (c.on n' queue).bindings = c.bindings := rfl
  rw [bindAssembler_of_ready ready, bindAssembler_of_ready rfl, hbindings, alike.vertexStreams,
    alike.indexBinding]
  split
  · rfl
  · exact sentOn_record { c with bindings := { c.bindings with assembler := some id } } n.handle
      (sort_ne_descriptors (sort_assembler _ _) (by simp))

theorem draw_on (ready : c.native = some n) (alike : s.Alike s') (multiDraw : Bool)
    (id : ResourceId) :
    (c.on n' queue).draw multiDraw s' id = sentOn n' queue f (c.draw multiDraw s id) := by
  apply withNative_on ready
  have hmissing : (c.on n' queue).passIsMissing = c.passIsMissing := rfl
  simp only [hmissing, alike.indirect, alike.index, alike.drawParameters, alike.start]
  split
  · rfl
  · split
    · exact sentOn_record c n.handle (sort_ne_descriptors (sort_indirect _ _ _) (by simp))
    · refine sentOn_record { c with stats := c.stats.accumulate _ } n.handle fun x hx => ?_
      rw [List.mem_singleton.1 hx, sort_direct]
      simp

theorem execute_on (ready : c.native = some n) (children : List CommandBuffer) :
    (c.on n' queue).execute children = sentOn n' queue f (c.execute children) := by
  unfold execute
  split
  · rfl
  · apply withNative_on ready
    rw [sentOn, Script.moved_append, Script.moved_of_quiet (requests_skipped children),
      Script.moved_record]
    · rfl
    · intro x hx
      split at hx
      · cases hx
      · rw [List.mem_singleton.1 hx]
        simp [Command.sort]

theorem updateBuffer_on (ready : c.native = some n) (alike : s.Alike s') (buffer : ResourceId)
    (offset : Nat) (data : List UInt8) :
    (c.on n' queue).updateBuffer s' buffer offset data =
      ((c.updateBuffer s buffer offset data).1,
        sentOn n' queue f (c.updateBuffer s buffer offset data).2) := by
  have hopen : (c.on n' queue).passIsOpen = c.passIsOpen := rfl
  simp only [updateBuffer, handle?_of_native ready,
    handle?_of_native (c := c.on n' queue) (n := n') rfl, hopen, alike.backing]
  split
  · rfl
  · split
    · rfl
    · split
      · rfl
      · rw [← sentOn_record c n.handle (sort_ne_descriptors (sort_update _ _) (by simp))]

theorem copyToTexture_on (ready : c.native = some n) (alike : s.Alike s')
    (sources : List ResourceId) (texture : ResourceId) (regions : List CopyRegion) :
    (c.on n' queue).copyToTexture s' sources texture regions =
      ((c.copyToTexture s sources texture regions).1,
        sentOn n' queue f (c.copyToTexture s sources texture regions).2) := by
  have hstop : copyStop? s' sources regions = copyStop? s sources regions := by
    simp only [copyStop?, startOverflows, alike.start]
  have hcommands : copiedCommands s' sources (s'.textures.get texture) regions =
      copiedCommands s sources (s.textures.get texture) regions := by
    simp only [copiedCommands, copyCommands, hstop, alike.textures, alike.start]
  have hopen : (c.on n' queue).passIsOpen = c.passIsOpen := rfl
  simp only [copyToTexture, handle?_of_native ready,
    handle?_of_native (c := c.on n' queue) (n := n') rfl, hopen, hstop, hcommands]
  split
  · rfl
  · split
    · rfl
    · split
      · rfl
      · rw [← sentOn_record c n.handle (sort_ne_descriptors (sort_copy _ _ _ _) (by simp))]

variable {σ : Type} {d d' : Device σ}

/-- An operation that sends a script sends the same one from another native buffer. -/
theorem scripted_on (ready : c.native = some n) (alike : s.Alike s')
    (capable : d'.capabilities = d.capabilities) (op : Operation) :
    (c.on n' queue).scripted? d' s' op = (c.scripted? d s op).map (sentOn n' queue f) := by
  -- The first five ask the device themselves and send nothing.
  cases op with
  | setUp kind queue => rfl
  | release => rfl
  | begin pass subpass framebuffer => rfl
  | finish => rfl
  | bindLayout id => rfl
  | beginPass p => exact congrArg some (beginPass_on ready alike p)
  | endPass =>
    refine congrArg some (withNative_on ready ?_)
    exact sentOn_record { c with bindings := { c.bindings with framebuffer := none } } n.handle
      (by simp [Command.sort])
  | bindPipeline p =>
    refine congrArg some (withNative_on ready ?_)
    have hbound : (c.on n' queue).boundPipeline = c.boundPipeline := rfl
    rw [hbound]
    split
    · rfl
    · exact sentOn_record { c with bindings := { c.bindings with pipeline := some p } } n.handle
        (by simp [Command.sort])
  | bindAssembler id => exact congrArg some (bindAssembler_on ready alike id)
  | set x =>
    refine congrArg some (withNative_on ready ?_)
    have hbindings : (c.on n' queue).bindings = c.bindings := rfl
    rw [hbindings]
    split
    · rfl
    · exact sentOn_record
        { c with bindings := { c.bindings with dynamic := c.bindings.dynamic.remember x } } n.handle
        (sort_ne_descriptors (sort_setting x) (by simp))
  | draw id =>
    rw [scripted?, capable]
    exact congrArg some (draw_on ready alike _ id)
  | execute children => exact congrArg some (execute_on ready children)
  | updateBuffer buffer offset data =>
    exact congrArg some (congrArg Prod.snd (updateBuffer_on ready alike buffer offset data))
  | copyToTexture sources texture regions =>
    exact congrArg some (congrArg Prod.snd (copyToTexture_on ready alike sources texture regions))

/-- It also answers the same. -/
theorem answer_on [Driver σ] (ready : c.native = some n) (alike : s.Alike s') {op : Operation}
    (hscript : (c.scripted? d s op).isSome) :
    ((c.on n' queue).perform d' s' op).outcome.answer = (c.perform d s op).outcome.answer := by
  cases op with
  | setUp kind queue => cases hscript
  | release => cases hscript
  | begin pass subpass framebuffer => cases hscript
  | finish => cases hscript
  | bindLayout id => cases hscript
  | updateBuffer buffer offset data =>
    have hsame : (c.on n' queue).updateBuffer s' buffer offset data = _ :=
      updateBuffer_on (f := id) ready alike buffer offset data
    exact congrArg (fun r => Answer.updated r.1) hsame
  | copyToTexture sources texture regions =>
    have hsame : (c.on n' queue).copyToTexture s' sources texture regions = _ :=
      copyToTexture_on (f := id) ready alike sources texture regions
    exact congrArg (fun r => Answer.ofAttempt r.1) hsame
  | _ => rfl

end

end CommandBuffer

/-! ## 3. Resolving a layout -/

/-- The native sets that a layout needs. -/
def needed (push : Bool) (p : Pipeline) (l : Layout) : Nat :=
  if push then 0 else sharedSets l p.shader

/-- Whether pools of one size can serve a layout. -/
def verdict (push : Bool) (capacity : Nat) (p : Pipeline) (l : Layout) : Except Failure Unit :=
  if needed push p l ≤ capacity then .ok ()
  else .error (.error (.outOfPoolMemory (needed push p l)))

/-- What goes into the command buffer when some native sets are granted. -/
def deliveryCommands (push : Bool) (capacity : Nat) (p : Pipeline) (l : Layout)
    (sets : List (Handle .descriptorSet)) : List Command :=
  if sharedSets l p.shader = 0 then []
  else if push then pushCommands p.shader l (List.range (sharedSets l p.shader))
  else if sharedSets l p.shader ≤ capacity then
    [.bindDescriptorSets p.point p.shader.layout 0 sets []]
  else []

/-- Native sets have no part in what is needed, granted and delivered. -/
theorem deliveryCommands_of_sets_eq {l l' : Layout} (h : l'.sets = l.sets) (push : Bool)
    (capacity : Nat) (p : Pipeline) :
    needed push p l' = needed push p l ∧ verdict push capacity p l' = verdict push capacity p l ∧
      deliveryCommands push capacity p l' = deliveryCommands push capacity p l := by
  obtain ⟨_, natives⟩ := l
  obtain ⟨_, natives'⟩ := l'
  cases h
  exact ⟨rfl, rfl, rfl⟩

theorem deliveryCommands_map (push : Bool) (capacity : Nat) (p : Pipeline) (l : Layout)
    (sets : List (Handle .descriptorSet)) (f : Handle .descriptorSet → Handle .descriptorSet) :
    deliveryCommands push capacity p l (sets.map f) =
      (deliveryCommands push capacity p l sets).map (Command.renameSets f) := by
  have hpushes : (pushCommands p.shader l (List.range (sharedSets l p.shader))).map
      (Command.renameSets f) = pushCommands p.shader l (List.range (sharedSets l p.shader)) := by
    refine (List.map_congr_left fun c hc => ?_).trans (List.map_id _)
    obtain ⟨set, _, hset⟩ := List.mem_filterMap.1 hc
    obtain ⟨t, _, rfl⟩ := Option.map_eq_some_iff.1 hset
    rfl
  unfold deliveryCommands
  split
  · rfl
  · split
    · exact hpushes.symm
    · split <;> rfl

/-- How resolving a layout ends on a trace that was not told to fail. -/
structure ResolvedWith (capacity : Nat) (d : Device Trace) (b : Handle .commandBuffer)
    (p : Pipeline) (l : Layout) (sets : List (Handle .descriptorSet)) : Prop where
  next_le : d.driver.next ≤ (resolveLayout d b p l).outcome.device.driver.next
  new : New d.driver.next (resolveLayout d b p l).outcome.device.driver.next sets
  count : sets.length =
    if needed d.capabilities.pushDescriptor p l ≤ capacity then
      needed d.capabilities.pushDescriptor p l else 0
  answer : (resolveLayout d b p l).outcome.answer =
    verdict d.capabilities.pushDescriptor capacity p l
  calls : callsInto b (d.driver.callsSince (resolveLayout d b p l).outcome.device.driver) =
    recordedCalls b (deliveryCommands d.capabilities.pushDescriptor capacity p l sets)

section

variable {capacity count : Nat} {d : Device Trace} {layouts : List (Handle .setLayout)}

/-- Pools that are ready grant what one of them can hold. -/
theorem granted_of_le (ready : d.descriptorPools.Ready capacity d.driver)
    (works : d.driver.setFailure = none) (hcount : layouts.length = count) (hpos : 0 < count)
    (hfits : count ≤ capacity) :
    ∃ sets, (d.allocateSets layouts).answer = .ok sets ∧ sets.length = count ∧
      New d.driver.next (d.allocateSets layouts).device.driver.next sets := by
  subst hcount
  obtain ⟨first, hanswer⟩ := (DescriptorPools.granting_allocate ready layouts).2 hfits works
  obtain ⟨first', hsets, hle, hle'⟩ := granted_on_trace (List.length_pos_iff.1 hpos) hanswer
  refine ⟨_, hanswer, Handle.length_freshList _ _, ?_⟩
  rw [hsets]
  exact (new_freshList hle').mono hle

theorem refused_of_lt (ready : d.descriptorPools.Ready capacity d.driver)
    (hcount : layouts.length = count) (hlarge : capacity < count) :
    (d.allocateSets layouts).answer = .error (.error (.outOfPoolMemory count)) := by
  subst hcount
  rw [← ready.capacity] at hlarge
  exact congrArg DescriptorPools.Allocation.answer
    (DescriptorPools.allocate_of_capacity_lt d.driver hlarge)

end

/-- On a trace the pools are asked first, and then the script is written down. -/
theorem resolves_on_trace (d : Device Trace) (b : Handle .commandBuffer) (p : Pipeline)
    (l : Layout) :
    let r := resolveLayout d b p l
    ∃ script tries, Resolves d b p l r.outcome.answer r.layout script ∧
      (∀ c ∈ tries, madeByPools c) ∧ d.driver.next ≤ r.outcome.device.driver.next ∧
      r.outcome.device.driver.next = (pooled d p l).driver.next ∧
      r.outcome.device.driver.log.toList = d.driver.log.toList ++ (tries ++ script.calls) := by
  obtain ⟨script, hresolves, hdevice⟩ :
      ∃ script, Resolves d b p l (resolveLayout d b p l).outcome.answer
        (resolveLayout d b p l).layout script ∧ _ :=
    resolves_played d b p l
  obtain ⟨hle, tries, hlog, htries⟩ : Trace.Appends (madeByPools ·) d.driver
      (pooled d p l).driver := by
    unfold pooled
    split
    · exact .refl _
    · exact poolCalls_appends.allocate _ _ _
  have hplayed : (resolveLayout d b p l).outcome.device.driver =
      (pooled d p l).driver.noteAll script.calls := by
    rw [hdevice, play_device, Script.play_trace]
  refine ⟨script, tries, hresolves, htries, ?_, ?_, ?_⟩
  · rw [hplayed]
    exact hle
  · rw [hplayed]
    rfl
  · rw [hplayed, Trace.log_noteAll, hlog, List.append_assoc]

/-- The pools decide by the number of sets alone, and the sets they grant are new. -/
theorem exists_resolvedWith {capacity : Nat} {d : Device Trace}
    (ready : d.descriptorPools.Ready capacity d.driver) (works : d.driver.setFailure = none)
    {l : Layout} (hsound : l.Sound) (b : Handle .commandBuffer) (p : Pipeline) :
    ∃ sets, ResolvedWith capacity d b p l sets := by
  obtain ⟨script, tries, hresolves, htries, hle, hnext, hlog⟩ :
      ∃ script tries, Resolves d b p l (resolveLayout d b p l).outcome.answer
        (resolveLayout d b p l).layout script ∧ _ :=
    resolves_on_trace d b p l
  have hcalls : callsInto b (d.driver.callsSince (resolveLayout d b p l).outcome.device.driver) =
      callsInto b script.calls := by
    rw [Trace.callsSince_of_append hlog, callsInto_append, callsInto_of_madeByPools b htries,
      List.nil_append]
  have hlength : (p.shader.nativeLayouts (sharedSets l p.shader)).length =
      sharedSets l p.shader :=
    length_nativeLayouts (Nat.min_le_right _ _)
  generalize hanswer : (resolveLayout d b p l).outcome.answer = answer,
    (resolveLayout d b p l).layout = l' at hresolves
  -- By how it was resolved; the pools have a say in the last two cases only.
  cases hresolves with
  | nothing hzero =>
    have hneeded : needed d.capabilities.pushDescriptor p l = 0 := by simp [needed, hzero]
    refine ⟨[], hle, new_nil, by simp [hneeded], ?_, ?_⟩
    · rw [hanswer, verdict, hneeded, if_pos (Nat.zero_le _)]
    · rw [hcalls, deliveryCommands, if_pos hzero]
      rfl
  | pushed hpos hpush =>
    have hneeded : needed d.capabilities.pushDescriptor p l = 0 := by simp [needed, hpush]
    refine ⟨[], hle, new_nil, by simp [hneeded], ?_, ?_⟩
    · rw [hanswer, verdict, hneeded, if_pos (Nat.zero_le _)]
    · rw [hcalls, deliveryCommands, if_neg (Nat.ne_of_gt hpos), if_pos hpush, calls_pushes,
        callsInto_recordedCalls]
  | @refused e hpos hpush hsets =>
    have hneeded : needed d.capabilities.pushDescriptor p l = sharedSets l p.shader := by
      simp [needed, hpush]
    -- Only what is larger than a pool is refused.
    have hlarge : ¬ sharedSets l p.shader ≤ capacity := by
      intro hfits
      obtain ⟨sets, hgranted, _⟩ := granted_of_le ready works hlength hpos hfits
      cases hgranted.symm.trans hsets
    cases (refused_of_lt ready hlength (Nat.lt_of_not_le hlarge)).symm.trans hsets
    refine ⟨[], hle, new_nil, by simp [hneeded, hlarge], ?_, ?_⟩
    · rw [hanswer, verdict, hneeded, if_neg hlarge]
    · rw [hcalls, deliveryCommands, if_neg (Nat.ne_of_gt hpos), hpush, if_neg (by simp),
        if_neg hlarge]
      rfl
  | @written sets natives hpos hpush hsets hnatives =>
    have hneeded : needed d.capabilities.pushDescriptor p l = sharedSets l p.shader := by
      simp [needed, hpush]
    -- And what was granted is not larger.
    have hfits : sharedSets l p.shader ≤ capacity := by
      by_contra hlarge
      cases (refused_of_lt ready hlength (Nat.lt_of_not_le hlarge)).symm.trans hsets
    obtain ⟨sets', hgranted, hcount, hnew⟩ := granted_of_le ready works hlength hpos hfits
    cases hgranted.symm.trans hsets
    refine ⟨sets, hle, ?_, ?_, ?_, ?_⟩
    · rw [hnext, pooled_of_pos hpos hpush]
      exact hnew
    · rw [hneeded, if_pos hfits, hcount]
    · rw [hanswer, verdict, hneeded, if_pos hfits]
    · rw [hcalls, deliveryCommands, if_neg (Nat.ne_of_gt hpos), hpush, if_neg (by simp),
        if_pos hfits, Script.calls_append, callsInto_append, callsInto_writeSets, List.nil_append,
        Script.calls_record, callsInto_recordedCalls, natives_eq hsound hcount hnatives]

/-- Over other pools, and for a layout that differs in its native sets only, resolving answers and
records the same. -/
theorem resolveLayout_elsewhere {capacity : Nat} {d d' : Device Trace}
    (ready : d.descriptorPools.Ready capacity d.driver) (works : d.driver.setFailure = none)
    (ready' : d'.descriptorPools.Ready capacity d'.driver) (works' : d'.driver.setFailure = none)
    (capable : d'.capabilities = d.capabilities) {l l' : Layout} (hsound : l.Sound)
    (hsound' : l'.Sound) (hsets : l'.sets = l.sets) (b b' : Handle .commandBuffer) (p : Pipeline) :
    let r := resolveLayout d b p l
    let r' := resolveLayout d' b' p l'
    r'.outcome.answer = r.outcome.answer ∧
      SameUpToNames d.driver.next r.outcome.device.driver.next d'.driver.next
        r'.outcome.device.driver.next b'
        (callsInto b (d.driver.callsSince r.outcome.device.driver))
        (callsInto b' (d'.driver.callsSince r'.outcome.device.driver)) := by
  obtain ⟨hneeded, hverdict, hdelivered⟩ :=
    deliveryCommands_of_sets_eq hsets d.capabilities.pushDescriptor capacity p
  obtain ⟨sets, h⟩ := exists_resolvedWith ready works hsound b p
  obtain ⟨sets', h'⟩ := exists_resolvedWith ready' works' hsound' b' p
  -- Said in terms of the first device and layout, both ends are decided by the same data.
  have hanswer' := h'.answer
  have hcount' := h'.count
  have hcalls' := h'.calls
  rw [capable, hverdict] at hanswer'
  rw [capable, hneeded] at hcount'
  rw [capable, hdelivered] at hcalls'
  refine ⟨hanswer'.trans h.answer.symm, h.next_le, h'.next_le, sets, sets', h.new, h'.new,
    h.count.trans hcount'.symm, fun f hf => ?_⟩
  rw [hcalls', h.calls, ← hf, deliveryCommands_map, recordedCalls_renameSets]

end GpuRecorder.Recording
