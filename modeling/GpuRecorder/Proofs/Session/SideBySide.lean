import GpuRecorder.Proofs.Recording.Moved
import GpuRecorder.Proofs.Session.PoolInvariant

/-!
# Two recordings side by side

Two command buffers that remember the same, on devices that can do the same and beside alike stores,
are asked for the same operation: they answer the same, remember the same afterwards, and record the
same but for the names of the descriptor sets.  So it goes on from operation to operation.
-/

namespace GpuRecorder

open Native Resource Recording Device

/-! ## 1. What stays in order -/

theorem driverCalls_sameFailure :
    DriverCalls fun t t' : Trace => t'.setFailure = t.setFailure where
  refl _ := rfl
  trans h h' := h'.trans h
  createCommandPool _ _ := rfl
  allocateCommandBuffers t pool level count := by
    show (t.allocateCommandBuffers pool level count).2.setFailure = _
    unfold Trace.allocateCommandBuffers
    split <;> rfl
  createDescriptorPool _ _ _ := rfl
  allocateDescriptorSets t pool layouts := by
    show (t.allocateDescriptorSets pool layouts).2.setFailure = _
    unfold Trace.allocateDescriptorSets
    split
    · rfl
    · rfl
    · split <;> rfl
  resetDescriptorPool _ _ := rfl
  submit _ _ _ _ := rfl
  beginRecording _ _ _ := rfl
  endRecording _ _ := rfl
  request t r := by
    show (t.request r).2.setFailure = _
    rw [Trace.request_eq_noteAll]
    rfl

namespace Recording

/-- Resolving exchanges the native sets of a layout and nothing else. -/
theorem settled_resolveLayout {σ : Type} [Driver σ] (d : Device σ) (b : Handle .commandBuffer)
    (p : Pipeline) {l : Layout} (h : l.Settled) :
    (resolveLayout d b p l).layout.Settled ∧
      (resolveLayout d b p l).layout.contents = l.contents := by
  obtain ⟨_, hresolves, _⟩ : ∃ script, Resolves d b p l
      (resolveLayout d b p l).outcome.answer (resolveLayout d b p l).layout script ∧ _ :=
    resolves_played d b p l
  generalize (resolveLayout d b p l).outcome.answer = answer,
    (resolveLayout d b p l).layout = l' at hresolves ⊢
  cases hresolves with
  | written hpos hpush hsets hnatives => exact ⟨h.storeSets _, rfl⟩
  | _ => exact ⟨h, rfl⟩

namespace CommandBuffer

section

variable {σ : Type} [Driver σ]

/-- An operation changes nothing that the owner of the store put there. -/
theorem alike_perform (c : CommandBuffer) (d : Device σ) {s : Store}
    (settled : ∀ id, (s.layouts.get id).Settled) (op : Operation) :
    s.Alike (c.perform d s op).store ∧
      ∀ id, ((c.perform d s op).store.layouts.get id).Settled := by
  cases op with
  | bindLayout id =>
    show s.Alike (c.bindLayout d s id).store ∧
      ∀ id', ((c.bindLayout d s id).store.layouts.get id').Settled
    have hends := c.endsBinding d s id
    generalize c.bindLayout d s id = result at hends ⊢
    cases hends with
    | left why => exact ⟨.refl s, settled⟩
    | @resolved b p r ready pipeline fresh fits done =>
      obtain ⟨hsettled, hcontents⟩ := settled_resolveLayout d b p
        ((settled id).refresh s.buffers s.textures)
      rw [show resolveLayout d b p ((s.layouts.get id).refresh s.buffers s.textures) = r from
        done.symm] at hsettled hcontents
      exact ⟨.setLayout (hcontents.trans (Layout.contents_refresh _ _ _)),
        Store.settled_setLayout settled id hsettled⟩
  | bindAssembler id =>
    show s.Alike (c.bindAssembler s id).1 ∧
      ∀ id', ((c.bindAssembler s id).1.layouts.get id').Settled
    unfold bindAssembler
    split
    · exact ⟨.refl s, settled⟩
    · split
      · exact ⟨.refl s, settled⟩
      · exact ⟨.refreshArrays s id, settled⟩
  | _ => exact ⟨.refl s, settled⟩

end

end CommandBuffer

/-- A device and a store as they are in runs, with no failure of sets asked for. -/
structure InOrder (capacity : Nat) (d : Device Trace) (s : Store) : Prop where
  pools : d.descriptorPools.Ready capacity d.driver
  works : d.driver.setFailure = none
  layouts : ∀ id, (s.layouts.get id).Settled

theorem InOrder.perform {capacity : Nat} {d : Device Trace} {s : Store}
    (h : InOrder capacity d s) (c : CommandBuffer) (op : Operation) :
    InOrder capacity (c.perform d s op).outcome.device (c.perform d s op).store where
  pools := (Session.poolInvariant_ready capacity).perform h.pools c s op
  works := (driverCalls_sameFailure.perform c d s op).trans h.works
  layouts := (c.alike_perform d h.layouts op).2

/-! ## 2. One operation -/

namespace CommandBuffer

theorem recorded_of_ready {c : CommandBuffer} {n : NativeBuffer} (ready : c.native = some n)
    (d : Device Trace) (s : Store) (op : Operation) :
    c.recorded d s op =
      callsInto n.handle (d.driver.callsSince (c.perform d s op).outcome.device.driver) := by
  rw [recorded, handle?_of_native ready]

/-- The second buffer does what the first does. -/
structure Matches (c c' : CommandBuffer) (n' : NativeBuffer) (queue : Option Queue)
    (d d' : Device Trace) (s s' : Store) (op : Operation) : Prop where
  answer : (c'.perform d' s' op).outcome.answer = (c.perform d s op).outcome.answer
  buffer : (c'.perform d' s' op).buffer = (c.perform d s op).buffer.on n' queue
  recorded : SameUpToNames d.driver.next (c.perform d s op).outcome.device.driver.next
    d'.driver.next (c'.perform d' s' op).outcome.device.driver.next n'.handle
    (c.recorded d s op) (c'.recorded d' s' op)

section

variable {c : CommandBuffer} {n n' : NativeBuffer} {queue : Option Queue} {capacity : Nat}
  {d d' : Device Trace} {s s' : Store}

theorem matches_scripted (ready : c.native = some n) (alike : s.Alike s')
    (capable : d'.capabilities = d.capabilities) {op : Operation} {r : CommandBuffer × Script}
    (hscript : c.scripted? d s op = some r) :
    c.Matches (c.on n' queue) n' queue d d' s s' op := by
  have hscript' (f : Handle .descriptorSet → Handle .descriptorSet) :
      (c.on n' queue).scripted? d' s' op = some (sentOn n' queue f r) := by
    rw [scripted_on ready alike capable op, hscript, Option.map_some]
  have hnext {c : CommandBuffer} {d : Device Trace} {s : Store} {r : CommandBuffer × Script}
      (hscript : c.scripted? d s op = some r) :
      d.driver.next ≤ (c.perform d s op).outcome.device.driver.next := by
    rw [(perform_scripted hscript).2, Script.play_trace]
    exact Nat.le_refl _
  refine ⟨answer_on ready alike (by rw [hscript]; rfl), ?_,
    .of_forall (hnext hscript) (hnext (hscript' id)) fun f => ?_⟩
  · rw [(perform_scripted (hscript' id)).1, (perform_scripted hscript).1]
    rfl
  · -- The calls of the script all go into the buffer.
    have hinto : ∀ x ∈ r.2.calls, x.target? = some n.handle := by
      rcases sends_scripted hscript with hnone | ⟨b, commands, hb, hcalls, _⟩
      · simp [hnone]
      · rw [hcalls]
        cases (handle?_of_native ready).symm.trans hb
        exact fun x hx => target_of_mem_recordedCalls hx
    rw [recorded_scripted (hscript' f), recorded_scripted hscript, handle?_of_native ready]
    show callsInto n'.handle (r.2.moved n'.handle f).calls = (callsInto n.handle r.2.calls).map _
    rw [Script.calls_moved, callsInto_moved hinto, callsInto_eq_self hinto]

/-- Opening a recording makes one call, or none where a render pass is missing. -/
theorem begin_of_ready (ready : c.native = some n) (d : Device Trace) (s : Store)
    (pass : Option RenderPass) (subpass : Nat) (framebuffer : Option Framebuffer) :
    let done := c.perform d s (.begin pass subpass framebuffer)
    done.outcome.answer = .done ∧ done.buffer = { c with bindings := {}, stats := {} } ∧
      d.driver.next ≤ done.outcome.device.driver.next ∧
      c.recorded d s (.begin pass subpass framebuffer) =
        (openingOf c.kind s pass subpass framebuffer).toList.map (.begin n.handle) := by
  intro done
  have hrecorded := recorded_of_ready ready d s (.begin pass subpass framebuffer)
  simp only [done, perform, asked, CommandBuffer.begin, handle?_of_native ready] at hrecorded ⊢
  rw [hrecorded]
  cases openingOf c.kind s pass subpass framebuffer with
  | none =>
    refine ⟨rfl, rfl, Nat.le_refl _, ?_⟩
    rw [Trace.callsSince_of_log_eq rfl]
    rfl
  | some opening =>
    refine ⟨rfl, rfl, Nat.le_refl _, ?_⟩
    have hlog := Trace.log_note d.driver (.begin n.handle opening)
    refine (congrArg (callsInto n.handle) (Trace.callsSince_of_append hlog)).trans ?_
    exact callsInto_eq_self fun x hx => by rw [List.mem_singleton.1 hx]; rfl

theorem matches_begin (ready : c.native = some n) (alike : s.Alike s') (pass : Option RenderPass)
    (subpass : Nat) (framebuffer : Option Framebuffer) :
    c.Matches (c.on n' queue) n' queue d d' s s' (.begin pass subpass framebuffer) := by
  have hopening : openingOf c.kind s' pass subpass framebuffer =
      openingOf c.kind s pass subpass framebuffer := by
    have hresolve : s'.resolve = s.resolve := funext alike.resolve
    simp only [openingOf, hresolve]
  obtain ⟨hanswer, hbuffer, hnext, hcalls⟩ :=
    begin_of_ready ready d s pass subpass framebuffer
  obtain ⟨hanswer', hbuffer', hnext', hcalls'⟩ :=
    begin_of_ready (c := c.on n' queue) (n := n') rfl d' s' pass subpass framebuffer
  refine ⟨hanswer'.trans hanswer.symm, ?_, .of_forall hnext hnext' fun f => ?_⟩
  · rw [hbuffer', hbuffer]
    rfl
  · rw [hcalls', hcalls, List.map_map]
    exact congrArg (fun opening => (Option.toList opening).map (Call.begin n'.handle)) hopening

theorem matches_finish (ready : c.native = some n) :
    c.Matches (c.on n' queue) n' queue d d' s s' .finish := by
  have spec {c : CommandBuffer} {n : NativeBuffer} (ready : c.native = some n) (d : Device Trace)
      (s : Store) : (c.perform d s .finish).outcome.answer = .done ∧
        d.driver.next ≤ (c.perform d s .finish).outcome.device.driver.next := by
    simp only [perform, asked, finish, handle?_of_native ready]
    exact ⟨rfl, Nat.le_refl _⟩
  obtain ⟨hanswer, hnext⟩ := spec ready d s
  obtain ⟨hanswer', hnext'⟩ := spec (c := c.on n' queue) (n := n') rfl d' s'
  obtain ⟨hcalls, hbuffer⟩ := recorded_finish (handle?_of_native ready) d s
  obtain ⟨hcalls', hbuffer'⟩ :=
    recorded_finish (c := c.on n' queue) (handle?_of_native (n := n') rfl) d' s'
  refine ⟨hanswer'.trans hanswer.symm, ?_, .of_forall hnext hnext' fun f => ?_⟩
  · rw [hbuffer', hbuffer]
    rfl
  · rw [hcalls', hcalls]
    rfl

/-- The pipeline that a layout would be resolved for. -/
def resolvingFor (c : CommandBuffer) (s : Store) (id : ResourceId) : Option Pipeline :=
  c.bindings.pipeline.filter fun p =>
    c.bindings.layout ≠ some id ∧ mismatch? (s.layouts.get id) p.shader = none

theorem bindLayout_of_ready (ready : c.native = some n) (d : Device Trace) (s : Store)
    (id : ResourceId) :
    match c.resolvingFor s id with
    | none => ∃ messages, c.bindLayout d s id =
        ⟨c, s, { answer := .ok (), device := d, messages }⟩
    | some p =>
      let r := resolveLayout d n.handle p (s.refreshed (s.layouts.get id))
      c.bindLayout d s id = ⟨c.withLayout id r.outcome.answer, s.setLayout id r.layout, r.outcome⟩ := by
  simp only [resolvingFor, bindLayout, handle?_of_native ready]
  cases hpipeline : c.bindings.pipeline with
  | none => exact ⟨_, rfl⟩
  | some p =>
    by_cases hbound : c.bindings.layout = some id
    · simp [hbound]
    · cases hmismatch : mismatch? (s.layouts.get id) p.shader with
      | some set => simp [Option.filter, hbound, hmismatch]
      | none =>
        simp only [Option.filter, hbound, hmismatch, ne_eq, not_false_eq_true, and_self,
          decide_true, if_true, if_false]
        split <;>
        · rename_i hanswer
          simp only [hanswer, withLayout, hpipeline]

theorem resolvingFor_on (alike : s.Alike s') (id : ResourceId) :
    (c.on n' queue).resolvingFor s' id = c.resolvingFor s id := by
  have hshape : (s'.layouts.get id).shape = (s.layouts.get id).shape := by
    rw [Layout.shape_eq_contents, alike.layouts, ← Layout.shape_eq_contents]
  have hmismatch (x : Shader) :
      mismatch? (s'.layouts.get id) x = mismatch? (s.layouts.get id) x := by
    simp only [mismatch?, sharedSets_of_shape_eq hshape, Layout.slots_of_shape_eq hshape]
  simp only [resolvingFor, hmismatch]
  rfl

theorem withLayout_on (id : ResourceId) (answer : Except Failure Unit) :
    (c.on n' queue).withLayout id answer = (c.withLayout id answer).on n' queue := by
  cases answer <;> rfl

theorem matches_bindLayout (order : InOrder capacity d s) (order' : InOrder capacity d' s')
    (ready : c.native = some n) (alike : s.Alike s') (capable : d'.capabilities = d.capabilities)
    (id : ResourceId) :
    c.Matches (c.on n' queue) n' queue d d' s s' (.bindLayout id) := by
  have hbinds := bindLayout_of_ready ready d s id
  have hbinds' := bindLayout_of_ready (c := c.on n' queue) (n := n') rfl d' s' id
  rw [resolvingFor_on alike] at hbinds'
  have hcalls := recorded_of_ready ready d s (.bindLayout id)
  have hcalls' := recorded_of_ready (c := c.on n' queue) (n := n') rfl d' s' (.bindLayout id)
  -- Both resolve the layout, for the same pipeline, or neither does.
  cases hfor : c.resolvingFor s id with
  | none =>
    rw [hfor] at hbinds hbinds'
    obtain ⟨messages, hbinds⟩ := hbinds
    obtain ⟨messages', hbinds'⟩ := hbinds'
    simp only [perform, hbinds] at hcalls
    simp only [perform, hbinds'] at hcalls'
    refine ⟨by simp only [perform, hbinds, hbinds'], by simp only [perform, hbinds, hbinds'],
      .of_forall (by simp [perform, hbinds]) (by simp [perform, hbinds']) fun f => ?_⟩
    rw [hcalls, hcalls', Trace.callsSince_of_log_eq rfl, Trace.callsSince_of_log_eq rfl]
    rfl
  | some p =>
    simp only [hfor] at hbinds hbinds'
    -- Refreshed, the layouts hold the same data.
    obtain ⟨hanswer, hrecorded⟩ := resolveLayout_elsewhere order.pools order.works order'.pools
      order'.works capable ((order.layouts id).refresh s.buffers s.textures).sound
      ((order'.layouts id).refresh s'.buffers s'.textures).sound
      (alike.sets_refreshed (order.layouts id) (order'.layouts id) (alike.layouts id))
      n.handle n'.handle p
    simp only [perform, hbinds] at hcalls
    simp only [perform, hbinds'] at hcalls'
    refine ⟨?_, ?_, ?_⟩
    · simp only [perform, hbinds, hbinds']
      exact congrArg Answer.ofAttempt hanswer
    · simp only [perform, hbinds, hbinds']
      exact (congrArg ((c.on n' queue).withLayout id) hanswer).trans (withLayout_on id _)
    · rw [hcalls, hcalls']
      simp only [perform, hbinds, hbinds']
      exact hrecorded

/-- Over another past an operation goes as before, unless it borrows or gives back. -/
theorem matches_on (order : InOrder capacity d s) (order' : InOrder capacity d' s')
    (ready : c.native = some n) (alike : s.Alike s') (capable : d'.capabilities = d.capabilities)
    {op : Operation} (stays : op.moves = false) :
    c.Matches (c.on n' queue) n' queue d d' s s' op := by
  cases hscript : c.scripted? d s op with
  | some r => exact matches_scripted ready alike capable hscript
  | none =>
    cases op with
    | setUp kind queue => cases stays
    | release => cases stays
    | begin pass subpass framebuffer => exact matches_begin ready alike pass subpass framebuffer
    | finish => exact matches_finish ready
    | bindLayout id => exact matches_bindLayout order order' ready alike capable id
    | _ => cases hscript

end

theorem Matches.grown {c c' : CommandBuffer} {n n' : NativeBuffer} {queue : Option Queue}
    {d d' : Device Trace} {s s' : Store} {op : Operation}
    (h : c.Matches c' n' queue d d' s s' op) (ready : c.native = some n)
    (ready' : c'.native = some n') :
    GrownAlike n.handle n'.handle d.driver (c.perform d s op).outcome.device.driver d'.driver
      (c'.perform d' s' op).outcome.device.driver := by
  have hsame := h.recorded
  rw [recorded_of_ready ready, recorded_of_ready ready'] at hsame
  obtain ⟨_, calls, hlog, _⟩ := c.growsOnly_perform d s op
  obtain ⟨_, calls', hlog', _⟩ := c'.growsOnly_perform d' s' op
  rw [Trace.callsSince_of_append hlog, Trace.callsSince_of_append hlog'] at hsame
  exact ⟨calls, calls', hlog, hlog', hsame⟩

end CommandBuffer

end Recording

/-- The command buffer whose turn an action is. -/
def Action.taker? : Action → Option Nat
  | .perform n _ | .execute n _ => some n
  | _ => none

/-! ## 3. In every run -/

namespace Session

theorem settled_through (available : Capabilities) (settings : Settings) (events : List Event) :
    ∀ id, (((start available settings).through events).store.layouts.get id).Settled := by
  have hstart : ∀ id, ((start available settings).store.layouts.get id).Settled :=
    fun _ => Layout.settled_default
  refine through_induction (P := fun s => ∀ id, (s.store.layouts.get id).Settled) hstart
    (fun s e h => ?_) events
  apply after_cases (P := fun s => ∀ id, (s.store.layouts.get id).Settled)
  case perform => exact fun n c op found => (c.alike_perform s.device h op).2
  case change => exact fun c _ => Store.settled_apply h c
  case stays | create | resetSets => exact h
  case allocateSets | switch => exact fun _ => h
  case submit => exact fun _ _ _ => h

/-- What a device can do is settled when it is opened. -/
theorem capabilities_through (available : Capabilities) (settings : Settings)
    (events : List Event) :
    ((start available settings).through events).device.capabilities =
      available.withOverrides settings.capabilities := by
  refine through_induction (P := fun s => s.device.capabilities =
    available.withOverrides settings.capabilities) rfl (fun s e h => ?_) events
  cases e with
  | allocateSets layouts => exact h
  | switch x => exact h
  | act a =>
    simp only [after]
    split
    · exact (capabilities_step s a).trans h
    · exact h

theorem inOrder_through (available : Capabilities) (settings : Settings) (events : List Event)
    (works : ((start available settings).through events).device.driver.setFailure = none) :
    InOrder (max 1 settings.descriptorPool.maxSetsPerPool.toNat)
      ((start available settings).through events).device
      ((start available settings).through events).store :=
  ⟨poolsReady_through available settings events, works, settled_through available settings events⟩

/-! ## 4. Operations one after the other -/

/-- Where a command buffer stands: its number, what it holds, and the queue it holds it for. -/
structure Seat where
  number : Nat
  native : NativeBuffer
  queue : Option Queue

/-- Command buffers on two seats remember the same, and no recording can tell the sessions apart. -/
structure Twins (x x' : Seat) (s s' : Session Trace) : Prop where
  held : ∃ c, s.buffers[x.number]? = some c ∧ c.native = some x.native ∧ c.queue = x.queue ∧
    s'.buffers[x'.number]? = some (c.on x'.native x'.queue)
  order : ∃ capacity, InOrder capacity s.device s.store ∧ InOrder capacity s'.device s'.store
  capable : s'.device.capabilities = s.device.capabilities
  alike : s.store.Alike s'.store

/-- How two sessions go on from there: they answer alike, record alike and are twins again. -/
structure Follows (x x' : Seat) (s s' : Session Trace) (done done' : Step Trace) : Prop where
  twins : Twins x x' done.session done'.session
  answer : done'.answer = done.answer
  grown : GrownAlike x.native.handle x'.native.handle s.device.driver done.session.device.driver
    s'.device.driver done'.session.device.driver

theorem Twins.perform {x x' : Seat} {s s' : Session Trace} (h : Twins x x' s s') {op : Operation}
    (stays : op.moves = false) :
    Follows x x' s s' (s.perform x.number op) (s'.perform x'.number op) := by
  obtain ⟨c, found, ready, hqueue, found'⟩ := h.held
  obtain ⟨capacity, order, order'⟩ := h.order
  have hmatches : c.Matches (c.on x'.native x'.queue) x'.native x'.queue s.device s'.device
      s.store s'.store op :=
    CommandBuffer.matches_on order order' ready h.alike h.capable stays
  -- It stays on its native buffer, so the next operation finds the twins where they were.
  obtain ⟨hnative, _, hkept⟩ := c.frame_perform s.device s.store stays
  have hfound {s : Session Trace} {n : Nat} {c : CommandBuffer} (found : s.buffers[n]? = some c) :
      s.perform n op =
        { session :=
            { device := (c.perform s.device s.store op).outcome.device
              store := (c.perform s.device s.store op).store
              buffers := s.buffers.set n (c.perform s.device s.store op).buffer }
          answer := (c.perform s.device s.store op).outcome.answer
          messages := (c.perform s.device s.store op).outcome.messages } := by
    rw [Session.perform, found]
  rw [hfound found, hfound found']
  refine ⟨⟨⟨_, List.getElem?_set_self (List.getElem?_eq_some_iff.1 found).1, hnative.trans ready,
    hkept.trans hqueue, ?_⟩, ⟨capacity, order.perform c op, order'.perform _ op⟩, ?_, ?_⟩,
    hmatches.answer, hmatches.grown ready rfl⟩
  · rw [List.getElem?_set_self (List.getElem?_eq_some_iff.1 found').1, hmatches.buffer]
  · exact (CommandBuffer.capabilities_perform _ _ _ op).trans
      (h.capable.trans (c.capabilities_perform _ _ op).symm)
  · exact (c.alike_perform s.device order.layouts op).1.symm.trans
      (h.alike.trans (CommandBuffer.alike_perform _ s'.device order'.layouts op).1)

/-- The answers that one command buffer gets in a run. -/
def answersOf {σ : Type} [Driver σ] (s : Session σ) (n : Nat) : List Action → List Answer
  | [] => []
  | a :: rest =>
    (if a.taker? = some n then [(s.step a).answer] else []) ++ (s.step a).session.answersOf n rest

theorem Twins.run {x x' : Seat} {s s' : Session Trace} (h : Twins x x' s s') {ops : List Operation}
    (stay : ∀ op ∈ ops, op.moves = false) :
    let turns := ops.map (.perform x.number)
    let turns' := ops.map (.perform x'.number)
    Twins x x' (s.run turns) (s'.run turns') ∧
      s'.answersOf x'.number turns' = s.answersOf x.number turns ∧
      GrownAlike x.native.handle x'.native.handle s.device.driver (s.run turns).device.driver
        s'.device.driver (s'.run turns').device.driver := by
  induction ops generalizing s s' with
  | nil => exact ⟨h, rfl, .refl _ _ _ _⟩
  | cons op ops ih =>
    have hfollows := h.perform (stay op List.mem_cons_self)
    obtain ⟨htwins, hanswers, hgrown⟩ := ih hfollows.twins fun op hop =>
      stay op (List.mem_cons_of_mem _ hop)
    refine ⟨htwins, ?_, hfollows.grown.trans hgrown⟩
    simp only [List.map_cons, answersOf, Action.taker?, if_true]
    exact congrArg₂ (fun answer rest => [answer] ++ rest) hfollows.answer hanswers

end Session

end GpuRecorder
