import GpuRecorder.Proofs.Session.Stream

/-!
# What a bound layout was delivered for

A layout that is bound already is not delivered again, whatever pipeline has been bound since.  So
what the open recording last delivered is for the pipeline that was bound when the layout became
the bound one, and the layout fits the shader of that pipeline.
-/

namespace GpuRecorder.Native

/-! ## 1. Deliveries in a stream -/

/-- The pipeline layout that a call delivers descriptors for. -/
def Call.deliveredFor? : Call → Option (Handle .pipelineLayout)
  | .request (.record _ (.bindDescriptorSets _ layout _ _ _))
  | .request (.record _ (.pushDescriptors _ layout _ _)) => some layout
  | _ => none

/-- What the open recording last delivered descriptors for; a recording that is opened has not
delivered any. -/
def deliveredAfter (last : Option (Handle .pipelineLayout)) :
    Call → Option (Handle .pipelineLayout)
  | .begin _ _ => none
  | c => c.deliveredFor?.or last

def lastDelivery (calls : List Call) : Option (Handle .pipelineLayout) :=
  calls.foldl deliveredAfter none

def Call.Undelivering (c : Call) : Prop := (∀ b args, c ≠ .begin b args) ∧ c.deliveredFor? = none

theorem deliveredAfter_of_ne_begin {c : Call} (h : ∀ b args, c ≠ .begin b args)
    (last : Option (Handle .pipelineLayout)) :
    deliveredAfter last c = c.deliveredFor?.or last := by
  cases c with
  | begin b args => exact absurd rfl (h b args)
  | _ => rfl

theorem deliveredAfter_of_undelivering {c : Call} (h : c.Undelivering)
    (last : Option (Handle .pipelineLayout)) : deliveredAfter last c = last := by
  rw [deliveredAfter_of_ne_begin h.1, h.2, Option.none_or]

theorem lastDelivery_append_of_undelivering {calls more : List Call}
    (h : ∀ c ∈ more, c.Undelivering) : lastDelivery (calls ++ more) = lastDelivery calls := by
  rw [lastDelivery, List.foldl_append]
  change more.foldl deliveredAfter (lastDelivery calls) = _
  induction more with
  | nil => rfl
  | cons c more ih =>
    rw [List.foldl_cons, deliveredAfter_of_undelivering (h c List.mem_cons_self)]
    exact ih fun c' hc' => h c' (List.mem_cons_of_mem _ hc')

theorem lastDelivery_append_of_delivering {calls more : List Call}
    {layout : Handle .pipelineLayout} (hne : more ≠ [])
    (h : ∀ c ∈ more, c.deliveredFor? = some layout) :
    lastDelivery (calls ++ more) = some layout := by
  -- The last of the calls decides.
  obtain ⟨more, c, rfl⟩ := List.eq_nil_or_concat more |>.resolve_left hne
  have hc := h c (by simp)
  have hbegin : ∀ b args, c ≠ .begin b args := by
    rintro b args rfl
    cases hc
  rw [lastDelivery, List.concat_eq_append, ← List.append_assoc, List.foldl_append, List.foldl_cons,
    List.foldl_nil, deliveredAfter_of_ne_begin hbegin, hc, Option.some_or]

theorem undelivering_of_recorded {b : Handle .commandBuffer} {commands : List Command}
    (h : ∀ c ∈ commands, c.sort ≠ .descriptors) :
    ∀ call ∈ recordedCalls b commands, call.Undelivering := by
  intro call hcall
  obtain ⟨c, hc, c', rfl, hsort⟩ := sort_of_mem_recordedCalls hcall
  refine ⟨by simp, ?_⟩
  have hne := h c hc
  rw [← hsort] at hne
  cases c' with
  | bindDescriptorSets point layout first sets offsets => exact absurd rfl hne
  | pushDescriptors template layout set infos => exact absurd rfl hne
  | _ => rfl

end GpuRecorder.Native

/-! ## 2. One operation -/

namespace GpuRecorder.Recording.CommandBuffer

open Native Resource Device

/-- Everything a delivery records is for the layout of the pipeline. -/
theorem deliveredFor_delivers {p : Pipeline} {l : Layout} {answer : Except Failure Unit}
    {commands : List Command} (h : Delivers p l answer commands) (b : Handle .commandBuffer) :
    recordedCalls b commands = commands.map (fun c => .request (.record b c)) ∧
      ∀ call ∈ recordedCalls b commands, call.deliveredFor? = some p.shader.layout := by
  -- None of the commands is split into entries.
  have hwhole : ∀ c ∈ commands, (Request.record b c).entries = [.record b c] ∧
      (Call.request (.record b c)).deliveredFor? = some p.shader.layout := by
    intro c hc
    cases h with
    | nothing hzero => cases hc
    | refused e => cases hc
    | pushed hpos =>
      obtain ⟨set, _, hset⟩ := List.mem_filterMap.1 hc
      obtain ⟨t, _, rfl⟩ := Option.map_eq_some_iff.1 hset
      exact ⟨rfl, rfl⟩
    | bound hpos natives =>
      obtain rfl := List.mem_singleton.1 hc
      exact ⟨rfl, rfl⟩
  have hmap : recordedCalls b commands = commands.map (fun c => .request (.record b c)) := by
    clear h
    induction commands with
    | nil => rfl
    | cons c commands ih =>
      rw [← List.singleton_append, recordedCalls_append,
        ih fun c' hc' => hwhole c' (List.mem_cons_of_mem _ hc'), recordedCalls]
      simp [(hwhole c List.mem_cons_self).1]
  refine ⟨hmap, ?_⟩
  rw [hmap]
  intro call hcall
  obtain ⟨c, hc, rfl⟩ := List.mem_map.1 hcall
  exact (hwhole c hc).2

/-- Nothing is delivered, the bound layout stays, and the pipeline stays unless one is bound. -/
structure KeepsDelivery (c : CommandBuffer) (d : Device Trace) (s : Store) (op : Operation) :
    Prop where
  layout : (c.perform d s op).buffer.bindings.layout = c.bindings.layout
  pipeline : (∀ p, op ≠ .bindPipeline p) →
    (c.perform d s op).buffer.bindings.pipeline = c.bindings.pipeline
  calls : ∀ call ∈ c.recorded d s op, call.Undelivering

theorem keepsDelivery_of_same {c : CommandBuffer} {d : Device Trace} {s : Store} {op : Operation}
    (hbuffer : (c.perform d s op).buffer = c) (hcalls : c.recorded d s op = []) :
    c.KeepsDelivery d s op where
  layout := by rw [hbuffer]
  pipeline := fun _ => by rw [hbuffer]
  calls := by simp [hcalls]

theorem keepsDelivery_scripted {c : CommandBuffer} {d : Device Trace} {s : Store} {op : Operation}
    {r : CommandBuffer × Script} (h : c.scripted? d s op = some r) : c.KeepsDelivery d s op := by
  have hleaves := leaves_scripted h
  rw [← (perform_scripted h).1] at hleaves
  refine ⟨hleaves.layout, hleaves.pipeline, ?_⟩
  rw [recorded_scripted h]
  rcases sends_scripted h with hnone | ⟨b, commands, hb, hcalls, hsorts⟩
  · rw [hnone]
    cases c.handle? <;> simp [callsInto]
  · rw [hcalls, hb]
    show ∀ call ∈ callsInto b (recordedCalls b commands), call.Undelivering
    rw [callsInto_recordedCalls]
    exact undelivering_of_recorded fun x hx hsort =>
      descriptors_not_mem_sorts h (hsort ▸ hsorts x hx)

theorem keepsDelivery {c : CommandBuffer} (d : Device Trace) (s : Store) {op : Operation}
    (hmoves : op.moves = false)
    (hbegin : ∀ pass subpass framebuffer, op ≠ .begin pass subpass framebuffer)
    (hbind : ∀ id, op ≠ .bindLayout id) : c.KeepsDelivery d s op := by
  cases hn : c.native with
  | none =>
    apply keepsDelivery_of_same (buffer_perform_of_not_ready hn d s hmoves)
    rw [recorded, handle?, hn]
    rfl
  | some n =>
    have hb := handle?_of_native hn
    cases op with
    | setUp kind queue => cases hmoves
    | release => cases hmoves
    | begin pass subpass framebuffer => exact absurd rfl (hbegin pass subpass framebuffer)
    | bindLayout id => exact absurd rfl (hbind id)
    | finish =>
      obtain ⟨hrecorded, hbuffer⟩ := recorded_finish hb d s
      refine ⟨by rw [hbuffer], fun _ => by rw [hbuffer], ?_⟩
      intro call hcall
      rw [hrecorded] at hcall
      obtain rfl := List.mem_singleton.1 hcall
      exact ⟨by simp, rfl⟩
    | _ => exact keepsDelivery_scripted rfl

end GpuRecorder.Recording.CommandBuffer

/-! ## 3. A run -/

namespace GpuRecorder

open Native Resource Recording Device

def Event.bindLayout (n : Nat) (id : ResourceId) : Event := .act (.perform n (.bindLayout id))

namespace Session

def BindsQuietly (s : Session Trace) (n : Nat) (id : ResourceId) : Prop :=
  ∀ m ∈ (s.perform n (.bindLayout id)).messages, m.severity ≠ .error

/-- A layout was bound after `before`, for pipeline `q`, and has stayed bound since; `stream` is
that of the command buffer. -/
structure BoundFor (s : Session Trace) (n : Nat) (id : ResourceId) (q : Pipeline)
    (before between : List Event) (stream : List Call) : Prop where
  bound : ∃ c, (s.through before).buffers[n]? = some c ∧ c.bindings.pipeline = some q ∧
    c.bindings.layout ≠ some id
  stays : ∀ mid, mid <+: between → ∃ c,
    (s.through (before ++ .bindLayout n id :: mid)).buffers[n]? = some c ∧
      c.bindings.layout = some id
  made : id.number < (s.through (before ++ .bindLayout n id :: between)).store.next
  fits : let l := (s.through (before ++ .bindLayout n id :: between)).store.layouts.get id
    ∀ set < sharedSets l q.shader, l.slots set = q.shader.slots set
  latest : (s.through before).BindsQuietly n id →
    0 < sharedSets ((s.through (before ++ .bindLayout n id :: between)).store.layouts.get id)
      q.shader →
      lastDelivery stream = some q.shader.layout
  pipeline : (∀ p, Event.act (.perform n (.bindPipeline p)) ∉ between) →
    ∀ c, (s.through (before ++ .bindLayout n id :: between)).buffers[n]? = some c →
      c.bindings.pipeline = some q

/-- One more event that keeps the layout bound and delivers nothing. -/
theorem BoundFor.extend {s : Session Trace} {n : Nat} {id : ResourceId} {q : Pipeline}
    {before between : List Event} {stream : List Call}
    (h : s.BoundFor n id q before between stream) {e : Event} {c c' : CommandBuffer}
    (hc : (s.through (before ++ .bindLayout n id :: between)).buffers[n]? = some c)
    (hc' : (s.through (before ++ .bindLayout n id :: (between ++ [e]))).buffers[n]? = some c')
    (hlayout : c'.bindings.layout = some id)
    (hpipeline : (∀ p, e ≠ .act (.perform n (.bindPipeline p))) →
      c'.bindings.pipeline = c.bindings.pipeline)
    {stream' : List Call} (hstream : lastDelivery stream' = lastDelivery stream) :
    s.BoundFor n id q before (between ++ [e]) stream' := by
  have hevents : before ++ .bindLayout n id :: (between ++ [e]) =
      (before ++ .bindLayout n id :: between) ++ [e] := by simp
  rw [hevents] at hc'
  have hkeeps := keeps_after (s.through (before ++ .bindLayout n id :: between)) e
  rw [← through_concat] at hkeeps
  have hshape := hkeeps.shape id h.made
  refine ⟨h.bound, fun mid hmid => ?_, ?_, ?_, fun hquiet hpos => ?_, fun hnone c'' hc'' => ?_⟩
  · rcases List.prefix_concat_iff.1 hmid with rfl | hmid
    · exact ⟨c', by rw [hevents]; exact hc', hlayout⟩
    · exact h.stays mid hmid
  · rw [hevents]
    exact Nat.lt_of_lt_of_le h.made hkeeps.next_le
  · rw [hevents]
    intro l set hset
    rw [sharedSets_of_shape_eq hshape] at hset
    rw [Layout.slots_of_shape_eq hshape]
    exact h.fits set hset
  · rw [hstream]
    apply h.latest hquiet
    rwa [hevents, sharedSets_of_shape_eq hshape] at hpos
  · rw [hevents, hc'] at hc''
    cases hc''
    rw [hpipeline fun p hp => hnone p (by simp [hp])]
    exact h.pipeline (fun p hp => hnone p (by simp [hp])) c hc

/-- The layout that a command buffer has bound was bound for some pipeline. -/
def Served (s : Session Trace) (n : Nat) (events : List Event) (c : CommandBuffer)
    (stream : List Call) : Prop :=
  ∀ id, c.bindings.layout = some id →
    ∃ before between q, events = before ++ .bindLayout n id :: between ∧
      s.BoundFor n id q before between stream

theorem Served.extend {s : Session Trace} {n : Nat} {events : List Event} {c : CommandBuffer}
    {stream : List Call} (h : s.Served n events c stream) {e : Event} {c' : CommandBuffer}
    (hc : (s.through events).buffers[n]? = some c)
    (hc' : ((s.through events).after e).buffers[n]? = some c')
    (hlayout : c'.bindings.layout = c.bindings.layout)
    (hpipeline : (∀ p, e ≠ .act (.perform n (.bindPipeline p))) →
      c'.bindings.pipeline = c.bindings.pipeline)
    {stream' : List Call} (hstream : lastDelivery stream' = lastDelivery stream) :
    s.Served n (events ++ [e]) c' stream' := by
  intro id hid
  obtain ⟨before, between, q, rfl, hbound⟩ := h id (hlayout ▸ hid)
  have hevents : (before ++ .bindLayout n id :: between) ++ [e] =
      before ++ .bindLayout n id :: (between ++ [e]) := by simp
  rw [← through_concat, hevents] at hc'
  exact ⟨before, between ++ [e], q, hevents, hbound.extend hc hc' hid hpipeline hstream⟩

theorem made_of_bound {s : Session Trace} {n : Nat} {id : ResourceId} {c c' : CommandBuffer}
    (hc : s.buffers[n]? = some c) (hfresh : c.bindings.layout ≠ some id)
    (hc' : (s.after (.bindLayout n id)).buffers[n]? = some c')
    (hid : c'.bindings.layout = some id) :
    id.number < s.store.next := by
  by_contra hmade
  have hstays : s.after (.bindLayout n id) = s := by
    simp [after, Event.bindLayout, Action.isPossible, hmade]
  rw [hstays, hc] at hc'
  cases hc'
  exact hfresh hid

/-- A layout that is delivered is served by that, and one that is not leaves things as they are. -/
theorem Served.bindLayout {s : Session Trace} {n : Nat} {events : List Event} {c : CommandBuffer}
    {stream : List Call} (h : s.Served n events c stream)
    (hc : (s.through events).buffers[n]? = some c) (id : ResourceId)
    (hc' : ((s.through events).after (.bindLayout n id)).buffers[n]? =
      some (c.bindLayout (s.through events).device (s.through events).store id).buffer) :
    s.Served n (events ++ [.bindLayout n id])
      (c.bindLayout (s.through events).device (s.through events).store id).buffer
      (stream ++
        c.recorded (s.through events).device (s.through events).store (.bindLayout id)) := by
  have hkeeps := keeps_after (s.through events) (.bindLayout n id)
  have hmessages : ((s.through events).perform n (.bindLayout id)).messages =
      (c.bindLayout (s.through events).device (s.through events).store id).outcome.messages := by
    rw [perform, hc]
    rfl
  have hbinds := c.bindsLayout (s.through events).device (s.through events).store id
  generalize c.bindLayout (s.through events).device (s.through events).store id = result,
    c.recorded (s.through events).device (s.through events).store (.bindLayout id) = news
    at hbinds hc' hmessages ⊢
  cases hbinds with
  | left why => exact h.extend hc hc' rfl (fun _ => rfl) (by rw [List.append_nil])
  | @resolved b p r commands ready pipeline fresh fits done delivers speaks =>
    cases hanswer : r.outcome.answer with
    | error e =>
      rw [hanswer] at delivers hc'
      -- Refused: nothing was recorded and nothing is bound anew.
      have hnone : commands = [] := by
        cases delivers
        rfl
      rw [hnone, recordedCalls_nil, List.append_nil]
      exact h.extend hc hc' rfl (fun _ => rfl) rfl
    | ok _ =>
      -- Delivered: the layout is bound from here on, for the pipeline `p`.
      rw [hanswer] at hc'
      intro id' hid'
      obtain rfl : id = id' := Option.some.inj hid'
      have hmade := made_of_bound hc fresh hc' rfl
      have hshape := hkeeps.shape id hmade
      rw [← through_concat] at hc' hshape hkeeps
      have hshared : sharedSets ((s.through (events ++ [.bindLayout n id])).store.layouts.get id)
          p.shader = sharedSets ((s.through events).store.layouts.get id) p.shader :=
        sharedSets_of_shape_eq hshape p.shader
      refine ⟨events, [], p, rfl, ⟨c, hc, pipeline, fresh⟩, fun mid hmid => ?_, ?_, ?_, ?_, ?_⟩
      · rw [List.prefix_nil.1 hmid]
        exact ⟨_, hc', rfl⟩
      · exact Nat.lt_of_lt_of_le hmade hkeeps.next_le
      · intro l set hset
        rw [Layout.slots_of_shape_eq hshape]
        exact fits set (hshared ▸ hset)
      · intro hquiet hpos
        rw [BindsQuietly, hmessages] at hquiet
        rw [hshared] at hpos
        obtain ⟨hmap, hall⟩ := CommandBuffer.deliveredFor_delivers delivers b
        apply lastDelivery_append_of_delivering _ hall
        rw [hmap]
        exact fun hnil => speaks hpos hanswer hquiet (List.map_eq_nil_iff.1 hnil)
      · intro _ c'' hc''
        rw [hc'] at hc''
        cases hc''
        exact pipeline

theorem served_of_run (available : Capabilities) (settings : Settings) (n : Nat)
    (events : List Event) (c : CommandBuffer)
    (hc : ((Watch.start available settings).through n events).session.buffers[n]? = some c) :
    (start available settings).Served n events c
      ((Watch.start available settings).through n events).stream := by
  apply Watch.run_induction (P := (start available settings).Served n) _ _ _ events c hc
  · intro events id hid
    cases hid
  · intro events e c op stream s found named done hidle hserved
    have hc' : (s.after e).buffers[n]? = some (c.perform s.device s.store op).buffer :=
      found_of_operation found done
    -- Where nothing is bound there is nothing to serve.
    have hunbound (h : (c.perform s.device s.store op).buffer.bindings = {}) {stream' : List Call} :
        (start available settings).Served n (events ++ [e])
          (c.perform s.device s.store op).buffer stream' := by
      intro id hid
      rw [h] at hid
      cases hid
    cases hmoves : op.moves with
    | true => exact hunbound (CommandBuffer.bindings_of_moves hidle _ _ hmoves)
    | false =>
      cases hn : c.native with
      | none =>
        apply hunbound
        rw [CommandBuffer.buffer_perform_of_not_ready hn _ _ hmoves]
        exact hidle hn
      | some native =>
        have hother (hbegin : ∀ pass subpass framebuffer, op ≠ .begin pass subpass framebuffer)
            (hbind : ∀ id, op ≠ .bindLayout id) :
            (start available settings).Served n (events ++ [e])
              (c.perform s.device s.store op).buffer
              (stream ++ c.recorded s.device s.store op) := by
          have hkeeps := CommandBuffer.keepsDelivery s.device s.store hmoves hbegin hbind (c := c)
          apply hserved.extend found hc' hkeeps.layout
          · intro hne
            apply hkeeps.pipeline
            rintro p rfl
            exact hne p (eq_of_operation? named (by simp))
          · exact lastDelivery_append_of_undelivering hkeeps.calls
        cases op with
        | begin pass subpass framebuffer =>
          apply hunbound
          have hready : c.isReady := by rw [CommandBuffer.isReady, hn]; rfl
          show (c.begin s.device s.store pass subpass framebuffer).buffer.bindings = {}
          rw [CommandBuffer.bindings_begin hready]
        | bindLayout id =>
          obtain rfl : e = .bindLayout n id := eq_of_operation? named (by simp)
          exact hserved.bindLayout found id hc'
        | _ => exact hother (by simp) (by simp)
  · intro events e c stream s found kept hserved
    exact hserved.extend found kept rfl (fun _ => rfl) rfl

theorem after_bindLayout {s : Session Trace} {id : ResourceId} (hmade : id.number < s.store.next)
    (n : Nat) : s.after (.bindLayout n id) = (s.perform n (.bindLayout id)).session := by
  simp [after, Event.bindLayout, Action.isPossible, hmade, step]

theorem layout_of_bindsQuietly {s : Session Trace} {n : Nat} {id : ResourceId} {c : CommandBuffer}
    (hmade : id.number < s.store.next) (hc : s.buffers[n]? = some c)
    (hdone : (s.perform n (.bindLayout id)).answer = .done) (hquiet : s.BindsQuietly n id) :
    ∃ c', (s.after (.bindLayout n id)).buffers[n]? = some c' ∧ c'.bindings.layout = some id := by
  refine ⟨(c.bindLayout s.device s.store id).buffer,
    found_of_operation hc (after_bindLayout hmade n), ?_⟩
  · have hperform : (s.perform n (.bindLayout id)).answer =
        .ofAttempt (c.bindLayout s.device s.store id).outcome.answer ∧
        (s.perform n (.bindLayout id)).messages =
          (c.bindLayout s.device s.store id).outcome.messages := by
      rw [perform, hc]
      exact ⟨rfl, rfl⟩
    rw [hperform.1] at hdone
    rw [BindsQuietly, hperform.2] at hquiet
    have hbinds := c.bindsLayout s.device s.store id
    generalize c.bindLayout s.device s.store id = result,
      c.recorded s.device s.store (.bindLayout id) = news at hbinds hdone hquiet ⊢
    cases hbinds with
    | left why =>
      rcases why with ⟨m, hm, herror⟩ | hbound
      · exact absurd herror (hquiet m hm)
      · exact hbound
    | @resolved b p r commands ready pipeline fresh fits done delivers speaks =>
      cases hanswer : r.outcome.answer with
      | ok _ => rfl
      | error e =>
        simp only [hanswer] at hdone
        cases hdone

/-- After a layout is bound without any error: it was delivered at this or an earlier binding and
has stayed bound, it fits the shader of the pipeline that was bound then, the open recording last
delivered for the layout of that pipeline, and unless a pipeline was bound in between that one is
still bound. -/
theorem bound_layout_serves_its_pipeline (available : Capabilities) (settings : Settings) (n : Nat)
    (id : ResourceId) (events : List Event) (c : CommandBuffer)
    (hmade : id.number < ((start available settings).through events).store.next)
    (hc : ((start available settings).through events).buffers[n]? = some c)
    (hdone :
      (((start available settings).through events).perform n (.bindLayout id)).answer = .done)
    (hquiet : ((start available settings).through events).BindsQuietly n id) :
    ∃ before between q, events ++ [.bindLayout n id] = before ++ .bindLayout n id :: between ∧
      (start available settings).BoundFor n id q before between
        ((Watch.start available settings).through n (events ++ [.bindLayout n id])).stream := by
  obtain ⟨c', hc', hid⟩ := layout_of_bindsQuietly hmade hc hdone hquiet
  refine served_of_run available settings n (events ++ [Event.bindLayout n id]) c' ?_ id hid
  rw [Watch.session_through]
  show ((start available settings).through (events ++ [.bindLayout n id])).buffers[n]? = some c'
  rw [through_concat, hc']

def uniformPipeline (id : Nat) (layout : Nat) : Pipeline where
  id := ⟨id⟩
  handle := ⟨600 + id⟩
  primitive := .triangleList
  shader := ⟨⟨100 + id⟩, "uniform", ⟨layout⟩, [⟨⟨510⟩, [⟨0, .uniformBuffer, 1, 1⟩]⟩], []⟩

/-- A layout is bound for one pipeline, and another one is bound after it. -/
def switchedPipeline : List Event := [
  .act (.change (.addLayout (uniformPipeline 1 501).shader)),
  .act .create,
  .act (.perform 0 (.setUp .primary ⟨⟨800⟩, 0⟩)),
  .act (.perform 0 (.begin none 0 none)),
  .act (.perform 0 (.bindPipeline (uniformPipeline 2 501))),
  .bindLayout 0 ⟨1⟩,
  .act (.perform 0 (.bindPipeline (uniformPipeline 3 502)))]

theorem switchedPipeline_serves_its_pipeline :
    let s := (start {} {}).through switchedPipeline
    (s.perform 0 (.bindLayout ⟨1⟩)).answer = .done ∧ s.BindsQuietly 0 ⟨1⟩ ∧
      ∃ before between q,
        switchedPipeline ++ [.bindLayout 0 ⟨1⟩] = before ++ .bindLayout 0 ⟨1⟩ :: between ∧
          (start {} {}).BoundFor 0 ⟨1⟩ q before between
            ((Watch.start {} {}).through 0 (switchedPipeline ++ [.bindLayout 0 ⟨1⟩])).stream :=
  have hquiet : ((start {} {}).through switchedPipeline).BindsQuietly 0 ⟨1⟩ := by
    intro m hm
    cases hm
  ⟨rfl, hquiet, bound_layout_serves_its_pipeline {} {} 0 ⟨1⟩ switchedPipeline _ (by decide) rfl rfl
    hquiet⟩

/-- Binding the layout again goes well and delivers nothing, though the pipeline that is bound now
has another layout than the one it was delivered for. -/
theorem rebound_layout_not_delivered :
    let s := (start {} {}).through switchedPipeline
    let stream := ((Watch.start {} {}).through 0 (switchedPipeline ++ [.bindLayout 0 ⟨1⟩])).stream
    (s.perform 0 (.bindLayout ⟨1⟩)).answer = .done ∧
      (s.perform 0 (.bindLayout ⟨1⟩)).messages = [] ∧
      ∃ c, s.buffers[0]? = some c ∧ c.bindings.pipeline = some (uniformPipeline 3 502) ∧
        0 < sharedSets (s.store.layouts.get ⟨1⟩) (uniformPipeline 3 502).shader ∧
        lastDelivery stream = some ⟨501⟩ ∧
        lastDelivery stream ≠ some (uniformPipeline 3 502).shader.layout :=
  ⟨rfl, rfl, _, rfl, rfl, by decide, by decide, by decide⟩

end Session

end GpuRecorder
