import GpuRecorder.Proofs.Recording.Topics
import GpuRecorder.Proofs.Session.RetainedObjects
import GpuRecorder.Proofs.Session.Stream

/-!
# Where a recording takes its vertices from

An assembler that is bound already is not bound again, though streams may have been added to it or
its buffers may have moved.  So the open recording has the streams and the indices bound that the
assembler had when it became the bound one.  They are its present ones exactly if no stream was
added and no buffer moved since.
-/

namespace GpuRecorder.Native

/-! ## 1. Bound streams and indices -/

/-- The vertex streams that were bound last, from the binding of a number on, and the indices. -/
structure InputBindings where
  streams : Option (Nat × List BufferPoint) := none
  index : Option (BufferPoint × IndexType) := none
  deriving DecidableEq, Repr

namespace InputBindings

/-- What is bound after one more call; a recording that is opened has nothing bound. -/
def after (i : InputBindings) : Call → InputBindings
  | .begin _ _ => {}
  | .request (.record _ (.bindVertexBuffers first streams)) =>
    { i with streams := some (first, streams) }
  | .request (.record _ (.bindIndexBuffer start type)) => { i with index := some (start, type) }
  | _ => i

def replay (calls : List Call) : InputBindings := calls.foldl after {}

/-- What is bound after an assembler: what it does not have stays as it was. -/
def bind (i : InputBindings) (streams : List BufferPoint)
    (index : Option (BufferPoint × IndexType)) : InputBindings where
  streams := if streams = [] then i.streams else some (0, streams)
  index := index.or i.index

theorem after_of_topic {c : Call} (hbegin : ∀ b args, c ≠ .begin b args)
    (htopic : c.topic? ≠ some .assembler) (i : InputBindings) : i.after c = i := by
  cases c with
  | begin b args => exact absurd rfl (hbegin b args)
  | request r =>
    cases r with
    | record b x =>
      cases x with
      | bindVertexBuffers first streams => exact absurd rfl htopic
      | bindIndexBuffer start type => exact absurd rfl htopic
      | _ => rfl
    | _ => rfl
  | _ => rfl

/-- Within a recording only the calls of assemblers matter. -/
theorem foldl_after_filter {calls : List Call} (h : ∀ c ∈ calls, ∀ b args, c ≠ .begin b args)
    (i : InputBindings) :
    calls.foldl after i = (calls.filter (·.topic? = some .assembler)).foldl after i := by
  induction calls generalizing i with
  | nil => rfl
  | cons c calls ih =>
    have hrest := ih fun c' hc' => h c' (List.mem_cons_of_mem _ hc')
    by_cases htopic : c.topic? = some .assembler
    · rw [List.filter_cons_of_pos (by simpa using htopic), List.foldl_cons, List.foldl_cons]
      exact hrest _
    · rw [List.filter_cons_of_neg (by simpa using htopic), List.foldl_cons,
        after_of_topic (h c List.mem_cons_self) htopic]
      exact hrest i

theorem foldl_after_assembler (i : InputBindings) (b : Handle .commandBuffer)
    (streams : List BufferPoint) (index : Option (BufferPoint × IndexType)) :
    (recordedCalls b (Recording.CommandBuffer.assemblerCommands streams index)).foldl after i =
      i.bind streams index := by
  cases streams <;> cases index <;> rfl

end InputBindings

end GpuRecorder.Native

/-! ## 2. One operation -/

namespace GpuRecorder.Recording.CommandBuffer

open Native Resource Device

variable {c : CommandBuffer} {b : Handle .commandBuffer}

/-- Only a `begin` opens a recording. -/
theorem ne_begin_of_recorded (hb : c.handle? = some b) {d : Device Trace} {s : Store}
    {op : Operation} (hop : op.restarts = false) {call : Call} (hcall : call ∈ c.recorded d s op)
    (b' : Handle .commandBuffer) (args : RecordingBegin) : call ≠ .begin b' args := by
  have hcommands (commands : List Command) (h : call ∈ recordedCalls b commands) :
      call ≠ .begin b' args := by
    obtain ⟨_, _, x, rfl, _⟩ := sort_of_mem_recordedCalls h
    simp
  cases hscript : c.scripted? d s op with
  | some r =>
    rw [recorded_scripted hscript, hb] at hcall
    rcases sends_scripted hscript with hnone | ⟨b₁, commands, hb₁, hcalls, _⟩
    · rw [hnone] at hcall
      cases hcall
    · obtain rfl := Option.some.inj (hb.symm.trans hb₁)
      rw [hcalls] at hcall
      exact hcommands commands (List.mem_filter.1 hcall).1
  | none =>
    cases op with
    | setUp kind queue => cases hop
    | release => cases hop
    | begin pass subpass framebuffer => cases hop
    | finish =>
      rw [(recorded_finish hb d s).1] at hcall
      obtain rfl := List.mem_singleton.1 hcall
      simp
    | bindLayout id =>
      have hbinds := c.bindsLayout d s id
      generalize c.bindLayout d s id = result, c.recorded d s (.bindLayout id) = news
        at hbinds hcall
      cases hbinds with
      | left why => cases hcall
      | @resolved b₁ p r commands ready pipeline fresh fits done delivers speaks =>
        obtain rfl := Option.some.inj (hb.symm.trans ready)
        exact hcommands commands hcall
    | _ => cases hscript

/-- After what restarts a recording nothing is bound. -/
theorem bindings_of_restarts (hidle : c.native = none → c.bindings = {}) (d : Device Trace)
    (s : Store) {op : Operation} (hop : op.restarts = true) :
    (c.perform d s op).buffer.bindings = {} := by
  cases op with
  | setUp kind queue => exact bindings_of_moves hidle d s rfl
  | release => exact bindings_of_moves hidle d s rfl
  | begin pass subpass framebuffer =>
    by_cases hready : c.isReady = true
    · show (c.begin d s pass subpass framebuffer).buffer.bindings = {}
      rw [bindings_begin hready]
    · have hn : c.native = none := by simpa [isReady] using hready
      rw [buffer_perform_of_not_ready hn d s rfl]
      exact hidle hn
  | _ => cases hop

theorem assembler_of_holds {b b' : Bindings}
    (h : ∀ id, b'.holds (.assembler id) = b.holds (.assembler id)) :
    b'.assembler = b.assembler := by
  have hiff (id : ResourceId) : b'.assembler = some id ↔ b.assembler = some id := by
    simpa [Bindings.holds] using h id
  exact Option.ext hiff

/-- An operation that lets the recording go on binds an assembler that is not the bound one, as it
is now, or it leaves alone what is bound. -/
theorem input_perform (hb : c.handle? = some b) (d : Device Trace) (s : Store) {op : Operation}
    (hop : op.restarts = false) (i : InputBindings) :
    ((c.perform d s op).buffer.bindings.assembler = c.bindings.assembler ∧
        (c.recorded d s op).foldl InputBindings.after i = i) ∨
      ∃ id, op = .bindAssembler id ∧ c.bindings.assembler ≠ some id ∧
        (c.perform d s op).buffer.bindings.assembler = some id ∧
        (c.recorded d s op).foldl InputBindings.after i =
          i.bind (s.vertexStreams (s.assemblers.get id))
            (s.indexBinding (s.assemblers.get id)) := by
  have hfilter := InputBindings.foldl_after_filter
    (fun call hcall => ne_begin_of_recorded hb (d := d) (s := s) hop hcall) i
  rw [filter_topic_recorded hb] at hfilter
  have hquiet (hnone : c.outstanding s op .assembler = []) :
      (c.perform d s op).buffer.bindings.assembler = c.bindings.assembler ∧
        (c.recorded d s op).foldl InputBindings.after i = i := by
    refine ⟨assembler_of_holds fun id => holds_perform d s hop hnone rfl, ?_⟩
    rw [hfilter, hnone]
    rfl
  cases op with
  | bindAssembler id =>
    by_cases hbound : c.bindings.assembler = some id
    · left
      apply hquiet
      simp [outstanding, Operation.asks, leavesOut, Operation.insists, Bindings.holds, hbound]
    · right
      have hone : c.outstanding s (.bindAssembler id) .assembler = [.assembler id] := by
        simp [outstanding, Operation.asks, leavesOut, Operation.insists, Bindings.holds, hbound,
          Ask.topic]
      refine ⟨id, rfl, hbound, ?_, ?_⟩
      · obtain ⟨n, hn, _⟩ := Option.map_eq_some_iff.1 hb
        show (c.bindAssembler s id).2.1.bindings.assembler = some id
        rw [bindAssembler_of_ready hn, if_neg hbound]
      · rw [hfilter, hone, List.flatMap_singleton]
        exact i.foldl_after_assembler b _ _
  | beginPass p =>
    left
    apply hquiet
    simp only [outstanding, Operation.asks]
    split <;> rfl
  | set x =>
    left
    apply hquiet
    cases x <;> rfl
  | _ =>
    left
    exact hquiet rfl

end GpuRecorder.Recording.CommandBuffer

/-! ## 3. A run -/

namespace GpuRecorder

open Native Resource Recording Device

def Event.bindAssembler (n : Nat) (id : ResourceId) : Event := .act (.perform n (.bindAssembler id))

namespace Watch

/-- An assembler was bound after `before` and has stayed bound since.  What the open recording has
bound now is what was bound before that, and the assembler as it was then. -/
structure BoundSince (w : Watch) (n : Nat) (id : ResourceId) (before between : List Event) :
    Prop where
  fresh : ∃ c, (w.through n before).session.buffers[n]? = some c ∧ c.isReady ∧
    c.bindings.assembler ≠ some id
  stays : ∀ mid, mid <+: between → ∃ c,
    (w.through n (before ++ .bindAssembler n id :: mid)).session.buffers[n]? = some c ∧
      c.bindings.assembler = some id
  latest : let s := (w.through n before).session.store
    InputBindings.replay (w.through n (before ++ .bindAssembler n id :: between)).stream =
      (InputBindings.replay (w.through n before).stream).bind
        (s.vertexStreams (s.assemblers.get id)) (s.indexBinding (s.assemblers.get id))

/-- One more event that keeps the assembler bound and binds nothing. -/
theorem BoundSince.extend {w : Watch} {n : Nat} {id : ResourceId} {before between : List Event}
    (h : w.BoundSince n id before between) {e : Event} {c : CommandBuffer}
    (hc : (w.through n ((before ++ .bindAssembler n id :: between) ++ [e])).session.buffers[n]? =
      some c)
    (hbound : c.bindings.assembler = some id)
    (hstream : InputBindings.replay
        (w.through n ((before ++ .bindAssembler n id :: between) ++ [e])).stream =
      InputBindings.replay (w.through n (before ++ .bindAssembler n id :: between)).stream) :
    w.BoundSince n id before (between ++ [e]) := by
  have hevents : before ++ .bindAssembler n id :: (between ++ [e]) =
      (before ++ .bindAssembler n id :: between) ++ [e] := by simp
  refine ⟨h.fresh, fun mid hmid => ?_, ?_⟩
  · rcases List.prefix_concat_iff.1 hmid with rfl | hmid
    · rw [hevents]
      exact ⟨c, hc, hbound⟩
    · exact h.stays mid hmid
  · rw [hevents, hstream]
    exact h.latest

/-- A binding of an assembler that is not the bound one is itself the binding that counts. -/
theorem BoundSince.eq_of_fresh {w : Watch} {n : Nat} {id : ResourceId}
    {before between events : List Event} (h : w.BoundSince n id before between)
    (hevents : events ++ [.bindAssembler n id] = before ++ .bindAssembler n id :: between)
    {c : CommandBuffer} (hc : (w.through n events).session.buffers[n]? = some c)
    (hfresh : c.bindings.assembler ≠ some id) : before = events := by
  rcases List.eq_nil_or_concat between with rfl | ⟨mid, e, rfl⟩
  · exact (List.append_inj_left' hevents rfl).symm
  · -- It would have been bound already.
    have hsplit : before ++ .bindAssembler n id :: mid.concat e =
        (before ++ .bindAssembler n id :: mid) ++ [e] := by simp
    obtain ⟨c', hc', hbound⟩ := h.stays mid (by simp)
    rw [hsplit] at hevents
    rw [← List.append_inj_left' hevents rfl, hc] at hc'
    cases hc'
    exact absurd hbound hfresh

/-- An assembler that is the bound one after a run was bound at some time in it. -/
def WasBound (w : Watch) (n : Nat) (id : ResourceId) (events : List Event) (c : CommandBuffer) :
    Prop :=
  c.bindings.assembler = some id →
    ∃ before between, events = before ++ .bindAssembler n id :: between ∧
      w.BoundSince n id before between

section

variable {w : Watch} {n : Nat} {id : ResourceId} {events : List Event} {c : CommandBuffer}

theorem wasBound_of_unbound (h : c.bindings = {}) : w.WasBound n id events c := by
  intro hid
  rw [h] at hid
  cases hid

theorem WasBound.extend (h : w.WasBound n id events c) {e : Event} {c' : CommandBuffer}
    (hc' : (w.through n (events ++ [e])).session.buffers[n]? = some c')
    (hkept : c'.bindings.assembler = c.bindings.assembler)
    (hstream : InputBindings.replay (w.through n (events ++ [e])).stream =
      InputBindings.replay (w.through n events).stream) :
    w.WasBound n id (events ++ [e]) c' := by
  intro hid
  obtain ⟨before, between, rfl, hbound⟩ := h (hkept ▸ hid)
  exact ⟨before, between ++ [e], by simp, hbound.extend hc' hid hstream⟩

/-- An operation of the command buffer itself. -/
theorem WasBound.own (h : w.WasBound n id events c) {e : Event} {op : Operation}
    (found : (w.through n events).session.buffers[n]? = some c)
    (named : (w.through n events).session.operation? e = some (n, op))
    (hidle : c.native = none → c.bindings = {}) :
    let s := (w.through n events).session
    let performed := c.perform s.device s.store op
    (w.through n (events ++ [e])).session.buffers[n]? = some performed.buffer →
      (w.through n (events ++ [e])).stream = (if op.moves then [] else
        (w.through n events).stream ++ c.recorded s.device s.store op) →
      w.WasBound n id (events ++ [e]) performed.buffer := by
  intro s performed kept stream
  by_cases hop : op.restarts = true
  · exact wasBound_of_unbound (CommandBuffer.bindings_of_restarts hidle _ _ hop)
  have hgoes : op.restarts = false := by simpa using hop
  have hmoves := Operation.moves_of_restarts hgoes
  by_cases hready : c.isReady = true
  swap
  · have hn : c.native = none := by simpa [CommandBuffer.isReady] using hready
    apply wasBound_of_unbound
    rw [CommandBuffer.buffer_perform_of_not_ready hn _ _ hmoves]
    exact hidle hn
  obtain ⟨native, hn⟩ := Option.isSome_iff_exists.1 hready
  have hreplay : InputBindings.replay (w.through n (events ++ [e])).stream =
      (c.recorded s.device s.store op).foldl InputBindings.after
        (InputBindings.replay (w.through n events).stream) := by
    rw [stream, hmoves, if_neg (by simp), InputBindings.replay, List.foldl_append]
    rfl
  rcases CommandBuffer.input_perform (CommandBuffer.handle?_of_native hn) s.device s.store hgoes
    (InputBindings.replay (w.through n events).stream) with
    ⟨hkept, hsame⟩ | ⟨id', rfl, hfresh, hbound, hnew⟩
  · exact h.extend kept hkept (hreplay.trans hsame)
  · -- The assembler becomes the bound one here.
    intro hid'
    obtain rfl : id' = id := Option.some.inj (hbound.symm.trans hid')
    obtain rfl : e = .bindAssembler n id' := Session.eq_of_operation? named (by simp)
    refine ⟨events, [], rfl, ⟨c, found, hready, hfresh⟩, fun mid hmid => ?_, hreplay.trans hnew⟩
    rw [List.prefix_nil.1 hmid]
    exact ⟨performed.buffer, kept, hbound⟩

end

theorem wasBound_of_run (available : Capabilities) (settings : Settings) (n : Nat)
    (id : ResourceId) (events : List Event) (c : CommandBuffer)
    (hc : ((start available settings).through n events).session.buffers[n]? = some c) :
    (start available settings).WasBound n id events c := by
  apply stream_induction (P := (start available settings).WasBound n id) _ _ _ events c hc
  · exact fun events => wasBound_of_unbound rfl
  · intro events e c op w performed found named kept stream hidle h
    rw [← through_concat] at kept stream
    exact h.own found named hidle kept stream
  · intro events e c w found kept stream h
    rw [← through_concat] at kept stream
    exact h.extend kept rfl (by rw [stream])

end Watch

/-! ## 4. The present streams and indices -/

namespace Session

theorem retains_after (s : Session Trace) (e : Event) : s.store.Retains (s.after e).store := by
  cases e with
  | act a =>
    simp only [after]
    split
    · exact s.retains_step a
    · exact .refl _
  | allocateSets layouts => exact .refl _
  | switch x => exact .refl _

theorem retains_through (s : Session Trace) (events : List Event) :
    s.store.Retains (s.through events).store :=
  through_induction (P := fun s' => s.store.Retains s'.store) (.refl _)
    (fun s' e h => h.trans (s'.retains_after e)) events

/-- An assembler has been made when it is bound. -/
def HasMade (n : Nat) (id : ResourceId) (s : Session Trace) (e : Event) : Prop :=
  e = .bindAssembler n id → id.number < s.store.next

theorem bound_after_bindAssembler {s : Session Trace} {n : Nat} {c : CommandBuffer}
    (hc : s.buffers[n]? = some c) (hready : c.isReady) (id : ResourceId) :
    ∃ c', (s.after (.bindAssembler n id)).buffers[n]? = some c' ∧
      c'.bindings.assembler = some id := by
  obtain ⟨native, hn⟩ := Option.isSome_iff_exists.1 hready
  have hdone : s.after (.bindAssembler n id) = (s.perform n (.bindAssembler id)).session := by
    simp [after, Event.bindAssembler, Action.isPossible, step]
  refine ⟨_, found_of_operation hc hdone, ?_⟩
  show (c.bindAssembler s.store id).2.1.bindings.assembler = some id
  rw [CommandBuffer.bindAssembler_of_ready hn]
  by_cases hbound : c.bindings.assembler = some id
  · rw [if_pos hbound]
    exact hbound
  · rw [if_neg hbound]

end Session

namespace Native.InputBindings

/-- All streams of an assembler are bound from binding zero on, where they start now, and its
indices if it has any. -/
def Shows (i : InputBindings) (s : Store) (id : ResourceId) : Prop :=
  i.streams = some (0, s.vertexStreams (s.assemblers.get id)) ∧
    ∀ index, s.indexBinding (s.assemblers.get id) = some index → i.index = some index

/-- An assembler that was bound as it was then shows as it is now. -/
theorem shows_bind_iff {i : InputBindings} {earlier now : Store} {id : ResourceId}
    (hindex : (now.assemblers.get id).index = (earlier.assemblers.get id).index) :
    (i.bind (earlier.vertexStreams (earlier.assemblers.get id))
        (earlier.indexBinding (earlier.assemblers.get id))).Shows now id ↔
      (if (earlier.assemblers.get id).streams = [] then
          i.streams = some (0, now.vertexStreams (now.assemblers.get id))
        else now.vertexStreams (now.assemblers.get id) =
          earlier.vertexStreams (earlier.assemblers.get id)) ∧
        now.indexBinding (now.assemblers.get id) =
          earlier.indexBinding (earlier.assemblers.get id) := by
  have hempty : earlier.vertexStreams (earlier.assemblers.get id) = [] ↔
      (earlier.assemblers.get id).streams = [] := List.map_eq_nil_iff
  simp only [Shows, bind, hempty]
  apply and_congr
  · by_cases hnone : (earlier.assemblers.get id).streams = []
    · rw [if_pos hnone, if_pos hnone]
    · rw [if_neg hnone, if_neg hnone, Option.some_inj, Prod.mk.injEq]
      exact ⟨fun h => h.2.symm, fun h => ⟨rfl, h.symm⟩⟩
  · simp only [Store.indexBinding, hindex]
    cases (earlier.assemblers.get id).index with
    | none => simp
    | some x =>
      simp only [Option.map_some, Option.some_or, Option.some_inj, forall_eq']
      exact eq_comm

end Native.InputBindings

namespace Session

/-- After an assembler with streams is bound by a ready command buffer: it was bound at this or an
earlier binding and has stayed bound, and the open recording has its streams and indices bound as
they were then.  These are the present ones if it was not bound before, and else exactly if nothing
about them has changed since: no stream was added and no buffer moved.  An assembler that had no
streams then has left those that were bound before. -/
theorem bound_assembler_shows_iff (available : Capabilities) (settings : Settings) (n : Nat)
    (id : ResourceId) (events : List Event) (c : CommandBuffer)
    (hmade : Accepts (HasMade n id) after (start available settings)
      (events ++ [.bindAssembler n id]))
    (hc : ((start available settings).through events).buffers[n]? = some c) (hready : c.isReady)
    (hstreams : let now := ((start available settings).through events).store
      (now.assemblers.get id).streams ≠ []) :
    let w := Watch.start available settings
    let now := ((start available settings).through events).store
    let last := InputBindings.replay (w.through n (events ++ [.bindAssembler n id])).stream
    (c.bindings.assembler ≠ some id → last.Shows now id) ∧
      ∃ before between, events ++ [.bindAssembler n id] = before ++ .bindAssembler n id :: between ∧
        w.BoundSince n id before between ∧
        let older := InputBindings.replay (w.through n before).stream
        let earlier := ((start available settings).through before).store
        (last.Shows now id ↔
          (if (earlier.assemblers.get id).streams = [] then
              older.streams = some (0, now.vertexStreams (now.assemblers.get id))
            else now.vertexStreams (now.assemblers.get id) =
              earlier.vertexStreams (earlier.assemblers.get id)) ∧
            now.indexBinding (now.assemblers.get id) =
              earlier.indexBinding (earlier.assemblers.get id)) := by
  intro w now last
  have hsession (events : List Event) :
      (w.through n events).session = (start available settings).through events :=
    Watch.session_through n w events
  obtain ⟨c', hc', hid⟩ := bound_after_bindAssembler hc hready id
  rw [← through_concat, ← hsession] at hc'
  obtain ⟨before, between, hevents, hbound⟩ :=
    Watch.wasBound_of_run available settings n id _ c' hc' hid
  have hlatest : last = (InputBindings.replay (w.through n before).stream).bind _ _ :=
    hevents ▸ hbound.latest
  rw [hsession] at hlatest
  -- The binding that counts is not after these events, so the assembler had its index buffer then.
  have hbefore : before <+: events := prefix_of_concat_eq hevents
  have hretains : ((start available settings).through before).store.Retains now := by
    obtain ⟨rest, rfl⟩ := hbefore
    show Store.Retains _ ((start available settings).through (before ++ rest)).store
    rw [through_append]
    exact retains_through _ _
  have hindex := hretains.index id ((accepts_iff_forall.1 hmade) before _ between hevents rfl)
  have hiff := InputBindings.shows_bind_iff
    (i := InputBindings.replay (w.through n before).stream) hindex
  rw [← hlatest] at hiff
  refine ⟨fun hfresh => ?_, before, between, hevents, hbound, hiff⟩
  obtain rfl : before = events := by
    rw [← hsession] at hc
    exact hbound.eq_of_fresh hevents hc hfresh
  rw [hiff, if_neg hstreams]
  exact ⟨rfl, rfl⟩

/-- An assembler of one stream is bound, and another stream is added to it. -/
def grownAssembler : List Event := [
  .act (.change (.addBuffer (.ofRange ⟨700⟩ 128 0 256 16))),
  .act (.change (.addBuffer (.ofRange ⟨701⟩ 128 64 256 16))),
  .act (.change (.addAssembler { streams := [⟨1⟩] })),
  .act .create,
  .act (.perform 0 (.setUp .primary ⟨⟨800⟩, 0⟩)),
  .act (.perform 0 (.begin none 0 none)),
  .bindAssembler 0 ⟨3⟩,
  .act (.change (.addStream ⟨3⟩ ⟨2⟩))]

theorem grownAssembler_bound_before :
    let s := (start {} {}).through grownAssembler
    Accepts (HasMade 0 ⟨3⟩) after (start {} {}) (grownAssembler ++ [.bindAssembler 0 ⟨3⟩]) ∧
      (s.store.assemblers.get ⟨3⟩).streams ≠ [] ∧
      ∃ before between,
        grownAssembler ++ [.bindAssembler 0 ⟨3⟩] = before ++ .bindAssembler 0 ⟨3⟩ :: between ∧
          (Watch.start {} {}).BoundSince 0 ⟨3⟩ before between := by
  intro s
  have hmade : Accepts (HasMade 0 ⟨3⟩) after (start {} {})
      (grownAssembler ++ [.bindAssembler 0 ⟨3⟩]) :=
    ⟨nofun, nofun, nofun, nofun, nofun, nofun, fun _ => by decide, nofun, fun _ => by decide,
      trivial⟩
  have hstreams : (s.store.assemblers.get ⟨3⟩).streams ≠ [] := by decide
  obtain ⟨before, between, hevents, hbound, _⟩ :=
    (bound_assembler_shows_iff {} {} 0 ⟨3⟩ grownAssembler _ hmade rfl rfl hstreams).2
  exact ⟨hmade, hstreams, before, between, hevents, hbound⟩

/-- The assembler is bound again without an error, and nothing is recorded: the stream that was
added is not bound. -/
theorem added_stream_not_bound :
    let s := (start {} {}).through grownAssembler
    let last := InputBindings.replay
      ((Watch.start {} {}).through 0 (grownAssembler ++ [.bindAssembler 0 ⟨3⟩])).stream
    (∃ c, s.buffers[0]? = some c ∧ c.isReady) ∧
      (s.perform 0 (.bindAssembler ⟨3⟩)).answer = .done ∧
      (s.perform 0 (.bindAssembler ⟨3⟩)).messages = [] ∧
      s.store.vertexStreams (s.store.assemblers.get ⟨3⟩) = [⟨⟨700⟩, 0⟩, ⟨⟨701⟩, 64⟩] ∧
      last.streams = some (0, [⟨⟨700⟩, 0⟩]) ∧ ¬ last.Shows s.store ⟨3⟩ := by
  intro s last
  have hbound : last.streams = some (0, [⟨⟨700⟩, 0⟩]) := by decide
  have hnow : s.store.vertexStreams (s.store.assemblers.get ⟨3⟩) =
      [⟨⟨700⟩, 0⟩, ⟨⟨701⟩, 64⟩] := by decide
  refine ⟨⟨_, rfl, rfl⟩, rfl, rfl, hnow, hbound, fun hshows => ?_⟩
  have hsame := hshows.1
  rw [hbound, hnow] at hsame
  cases hsame

end Session

end GpuRecorder
