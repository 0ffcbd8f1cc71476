import GpuRecorder.Proofs.Recording.Topics
import GpuRecorder.Proofs.Session.Elision

/-!
# What is recorded again after an execute

Executing other buffers leaves a driver with nothing bound and nothing set, but what a command
buffer remembers stays.  So after an execute a pipeline, an assembler or a setting is recorded when
some request for it since then is not the one that was remembered before the execute, and otherwise
it is missing for the draws that follow.
-/

namespace GpuRecorder

open Native Resource Recording Device

namespace Session

/-! ## 1. What is asked for since -/

/-- The event makes a command buffer record the execution of others. -/
def Executes (s : Session Trace) (n : Nat) (e : Event) : Prop :=
  ∃ b children, .request (.record b (.executeCommands children)) ∈ s.news n e

/-- The commands of what an event asks a command buffer for on a topic and some memory does not
leave out. -/
def outstanding (s : Session Trace) (n : Nat) (memory : CommandBuffer) (t : Topic) (e : Event) :
    List (List Command) :=
  match s.operation? e with
  | some (m, op) =>
    if m = n then (memory.outstanding s.store op t).map (·.commands s.store) else []
  | none => []

/-- The same for the events of a run, all by one memory. -/
def demanded (n : Nat) (memory : CommandBuffer) (t : Topic) (s : Session Trace) :
    List Event → List (List Command)
  | [] => []
  | e :: events => s.outstanding n memory t e ++ demanded n memory t (s.after e) events

theorem demanded_concat (n : Nat) (memory : CommandBuffer) (t : Topic) (s : Session Trace)
    (events : List Event) (e : Event) :
    demanded n memory t s (events ++ [e]) =
      demanded n memory t s events ++ (s.through events).outstanding n memory t e := by
  induction events generalizing s with
  | nil => simp [demanded, through]
  | cons e' events ih =>
    rw [List.cons_append, demanded, ih, ← List.append_assoc]
    rfl

theorem outstanding_of_operation {s : Session Trace} {n : Nat} {e : Event} {op : Operation}
    (named : s.operation? e = some (n, op)) (memory : CommandBuffer) (t : Topic) :
    s.outstanding n memory t e =
      (memory.outstanding s.store op t).map (·.commands s.store) := by
  simp [outstanding, named]

/-- Only bindings of a layout are named without being performed, and these are on no topic. -/
theorem outstanding_of_idle {s : Session Trace} {n : Nat} {e : Event}
    (idle : ∀ op, s.operation? e = some (n, op) → ∃ id, op = .bindLayout id)
    (memory : CommandBuffer) (t : Topic) : s.outstanding n memory t e = [] := by
  unfold outstanding
  split
  · rename_i m op named
    split
    · rename_i hm
      obtain ⟨id, rfl⟩ := idle op (hm ▸ named)
      rfl
    · rfl
  · rfl

/-! ## 2. What is recorded since -/

/-- Some calls on a topic that a command buffer records in the course of a run, next to what it
remembered before: as long as nothing else is asked for, it remembers the same and records nothing;
the first thing else is recorded first. -/
structure Renews (s : Session Trace) (n : Nat) (memory : CommandBuffer) (t : Topic)
    (b : Handle .commandBuffer) (events : List Event) (c : CommandBuffer) (calls : List Call) :
    Prop where
  ready : c.handle? = some b
  kept : demanded n memory t s events = [] →
    ∀ a : Ask, a.topic = t → c.bindings.holds a = memory.bindings.holds a
  silent : demanded n memory t s events = [] → calls.filter (·.topic? = some t) = []
  first : ∀ commands, (demanded n memory t s events).head? = some commands →
    recordedCalls b commands <+: calls.filter (·.topic? = some t)

section

variable {s : Session Trace} {n : Nat} {memory : CommandBuffer} {t : Topic}
  {b : Handle .commandBuffer} {events : List Event} {c : CommandBuffer} {calls : List Call}

theorem Renews.extend (h : s.Renews n memory t b events c calls) {e : Event}
    (hnone : (s.through events).outstanding n memory t e = []) :
    s.Renews n memory t b (events ++ [e]) c calls := by
  have hsame : demanded n memory t s (events ++ [e]) = demanded n memory t s events := by
    rw [demanded_concat, hnone, List.append_nil]
  exact ⟨h.ready, hsame ▸ h.kept, hsame ▸ h.silent, hsame ▸ h.first⟩

/-- An operation of the command buffer that lets the recording go on. -/
theorem Renews.own (h : s.Renews n memory t b events c calls) {e : Event} {op : Operation}
    (named : (s.through events).operation? e = some (n, op)) (hop : op.restarts = false) :
    let d := (s.through events).device
    let s' := (s.through events).store
    s.Renews n memory t b (events ++ [e]) (c.perform d s' op).buffer
      (calls ++ c.recorded d s' op) := by
  intro d s'
  have hready : (c.perform d s' op).buffer.handle? = some b := by
    rw [CommandBuffer.handle?, (c.frame_perform d s' (Operation.moves_of_restarts hop)).1]
    exact h.ready
  have hrecorded := CommandBuffer.filter_topic_recorded h.ready d s' op t
  cases hdemanded : demanded n memory t s events with
  | cons first rest =>
    -- Something else has been asked for before, and was recorded first.
    have hprefix := h.first first (by rw [hdemanded]; rfl)
    have hall : demanded n memory t s (events ++ [e]) ≠ [] := by
      rw [demanded_concat, hdemanded]
      exact List.cons_ne_nil _ _
    refine ⟨hready, fun hnone => absurd hnone hall, fun hnone => absurd hnone hall, ?_⟩
    intro commands hcommands
    rw [demanded_concat, hdemanded] at hcommands
    obtain rfl : first = commands := Option.some.inj hcommands
    rw [List.filter_append]
    exact hprefix.trans (List.prefix_append _ _)
  | nil =>
    have hkept := h.kept hdemanded
    have hsilent := h.silent hdemanded
    -- On this topic the command buffer remembers what it remembered then.
    have hsame : c.outstanding s' op t = memory.outstanding s' op t := by
      apply List.filter_congr
      intro a _
      by_cases ha : a.topic = t
      · simp only [CommandBuffer.leavesOut, hkept a ha]
      · simp only [ha, decide_false, Bool.false_and]
    have hnew : demanded n memory t s (events ++ [e]) =
        (c.outstanding s' op t).map (·.commands s') := by
      rw [demanded_concat, hdemanded, List.nil_append, outstanding_of_operation named, hsame]
    refine ⟨hready, fun hnone a ha => ?_, fun hnone => ?_, fun commands hcommands => ?_⟩
    · rw [hnew, List.map_eq_nil_iff] at hnone
      rw [CommandBuffer.holds_perform d s' hop hnone ha, hkept a ha]
    · rw [hnew, List.map_eq_nil_iff] at hnone
      rw [List.filter_append, hsilent, hrecorded, hnone]
      rfl
    · rw [hnew, List.head?_map] at hcommands
      obtain ⟨a, ha, rfl⟩ := Option.map_eq_some_iff.1 hcommands
      obtain ⟨rest, hrest⟩ := List.head?_eq_some_iff.1 ha
      rw [List.filter_append, hsilent, hrecorded, hrest, List.nil_append, List.flatMap_cons]
      exact List.prefix_append _ _

end

/-! ## 3. After an execute -/

/-- Who records an execute executes; that is all that is recorded, and what is remembered stays. -/
theorem executes_perform {c : CommandBuffer} {b b' : Handle .commandBuffer}
    (hb : c.handle? = some b) {d : Device Trace} {s : Store} {op : Operation}
    {executed : List (Handle .commandBuffer)}
    (h : .request (.record b' (.executeCommands executed)) ∈ c.recorded d s op) :
    op.restarts = false ∧ c.recorded d s op = [.request (.record b (.executeCommands executed))] ∧
      (c.perform d s op).buffer.bindings = c.bindings := by
  have hsort : .execution ∈ op.sorts := CommandBuffer.sort_mem_sorts hb h rfl
  cases op <;> simp [Operation.sorts] at hsort
  rename_i children
  have hbindings : (c.perform d s (.execute children)).buffer.bindings = c.bindings := by
    show (c.execute children).1.bindings = c.bindings
    rw [c.buffer_execute s children]
  refine ⟨rfl, ?_, hbindings⟩
  rw [CommandBuffer.recorded_execute hb] at h ⊢
  split at h
  · cases h
  · rename_i hsome
    rw [if_neg hsome]
    cases List.mem_singleton.1 h
    rfl

/-- An event that makes a command buffer record an execute. -/
theorem renews_execution {n : Nat} {w : Watch} (hsound : w.session.Sound) {e : Event}
    (h : w.session.Executes n e) (t : Topic) :
    ∃ c c' b children, w.session.buffers[n]? = some c ∧ c.handle? = some b ∧
      (w.after n e).session.buffers[n]? = some c' ∧
      (w.after n e).stream = w.stream ++ [.request (.record b (.executeCommands children))] ∧
      (w.session.after e).Renews n c t b [] c' [] := by
  obtain ⟨b', executed, hmem⟩ := h
  obtain ⟨c, b, found, hb⟩ := exists_of_news (List.ne_nil_of_mem hmem)
  have hsees := Watch.sees hsound n e fun hnone => by
    rw [found] at hnone
    cases hnone
  cases hsees with
  | missing found' new stream => cases found.symm.trans found'
  | @apart c' found' idle kept stream =>
    -- It would have recorded nothing.
    have hmoves : w.session.moves n e = false := by
      unfold moves
      split
      · rename_i m op named
        by_cases hm : m = n
        · obtain ⟨id, rfl⟩ := idle op (hm ▸ named)
          exact Bool.and_false _
        · simp [hm]
      · rfl
    have hnews : w.stream ++ w.session.news n e = w.stream := by
      simpa [Watch.after, hmoves] using stream
    rw [List.append_right_eq_self.1 hnews] at hmem
    cases hmem
  | @own c₁ op found₁ named done stream =>
    cases found.symm.trans found₁
    rw [news_of_operation found done] at hmem
    obtain ⟨hop, hrecorded, hbindings⟩ := executes_perform hb hmem
    have hmoves := Operation.moves_of_restarts hop
    rw [hmoves, if_neg (by simp), hrecorded] at stream
    refine ⟨c, _, b, executed, found, hb, found_of_operation found done, stream, ?_, ?_, ?_, ?_⟩
    · rw [CommandBuffer.handle?, (c.frame_perform _ _ hmoves).1]
      exact hb
    · intro _ a _
      rw [hbindings]
    · exact fun _ => rfl
    · intro _ hfirst
      cases hfirst

/-- One more event, whoever it is for. -/
theorem Renews.after {s : Session Trace} {n : Nat} {memory c : CommandBuffer} {t : Topic}
    {b : Handle .commandBuffer} {events : List Event} {calls : List Call}
    (h : s.Renews n memory t b events c calls) {w : Watch} (hsession : w.session = s.through events)
    (hsound : w.session.Sound) (found : w.session.buffers[n]? = some c) {e : Event}
    (hgoes : e.restarts n = false) :
    ∃ c' news, (w.after n e).session.buffers[n]? = some c' ∧
      (w.after n e).stream = w.stream ++ news ∧
      s.Renews n memory t b (events ++ [e]) c' (calls ++ news) := by
  have hsees := Watch.sees hsound n e fun hnone => by
    rw [found] at hnone
    cases hnone
  cases hsees with
  | @own c₁ op found₁ named done stream =>
    cases found.symm.trans found₁
    have hop := restarts_of_operation named hgoes
    rw [Operation.moves_of_restarts hop, if_neg (by simp)] at stream
    refine ⟨_, _, found_of_operation found done, stream, ?_⟩
    rw [hsession] at named ⊢
    exact h.own named hop
  | @apart c₁ found₁ idle kept stream =>
    cases found.symm.trans found₁
    refine ⟨c, [], kept, by rw [stream, List.append_nil], ?_⟩
    rw [List.append_nil]
    exact h.extend (outstanding_of_idle (hsession ▸ idle) memory t)
  | missing found₁ new stream => cases found.symm.trans found₁

/-- All events that let the recording go on. -/
theorem renews_of_run {available : Capabilities} {settings : Settings} {n : Nat}
    {before : List Event} {execution : Event} {memory c : CommandBuffer} {t : Topic}
    {b : Handle .commandBuffer}
    (found : ((Watch.start available settings).through n
      (before ++ [execution])).session.buffers[n]? = some c)
    (h : (((start available settings).through before).after execution).Renews n memory t b [] c [])
    (since : List Event) (hgoes : ∀ e ∈ since, e.restarts n = false) :
    let w (since : List Event) :=
      (Watch.start available settings).through n (before ++ execution :: since)
    ∃ c' calls, (w since).session.buffers[n]? = some c' ∧
      (w since).stream = (w []).stream ++ calls ∧
      (((start available settings).through before).after execution).Renews n memory t b since c'
        calls := by
  intro w
  have hsession (since : List Event) : (w since).session =
      (((start available settings).through before).after execution).through since :=
    (Watch.session_through n (Watch.start available settings) _).trans (through_append _ _ _)
  have hsound (since : List Event) : (w since).session.Sound := by
    rw [Watch.session_through]
    exact sound_through available settings _
  -- By the last event.
  induction since using List.reverseRecOn with
  | nil => exact ⟨c, [], found, (List.append_nil _).symm, h⟩
  | append_singleton since e ih =>
    obtain ⟨c₁, calls, found₁, hcalls, hsince⟩ :=
      ih fun e' he' => hgoes e' (List.mem_append_left _ he')
    obtain ⟨c₂, news, found₂, hnews, hafter⟩ := hsince.after (hsession since) (hsound since) found₁
      (hgoes e (List.mem_append_right _ List.mem_cons_self))
    have hlast : (w since).after n e = w (since ++ [e]) := by
      rw [← Watch.through_concat, List.append_assoc, List.cons_append]
    rw [hlast] at found₂ hnews
    refine ⟨c₂, calls ++ news, found₂, ?_, hafter⟩
    rw [hnews, hcalls, List.append_assoc]

/-- After an execute, and until the recording is opened anew or the native buffer changes hands,
take what was asked for on a topic since then and is not what was remembered before the execute.
If there is nothing such, nothing on the topic has been recorded since the execute, whatever was
asked for.  Otherwise the first of it was recorded, and it was recorded before all else on the
topic. -/
theorem recorded_again_after_execute (available : Capabilities) (settings : Settings) (n : Nat)
    (before : List Event) (execution : Event)
    (hexecutes : ((start available settings).through before).Executes n execution)
    (since : List Event) (hgoes : ∀ e ∈ since, e.restarts n = false) (t : Topic) :
    let s := (start available settings).through before
    let stream (events : List Event) := ((Watch.start available settings).through n events).stream
    ∃ c b children calls, s.buffers[n]? = some c ∧ c.handle? = some b ∧
      stream (before ++ [execution]) =
        stream before ++ [.request (.record b (.executeCommands children))] ∧
      stream (before ++ execution :: since) = stream (before ++ [execution]) ++ calls ∧
      match demanded n c t (s.after execution) since with
      | [] => calls.filter (·.topic? = some t) = []
      | first :: _ => recordedCalls b first <+: calls.filter (·.topic? = some t) := by
  intro s stream
  have hsession : ((Watch.start available settings).through n before).session = s :=
    Watch.session_through n (Watch.start available settings) before
  have hsound : ((Watch.start available settings).through n before).session.Sound := by
    rw [hsession]
    exact sound_through available settings before
  obtain ⟨c, c', b, children, found, hb, found', hstream, hrenews⟩ :=
    renews_execution hsound (by rwa [hsession]) t
  rw [← Watch.through_concat] at found' hstream
  rw [hsession] at found hrenews
  obtain ⟨_, calls, _, hcalls, hsince⟩ := renews_of_run found' hrenews since hgoes
  refine ⟨c, b, children, calls, found, hb, hstream, hcalls, ?_⟩
  split
  · rename_i hnone
    exact hsince.silent hnone
  · rename_i hfirst
    exact hsince.first _ (congrArg List.head? hfirst)

/-- A primary buffer draws with a pipeline in a pass where a secondary buffer is to be executed. -/
def beforeOverlay (p : Pipeline) : List Event :=
  let pass : RenderPass := ⟨⟨3⟩, ⟨901⟩, 0⟩
  let framebuffer : Framebuffer := ⟨⟨4⟩, .offscreen ⟨902⟩⟩
  [ .act (.change (.addAssembler { parameters := { vertexCount := 3 } })),
    .act .create,
    .act .create,
    .act (.perform 0 (.setUp .primary ⟨⟨800⟩, 0⟩)),
    .act (.perform 1 (.setUp .secondary ⟨⟨800⟩, 0⟩)),
    .act (.perform 1 (.begin (some pass) 0 (some framebuffer))),
    .act (.perform 1 .finish),
    .act (.perform 0 (.begin none 0 none)),
    .act (.perform 0 (.beginPass ⟨pass, framebuffer, { width := 8, height := 8 }, [], .one, 0⟩)),
    .act (.perform 0 (.bindPipeline p)),
    .act (.perform 0 (.draw ⟨1⟩))]

/-- The pipeline is bound again after the execute, and a line width is set for the first time: only
the line width is recorded. -/
theorem line_width_alone_after_overlay :
    let p : Pipeline := { (default : Pipeline) with id := ⟨2⟩, handle := ⟨601⟩ }
    let execution : Event := .act (.execute 0 [1])
    let since : List Event := [.act (.perform 0 (.bindPipeline p)),
      .act (.perform 0 (.set (.lineWidth .one)))]
    let s := (start {} {}).through (beforeOverlay p)
    let stream (events : List Event) := ((Watch.start {} {}).through 0 events).stream
    s.Executes 0 execution ∧ (∀ e ∈ since, e.restarts 0 = false) ∧
      ∃ b calls,
        stream (beforeOverlay p ++ execution :: since) =
            stream (beforeOverlay p ++ [execution]) ++ calls ∧
          calls.filter (·.topic? = some .pipeline) = [] ∧
          recordedCalls b [.setLineWidth .one] <+: calls.filter (·.topic? = some .lineWidth) := by
  intro p execution since s stream
  have hexecutes : s.Executes 0 execution := ⟨⟨4097⟩, [⟨4098⟩], by decide +kernel⟩
  have hgoes : ∀ e ∈ since, e.restarts 0 = false := by decide
  have hrecorded :=
    recorded_again_after_execute {} {} 0 (beforeOverlay p) execution hexecutes since hgoes
  obtain ⟨c, b, _, calls, found, hb, _, hcalls, hpipeline⟩ := hrecorded .pipeline
  obtain ⟨c', b', _, calls', found', hb', _, hcalls', hwidth⟩ := hrecorded .lineWidth
  cases found.symm.trans found'
  cases hb.symm.trans hb'
  obtain rfl := List.append_cancel_left (hcalls.symm.trans hcalls')
  obtain rfl : c = s.buffers[0]?.getD {} := by rw [found]; rfl
  have hbound : demanded 0 (s.buffers[0]?.getD {}) .pipeline (s.after execution) since = [] := by
    decide +kernel
  have hset : demanded 0 (s.buffers[0]?.getD {}) .lineWidth (s.after execution) since =
      [[.setLineWidth .one]] := by
    decide +kernel
  rw [hbound] at hpipeline
  rw [hset] at hwidth
  exact ⟨hexecutes, hgoes, b, calls, hcalls, hpipeline, hwidth⟩

/-- A pipeline bound before the execute is bound again after it, for a draw: it is not recorded
again. -/
theorem pipeline_missing_after_execute :
    let p : Pipeline := { (default : Pipeline) with id := ⟨2⟩, handle := ⟨601⟩ }
    let execution : Event := .act (.execute 0 [1])
    let rebinding : Event := .act (.perform 0 (.bindPipeline p))
    let drawing : Event := .act (.perform 0 (.draw ⟨1⟩))
    let s := (start {} {}).through (beforeOverlay p)
    let stream (events : List Event) := ((Watch.start {} {}).through 0 events).stream
    ∃ c b, s.buffers[0]? = some c ∧ c.kind = .primary ∧ c.handle? = some b ∧
      stream (beforeOverlay p ++ [execution]) =
        stream (beforeOverlay p) ++ [.request (.record b (.executeCommands [⟨4098⟩]))] ∧
      stream (beforeOverlay p ++ [execution, rebinding, drawing]) =
        stream (beforeOverlay p ++ [execution]) ++ [.request (.record b (.draw 3 1 0 0))] := by
  intro p execution rebinding drawing s stream
  exact ⟨_, ⟨4097⟩, rfl, by decide +kernel, by decide +kernel, by decide +kernel,
    by decide +kernel⟩

end Session

end GpuRecorder
