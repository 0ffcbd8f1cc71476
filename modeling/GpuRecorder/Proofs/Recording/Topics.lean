import GpuRecorder.Proofs.Recording.Counting
import GpuRecorder.Proofs.Recording.Replay

/-!
# What a recording is asked for

A recording is asked for a pipeline, for the buffers of an assembler and for settings.  It has one
of each at a time, its topics.  On each topic an operation records what it asks for, unless that is
remembered already, and what is remembered on a topic changes only so.
-/

namespace GpuRecorder.Native

open Draw

/-! ## 1. Topics -/

/-- What a recording has one of at a time. -/
inductive Topic where
  | pipeline
  | assembler
  | viewport
  | scissor
  | lineWidth
  | depthBias
  | blendConstants
  | depthBounds
  | stencilWriteMask (face : Face)
  | stencilCompare (face : Face)
  deriving DecidableEq, Repr

def Command.topic? : Command → Option Topic
  | .bindPipeline _ _ => some .pipeline
  | .bindVertexBuffers _ _ | .bindIndexBuffer _ _ => some .assembler
  | .setViewports _ _ => some .viewport
  | .setScissors _ _ => some .scissor
  | .setLineWidth _ => some .lineWidth
  | .setDepthBias _ _ _ => some .depthBias
  | .setBlendConstants _ => some .blendConstants
  | .setDepthBounds _ _ => some .depthBounds
  | .setStencilWriteMask face _ => some (.stencilWriteMask face)
  | .setStencilCompareMask face _ | .setStencilReference face _ => some (.stencilCompare face)
  | _ => none

def Call.topic? : Call → Option Topic
  | .request (.record _ c) => c.topic?
  | _ => none

theorem sort_of_topic {c : Command} {t : Topic} (h : c.topic? = some t) :
    c.sort = .pipeline ∨ c.sort = .assembler ∨ c.sort = .setting := by
  cases c with
  | bindPipeline point pipeline => exact Or.inl rfl
  | bindVertexBuffers first streams => exact Or.inr (Or.inl rfl)
  | bindIndexBuffer start type => exact Or.inr (Or.inl rfl)
  | setViewports first viewports => exact Or.inr (Or.inr rfl)
  | setScissors first scissors => exact Or.inr (Or.inr rfl)
  | setLineWidth width => exact Or.inr (Or.inr rfl)
  | setDepthBias constant clamp slope => exact Or.inr (Or.inr rfl)
  | setBlendConstants c => exact Or.inr (Or.inr rfl)
  | setDepthBounds lower upper => exact Or.inr (Or.inr rfl)
  | setStencilWriteMask face mask => exact Or.inr (Or.inr rfl)
  | setStencilCompareMask face mask => exact Or.inr (Or.inr rfl)
  | setStencilReference face reference => exact Or.inr (Or.inr rfl)
  | _ => cases h

theorem sort?_of_topic {call : Call} {t : Topic} (h : call.topic? = some t) :
    call.sort? = some .pipeline ∨ call.sort? = some .assembler ∨ call.sort? = some .setting := by
  cases call with
  | request r =>
    cases r with
    | record b c =>
      rcases sort_of_topic h with hsort | hsort | hsort
      · exact Or.inl (congrArg some hsort)
      · exact Or.inr (Or.inl (congrArg some hsort))
      · exact Or.inr (Or.inr (congrArg some hsort))
    | _ => cases h
  | _ => cases h

/-- Entering a command one by one keeps its topic. -/
theorem topic_of_mem_recordedCalls {b : Handle .commandBuffer} {commands : List Command}
    {call : Call} (h : call ∈ recordedCalls b commands) :
    ∃ c ∈ commands, call.topic? = c.topic? := by
  obtain ⟨r, hr, rfl⟩ := List.mem_map.1 h
  obtain ⟨c, hc, hentry⟩ := List.mem_flatMap.1 hr
  refine ⟨c, hc, ?_⟩
  cases c with
  | setViewports first viewports =>
    obtain ⟨v, _, rfl⟩ := List.mem_map.1 hentry
    rfl
  | setScissors first scissors =>
    obtain ⟨s, _, rfl⟩ := List.mem_map.1 hentry
    rfl
  | _ =>
    obtain rfl := List.mem_singleton.1 hentry
    rfl

end GpuRecorder.Native

namespace GpuRecorder.Recording

open Draw Native Resource Device

/-! ## 2. Asking -/

/-- Something that a recording can be asked to have bound or set. -/
inductive Ask where
  | pipeline (p : Pipeline)
  | assembler (a : ResourceId)
  | setting (x : Setting)

def Setting.topic : Setting → Topic
  | .viewport _ => .viewport
  | .scissor _ => .scissor
  | .lineWidth _ => .lineWidth
  | .depthBias _ => .depthBias
  | .blendConstants _ => .blendConstants
  | .depthBounds _ => .depthBounds
  | .stencilWriteMask face _ => .stencilWriteMask face
  | .stencilCompare face _ => .stencilCompare face

namespace Ask

def topic : Ask → Topic
  | .pipeline _ => .pipeline
  | .assembler _ => .assembler
  | .setting x => x.topic

/-- The commands that carry it out; an assembler without buffers has none. -/
def commands (s : Store) : Ask → List Command
  | .pipeline p => [.bindPipeline p.point p.handle]
  | .assembler a =>
    CommandBuffer.assemblerCommands (s.vertexStreams (s.assemblers.get a))
      (s.indexBinding (s.assemblers.get a))
  | .setting x => x.commands

theorem topic_of_mem_commands {s : Store} {a : Ask} {c : Command} (h : c ∈ a.commands s) :
    c.topic? = some a.topic := by
  cases a with
  | pipeline p =>
    obtain rfl := List.mem_singleton.1 h
    rfl
  | assembler a =>
    rcases List.mem_append.1 h with h | h <;>
    · split at h
      · cases h
      · obtain rfl := List.mem_singleton.1 h
        rfl
  | setting x =>
    cases x with
    | stencilCompare face v =>
      rcases List.mem_pair.1 h with rfl | rfl <;> rfl
    | _ =>
      obtain rfl := List.mem_singleton.1 h
      rfl

/-- The calls of a request are on its topic. -/
theorem filter_topic_commands (a : Ask) (b : Handle .commandBuffer) (s : Store) (t : Topic) :
    (recordedCalls b (a.commands s)).filter (·.topic? = some t) =
      if a.topic = t then recordedCalls b (a.commands s) else [] := by
  have htopics (call : Call) (hcall : call ∈ recordedCalls b (a.commands s)) :
      call.topic? = some a.topic := by
    obtain ⟨command, hcommand, htopic⟩ := topic_of_mem_recordedCalls hcall
    rw [htopic, topic_of_mem_commands hcommand]
  split
  · rename_i ha
    rw [List.filter_eq_self]
    exact fun call hcall => decide_eq_true (ha ▸ htopics call hcall)
  · rename_i ha
    rw [List.filter_eq_nil_iff]
    intro call hcall
    rw [htopics call hcall]
    simpa using ha

end Ask

/-- It is remembered already. -/
def Bindings.holds (b : Bindings) : Ask → Bool
  | .pipeline p => b.pipeline.map (·.id) = some p.id
  | .assembler a => b.assembler = some a
  | .setting x => b.dynamic.holds x

namespace Operation

/-- What an operation asks for; a pass covers its area, if there is a framebuffer for it. -/
def asks (s : Store) : Operation → List Ask
  | .bindPipeline p => [.pipeline p]
  | .bindAssembler a => [.assembler a]
  | .set x => [.setting x]
  | .beginPass p =>
    if (s.resolve p.framebuffer).isSome then
      [.setting (.viewport (.ofRect p.area)), .setting (.scissor p.area)]
    else []
  | _ => []

theorem asks_beginPass {s : Store} {p : PassOpening} {f : Handle .framebuffer}
    (h : s.resolve p.framebuffer = some f) :
    asks s (.beginPass p) =
      [.setting (.viewport (.ofRect p.area)), .setting (.scissor p.area)] := by
  simp [asks, h]

/-- Opening a pass leaves nothing out. -/
def insists : Operation → Bool
  | .beginPass _ => true
  | _ => false

end Operation

/-! ## 3. What is remembered -/

/-- Making a setting concerns its own topic only. -/
theorem DynamicState.holds_remember_of_ne {x y : Setting} (h : x.topic ≠ y.topic)
    (d : DynamicState) : (d.remember x).holds y = d.holds y := by
  cases x <;> cases y
  case stencilWriteMask.stencilWriteMask face mask face' mask' =>
    have hface : face ≠ face' := fun heq => h (congrArg Topic.stencilWriteMask heq)
    have hget := d.stencilWriteMask.get_set_of_ne hface (some mask)
    exact congrArg (fun last => decide (last = some mask')) hget
  case stencilCompare.stencilCompare face v face' v' =>
    have hface : face ≠ face' := fun heq => h (congrArg Topic.stencilCompare heq)
    have hget := d.stencilCompare.get_set_of_ne hface (some v)
    exact congrArg (fun last => decide (last = some v')) hget
  all_goals first
    | rfl
    | exact absurd rfl h

namespace Bindings

theorem holds_congr {b b' : Bindings} (hpipeline : b'.pipeline = b.pipeline)
    (hassembler : b'.assembler = b.assembler) (hdynamic : b'.dynamic = b.dynamic) (a : Ask) :
    b'.holds a = b.holds a := by
  cases a <;> simp only [holds, hpipeline, hassembler, hdynamic]

theorem holds_remember_of_ne {b : Bindings} {x : Setting} {a : Ask} (h : x.topic ≠ a.topic) :
    Bindings.holds { b with dynamic := b.dynamic.remember x } a = b.holds a := by
  cases a with
  | setting y => exact DynamicState.holds_remember_of_ne h b.dynamic
  | _ => rfl

end Bindings

namespace CommandBuffer

/-- A request that is left out. -/
def leavesOut (c : CommandBuffer) (op : Operation) (a : Ask) : Bool :=
  !op.insists && c.bindings.holds a

/-- What an operation asks for on a topic and is not left out. -/
def outstanding (c : CommandBuffer) (s : Store) (op : Operation) (t : Topic) : List Ask :=
  (op.asks s).filter fun a => a.topic = t && !c.leavesOut op a

variable {c : CommandBuffer}

theorem assembler_scripted {d : Device Trace} {s : Store} {op : Operation}
    {r : CommandBuffer × Script} (h : c.scripted? d s op = some r)
    (hop : ∀ id, op ≠ .bindAssembler id) : r.1.bindings.assembler = c.bindings.assembler := by
  cases op with
  | setUp kind queue => cases h
  | release => cases h
  | begin pass subpass framebuffer => cases h
  | finish => cases h
  | bindLayout id => cases h
  | bindAssembler id => exact absurd rfl (hop id)
  | _ =>
    obtain rfl := Option.some.inj h
    simp only [beginPass, endPass, bindPipeline, set, draw, execute, updateBuffer, copyToTexture,
      withNative, refuse, refuseInPass]
    repeat' split
    all_goals rfl

/-- Operations that ask for nothing leave alone what is remembered. -/
theorem holds_apart {b : Handle .commandBuffer} (hb : c.handle? = some b) (d : Device Trace)
    (s : Store) {op : Operation} (hop : op.restarts = false)
    (hpipeline : ∀ p, op ≠ .bindPipeline p) (hassembler : ∀ id, op ≠ .bindAssembler id)
    (hset : ∀ x, op ≠ .set x) (hpass : ∀ p, op ≠ .beginPass p) (a : Ask) :
    (c.perform d s op).buffer.bindings.holds a = c.bindings.holds a := by
  cases hscript : c.scripted? d s op with
  | some r =>
    have hleaves := leaves_scripted hscript
    rw [(perform_scripted hscript).1]
    exact Bindings.holds_congr (hleaves.pipeline hpipeline) (assembler_scripted hscript hassembler)
      (hleaves.dynamic hpass hset) a
  | none =>
    cases op with
    | setUp kind queue => cases hop
    | release => cases hop
    | begin pass subpass framebuffer => cases hop
    | finish =>
      rw [(recorded_finish hb d s).2]
      exact Bindings.holds_congr rfl rfl rfl a
    | bindLayout id =>
      show (c.bindLayout d s id).buffer.bindings.holds a = _
      have hends := c.endsBinding d s id
      generalize c.bindLayout d s id = result at hends ⊢
      cases hends with
      | left why => rfl
      | @resolved b p r ready pipeline fresh fits done =>
        show (c.withLayout id r.outcome.answer).bindings.holds a = _
        cases r.outcome.answer with
        | error f => rfl
        | ok _ => exact Bindings.holds_congr rfl rfl rfl a
    | _ => cases hscript

/-- What is remembered on a topic changes only with a request on it that is not left out. -/
theorem holds_perform (d : Device Trace) (s : Store) {op : Operation} (hop : op.restarts = false)
    {t : Topic} (hnone : c.outstanding s op t = []) {a : Ask} (ha : a.topic = t) :
    (c.perform d s op).buffer.bindings.holds a = c.bindings.holds a := by
  have hleft (a : Ask) (hasked : a ∈ op.asks s) (ha : a.topic = t) : c.leavesOut op a = true := by
    have hnot := List.filter_eq_nil_iff.1 hnone a hasked
    simpa [ha] using hnot
  cases hn : c.native with
  | none => rw [buffer_perform_of_not_ready hn d s (Operation.moves_of_restarts hop)]
  | some n =>
    have hb := handle?_of_native hn
    cases op with
    | bindPipeline p =>
      show (c.bindPipeline p).1.bindings.holds a = _
      simp only [bindPipeline, withNative, hb]
      split
      · rfl
      · rename_i hbound
        cases a with
        | pipeline q =>
          have hheld : c.bindings.holds (.pipeline p) = true := hleft _ List.mem_cons_self ha
          exact absurd (of_decide_eq_true hheld) hbound
        | _ => rfl
    | bindAssembler id =>
      show (c.bindAssembler s id).2.1.bindings.holds a = _
      rw [bindAssembler_of_ready hn]
      split
      · rfl
      · rename_i hbound
        cases a with
        | assembler id' =>
          have hheld : c.bindings.holds (.assembler id) = true := hleft _ List.mem_cons_self ha
          exact absurd (of_decide_eq_true hheld) hbound
        | _ => rfl
    | set x =>
      show (c.set x).1.bindings.holds a = _
      simp only [set, withNative, hb]
      split
      · rfl
      · rename_i hholds
        apply Bindings.holds_remember_of_ne
        intro hsame
        exact hholds (hleft (.setting x) List.mem_cons_self (hsame.trans ha))
    | beginPass p =>
      show (c.beginPass s p).1.bindings.holds a = _
      cases hresolve : s.resolve p.framebuffer with
      | none =>
        simp only [beginPass, withNative, hb, hresolve]
        rfl
      | some framebuffer =>
        -- The viewport and the scissor are set anew, so the topic is another one.
        have hother (x : Setting) (hx : .setting x ∈ Operation.asks s (.beginPass p)) :
            x.topic ≠ a.topic := by
          intro hsame
          cases hleft (.setting x) hx (hsame.trans ha)
        rw [Operation.asks_beginPass hresolve] at hother
        simp only [beginPass, withNative, hb, hresolve]
        calc Bindings.holds { c.bindings with
                framebuffer := some framebuffer
                dynamic := (c.bindings.dynamic.remember _).remember _ } a
          _ = Bindings.holds { c.bindings with
                dynamic := (c.bindings.dynamic.remember (.viewport (.ofRect p.area))).remember
                  (.scissor p.area) } a := Bindings.holds_congr rfl rfl rfl a
          _ = Bindings.holds { c.bindings with
                dynamic := c.bindings.dynamic.remember (.viewport (.ofRect p.area)) } a :=
            Bindings.holds_remember_of_ne (b := { c.bindings with
                dynamic := c.bindings.dynamic.remember (.viewport (.ofRect p.area)) })
              (hother _ (by simp))
          _ = c.bindings.holds a := Bindings.holds_remember_of_ne (hother _ (by simp))
    | _ => exact holds_apart hb d s hop (by simp) (by simp) (by simp) (by simp) a

/-! ## 4. What is recorded -/

theorem recorded_bindPipeline (c : CommandBuffer) {b : Handle .commandBuffer}
    (hb : c.handle? = some b) (d : Device Trace) (s : Store) (p : Pipeline) :
    c.recorded d s (.bindPipeline p) =
      if c.leavesOut (.bindPipeline p) (.pipeline p) then []
      else recordedCalls b ((Ask.pipeline p).commands s) := by
  have hbind : c.scripted? d s (.bindPipeline p) = some (c.bindPipeline p) := rfl
  simp only [bindPipeline, withNative, hb] at hbind
  split at hbind
  · rename_i hbound
    have hleft : c.leavesOut (.bindPipeline p) (.pipeline p) = true := decide_eq_true hbound
    rw [recorded_scripted hbind, hb, if_pos hleft]
    rfl
  · rename_i hbound
    rw [recorded_of_calls hb hbind (Script.calls_record _ _), if_neg]
    · rfl
    · exact fun hleft => hbound (of_decide_eq_true hleft)

theorem recorded_bindAssembler (c : CommandBuffer) {b : Handle .commandBuffer}
    (hb : c.handle? = some b) (d : Device Trace) (s : Store) (id : ResourceId) :
    c.recorded d s (.bindAssembler id) =
      if c.leavesOut (.bindAssembler id) (.assembler id) then []
      else recordedCalls b ((Ask.assembler id).commands s) := by
  obtain ⟨n, hn, rfl⟩ := Option.map_eq_some_iff.1 hb
  have hbind : c.scripted? d s (.bindAssembler id) = some (c.bindAssembler s id).2 := rfl
  rw [bindAssembler_of_ready hn] at hbind
  split at hbind
  · rename_i hbound
    have hleft : c.leavesOut (.bindAssembler id) (.assembler id) = true := decide_eq_true hbound
    rw [recorded_scripted hbind, hb, if_pos hleft]
    rfl
  · rename_i hbound
    rw [recorded_of_calls hb hbind (Script.calls_record _ _), if_neg]
    · rfl
    · exact fun hleft => hbound (of_decide_eq_true hleft)

/-- An operation of a single request records its commands, unless it is left out. -/
theorem filter_topic_single {b : Handle .commandBuffer} {s : Store} {op : Operation} {a : Ask}
    (hasks : op.asks s = [a]) {calls : List Call}
    (hcalls : calls = if c.leavesOut op a then [] else recordedCalls b (a.commands s)) (t : Topic) :
    calls.filter (·.topic? = some t) =
      (c.outstanding s op t).flatMap fun a => recordedCalls b (a.commands s) := by
  rw [outstanding, hasks, hcalls]
  by_cases hleft : c.leavesOut op a = true
  · simp [hleft]
  · rw [if_neg hleft, a.filter_topic_commands b s t]
    by_cases ha : a.topic = t
    · simp [ha, hleft]
    · simp [ha]

/-- On every topic an operation records the commands of what is outstanding, and nothing else. -/
theorem filter_topic_recorded {b : Handle .commandBuffer} (hb : c.handle? = some b)
    (d : Device Trace) (s : Store) (op : Operation) (t : Topic) :
    (c.recorded d s op).filter (·.topic? = some t) =
      (c.outstanding s op t).flatMap fun a => recordedCalls b (a.commands s) := by
  -- What is on a topic is a pipeline, an assembler or a setting.
  have others (hasks : op.asks s = [])
      (hsorts : .pipeline ∉ op.sorts ∧ .assembler ∉ op.sorts ∧ .setting ∉ op.sorts) :
      (c.recorded d s op).filter (·.topic? = some t) =
        (c.outstanding s op t).flatMap fun a => recordedCalls b (a.commands s) := by
    rw [outstanding, hasks, List.filter_nil, List.flatMap_nil, List.filter_eq_nil_iff]
    intro call hcall htopic
    have hmem {sort : CommandSort} (hsort : call.sort? = some sort) : sort ∈ op.sorts :=
      sort_mem_sorts hb hcall hsort
    rcases sort?_of_topic (of_decide_eq_true htopic) with hsort | hsort | hsort
    · exact hsorts.1 (hmem hsort)
    · exact hsorts.2.1 (hmem hsort)
    · exact hsorts.2.2 (hmem hsort)
  cases op with
  | bindPipeline p =>
    exact filter_topic_single (a := .pipeline p) rfl (c.recorded_bindPipeline hb d s p) t
  | bindAssembler id =>
    exact filter_topic_single (a := .assembler id) rfl (c.recorded_bindAssembler hb d s id) t
  | set x => exact filter_topic_single (a := .setting x) rfl (c.recorded_set hb d s x) t
  | beginPass p =>
    have hopen : c.scripted? d s (.beginPass p) = some (c.beginPass s p) := rfl
    simp only [beginPass, withNative, hb] at hopen
    cases hresolve : s.resolve p.framebuffer with
    | none =>
      rw [hresolve] at hopen
      rw [recorded_scripted hopen, hb, outstanding]
      simp [Operation.asks, hresolve, refuse, Script.calls, callsInto]
    | some framebuffer =>
      rw [hresolve] at hopen
      have hrecorded := recorded_of_calls hb hopen (by
        rw [Script.calls_append, Script.calls_of_requests_nil p.requests_shortage, List.nil_append,
          Script.calls_record])
      rw [hrecorded, outstanding, Operation.asks_beginPass hresolve]
      cases t <;> rfl
  | _ => exact others rfl (by simp [Operation.sorts])

/-- An execute is one command, if there is anything to execute. -/
theorem recorded_execute {b : Handle .commandBuffer} (hb : c.handle? = some b) (d : Device Trace)
    (s : Store) (children : List CommandBuffer) :
    c.recorded d s (.execute children) = recordedCalls b
      (if (children.filter isReady).isEmpty then []
        else [.executeCommands (readyHandles children)]) := by
  have hscript : c.scripted? d s (.execute children) = some (c.execute children) := rfl
  simp only [execute, withNative, hb] at hscript
  split at hscript
  · rename_i hempty
    obtain rfl := List.isEmpty_iff.1 hempty
    have hnone : Script.calls [] = recordedCalls b [] := rfl
    exact recorded_of_calls hb hscript hnone
  · refine recorded_of_calls hb hscript ?_
    rw [Script.calls_append, Script.calls_of_requests_nil (requests_skipped children),
      List.nil_append, Script.calls_record]

end CommandBuffer

end GpuRecorder.Recording
