import GpuRecorder.Proofs.Recording.Replay
import GpuRecorder.Proofs.Session.Stream

/-!
# Requests that are left out

A command buffer leaves out what would not change what it has sent.  The driver cannot tell: all
through a recording, what is in effect is the pipeline that was bound last and, up to rounding
noise, every setting as it was made last.  The noise does not add up, for a setting is compared
with what was sent, not with what was asked for.
-/

namespace GpuRecorder

open Native Resource Recording Device

namespace Session

/-! ## 1. What a run asks for -/

/-- What has been asked of a command buffer after one more event. -/
def asked (s : Session Trace) (n : Nat) (r : Requests) (e : Event) : Requests :=
  match s.operation? e with
  | some (m, op) => if m = n then r.ask s.store op else r
  | none => r

/-- What those events of a run that count ask of a command buffer, each state as asked last. -/
def collect (n : Nat) (counts : Session Trace → Event → Bool) (s : Session Trace) (r : Requests) :
    List Event → Requests
  | [] => r
  | e :: events => collect n counts (s.after e) (if counts s e then s.asked n r e else r) events

/-- What the events of a run ask of a command buffer. -/
def requested (s : Session Trace) (n : Nat) (events : List Event) : Requests :=
  collect n (fun _ _ => true) s {} events

/-- What is asked of a command buffer by those events that make it record something. -/
def inEffect (s : Session Trace) (n : Nat) (events : List Event) : Requests :=
  collect n (fun s e => !(s.news n e).isEmpty) s {} events

theorem collect_concat (n : Nat) (counts : Session Trace → Event → Bool) (s : Session Trace)
    (r : Requests) (events : List Event) (e : Event) :
    collect n counts s r (events ++ [e]) =
      if counts (s.through events) e then (s.through events).asked n (collect n counts s r events) e
      else collect n counts s r events := by
  induction events generalizing s r with
  | nil => rfl
  | cons e' events ih => exact ih (s.after e') _

theorem requested_concat (s : Session Trace) (n : Nat) (events : List Event) (e : Event) :
    s.requested n (events ++ [e]) = (s.through events).asked n (s.requested n events) e := by
  rw [requested, collect_concat, if_pos rfl, requested]

theorem inEffect_concat_of_silent {s : Session Trace} {n : Nat} {events : List Event} {e : Event}
    (h : (s.through events).news n e = []) : s.inEffect n (events ++ [e]) = s.inEffect n events := by
  rw [inEffect, collect_concat, h]
  rfl

theorem inEffect_concat_of_news {s : Session Trace} {n : Nat} {events : List Event} {e : Event}
    (h : (s.through events).news n e ≠ []) :
    s.inEffect n (events ++ [e]) = (s.through events).asked n (s.inEffect n events) e := by
  have hsome : (!((s.through events).news n e).isEmpty) = true := by simpa using h
  rw [inEffect, collect_concat, if_pos hsome, inEffect]

/-! ## 2. A recording -/

end Session

/-- After such an event nothing of the recording of a command buffer is in effect. -/
def Event.restarts (n : Nat) : Event → Bool
  | .act (.perform m op) => m = n && op.restarts
  | _ => false

namespace Session

/-- The event opens a recording of a command buffer. -/
def Opens (s : Session Trace) (n : Nat) (e : Event) : Prop :=
  (∃ pass subpass framebuffer, e = .act (.perform n (.begin pass subpass framebuffer))) ∧
    s.news n e ≠ []

/-- The pipelines that are bound under one identity have one handle. -/
def OnePerIdentity (n : Nat) (events : List Event) : Prop :=
  ∀ p q : Pipeline, .act (.perform n (.bindPipeline p)) ∈ events →
    .act (.perform n (.bindPipeline q)) ∈ events → p.id = q.id → p.handle = q.handle

theorem OnePerIdentity.of_concat {n : Nat} {events : List Event} {e : Event}
    (h : OnePerIdentity n (events ++ [e])) : OnePerIdentity n events :=
  fun p q hp hq => h p q (List.mem_append_left _ hp) (List.mem_append_left _ hq)

/-- In a recording that was opened before some events: what the command buffer remembers is what is
in effect, and near what was asked for. -/
structure Tracks (s : Session Trace) (n : Nat) (events : List Event) (c : CommandBuffer)
    (stream : List Call) : Prop where
  ready : ∃ b, c.handle? = some b
  sent : c.sent = s.inEffect n events
  replay : NativeState.replay stream = c.sent.native
  bound : ∀ q, c.sent.pipeline = some q → .act (.perform n (.bindPipeline q)) ∈ events
  near : OnePerIdentity n events → c.sent.native.Near (s.requested n events).native

/-- An event that asks nothing of the command buffer. -/
theorem Tracks.extend {s : Session Trace} {n : Nat} {events : List Event} {c c' : CommandBuffer}
    {stream stream' : List Call} (h : s.Tracks n events c stream) {e : Event}
    (hasked : ∀ r, (s.through events).asked n r e = r) (hhandle : c'.handle? = c.handle?)
    (hsent : c'.sent = c.sent)
    (hreplay : NativeState.replay stream' = NativeState.replay stream) :
    s.Tracks n (events ++ [e]) c' stream' where
  ready := hhandle ▸ h.ready
  sent := by
    rw [hsent, h.sent, inEffect, inEffect, collect_concat, hasked, ite_self]
  replay := by rw [hreplay, hsent, h.replay]
  bound := by
    rw [hsent]
    exact fun q hq => List.mem_append_left _ (h.bound q hq)
  near := by
    rw [hsent, requested_concat, hasked]
    exact fun hone => h.near hone.of_concat

/-- An event that the command buffer leaves out, for what it asks is near what was sent. -/
theorem Tracks.omit {s : Session Trace} {n : Nat} {events : List Event} {c c' : CommandBuffer}
    {stream : List Call} (h : s.Tracks n events c stream) {e : Event}
    (hsilent : (s.through events).news n e = []) (hhandle : c'.handle? = c.handle?)
    (hsent : c'.sent = c.sent)
    (hnear : OnePerIdentity n (events ++ [e]) →
      c.sent.native.Near ((s.through events).asked n (s.requested n events) e).native) :
    s.Tracks n (events ++ [e]) c' stream where
  ready := hhandle ▸ h.ready
  sent := by rw [hsent, h.sent, inEffect_concat_of_silent hsilent]
  replay := by rw [hsent, h.replay]
  bound := by
    rw [hsent]
    exact fun q hq => List.mem_append_left _ (h.bound q hq)
  near := by
    rw [hsent, requested_concat]
    exact hnear

theorem asked_of_operation {s : Session Trace} {n : Nat} {e : Event} {op : Operation}
    (named : s.operation? e = some (n, op)) (r : Requests) : s.asked n r e = r.ask s.store op := by
  simp [asked, named]

/-- An operation of the command buffer that lets the recording go on. -/
theorem Tracks.own {s : Session Trace} {n : Nat} {events : List Event} {c : CommandBuffer}
    {stream : List Call} (h : s.Tracks n events c stream) {e : Event} {op : Operation}
    (named : (s.through events).operation? e = some (n, op)) (hop : op.restarts = false)
    (hnews : (s.through events).news n e =
      c.recorded (s.through events).device (s.through events).store op) :
    s.Tracks n (events ++ [e])
      (c.perform (s.through events).device (s.through events).store op).buffer
      (stream ++ c.recorded (s.through events).device (s.through events).store op) := by
  obtain ⟨b, hb⟩ := h.ready
  have hasked := asked_of_operation named
  have hnative := (c.frame_perform (s.through events).device (s.through events).store
    (Operation.moves_of_restarts hop)).1
  have hhandle : (c.perform (s.through events).device (s.through events).store op).buffer.handle? =
      c.handle? := by
    rw [CommandBuffer.handle?, hnative, CommandBuffer.handle?]
  cases CommandBuffer.affects hb (s.through events).device (s.through events).store hop with
  | sends something remembers replay =>
    refine ⟨⟨b, hhandle.trans hb⟩, ?_, ?_, fun q hq => ?_, fun hone => ?_⟩
    · rw [remembers, h.sent, inEffect_concat_of_news (hnews ▸ something), hasked]
    · rw [NativeState.replay_append, h.replay, replay, remembers]
    · rw [remembers] at hq
      rcases pipeline_ask hq with rfl | hq
      · rw [eq_of_operation? named (by simp)]
        exact List.mem_append_right _ List.mem_cons_self
      · exact List.mem_append_left _ (h.bound q hq)
    · rw [remembers, requested_concat, hasked]
      exact near_ask (h.near hone.of_concat) _ _
  | @omitsSetting x hx holds nothing remembers =>
    rw [nothing, List.append_nil]
    refine h.omit (hnews.trans nothing) hhandle remembers fun hone => ?_
    rw [hasked, hx]
    show c.sent.native.Near ((s.requested n events).set x).native
    rw [Requests.native_set]
    exact near_set_of_holds (h.near hone.of_concat) holds
  | @omitsPipeline p hp bound nothing remembers =>
    rw [nothing, List.append_nil]
    refine h.omit (hnews.trans nothing) hhandle remembers fun hone => ?_
    rw [hasked, hp]
    -- The pipeline that is bound has the handle of the one that is asked for.
    obtain ⟨q, hq, hid⟩ := Option.map_eq_some_iff.1 bound
    have hhandles : q.handle = p.handle := by
      apply hone q p (List.mem_append_left _ (h.bound q hq)) _ hid
      rw [hp] at named
      rw [eq_of_operation? named (by simp)]
      exact List.mem_append_right _ List.mem_cons_self
    refine { h.near hone.of_concat with pipeline := ?_ }
    show c.sent.pipeline.map (·.handle) = some p.handle
    rw [hq, Option.map_some, hhandles]
  | apart asks remembers replay =>
    refine h.extend (fun r => ?_) hhandle remembers ?_
    · rw [hasked, asks]
    · rw [NativeState.replay_append, h.replay, replay]

/-- A recording that has just been opened. -/
theorem tracks_opening {s : Session Trace} {c : CommandBuffer} (hhandle : ∃ b, c.handle? = some b)
    (hsent : c.sent = {}) {n : Nat} {stream : List Call} (hreplay : NativeState.replay stream = {}) :
    s.Tracks n [] c stream where
  ready := hhandle
  sent := hsent
  replay := by
    rw [hreplay, hsent]
    rfl
  bound := by
    rw [hsent]
    exact nofun
  near _ := by
    rw [hsent]
    exact .empty

/-! ## 3. A run -/

theorem exists_of_news {s : Session Trace} {n : Nat} {e : Event} (h : s.news n e ≠ []) :
    ∃ c b, s.buffers[n]? = some c ∧ c.handle? = some b := by
  cases found : s.buffers[n]? with
  | none =>
    rw [news, found] at h
    exact absurd rfl h
  | some c =>
    cases hb : c.handle? with
    | none =>
      rw [news, found, Option.bind_some, hb] at h
      exact absurd rfl h
    | some b => exact ⟨c, b, rfl, hb⟩

theorem restarts_of_operation {s : Session Trace} {n : Nat} {e : Event} {op : Operation}
    (named : s.operation? e = some (n, op)) (h : e.restarts n = false) : op.restarts = false := by
  cases op with
  | execute children => rfl
  | _ =>
    rw [eq_of_operation? named (by simp)] at h
    simpa [Event.restarts] using h

theorem tracks_of_opens {n : Nat} {w : Watch} {opening : Event} (h : w.session.Opens n opening) :
    ∃ c, (w.after n opening).session.buffers[n]? = some c ∧
      (w.session.after opening).Tracks n [] c (w.after n opening).stream := by
  obtain ⟨⟨pass, subpass, framebuffer, rfl⟩, hnews⟩ := h
  obtain ⟨c, b, found, hb⟩ := exists_of_news hnews
  obtain ⟨hsent, hrecorded⟩ := CommandBuffer.opens_begin hb w.session.device w.session.store pass
    subpass framebuffer
  rw [news_of_operation found rfl] at hnews
  obtain ⟨args, hcall⟩ := hrecorded.resolve_left hnews
  refine ⟨_, found_of_operation found rfl, tracks_opening ⟨b, ?_⟩ hsent ?_⟩
  · rw [CommandBuffer.handle?, (c.frame_perform _ _ rfl).1]
    exact hb
  · have hcalls : w.session.news n (.act (.perform n (.begin pass subpass framebuffer))) =
        [.begin b args] := (news_of_operation found rfl).trans hcall
    have hstream : (w.after n (.act (.perform n (.begin pass subpass framebuffer)))).stream =
        w.stream ++ [.begin b args] := by
      simp only [Watch.after, moves, operation?, Operation.moves, Bool.and_false,
        Bool.false_eq_true, if_false, hcalls]
    rw [hstream, NativeState.replay_append]
    rfl

/-- One more event, whoever it is for. -/
theorem Tracks.after {s : Session Trace} {n : Nat} {events : List Event} {c : CommandBuffer}
    {w : Watch} (h : s.Tracks n events c w.stream) (hsession : w.session = s.through events)
    (hsound : w.session.Sound) (found : w.session.buffers[n]? = some c) {e : Event}
    (hgoes : e.restarts n = false) :
    ∃ c', (w.after n e).session.buffers[n]? = some c' ∧
      s.Tracks n (events ++ [e]) c' (w.after n e).stream := by
  have hsees := Watch.sees hsound n e fun hnone => by
    rw [found] at hnone
    cases hnone
  show ∃ c', (w.session.after e).buffers[n]? = some c' ∧ _
  rw [hsession] at found ⊢
  cases hsees with
  | @own c₁ op found₁ named done stream =>
    rw [hsession] at found₁ named done stream
    cases found.symm.trans found₁
    have hop := restarts_of_operation named hgoes
    rw [Operation.moves_of_restarts hop, if_neg (by simp)] at stream
    exact ⟨_, found_of_operation found done,
      stream ▸ h.own named hop (news_of_operation found done)⟩
  | @apart c₁ found₁ idle kept stream =>
    rw [hsession] at found₁ idle kept
    cases found.symm.trans found₁
    refine ⟨c, kept, h.extend (fun r => ?_) rfl rfl (by rw [stream])⟩
    unfold asked
    split
    · rename_i m op named
      split
      · rename_i hm
        obtain ⟨id, rfl⟩ := idle op (hm ▸ named)
        rfl
      · rfl
    · rfl
  | missing found₁ new stream =>
    rw [hsession, found] at found₁
    cases found₁

/-- Every recording of a command buffer is tracked while it goes on. -/
theorem tracked_of_run (available : Capabilities) (settings : Settings) {n : Nat}
    {before : List Event} {opening : Event}
    (hopens : ((start available settings).through before).Opens n opening) (events : List Event)
    (hgoes : ∀ e ∈ events, e.restarts n = false) :
    let w := (Watch.start available settings).through n (before ++ opening :: events)
    ∃ c, w.session.buffers[n]? = some c ∧
      (((start available settings).through before).after opening).Tracks n events c w.stream := by
  have hsession (events : List Event) :
      ((Watch.start available settings).through n events).session =
        (start available settings).through events :=
    Watch.session_through n (Watch.start available settings) events
  -- By the last event.
  induction events using List.reverseRecOn with
  | nil =>
    rw [← hsession before] at hopens ⊢
    rw [Watch.through_concat]
    exact tracks_of_opens hopens
  | append_singleton events e ih =>
    obtain ⟨c, found, htracks⟩ := ih fun e' he' => hgoes e' (List.mem_append_left _ he')
    have hthrough : ((Watch.start available settings).through n
        (before ++ opening :: events)).session =
          (((start available settings).through before).after opening).through events :=
      (hsession _).trans (through_append _ _ _)
    have hsound := sound_through available settings (before ++ opening :: events)
    rw [← hsession] at hsound
    rw [← List.cons_append, ← List.append_assoc, Watch.through_concat]
    exact htracks.after hthrough hsound found
      (hgoes e (List.mem_append_right _ List.mem_cons_self))

/-- All through a recording, from where it was opened until it is opened anew or the native buffer
changes hands: what the driver has in effect, replayed from the stream, is the handle of the
pipeline that was bound last and near to every setting as it was made last; and a setting is
recorded if it differs from what is in effect, and only then. -/
theorem elision_is_invisible (available : Capabilities) (settings : Settings) (n : Nat)
    (before : List Event) (opening : Event)
    (hopens : ((start available settings).through before).Opens n opening) (events : List Event)
    (hgoes : ∀ e ∈ events, e.restarts n = false) (hone : OnePerIdentity n events) :
    let opened := ((start available settings).through before).after opening
    let w := (Watch.start available settings).through n (before ++ opening :: events)
    (NativeState.replay w.stream).Near (opened.requested n events).native ∧
      NativeState.replay w.stream = (opened.inEffect n events).native ∧
        ∃ c b, w.session.buffers[n]? = some c ∧ c.handle? = some b ∧
          ∀ x : Setting, c.recorded w.session.device w.session.store (.set x) =
            if (opened.inEffect n events).dynamic.holds x then []
            else recordedCalls b x.commands := by
  intro opened w
  obtain ⟨c, found, htracks⟩ := tracked_of_run available settings hopens events hgoes
  obtain ⟨b, hb⟩ := htracks.ready
  refine ⟨?_, ?_, c, b, found, hb, fun x => ?_⟩
  · rw [htracks.replay]
    exact htracks.near hone
  · rw [htracks.replay, htracks.sent]
  · rw [← htracks.sent]
    exact CommandBuffer.recorded_set hb _ _ x

/-- One, the two numbers next to it, and one pipeline bound twice. -/
def noisyRecording : List Event :=
  let p : Pipeline := { (default : Pipeline) with id := ⟨1⟩, handle := ⟨601⟩ }
  [.act (.perform 0 (.set (.lineWidth .one))),
    .act (.perform 0 (.bindPipeline p)),
    .act (.perform 0 (.set (.lineWidth ⟨0x3f800001⟩))),
    .act (.perform 0 (.set (.stencilCompare .back ⟨1, 255⟩))),
    .act (.perform 0 (.set (.lineWidth ⟨0x3f800002⟩))),
    .act (.perform 0 (.bindPipeline p)),
    .act (.perform 0 (.set (.lineWidth ⟨0x3f800001⟩)))]

theorem noisyRecording_is_invisible :
    let before : List Event := [.act .create, .act (.perform 0 (.setUp .primary ⟨⟨800⟩, 0⟩))]
    let opening : Event := .act (.perform 0 (.begin none 0 none))
    let opened := ((start {} {}).through before).after opening
    let w := (Watch.start {} {}).through 0 (before ++ opening :: noisyRecording)
    ((start {} {}).through before).Opens 0 opening ∧
      (∀ e ∈ noisyRecording, e.restarts 0 = false) ∧ OnePerIdentity 0 noisyRecording ∧
        (NativeState.replay w.stream).Near (opened.requested 0 noisyRecording).native ∧
          (NativeState.replay w.stream).lineWidth = some ⟨0x3f800002⟩ ∧
            (opened.requested 0 noisyRecording).dynamic.lineWidth = some ⟨0x3f800001⟩ := by
  have hopens : ((start {} {}).through
      [.act .create, .act (.perform 0 (.setUp .primary ⟨⟨800⟩, 0⟩))]).Opens 0
        (.act (.perform 0 (.begin none 0 none))) := ⟨⟨none, 0, none, rfl⟩, by decide +kernel⟩
  have hgoes : ∀ e ∈ noisyRecording, e.restarts 0 = false := by
    simp [noisyRecording, Event.restarts, Operation.restarts]
  have hone : OnePerIdentity 0 noisyRecording := by
    intro p q hp hq _
    simp only [noisyRecording, List.mem_cons, Event.act.injEq, Action.perform.injEq,
      Operation.bindPipeline.injEq, reduceCtorEq, and_false, true_and, false_or, or_false,
      List.not_mem_nil, or_self] at hp hq
    rw [hp, hq]
  refine ⟨hopens, hgoes, hone, ?_, by decide +kernel, by decide +kernel⟩
  exact (elision_is_invisible {} {} 0 _ _ hopens noisyRecording hgoes hone).1

end Session

end GpuRecorder
