import GpuRecorder.Proofs.Recording.BindLayout
import GpuRecorder.Proofs.Session.Stream

/-!
# Draws inside passes, transfers outside

Replaying the stream of a primary command buffer tells when a pass is open in it.  The framebuffer
that the command buffer remembers is set exactly then; draws stand inside a pass and transfers
outside of one.
-/

namespace GpuRecorder.Native

/-! ## 1. Replaying a stream -/

/-- Whether a pass is open after a call. -/
def passAfter (isOpen : Bool) (c : Call) : Bool :=
  match c with
  | .begin _ _ | .finish _ => false
  | _ =>
    match c.sort? with
    | some .passStart => true
    | some .passEnd => false
    | _ => isOpen

def passOpen (calls : List Call) : Bool := calls.foldl passAfter false

def standsRight (isOpen : Bool) (c : Call) : Prop :=
  (c.sort? = some .draw → isOpen = true) ∧ (c.sort? = some .transfer → isOpen = false)

/-- Every call stands where it may. -/
def WellPlaced (isOpen : Bool) : List Call → Prop
  | [] => True
  | c :: rest => standsRight isOpen c ∧ WellPlaced (passAfter isOpen c) rest

theorem wellPlaced_append {isOpen : Bool} {calls more : List Call} :
    WellPlaced isOpen (calls ++ more) ↔
      WellPlaced isOpen calls ∧ WellPlaced (calls.foldl passAfter isOpen) more := by
  induction calls generalizing isOpen with
  | nil => simp [WellPlaced]
  | cons c calls ih =>
    rw [List.cons_append, WellPlaced, ih, WellPlaced, List.foldl_cons, and_assoc]

theorem standsRight_of_wellPlaced {before rest : List Call} {c : Call}
    (h : WellPlaced false (before ++ c :: rest)) : standsRight (passOpen before) c :=
  (wellPlaced_append.1 h).2.1

/-- The calls of `news` stand right after an open or closed pass and leave it as given. -/
def Continues (isOpen : Bool) (news : List Call) (isOpen' : Bool) : Prop :=
  WellPlaced isOpen news ∧ news.foldl passAfter isOpen = isOpen'

theorem Continues.nil (isOpen : Bool) : Continues isOpen [] isOpen := ⟨trivial, rfl⟩

theorem Continues.single {isOpen : Bool} {c : Call} (hdraw : c.sort? ≠ some .draw)
    (htransfer : c.sort? ≠ some .transfer) : Continues isOpen [c] (passAfter isOpen c) :=
  ⟨⟨⟨fun h => absurd h hdraw, fun h => absurd h htransfer⟩, trivial⟩, rfl⟩

theorem Continues.append {isOpen isOpen' isOpen'' : Bool} {news more : List Call}
    (h : Continues isOpen news isOpen') (hmore : Continues isOpen' more isOpen'') :
    Continues isOpen (news ++ more) isOpen'' := by
  obtain ⟨hplaced, hopen⟩ := h
  refine ⟨wellPlaced_append.2 ⟨hplaced, ?_⟩, ?_⟩
  · rw [hopen]
    exact hmore.1
  · rw [List.foldl_append, hopen]
    exact hmore.2

theorem Continues.of_forall {isOpen : Bool} {news : List Call}
    (h : ∀ c ∈ news, standsRight isOpen c ∧ passAfter isOpen c = isOpen) :
    Continues isOpen news isOpen := by
  induction news with
  | nil => exact .nil isOpen
  | cons c news ih =>
    obtain ⟨hright, hafter⟩ := h c List.mem_cons_self
    obtain ⟨hplaced, hopen⟩ := ih fun c' hc' => h c' (List.mem_cons_of_mem _ hc')
    refine ⟨⟨hright, ?_⟩, ?_⟩
    · rw [hafter]
      exact hplaced
    · rw [List.foldl_cons, hafter, hopen]

theorem Continues.recorded {isOpen : Bool} {commands : List Command} (b : Handle .commandBuffer)
    (hpass : ∀ c ∈ commands, c.sort ≠ .passStart ∧ c.sort ≠ .passEnd)
    (hdraw : ∀ c ∈ commands, c.sort = .draw → isOpen = true)
    (htransfer : ∀ c ∈ commands, c.sort = .transfer → isOpen = false) :
    Continues isOpen (recordedCalls b commands) isOpen := by
  apply Continues.of_forall
  intro call hcall
  obtain ⟨c, hc, c', rfl, hsort⟩ := sort_of_mem_recordedCalls hcall
  obtain ⟨hstart, hend⟩ := hpass c hc
  have hsort? : (Call.request (.record b c')).sort? = some c.sort := by
    rw [Call.sort?, hsort]
  refine ⟨⟨fun h => ?_, fun h => ?_⟩, ?_⟩
  · rw [hsort?] at h
    exact hdraw c hc (Option.some.inj h)
  · rw [hsort?] at h
    exact htransfer c hc (Option.some.inj h)
  · simp only [passAfter, hsort?]
    split
    · rename_i h
      exact absurd (Option.some.inj h) hstart
    · rename_i h
      exact absurd (Option.some.inj h) hend
    · rfl

end GpuRecorder.Native

/-! ## 2. One operation -/

namespace GpuRecorder.Recording.CommandBuffer

open Draw Native Resource Device

theorem inPass_of_draw {c : CommandBuffer} (hkind : c.kind = .primary) {d : Device Trace}
    {s : Store} {id : ResourceId} {r : CommandBuffer × Script}
    (h : c.scripted? d s (.draw id) = some r) (hcalls : r.2.calls ≠ []) : c.inPass = true := by
  obtain rfl := Option.some.inj h
  by_contra hclosed
  apply hcalls
  have hmissing : c.passIsMissing = true := by
    simpa [passIsMissing, hkind] using hclosed
  cases hn : c.native with
  | none => rw [draw, withNative_of_not_ready hn]; rfl
  | some n => rw [draw, withNative_of_ready hn, if_pos hmissing]; rfl

theorem not_inPass_of_update {c : CommandBuffer} (hkind : c.kind = .primary) {d : Device Trace}
    {s : Store} {buffer : ResourceId} {offset : Nat} {data : List UInt8}
    {r : CommandBuffer × Script} (h : c.scripted? d s (.updateBuffer buffer offset data) = some r)
    (hcalls : r.2.calls ≠ []) : c.inPass = false := by
  obtain rfl := Option.some.inj h
  by_contra hopen
  apply hcalls
  have hpass : c.passIsOpen = true := by
    simpa [passIsOpen, hkind] using hopen
  unfold updateBuffer
  split
  · rfl
  · rw [if_pos hpass]
    rfl

theorem not_inPass_of_copy {c : CommandBuffer} (hkind : c.kind = .primary) {d : Device Trace}
    {s : Store} {sources : List ResourceId} {texture : ResourceId} {regions : List CopyRegion}
    {r : CommandBuffer × Script}
    (h : c.scripted? d s (.copyToTexture sources texture regions) = some r)
    (hcalls : r.2.calls ≠ []) : c.inPass = false := by
  obtain rfl := Option.some.inj h
  by_contra hopen
  apply hcalls
  have hpass : c.passIsOpen = true := by
    simpa [passIsOpen, hkind] using hopen
  unfold copyToTexture
  split
  · rfl
  · rw [if_pos hpass]
    rfl

/-- What is sent goes on from the pass that the command buffer knows of, and the command buffer
knows of the pass afterwards. -/
def FollowsPass (c : CommandBuffer) (r : CommandBuffer × Script) : Prop :=
  ∀ b, c.handle? = some b → Continues c.inPass (callsInto b r.2.calls) r.1.inPass

theorem followsPass_withNative {c : CommandBuffer} {command : String}
    {f : Handle .commandBuffer → CommandBuffer × Script}
    (h : ∀ b, Continues c.inPass (callsInto b (f b).2.calls) (f b).1.inPass) :
    c.FollowsPass (c.withNative command f) := by
  intro b hb
  obtain ⟨n, hn, rfl⟩ := Option.map_eq_some_iff.1 hb
  rw [withNative_of_ready hn]
  exact h n.handle

theorem followsPass_beginPass (c : CommandBuffer) (s : Store) (p : PassOpening) :
    c.FollowsPass (c.beginPass s p) := by
  apply followsPass_withNative
  intro b
  split
  · exact .nil _
  · rw [Script.calls_append, Script.calls_of_requests_nil p.requests_shortage, List.nil_append,
      Script.calls_record, callsInto_recordedCalls, List.cons_append, ← List.singleton_append,
      recordedCalls_append]
    -- The pass is opened first; viewport and scissor keep it open.
    have hopens (args : RenderPassBegin) :
        Continues c.inPass (recordedCalls b [.beginRenderPass args]) true :=
      Continues.single (by simp [Call.sort?, Command.sort]) (by simp [Call.sort?, Command.sort])
    have hsettings : ∀ x ∈ (Setting.viewport (.ofRect p.area)).commands ++
        (Setting.scissor p.area).commands, x.sort = .setting := by
      intro x hx
      rcases List.mem_append.1 hx with hx | hx
      · exact sort_setting _ x hx
      · exact sort_setting _ x hx
    refine (hopens _).append (.recorded b ?_ ?_ ?_) <;>
    · intro x hx
      rw [hsettings x hx]
      simp

theorem followsPass_endPass (c : CommandBuffer) : c.FollowsPass c.endPass := by
  apply followsPass_withNative
  intro b
  rw [Script.calls_record, callsInto_recordedCalls]
  exact Continues.single (by simp [Call.sort?, Command.sort]) (by simp [Call.sort?, Command.sort])

theorem followsPass_scripted {c : CommandBuffer} (hkind : c.kind = .primary) {d : Device Trace}
    {s : Store} {op : Operation} {r : CommandBuffer × Script} (h : c.scripted? d s op = some r) :
    c.FollowsPass r := by
  -- Opening and closing apart, the pass stays as it is and the guards decide what is sent.
  have hstays (hpass : .passStart ∉ op.sorts ∧ .passEnd ∉ op.sorts)
      (hsame : r.1.bindings.framebuffer = c.bindings.framebuffer)
      (hdraw : .draw ∈ op.sorts → r.2.calls ≠ [] → c.inPass = true)
      (htransfer : .transfer ∈ op.sorts → r.2.calls ≠ [] → c.inPass = false) :
      c.FollowsPass r := by
    intro b hb
    rw [show r.1.inPass = c.inPass by rw [inPass, hsame, inPass]]
    rcases sends_scripted h with hnone | ⟨b', commands, hb', hcalls, hsorts⟩
    · rw [hnone]
      exact .nil _
    · rw [hb] at hb'
      cases hb'
      by_cases hempty : r.2.calls = []
      · rw [hempty]
        exact .nil _
      · rw [hcalls, callsInto_recordedCalls]
        refine .recorded b (fun x hx => ⟨?_, ?_⟩) (fun x hx hsort => ?_) (fun x hx hsort => ?_)
        · intro hsort
          exact hpass.1 (hsort ▸ hsorts x hx)
        · intro hsort
          exact hpass.2 (hsort ▸ hsorts x hx)
        · exact hdraw (hsort ▸ hsorts x hx) hempty
        · exact htransfer (hsort ▸ hsorts x hx) hempty
  have hleaves := leaves_scripted h
  cases op with
  | setUp kind queue => cases h
  | release => cases h
  | begin pass subpass framebuffer => cases h
  | finish => cases h
  | bindLayout id => cases h
  | beginPass p =>
    obtain rfl := Option.some.inj h
    exact followsPass_beginPass c s p
  | endPass =>
    obtain rfl := Option.some.inj h
    exact followsPass_endPass c
  | draw id =>
    exact hstays (by simp [Operation.sorts]) (hleaves.framebuffer (by simp) (by simp))
      (fun _ => inPass_of_draw hkind h) (by simp [Operation.sorts])
  | updateBuffer buffer offset data =>
    exact hstays (by simp [Operation.sorts]) (hleaves.framebuffer (by simp) (by simp))
      (by simp [Operation.sorts]) (fun _ => not_inPass_of_update hkind h)
  | copyToTexture sources texture regions =>
    exact hstays (by simp [Operation.sorts]) (hleaves.framebuffer (by simp) (by simp))
      (by simp [Operation.sorts]) (fun _ => not_inPass_of_copy hkind h)
  | _ =>
    exact hstays (by simp [Operation.sorts]) (hleaves.framebuffer (by simp) (by simp))
      (by simp [Operation.sorts]) (by simp [Operation.sorts])

/-- Every operation of a primary buffer follows its pass. -/
theorem continues_perform {c : CommandBuffer} (hkind : c.kind = .primary) (d : Device Trace)
    (s : Store) {op : Operation} (hmoves : op.moves = false) :
    Continues c.inPass (c.recorded d s op) (c.perform d s op).buffer.inPass := by
  cases hn : c.native with
  | none =>
    rw [buffer_perform_of_not_ready hn d s hmoves, recorded, handle?, hn]
    exact .nil _
  | some n =>
    have hb := handle?_of_native hn
    cases hscript : c.scripted? d s op with
    | some r =>
      rw [recorded_scripted hscript, (perform_scripted hscript).1, hb]
      exact followsPass_scripted hkind hscript n.handle hb
    | none =>
      cases op with
      | setUp kind queue => cases hmoves
      | release => cases hmoves
      | begin pass subpass framebuffer =>
        rw [(recorded_begin hkind hb d s pass subpass framebuffer).1,
          (recorded_begin hkind hb d s pass subpass framebuffer).2]
        exact Continues.single (by simp [Call.sort?]) (by simp [Call.sort?])
      | finish =>
        rw [(recorded_finish hb d s).1, (recorded_finish hb d s).2]
        exact Continues.single (by simp [Call.sort?]) (by simp [Call.sort?])
      | bindLayout id =>
        show Continues c.inPass _ (c.bindLayout d s id).buffer.inPass
        have hbinds := c.bindsLayout d s id
        generalize c.bindLayout d s id = result, c.recorded d s (.bindLayout id) = news
          at hbinds ⊢
        cases hbinds with
        | left why => exact .nil _
        | @resolved b p r commands ready pipeline fresh fits done delivers speaks =>
          show Continues c.inPass _ (c.withLayout id r.outcome.answer).inPass
          rw [inPass_withLayout]
          apply Continues.recorded <;>
          · intro x hx
            rw [sort_delivers delivers x hx]
            simp
      | _ => cases hscript

end GpuRecorder.Recording.CommandBuffer

/-! ## 3. A run -/

namespace GpuRecorder

open Native Resource Recording Device

/-- For a primary command buffer, at any point of any run: it has a pass open exactly when its
stream does, draws stand where a pass is open and transfers where none is. -/
theorem primary_stream_follows_pass (available : Capabilities) (settings : Settings) (n : Nat)
    (events : List Event) (c : CommandBuffer)
    (hc : ((Watch.start available settings).through n events).session.buffers[n]? = some c)
    (hkind : c.kind = .primary) :
    let stream := ((Watch.start available settings).through n events).stream
    c.inPass = passOpen stream ∧
      ∀ before call rest, stream = before ++ call :: rest →
        (call.sort? = some .draw → passOpen before = true) ∧
          (call.sort? = some .transfer → passOpen before = false) := by
  have hfollows : c.kind = .primary →
      Continues false ((Watch.start available settings).through n events).stream c.inPass := by
    -- By the last event: what it adds goes on from where the stream stood.
    apply Watch.run_induction (P := fun _ c stream => c.kind = .primary →
      Continues false stream c.inPass) _ _ _ events c hc
    · exact fun _ _ => .nil _
    · intro events e c op stream s _ _ _ hidle hfollows hkind
      cases hmoves : op.moves with
      | true =>
        rw [CommandBuffer.inPass, CommandBuffer.bindings_of_moves hidle _ _ hmoves]
        exact .nil _
      | false =>
        rw [(CommandBuffer.frame_perform c s.device s.store hmoves).2.1] at hkind
        exact (hfollows hkind).append
          (CommandBuffer.continues_perform hkind s.device s.store hmoves)
    · exact fun _ _ _ _ _ _ h => h
  obtain ⟨hplaced, hopen⟩ := hfollows hkind
  refine ⟨hopen.symm, fun before call rest hsplit => ?_⟩
  rw [hsplit] at hplaced
  exact standsRight_of_wellPlaced hplaced

/-- A recording that draws inside a pass and writes data after it. -/
def drawThenUpdate : List Event := [
  .act (.change (.addBuffer (.ofRange ⟨900⟩ 0 0 16 4))),
  .act (.change (.addAssembler { streams := [⟨1⟩] })),
  .act .create,
  .act (.perform 0 (.setUp .primary ⟨⟨800⟩, 0⟩)),
  .act (.perform 0 (.begin none 0 none)),
  .act (.perform 0 (.beginPass
    ⟨⟨⟨3⟩, ⟨901⟩, 0⟩, ⟨⟨4⟩, .offscreen ⟨902⟩⟩, { width := 8, height := 8 }, [], .one, 0⟩)),
  .act (.perform 0 (.draw ⟨2⟩)),
  .act (.perform 0 .endPass),
  .act (.perform 0 (.updateBuffer ⟨1⟩ 0 [1, 2, 3, 4])),
  .act (.perform 0 .finish)]

theorem drawThenUpdate_follows_pass :
    ((Watch.start {} {}).through 0 drawThenUpdate).stream.map (·.sort?) =
        [none, some .passStart, some .setting, some .setting, some .draw, some .passEnd,
          some .transfer, none] ∧
      ∃ c, ((Watch.start {} {}).through 0 drawThenUpdate).session.buffers[0]? = some c ∧
        c.kind = .primary ∧
        c.inPass = passOpen ((Watch.start {} {}).through 0 drawThenUpdate).stream :=
  ⟨by decide +kernel, _, rfl, rfl,
    (primary_stream_follows_pass {} {} 0 drawThenUpdate _ rfl rfl).1⟩

end GpuRecorder
