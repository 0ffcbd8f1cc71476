import GpuRecorder.Proofs.Recording.Supply
import GpuRecorder.Proofs.Session.BoundLayout

/-!
# What a bound layout was supplied with

When a layout is delivered its sets are supplied with the data of the moment.  Until another layout
is bound or the recording ends they keep these contents, whatever is done to the resources, and
binding the layout again supplies nothing.  So the contents are the present ones exactly if what is
due to the sets has not changed since.
-/

namespace GpuRecorder.Recording

open Native Resource Device

/-! ## 1. One operation -/

theorem lastSupply_append_of_undelivering (set : Nat) {calls more : List Call}
    (h : ∀ c ∈ more, c.Undelivering) : lastSupply set (calls ++ more) = lastSupply set calls := by
  rw [lastSupply_append]
  generalize lastSupply set calls = last
  induction more with
  | nil => rfl
  | cons c more ih =>
    obtain ⟨hbegin, hdelivers⟩ := h c List.mem_cons_self
    have hnone : suppliedBy? set c = none := by
      unfold suppliedBy?
      split
      · cases hdelivers
      · cases hdelivers
      · rfl
    rw [List.foldl_cons, supplyAfter_of_ne_begin hbegin, hnone, Option.none_or]
    exact ih fun c' hc' => h c' (List.mem_cons_of_mem _ hc')

/-- While a layout stays bound nothing is delivered. -/
theorem CommandBuffer.undelivering_of_stays {c : CommandBuffer} {d : Device Trace} {s : Store}
    {op : Operation} (hidle : c.native = none → c.bindings = {}) {id : ResourceId}
    (hbound : c.bindings.layout = some id)
    (hstays : (c.perform d s op).buffer.bindings.layout = some id) :
    op.moves = false ∧ ∀ call ∈ c.recorded d s op, call.Undelivering := by
  have hnew (h : (c.perform d s op).buffer.bindings = {}) : False := by
    rw [h] at hstays
    cases hstays
  cases hmoves : op.moves with
  | true => exact (hnew (bindings_of_moves hidle d s hmoves)).elim
  | false =>
    refine ⟨rfl, ?_⟩
    have hready : c.isReady := by
      cases hn : c.native with
      | none =>
        rw [hidle hn] at hbound
        cases hbound
      | some native => rw [isReady, hn]; rfl
    cases op with
    | begin pass subpass framebuffer =>
      have hbegin := bindings_begin hready d s pass subpass framebuffer
      exact (hnew (congrArg bindings hbegin)).elim
    | bindLayout other =>
      have hbinds := c.bindsLayout d s other
      replace hstays : (c.bindLayout d s other).buffer.bindings.layout = some id := hstays
      generalize c.bindLayout d s other = result, c.recorded d s (.bindLayout other) = news
        at hbinds hstays ⊢
      cases hbinds with
      | left why => exact fun call hcall => absurd hcall List.not_mem_nil
      | @resolved b p r commands ready pipeline fresh fits done delivers speaks =>
        cases hanswer : r.outcome.answer with
        | ok _ =>
          -- Another layout would be bound now.
          rw [hanswer] at hstays
          cases hstays
          exact absurd hbound fresh
        | error e =>
          rw [hanswer] at delivers
          cases delivers
          exact fun call hcall => absurd hcall List.not_mem_nil
    | _ => exact (keepsDelivery d s hmoves (by simp) (by simp)).calls

end GpuRecorder.Recording

namespace GpuRecorder

open Native Resource Recording Device

namespace Session

/-! ## 2. The history of a run -/

/-- All that a run writes down, also what is cleared later. -/
def chronicle (s : Session Trace) : List Event → List Call
  | [] => []
  | e :: events =>
    s.device.driver.callsSince (s.after e).device.driver ++ (s.after e).chronicle events

theorem chronicle_concat (s : Session Trace) (events : List Event) (e : Event) :
    s.chronicle (events ++ [e]) = s.chronicle events ++
      (s.through events).device.driver.callsSince ((s.through events).after e).device.driver := by
  induction events generalizing s with
  | nil => exact List.append_nil _
  | cons e' events ih =>
    rw [List.cons_append, chronicle, ih, chronicle, List.append_assoc]
    rfl

theorem writesNew_after {s : Session Trace} (hsound : ∀ id, (s.store.layouts.get id).Sound)
    (e : Event) : WritesNew s.device.driver (s.after e).device.driver := by
  apply after_cases (P := fun s' => WritesNew s.device.driver s'.device.driver)
  case stays | create => exact .refl _
  case perform => exact fun n c op found => c.writesNew_perform s.device hsound op
  case change => exact fun _ _ => .refl _
  case submit => exact fun _ _ _ => .note rfl
  case resetSets => exact .of_pools (poolCalls_appends.reset _ _)
  case allocateSets => exact fun layouts => .of_pools (poolCalls_appends.allocate _ _ layouts)
  case switch =>
    intro x
    apply WritesNew.of_silent (quiet_switch s x).next_le
    cases x with
    | clearLog => exact List.drop_nil
    | _ => exact Trace.callsSince_of_log_eq rfl

/-- The native sets that were ever written into are numbered below the next number. -/
theorem chronicle_below (available : Capabilities) (settings : Settings) (events : List Event) :
    ∀ c ∈ (start available settings).chronicle events, ∀ h ∈ updatedSets c,
      h.number < ((start available settings).through events).device.driver.next := by
  induction events using List.reverseRecOn with
  | nil => exact fun c hc => absurd hc List.not_mem_nil
  | append_singleton events e ih =>
    have hnew := writesNew_after (sound_layouts available settings events) e
    rw [chronicle_concat, through_concat]
    intro c hc h hh
    rcases List.mem_append.1 hc with hc | hc
    · exact Nat.lt_of_lt_of_le (ih c hc h hh) hnew.next_le
    · exact (hnew.writes c hc h hh).2

/-! ## 3. One event -/

theorem lastSupply_after {w : Watch} (hsound : w.session.Sound) {n : Nat} {e : Event}
    {c c' : CommandBuffer} (hc : w.session.buffers[n]? = some c)
    (hidle : c.native = none → c.bindings = {}) {id : ResourceId}
    (hbound : c.bindings.layout = some id) (hc' : (w.session.after e).buffers[n]? = some c')
    (hstays : c'.bindings.layout = some id) (set : Nat) :
    lastSupply set (w.after n e).stream = lastSupply set w.stream := by
  cases Watch.sees hsound n e (fun hnone => by rw [hc] at hnone; cases hnone) with
  | @own c₁ op found named done stream =>
    cases hc.symm.trans found
    have hperformed : c' = (c.perform w.session.device w.session.store op).buffer := by
      rw [found_of_operation found done] at hc'
      exact (Option.some.inj hc').symm
    rw [hperformed] at hstays
    obtain ⟨hmoves, hcalls⟩ := CommandBuffer.undelivering_of_stays hidle hbound hstays
    rw [stream, hmoves, if_neg (by simp)]
    exact lastSupply_append_of_undelivering set hcalls
  | apart found idle kept stream => rw [stream]
  | missing found new stream =>
    rw [hc] at found
    cases found

/-- When a layout becomes the bound one, each shared set gets what is due to it, unless it lacks
its template. -/
theorem contents_of_binding {available : Capabilities} {settings : Settings} {n : Nat}
    {id : ResourceId} {events : List Event} {c c' : CommandBuffer} {q : Pipeline}
    (hc : ((start available settings).through events).buffers[n]? = some c)
    (hpipeline : c.bindings.pipeline = some q) (hfresh : c.bindings.layout ≠ some id)
    (hc' : (((start available settings).through events).after (.bindLayout n id)).buffers[n]? =
      some c')
    (hbound : c'.bindings.layout = some id) {set : Nat}
    (hset : set < sharedSets (((start available settings).through events).store.layouts.get id)
      q.shader) :
    let s := (start available settings).through events
    let bound := events ++ [.bindLayout n id]
    let supply := lastSupply set ((Watch.start available settings).through n bound).stream
    if LacksTemplate s.device q set then
      supply = lastSupply set ((Watch.start available settings).through n events).stream
    else HasContents q set ((start available settings).chronicle bound)
      ((start available settings).through bound).device.driver.next supply
      (due s.store (s.store.layouts.get id) set) := by
  intro s bound
  have hafter := after_bindLayout (made_of_bound hc hfresh hc' hbound) n
  cases hc'.symm.trans (found_of_operation hc hafter)
  have hdriver : (s.after (.bindLayout n id)).device.driver =
      (c.perform s.device s.store (.bindLayout id)).outcome.device.driver := by
    show (((start available settings).through events).after (.bindLayout n id)).device.driver = _
    rw [hafter, perform, hc]
  have hstream : ((Watch.start available settings).through n bound).stream =
      ((Watch.start available settings).through n events).stream ++
        c.recorded s.device s.store (.bindLayout id) := by
    have hsession : ((Watch.start available settings).through n events).session =
        (start available settings).through events :=
      Watch.session_through n _ events
    rw [Watch.through_concat, ← news_of_operation hc hafter, ← hsession]
    simp [Watch.after, moves, operation?, Event.bindLayout, Operation.moves]
  have hcontents := CommandBuffer.contents_bindLayout hpipeline hfresh hbound
    (sound_layouts available settings events id) (chronicle_below available settings events) hset
    (lastSupply set ((Watch.start available settings).through n events).stream)
  rw [chronicle_concat, through_concat, hstream, lastSupply_append, hdriver]
  exact hcontents

/-- No set lacks its template when a layout becomes the bound one without any error. -/
theorem not_lacksTemplate_of_bindsQuietly {s : Session Trace} {n : Nat} {id : ResourceId}
    {c c' : CommandBuffer} {q : Pipeline} (hc : s.buffers[n]? = some c)
    (hpipeline : c.bindings.pipeline = some q) (hfresh : c.bindings.layout ≠ some id)
    (hc' : (s.after (.bindLayout n id)).buffers[n]? = some c')
    (hbound : c'.bindings.layout = some id) (hquiet : s.BindsQuietly n id) {set : Nat}
    (hset : set < sharedSets (s.store.layouts.get id) q.shader) :
    ¬ LacksTemplate s.device q set := by
  have hafter := after_bindLayout (made_of_bound hc hfresh hc' hbound) n
  cases hc'.symm.trans (found_of_operation hc hafter)
  have hmessages : (s.perform n (.bindLayout id)).messages =
      (c.bindLayout s.device s.store id).outcome.messages := by
    rw [perform, hc]
    rfl
  exact CommandBuffer.not_lacksTemplate_of_quiet hpipeline hfresh hbound (hmessages ▸ hquiet) hset

/-! ## 4. A run -/

/-- As long as the layout stays bound, its sets keep the contents they were bound with, and those
that lack their template keep what they had before. -/
theorem contents_while_bound {available : Capabilities} {settings : Settings} {n : Nat}
    {id : ResourceId} {q : Pipeline} {before between : List Event} {stream : List Call}
    (hbound : (start available settings).BoundFor n id q before between stream) {set : Nat}
    (hset : set < sharedSets (((start available settings).through before).store.layouts.get id)
      q.shader) :
    let s := (start available settings).through before
    let events := before ++ .bindLayout n id :: between
    let supply := lastSupply set ((Watch.start available settings).through n events).stream
    if LacksTemplate s.device q set then
      supply = lastSupply set ((Watch.start available settings).through n before).stream
    else HasContents q set ((start available settings).chronicle events)
      ((start available settings).through events).device.driver.next supply
      (due s.store (s.store.layouts.get id) set) := by
  obtain ⟨c, hc, hpipeline, hfresh⟩ := hbound.bound
  have hstays := hbound.stays
  clear hbound
  intro s events
  induction between using List.reverseRecOn with
  | nil =>
    obtain ⟨c', hc', hlayout⟩ := hstays [] List.prefix_rfl
    rw [through_concat] at hc'
    exact contents_of_binding hc hpipeline hfresh hc' hlayout hset
  | append_singleton between e ih =>
    have hevents : events = (before ++ .bindLayout n id :: between) ++ [e] := by simp [events]
    have hearlier := ih fun mid hmid => hstays mid (hmid.trans (List.prefix_append _ _))
    obtain ⟨c₁, hc₁, hlayout₁⟩ := hstays between (List.prefix_append _ _)
    obtain ⟨c₂, hc₂, hlayout₂⟩ := hstays (between ++ [e]) List.prefix_rfl
    rw [show before ++ .bindLayout n id :: (between ++ [e]) = _ from hevents, through_concat] at hc₂
    have hidle := idle_of_run hc₁
    have hwrites := writesNew_after
      (sound_layouts available settings (before ++ .bindLayout n id :: between)) e
    have hsound := sound_through available settings (before ++ .bindLayout n id :: between)
    have hsession := Watch.session_through n (Watch.start available settings)
      (before ++ .bindLayout n id :: between)
    change _ = (start available settings).through _ at hsession
    rw [← hsession] at hc₁ hc₂ hsound
    rw [hevents, chronicle_concat, through_concat, Watch.through_concat,
      lastSupply_after hsound hc₁ hidle hlayout₁ hc₂ hlayout₂ set]
    split at hearlier
    · rename_i hlacks
      rw [if_pos hlacks]
      exact hearlier
    · rename_i hhas
      rw [if_neg hhas]
      exact hearlier.extend (fun call hcall h hh => (hwrites.writes call hcall h hh).1)
        hwrites.next_le

/-- What a stream last supplied the set of a number with has these contents. -/
def SuppliedWith (q : Pipeline) (set : Nat) (history stream : List Call) (xs : List Delivery) :
    Prop :=
  ∃ x, lastSupply set stream = some x ∧ contents q set history x = xs

/-- The contents that the set of a number has now are those it had when the layout was bound. -/
theorem suppliedWith_iff {available : Capabilities} {settings : Settings} {n : Nat}
    {id : ResourceId} {q : Pipeline} {events before between : List Event} {stream : List Call}
    (hevents : events = before ++ .bindLayout n id :: between)
    (hbound : (start available settings).BoundFor n id q before between stream) {set : Nat}
    (hset : set < sharedSets (((start available settings).through before).store.layouts.get id)
      q.shader) (xs : List Delivery) :
    let s := (start available settings).through before
    let w := Watch.start available settings
    let history := (start available settings).chronicle events
    SuppliedWith q set history (w.through n events).stream xs ↔
      if LacksTemplate s.device q set then
        SuppliedWith q set history (w.through n before).stream xs
      else xs = due s.store (s.store.layouts.get id) set := by
  subst hevents
  intro s w history
  have hcontents := contents_while_bound hbound hset
  split
  · rename_i hlacks
    rw [if_pos hlacks] at hcontents
    rw [SuppliedWith, hcontents, SuppliedWith]
  · rename_i hhas
    rw [if_neg hhas] at hcontents
    obtain ⟨x, hsupply, -, hdue⟩ := hcontents
    constructor
    · rintro ⟨x', hsupply', rfl⟩
      cases hsupply.symm.trans hsupply'
      exact hdue
    · rintro rfl
      exact ⟨x, hsupply, hdue⟩

/-- What the shared sets were last supplied with is what was due to them when the layout was
bound. -/
structure SuppliedFor (s : Session Trace) (n : Nat) (id : ResourceId) (q : Pipeline)
    (before between : List Event) (stream : List Call) : Prop
    extends s.BoundFor n id q before between stream where
  supplied : (s.through before).BindsQuietly n id →
    let l := (s.through before).store.layouts.get id
    ∀ set < sharedSets l q.shader,
      SuppliedWith q set (s.chronicle (before ++ .bindLayout n id :: between)) stream
        (due (s.through before).store l set)

/-- A layout that was not bound before the last event was bound by it. -/
theorem BoundFor.eq_of_fresh {s : Session Trace} {n : Nat} {id : ResourceId} {q : Pipeline}
    {before between events : List Event} {stream : List Call}
    (h : s.BoundFor n id q before between stream)
    (hevents : events ++ [.bindLayout n id] = before ++ .bindLayout n id :: between)
    {c : CommandBuffer} (hc : (s.through events).buffers[n]? = some c)
    (hfresh : c.bindings.layout ≠ some id) : before = events ∧ between = [] := by
  rcases List.eq_nil_or_concat between with rfl | ⟨mid, e, rfl⟩
  · exact ⟨(List.append_inj_left' hevents rfl).symm, rfl⟩
  · -- It would have been bound already.
    have hsplit : before ++ .bindLayout n id :: mid.concat e =
        (before ++ .bindLayout n id :: mid) ++ [e] := by simp
    obtain ⟨c₁, hc₁, hlayout⟩ := h.stays mid (by simp)
    rw [hsplit] at hevents
    rw [← List.append_inj_left' hevents rfl, hc] at hc₁
    cases hc₁
    exact absurd hlayout hfresh

/-- No set of the binding that delivered a layout lacks its template if there was no error. -/
theorem BoundFor.not_lacksTemplate {s : Session Trace} {n : Nat} {id : ResourceId} {q : Pipeline}
    {before between : List Event} {stream : List Call}
    (h : s.BoundFor n id q before between stream) (hquiet : (s.through before).BindsQuietly n id)
    {set : Nat} (hset : set < sharedSets ((s.through before).store.layouts.get id) q.shader) :
    ¬ LacksTemplate (s.through before).device q set := by
  obtain ⟨c, hc, hpipeline, hfresh⟩ := h.bound
  obtain ⟨c', hc', hlayout⟩ := h.stays [] List.nil_prefix
  rw [through_concat] at hc'
  exact not_lacksTemplate_of_bindsQuietly hc hpipeline hfresh hc' hlayout hquiet hset

/-- The layout has kept its shape since it was delivered. -/
theorem BoundFor.shape {s : Session Trace} {n : Nat} {id : ResourceId} {q : Pipeline}
    {before between events : List Event} {stream : List Call}
    (h : s.BoundFor n id q before between stream) (hbefore : before <+: events) :
    ((s.through events).store.layouts.get id).shape =
      ((s.through before).store.layouts.get id).shape := by
  obtain ⟨c, hc, -, hfresh⟩ := h.bound
  obtain ⟨c', hc', hlayout⟩ := h.stays [] List.nil_prefix
  rw [through_concat] at hc'
  obtain ⟨rest, rfl⟩ := hbefore
  rw [through_append]
  exact (keeps_through _ rest).shape id (made_of_bound hc hfresh hc' hlayout)

/-- After a layout is bound without any error: it was delivered at this or an earlier binding and
has stayed bound, and what the open recording last supplied each shared set with is what was due to
it at that binding.  It is what is due now if the layout was not bound before, and else exactly if
what is due has not changed since: no resource was moved or replaced.  A set that was not supplied
then, for want of a template, has what it had before. -/
theorem bound_layout_supplied_iff (available : Capabilities) (settings : Settings) (n : Nat)
    (id : ResourceId) (events : List Event) (c : CommandBuffer)
    (hmade : id.number < ((start available settings).through events).store.next)
    (hc : ((start available settings).through events).buffers[n]? = some c)
    (hdone :
      (((start available settings).through events).perform n (.bindLayout id)).answer = .done)
    (hquiet : ((start available settings).through events).BindsQuietly n id) :
    let w := Watch.start available settings
    let bound := events ++ [.bindLayout n id]
    let history := (start available settings).chronicle bound
    let now := ((start available settings).through events).store
    let stream := (w.through n bound).stream
    ∃ before between q, bound = before ++ .bindLayout n id :: between ∧
      (start available settings).SuppliedFor n id q before between stream ∧
      (c.bindings.layout ≠ some id → before = events ∧ between = []) ∧
      let earlier := (start available settings).through before
      ∀ set < sharedSets (now.layouts.get id) q.shader,
        let present := due now (now.layouts.get id) set
        (c.bindings.layout ≠ some id → SuppliedWith q set history stream present) ∧
          (SuppliedWith q set history stream present ↔
            if LacksTemplate earlier.device q set then
              SuppliedWith q set history (w.through n before).stream present
            else present = due earlier.store (earlier.store.layouts.get id) set) := by
  intro w bound history now stream
  obtain ⟨c', hc', hid⟩ := layout_of_bindsQuietly hmade hc hdone hquiet
  have hwatched : (w.through n bound).session.buffers[n]? = some c' := by
    rw [Watch.session_through, ← hc', ← through_concat]
    rfl
  obtain ⟨before, between, q, hevents, hbound⟩ :=
    served_of_run available settings n bound c' hwatched id hid
  have hnow := hbound.eq_of_fresh hevents hc
  refine ⟨before, between, q, hevents, ⟨hbound, fun hquiet' set hset => ?_⟩, hnow, ?_⟩
  · rw [← hevents]
    apply (suppliedWith_iff hevents hbound hset _).2
    rw [if_neg (hbound.not_lacksTemplate hquiet' hset)]
  · intro earlier set hset present
    rw [sharedSets_of_shape_eq (hbound.shape (prefix_of_concat_eq hevents))] at hset
    refine ⟨fun hfresh => ?_, suppliedWith_iff hevents hbound hset present⟩
    obtain ⟨rfl, -⟩ := hnow hfresh
    apply (suppliedWith_iff hevents hbound hset present).2
    rw [if_neg (hbound.not_lacksTemplate hquiet hset)]

/-- A layout is bound, and its buffer is moved after that. -/
def movedBuffer : List Event := [
  .act (.change (.addLayout (uniformPipeline 1 501).shader)),
  .act (.change (.addBuffer (.ofRange ⟨700⟩ 16 0 64 0))),
  .act (.change (.bind ⟨1⟩ (.buffer ⟨2⟩) 0 0 0)),
  .act .create,
  .act (.perform 0 (.setUp .primary ⟨⟨800⟩, 0⟩)),
  .act (.perform 0 (.begin none 0 none)),
  .act (.perform 0 (.bindPipeline (uniformPipeline 3 501))),
  .bindLayout 0 ⟨1⟩,
  .act (.change (.rebuildBuffer ⟨2⟩ ⟨701⟩ 32 16))]

/-- In another recording the layout is supplied with what the moved buffer is now. -/
theorem movedBuffer_supplied_anew :
    let events := movedBuffer ++ [
      .act (.perform 0 (.begin none 0 none)),
      .act (.perform 0 (.bindPipeline (uniformPipeline 3 501)))]
    let s := (start {} {}).through events
    let bound := events ++ [.bindLayout 0 ⟨1⟩]
    (s.perform 0 (.bindLayout ⟨1⟩)).answer = .done ∧ s.BindsQuietly 0 ⟨1⟩ ∧
      SuppliedWith (uniformPipeline 3 501) 0 ((start {} {}).chronicle bound)
        ((Watch.start {} {}).through 0 bound).stream
        (due s.store (s.store.layouts.get ⟨1⟩) 0) := by
  intro events s bound
  have hmessages : (s.perform 0 (.bindLayout ⟨1⟩)).messages = [] := by decide
  have hquiet : s.BindsQuietly 0 ⟨1⟩ := by
    simp [BindsQuietly, hmessages]
  obtain ⟨c, hc, hpipeline, hfresh⟩ : ∃ c, s.buffers[0]? = some c ∧
      c.bindings.pipeline = some (uniformPipeline 3 501) ∧ c.bindings.layout ≠ some ⟨1⟩ :=
    ⟨_, rfl, rfl, by decide⟩
  obtain ⟨before, between, q, _, hsupplied, hnow, hsets⟩ :=
    bound_layout_supplied_iff {} {} 0 ⟨1⟩ events c (by decide) hc rfl hquiet
  obtain ⟨rfl, rfl⟩ := hnow hfresh
  obtain ⟨c', hc', hq, _⟩ := hsupplied.bound
  cases hc.symm.trans hc'
  cases hpipeline.symm.trans hq
  exact ⟨rfl, hquiet, (hsets 0 (by decide)).1 hfresh⟩

/-- In the same recording binding the layout again goes well and supplies nothing, so it has what
the buffer was before it was moved. -/
theorem moved_buffer_not_supplied :
    let s := (start {} {}).through movedBuffer
    let bound := movedBuffer ++ [.bindLayout 0 ⟨1⟩]
    let q := uniformPipeline 3 501
    let slot : Slot := ⟨0, 0, .uniformBuffer⟩
    (s.perform 0 (.bindLayout ⟨1⟩)).answer = .done ∧
      (s.perform 0 (.bindLayout ⟨1⟩)).messages = [] ∧
      ∃ c x, s.buffers[0]? = some c ∧ c.bindings.pipeline = some q ∧
        0 < sharedSets (s.store.layouts.get ⟨1⟩) q.shader ∧
        lastSupply 0 ((Watch.start {} {}).through 0 bound).stream = some x ∧
        contents q 0 ((start {} {}).chronicle bound) x = [⟨0, slot, .buffer ⟨⟨700⟩, 0, 64⟩⟩] ∧
        due s.store (s.store.layouts.get ⟨1⟩) 0 = [⟨0, slot, .buffer ⟨⟨701⟩, 32, 16⟩⟩] :=
  ⟨rfl, rfl, _, .native ⟨4099⟩, rfl, rfl, by decide, by decide, by decide, by decide⟩

end Session

end GpuRecorder
