import GpuRecorder.Proofs.Device.Lending
import GpuRecorder.Proofs.Session.Event
import Mathlib.Data.List.Induction

/-!
# The stream of one command buffer

All native buffers of a session are different: whatever two command buffers hold, and whatever is
parked, was made once.  So what goes into the native buffer that a command buffer holds was
recorded by that command buffer, and `Watch` collects it from the moment it was borrowed.
-/

namespace GpuRecorder

open Native Resource Recording Device

open scoped List

/-! ## 1. No native buffer is held twice -/

namespace Session

def held {σ : Type} (s : Session σ) : List NativeBuffer := s.buffers.filterMap (·.native)

/-- Everything that is held or parked is accounted for. -/
def Sound (s : Session Trace) : Prop :=
  CommandPools.Accounts s.held s.device.commandPools s.device.driver.next

theorem sound_start (available : Capabilities) (settings : Settings) :
    (start available settings).Sound where
  families := List.nodup_nil
  handles := List.nodup_nil
  made := fun _ hn => absurd hn List.not_mem_nil
  kinds := fun _ hn => absurd hn List.not_mem_nil

theorem held_set {buffers : List CommandBuffer} {n : Nat} {c : CommandBuffer}
    (h : buffers[n]? = some c) :
    ∃ others, buffers.filterMap (·.native) ~ c.native.toList ++ others ∧
      ∀ c' : CommandBuffer,
        (buffers.set n c').filterMap (·.native) ~ c'.native.toList ++ others := by
  obtain ⟨hlt, hget⟩ := List.getElem?_eq_some_iff.1 h
  have one (c' : CommandBuffer) : [c'].filterMap (·.native) = c'.native.toList := by
    cases hn : c'.native <;> simp [hn]
  have split (c' : CommandBuffer) :
      (buffers.take n ++ c' :: buffers.drop (n + 1)).filterMap (·.native) ~
        c'.native.toList ++
          ((buffers.take n).filterMap (·.native) ++
            (buffers.drop (n + 1)).filterMap (·.native)) := by
    rw [List.filterMap_append, ← List.singleton_append, List.filterMap_append, one]
    exact List.perm_append_comm_assoc _ _ _
  refine ⟨(buffers.take n).filterMap (·.native) ++ (buffers.drop (n + 1)).filterMap (·.native),
    ?_, fun c' => ?_⟩
  · have hwhole := split buffers[n]
    rwa [List.getElem_cons_drop, List.take_append_drop, hget] at hwhole
  · rw [List.set_eq_take_append_cons_drop, if_pos hlt]
    exact split c'

theorem accounts_perform {c : CommandBuffer} {d : Device Trace} {others : List NativeBuffer}
    (h : CommandPools.Accounts (c.native.toList ++ others) d.commandPools d.driver.next)
    (s : Store) (op : Operation) :
    CommandPools.Accounts ((c.perform d s op).buffer.native.toList ++ others)
      (c.perform d s op).outcome.device.commandPools
      (c.perform d s op).outcome.device.driver.next := by
  -- Only borrowing and giving back concern the accounts.
  by_cases hmoves : op.moves = false
  · rw [(CommandBuffer.frame_perform c d s hmoves).1,
      CommandBuffer.commandPools_perform c d s hmoves]
    exact h.mono (CommandBuffer.growsOnly_perform c d s op).1
  have hreleased : CommandPools.Accounts others (c.release d).outcome.device.commandPools
      (c.release d).outcome.device.driver.next := by
    rw [CommandBuffer.driver_release]
    cases hn : c.native with
    | none =>
      rw [CommandBuffer.release_of_not_ready hn]
      rwa [hn] at h
    | some n =>
      rw [hn] at h
      simp only [CommandBuffer.release, hn, giveBackBuffer]
      exact CommandPools.Accounts.giveBack h
  cases op with
  | setUp kind queue =>
    show CommandPools.Accounts ((c.setUp d kind queue).buffer.native.toList ++ others)
      (c.setUp d kind queue).outcome.device.commandPools
      (c.setUp d kind queue).outcome.device.driver.next
    rw [(CommandBuffer.setUp_spec c d kind queue).1, (CommandBuffer.setUp_spec c d kind queue).2]
    have hlent := hreleased.request kind queue.family
    simp only [requestBuffer]
    generalize (c.release d).outcome.device.commandPools.request
      (c.release d).outcome.device.driver kind.level queue.family = lent at hlent ⊢
    obtain ⟨answer, pools, driver, messages⟩ := lent
    cases answer with
    | error e => exact hlent
    | ok handle => exact hlent
  | release => exact hreleased
  | _ => exact absurd rfl hmoves

theorem sound_perform {s : Session Trace} (h : s.Sound) (n : Nat) (op : Operation) :
    (s.perform n op).session.Sound := by
  unfold perform
  split
  · exact h
  · rename_i c found
    obtain ⟨others, hheld, hset⟩ := held_set found
    exact (accounts_perform (h.of_perm hheld) s.store op).of_perm (hset _).symm

theorem sound_after {s : Session Trace} (h : s.Sound) (e : Event) : (s.after e).Sound := by
  cases s.happens e with
  | @operation n op c named found done =>
    rw [done]
    exact sound_perform h n op
  | quiet idle still =>
    obtain ⟨⟨more, hmore, hnew⟩, hpools, hnext, _⟩ := still
    have hheld : (s.after e).held = s.held := by
      have hnone : more.filterMap (·.native) = [] := by
        rw [List.filterMap_eq_nil_iff]
        intro c hc
        rw [hnew c hc]
      rw [held, hmore, List.filterMap_append, hnone, List.append_nil, held]
    rw [Sound, hheld, hpools]
    exact CommandPools.Accounts.mono h hnext

theorem sound_through (available : Capabilities) (settings : Settings) (events : List Event) :
    ((start available settings).through events).Sound :=
  through_induction (sound_start available settings) (fun _ e h => sound_after h e) events

theorem handle_ne {s : Session Trace} (h : s.Sound) {n m : Nat} (hne : n ≠ m)
    {c c' : CommandBuffer} (hc : s.buffers[n]? = some c) (hc' : s.buffers[m]? = some c')
    {b : Handle .commandBuffer} (hb : c.handle? = some b) : c'.handle? ≠ some b := by
  intro hb'
  obtain ⟨native, hnative, rfl⟩ := Option.map_eq_some_iff.1 hb
  obtain ⟨native', hnative', heq⟩ := Option.map_eq_some_iff.1 hb'
  obtain ⟨others, hheld, hset⟩ := held_set hc
  have hothers : native' ∈ others := by
    -- Without what the one holds, the other still holds its own.
    have hmem : c' ∈ s.buffers.set n {} := by
      apply List.mem_of_getElem? (i := m)
      rw [List.getElem?_set_ne hne, hc']
    exact (hset {}).mem_iff.1 (List.mem_filterMap.2 ⟨c', hmem, hnative'⟩)
  have hnodup := (h.of_perm hheld).handles
  rw [hnative, Option.toList_some, List.singleton_append, List.cons_append, List.map_cons,
    List.nodup_cons] at hnodup
  exact hnodup.1 (List.mem_map.2 ⟨native', List.mem_append_left _ hothers, heq⟩)

end Session

/-! ## 2. What goes into the held buffer -/

/-- A session, and what went into the native buffer of one command buffer since it was borrowed. -/
structure Watch where
  session : Session Trace
  stream : List Call := []

namespace Session

def moves (s : Session Trace) (n : Nat) (e : Event) : Bool :=
  match s.operation? e with
  | some (m, op) => m = n && op.moves
  | none => false

/-- What an event brings into the native buffer that a command buffer holds. -/
def news (s : Session Trace) (n : Nat) (e : Event) : List Call :=
  match s.buffers[n]?.bind (·.handle?) with
  | none => []
  | some b => callsInto b (s.device.driver.callsSince (s.after e).device.driver)

theorem news_of_operation {s : Session Trace} {n : Nat} {e : Event} {c : CommandBuffer}
    {op : Operation} (found : s.buffers[n]? = some c)
    (done : s.after e = (s.perform n op).session) :
    s.news n e = c.recorded s.device s.store op := by
  rw [news, found, Option.bind_some, done, perform, found]
  rfl

theorem found_of_operation {s : Session Trace} {n : Nat} {e : Event} {c : CommandBuffer}
    {op : Operation} (found : s.buffers[n]? = some c)
    (done : s.after e = (s.perform n op).session) :
    (s.after e).buffers[n]? = some (c.perform s.device s.store op).buffer := by
  rw [done, perform, found]
  exact List.getElem?_set_self (List.getElem?_eq_some_iff.1 found).1

end Session

namespace Watch

def start (available : Capabilities) (settings : Settings) : Watch where
  session := Session.start available settings

def after (n : Nat) (w : Watch) (e : Event) : Watch where
  session := w.session.after e
  stream := if w.session.moves n e then [] else w.stream ++ w.session.news n e

def through (n : Nat) (w : Watch) (events : List Event) : Watch := events.foldl (after n) w

@[simp] theorem through_concat (n : Nat) (w : Watch) (events : List Event) (e : Event) :
    w.through n (events ++ [e]) = (w.through n events).after n e := by
  simp [through]

theorem session_through (n : Nat) (w : Watch) (events : List Event) :
    (w.through n events).session = w.session.through events := by
  induction events generalizing w with
  | nil => rfl
  | cons e events ih => exact ih (w.after n e)

/-- What an event means for the watched buffer. -/
inductive Sees (n : Nat) (w : Watch) (e : Event) : Prop
  /-- It performs an operation itself. -/
  | own {c : CommandBuffer} {op : Operation} (found : w.session.buffers[n]? = some c)
      (named : w.session.operation? e = some (n, op))
      (done : w.session.after e = (w.session.perform n op).session)
      (stream : (w.after n e).stream =
        if op.moves then [] else w.stream ++ c.recorded w.session.device w.session.store op)
  /-- It is left alone; if it is named at all, then by a binding that is not possible. -/
  | apart {c : CommandBuffer} (found : w.session.buffers[n]? = some c)
      (idle : ∀ op, w.session.operation? e = some (n, op) → ∃ id, op = .bindLayout id)
      (kept : (w.session.after e).buffers[n]? = some c) (stream : (w.after n e).stream = w.stream)
  /-- It has not been made yet, or has been made just now. -/
  | missing (found : w.session.buffers[n]? = none)
      (new : ∀ c, (w.session.after e).buffers[n]? = some c → c = {})
      (stream : (w.after n e).stream = [])

theorem stream_of_no_news {n : Nat} {w : Watch} {e : Event} (hmoves : w.session.moves n e = false)
    (hnews : ∀ b, w.session.buffers[n]?.bind (·.handle?) = some b →
      callsInto b (w.session.device.driver.callsSince (w.session.after e).device.driver) = []) :
    (w.after n e).stream = w.stream := by
  have hnone : w.session.news n e = [] := by
    unfold Session.news
    split
    · rfl
    · rename_i b hb
      exact hnews b hb
  simp [after, hmoves, hnone]

theorem sees {w : Watch} (sound : w.session.Sound) (n : Nat) (e : Event)
    (empty : w.session.buffers[n]? = none → w.stream = []) : w.Sees n e := by
  cases found : w.session.buffers[n]? with
  | none =>
    have hnews : w.session.news n e = [] := by
      rw [Session.news, found]
      rfl
    refine .missing found ?_ ?_
    · intro c hc
      cases w.session.happens e with
      | @operation m op c' named found' done =>
        -- Another buffer's place is filled, so this one's stays empty.
        have hm : m ≠ n := by
          rintro rfl
          rw [found] at found'
          cases found'
        rw [done, Session.buffers_perform_of_ne _ hm, found] at hc
        cases hc
      | quiet idle still =>
        obtain ⟨⟨more, hmore, hnew⟩, _, _, _⟩ := still
        apply hnew
        rw [hmore, List.getElem?_append_right (List.getElem?_eq_none_iff.1 found)] at hc
        exact List.mem_of_getElem? hc
    · show (if _ then _ else _) = _
      rw [hnews, empty found, List.append_nil, ite_self]
  | some c =>
    cases w.session.happens e with
    | @operation m op c' named found' done =>
      by_cases hm : m = n
      · subst hm
        refine .own found named done ?_
        show (if w.session.moves m e then [] else w.stream ++ w.session.news m e) = _
        have hmoves : w.session.moves m e = op.moves := by
          simp [Session.moves, named]
        rw [hmoves, Session.news_of_operation found done]
      · refine .apart found ?_ ?_ ?_
        · intro op' named'
          cases named.symm.trans named'
          exact absurd rfl hm
        · rw [done, Session.buffers_perform_of_ne _ hm, found]
        · apply stream_of_no_news (by simp [Session.moves, named, hm])
          intro b hb
          have hother : c'.handle? ≠ some b :=
            Session.handle_ne sound (Ne.symm hm) found found' (by rwa [found] at hb)
          rw [done, Session.perform, found']
          exact (c'.growsOnly_perform w.session.device w.session.store op).callsInto_other hother
    | quiet idle still =>
      have hidle (op : Operation) (named : w.session.operation? e = some (n, op)) :
          ∃ id, op = .bindLayout id := by
        refine (idle n op named).resolve_left fun hnone => ?_
        rw [found] at hnone
        cases hnone
      refine .apart found hidle ?_ ?_
      · obtain ⟨⟨more, hmore, _⟩, _, _, _⟩ := still
        rw [hmore, List.getElem?_append_left (List.getElem?_eq_some_iff.1 found).1, found]
      · apply stream_of_no_news
        · unfold Session.moves
          split
          · rename_i m op named
            by_cases hm : m = n
            · subst hm
              obtain ⟨id, rfl⟩ := hidle op named
              exact Bool.and_false _
            · simp [hm]
          · rfl
        · intro b _
          apply callsInto_eq_nil
          intro call hcall htarget
          rcases still.calls call hcall with hnone | hnone <;>
          · rw [hnone] at htarget
            cases htarget

/-! ## 3. Induction over a run -/

/-- Induction over a run by what its last event means for the watched buffer.  It may be used that
nothing is bound without a native buffer. -/
theorem place_induction {available : Capabilities} {settings : Settings} {n : Nat}
    {P : List Event → Option CommandBuffer → List Call → Prop} (start : P [] none [])
    (missing : ∀ events e c?, let s := (Session.start available settings).through events
      s.buffers[n]? = none → (∀ c, c? = some c → c = {}) → P events none [] →
        P (events ++ [e]) c? [])
    (own : ∀ events e c op stream, let s := (Session.start available settings).through events
      s.buffers[n]? = some c → s.operation? e = some (n, op) →
        s.after e = (s.perform n op).session →
        (c.native = none → c.bindings = {}) → P events (some c) stream →
        P (events ++ [e]) (some (c.perform s.device s.store op).buffer)
          (if op.moves then [] else stream ++ c.recorded s.device s.store op))
    (apart : ∀ events e c stream, let s := (Session.start available settings).through events
      s.buffers[n]? = some c → (s.after e).buffers[n]? = some c →
        (∀ op, s.operation? e = some (n, op) → ∃ id, op = .bindLayout id) →
        P events (some c) stream → P (events ++ [e]) (some c) stream)
    (events : List Event) :
    let w := (Watch.start available settings).through n events
    P events w.session.buffers[n]? w.stream := by
  suffices h : let w := (Watch.start available settings).through n events
      w.session.Sound ∧ (w.session.buffers[n]? = none → w.stream = []) ∧
        (∀ c, w.session.buffers[n]? = some c → c.native = none → c.bindings = {}) ∧
          P events w.session.buffers[n]? w.stream from h.2.2.2
  -- By the last event, together with that no native buffer is held twice and that what is not made
  -- yet has no stream.
  induction events using List.reverseRecOn with
  | nil =>
    have hnone : ((Watch.start available settings).through n []).session.buffers[n]? = none :=
      List.getElem?_nil
    refine ⟨Session.sound_start _ _, fun _ => rfl, fun c hc => ?_, ?_⟩
    · rw [hnone] at hc
      cases hc
    · rw [hnone]
      exact start
  | append_singleton events e ih =>
    obtain ⟨hsound, hempty, hidle, hP⟩ := ih
    rw [through_concat]
    have hsession : _ = (Session.start available settings).through events :=
      session_through n (Watch.start available settings) events
    generalize (Watch.start available settings).through n events = w
      at hsound hempty hidle hP hsession ⊢
    refine ⟨Session.sound_after hsound e, ?_⟩
    cases sees hsound n e hempty with
    | @own c op found named done stream =>
      have hkept : (w.after n e).session.buffers[n]? =
          some (c.perform w.session.device w.session.store op).buffer :=
        Session.found_of_operation found done
      have hidle := hidle c found
      rw [hkept, stream]
      refine ⟨nofun, fun c' hc' => ?_, ?_⟩
      · cases hc'
        exact CommandBuffer.idle_perform hidle _ _ op
      · rw [found] at hP
        rw [hsession] at found named done ⊢
        exact own events e c op w.stream found named done hidle hP
    | @apart c found idle kept stream =>
      have hkept : (w.after n e).session.buffers[n]? = some c := kept
      rw [hkept, stream]
      refine ⟨nofun, fun c' hc' => ?_, ?_⟩
      · cases hc'
        exact hidle c found
      · rw [found] at hP
        rw [hsession] at found kept idle
        exact apart events e c w.stream found kept idle hP
    | missing found made stream =>
      rw [stream]
      refine ⟨fun _ => rfl, fun c hc _ => ?_, ?_⟩
      · rw [made c hc]
      · rw [found, hempty found] at hP
        rw [hsession] at found
        exact missing events e _ found made hP

/-- What holds of a new command buffer and is kept by its own operations, and while others act,
holds after every run. -/
theorem run_induction {available : Capabilities} {settings : Settings} {n : Nat}
    {P : List Event → CommandBuffer → List Call → Prop} (new : ∀ events, P events {} [])
    (own : ∀ events e c op stream, let s := (Session.start available settings).through events
      s.buffers[n]? = some c → s.operation? e = some (n, op) →
        s.after e = (s.perform n op).session →
        (c.native = none → c.bindings = {}) → P events c stream →
        P (events ++ [e]) (c.perform s.device s.store op).buffer
          (if op.moves then [] else stream ++ c.recorded s.device s.store op))
    (apart : ∀ events e c stream, let s := (Session.start available settings).through events
      s.buffers[n]? = some c → (s.after e).buffers[n]? = some c →
        P events c stream → P (events ++ [e]) c stream)
    (events : List Event) :
    let w := (start available settings).through n events
    ∀ c, w.session.buffers[n]? = some c → P events c w.stream := by
  apply place_induction (P := fun events c? stream => ∀ c, c? = some c → P events c stream)
  · intro c hc
    cases hc
  · intro events e c? s _ hnew _ c hc
    rw [hnew c hc]
    exact new _
  · intro events e c op stream s found named done hidle h c' hc'
    cases hc'
    exact own events e c op stream found named done hidle (h c rfl)
  · intro events e c stream s found kept _ h c' hc'
    cases hc'
    exact apart events e c stream found kept (h c rfl)

end Watch

namespace Session

/-- After every run nothing is bound without a native buffer. -/
theorem idle_of_run {available : Capabilities} {settings : Settings} {n : Nat}
    {events : List Event} {c : CommandBuffer}
    (hc : ((start available settings).through events).buffers[n]? = some c) :
    c.native = none → c.bindings = {} := by
  have hwatched :
      ((Watch.start available settings).through n events).session.buffers[n]? = some c := by
    rw [Watch.session_through]
    exact hc
  exact Watch.run_induction (P := fun _ c _ => c.native = none → c.bindings = {})
    (fun _ _ => rfl) (fun _ _ _ op _ _ _ _ hidle _ => CommandBuffer.idle_perform hidle _ _ op)
    (fun _ _ _ _ _ _ hidle => hidle) events c hwatched

end Session

namespace Watch

/-- Induction over a run, by what its last event means for the watched buffer and its stream.  It
may be used that nothing is bound without a native buffer. -/
theorem stream_induction {available : Capabilities} {settings : Settings} {n : Nat}
    {P : List Event → CommandBuffer → Prop} (new : ∀ events, P events {})
    (own : ∀ events e c op, let w := (start available settings).through n events
      let performed := c.perform w.session.device w.session.store op
      w.session.buffers[n]? = some c → w.session.operation? e = some (n, op) →
        (w.after n e).session.buffers[n]? = some performed.buffer →
        (w.after n e).stream =
          (if op.moves then [] else w.stream ++ c.recorded w.session.device w.session.store op) →
        (c.native = none → c.bindings = {}) → P events c → P (events ++ [e]) performed.buffer)
    (apart : ∀ events e c, let w := (start available settings).through n events
      w.session.buffers[n]? = some c → (w.after n e).session.buffers[n]? = some c →
        (w.after n e).stream = w.stream → P events c → P (events ++ [e]) c)
    (events : List Event) :
    ∀ c, ((start available settings).through n events).session.buffers[n]? = some c →
      P events c := by
  have hsound (events : List Event) :
      ((start available settings).through n events).session.Sound := by
    rw [session_through]
    exact Session.sound_through available settings events
  have hidle (events : List Event) (c : CommandBuffer)
      (hc : ((start available settings).through n events).session.buffers[n]? = some c) :
      c.native = none → c.bindings = {} := by
    rw [session_through] at hc
    exact Session.idle_of_run hc
  have hempty (events : List Event) :
      let w := (start available settings).through n events
      w.session.buffers[n]? = none → w.stream = [] := by
    apply place_induction (P := fun _ c? stream => c? = none → stream = []) _ _ _ _ events
    · exact fun _ => rfl
    · exact fun _ _ _ _ _ _ _ => rfl
    · exact fun _ _ _ _ _ _ _ _ _ _ hnone => nomatch hnone
    · exact fun _ _ _ _ _ _ _ _ hnone => nomatch hnone
  induction events using List.reverseRecOn with
  | nil =>
    intro c hc
    cases hc
  | append_singleton events e ih =>
    intro c hc
    rw [through_concat] at hc
    cases sees (hsound events) n e (hempty events) with
    | @own c' op found named done stream =>
      have hkept := Session.found_of_operation found done
      obtain rfl := Option.some.inj (hc.symm.trans hkept)
      exact own events e c' op found named hc stream (hidle events c' found) (ih c' found)
    | @apart c' found idle kept stream =>
      obtain rfl := Option.some.inj (hc.symm.trans kept)
      exact apart events e c found hc stream (ih c found)
    | missing found made stream =>
      rw [made c hc]
      exact new _

end Watch

end GpuRecorder
