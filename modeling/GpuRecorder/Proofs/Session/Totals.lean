import GpuRecorder.Proofs.Recording.Counting
import GpuRecorder.Proofs.Session.Interleaving

/-!
# Statistics mirror the stream

The account of a command buffer along a run lists the direct draws that went into its native buffer,
each with the topology of the pipeline that was bound then, and what the ready secondary buffers had
counted when it executed them.  Since the last opening of a recording the counters show the totals
of the account, and these do not depend on the order of draws and executions.
-/

namespace GpuRecorder

open Draw Native Resource Recording Device

open scoped List

namespace Session

/-! ## 1. The account of a run -/

/-- What the ready children had counted when an event let a command buffer execute them. -/
def executed (s : Session Trace) (n : Nat) (e : Event) : List Stats :=
  match s.buffers[n]?, s.operation? e with
  | some c, some (m, .execute children) =>
    if m = n ∧ c.isReady = true then (children.filter (·.isReady)).map (·.stats) else []
  | _, _ => []

def counted (s : Session Trace) (n : Nat) (e : Event) : Account where
  draws := (s.news n e).filterMap (Call.directDraw? (s.buffers[n]?.bind (·.topology)))
  children := s.executed n e

def account (s : Session Trace) (n : Nat) : List Event → Account
  | [] => {}
  | e :: rest => (s.counted n e).append ((s.after e).account n rest)

/-- A recording is opened by a command buffer that holds a native buffer. -/
def reopens (s : Session Trace) (n : Nat) (e : Event) : Bool :=
  match s.buffers[n]?, s.operation? e with
  | some c, some (m, op) => decide (m = n) && c.reopens op
  | _, _ => false

/-! ## 2. One event -/

theorem counted_of_operation {s : Session Trace} {n : Nat} {e : Event} {c : CommandBuffer}
    {op : Operation} (found : s.buffers[n]? = some c) (named : s.operation? e = some (n, op))
    (done : s.after e = (s.perform n op).session) : s.counted n e = c.counted s.store op := by
  have hdraws : (s.counted n e).draws = (c.counted s.store op).draws := by
    rw [counted, news_of_operation found done, found, Option.bind_some]
    exact c.draws_recorded s.device s.store op
  have hchildren : (s.counted n e).children = (c.counted s.store op).children := by
    rw [counted, executed, found, named]
    cases op with
    | execute children => simp [CommandBuffer.counted]
    | _ => rfl
  exact Account.ext hdraws hchildren

/-- Whatever happens to others is not counted. -/
theorem counted_apart {s : Session Trace} {n : Nat} {e : Event}
    (idle : ∀ op, s.operation? e = some (n, op) → ∃ id, op = .bindLayout id)
    (silent : s.news n e = []) : s.counted n e = {} := by
  have hchildren : s.executed n e = [] := by
    unfold executed
    split
    · rename_i c m children _ named
      split
      · rename_i h
        obtain ⟨rfl, _⟩ := h
        obtain ⟨id, hid⟩ := idle _ named
        cases hid
      · rfl
    · rfl
  rw [counted, silent, hchildren]
  rfl

/-- Unless it opens a recording, an event makes the counters show what it adds to the account. -/
theorem stats_after {s : Session Trace} (sound : s.Sound) {n : Nat} {c : CommandBuffer}
    (found : s.buffers[n]? = some c) {e : Event} (h : s.reopens n e = false) :
    ∃ c', (s.after e).buffers[n]? = some c' ∧ c'.stats = c.stats.count (s.counted n e) := by
  cases (⟨s, []⟩ : Watch).sees sound n e fun _ => rfl with
  | @own c₁ op found₁ named done stream =>
    obtain rfl := Option.some.inj (found.symm.trans found₁)
    refine ⟨_, found_of_operation found done, ?_⟩
    have hreopens : c.reopens op = false := by
      rw [reopens, found, show s.operation? e = some (n, op) from named] at h
      simpa using h
    rw [counted_of_operation found named done]
    exact CommandBuffer.stats_perform hreopens s.device s.store
  | @apart c₁ found₁ idle kept stream =>
    obtain rfl := Option.some.inj (found.symm.trans found₁)
    have hmoves : s.moves n e = false := by
      unfold moves
      split
      · rename_i m op named
        by_cases hm : m = n
        · subst hm
          obtain ⟨id, rfl⟩ := idle op named
          exact Bool.and_false _
        · simp [hm]
      · rfl
    have silent : s.news n e = [] := by
      have hstream : (if s.moves n e then [] else [] ++ s.news n e) = ([] : List Call) := stream
      simpa [hmoves] using hstream
    refine ⟨c, kept, ?_⟩
    rw [counted_apart idle silent, Stats.count_empty]
  | missing found₁ new stream =>
    rw [show s.buffers[n]? = none from found₁] at found
    cases found

theorem stats_of_opening {s : Session Trace} {n : Nat} {e : Event} (h : s.reopens n e = true) :
    ∃ c', (s.after e).buffers[n]? = some c' ∧ c'.stats = {} := by
  unfold reopens at h
  split at h
  · rename_i c m op found named
    obtain ⟨hm, hop⟩ := Bool.and_eq_true_iff.1 h
    obtain rfl := of_decide_eq_true hm
    cases op with
    | begin pass subpass framebuffer =>
      have done : s.after e = (s.perform m (.begin pass subpass framebuffer)).session := by
        rw [eq_of_operation? named fun _ => nofun]
        rfl
      exact ⟨_, found_of_operation found done, CommandBuffer.stats_of_reopens hop _ _⟩
    | _ => cases hop
  · cases h

/-! ## 3. A run -/

theorem stats_through {s : Session Trace} (sound : s.Sound) {n : Nat} {c : CommandBuffer}
    (found : s.buffers[n]? = some c) {a : Account} (shows : c.stats = a.totals)
    {events : List Event}
    (last : ∀ before e rest, events = before ++ e :: rest →
      (s.through before).reopens n e = false) :
    ∃ c', (s.through events).buffers[n]? = some c' ∧
      c'.stats = (a.append (s.account n events)).totals := by
  -- The account so far grows with every event; the counters show its totals throughout.
  induction events generalizing s c a with
  | nil => exact ⟨c, found, by rw [account, Account.append_empty, shows]⟩
  | cons e events ih =>
    obtain ⟨c', found', hstats⟩ := stats_after sound found (last [] e events rfl)
    have hshows : c'.stats = (a.append (s.counted n e)).totals := by
      rw [hstats, shows, Account.count_totals]
    obtain ⟨c'', found'', hstats'⟩ := ih (sound_after sound e) found' hshows
      fun before e' rest heq => last (e :: before) e' rest (by rw [heq, List.cons_append])
    exact ⟨c'', found'', by rw [hstats', account, Account.append_assoc]⟩

/-! ## 4. The order of draws and executions -/

end Session

/-- A command buffer draws or executes others. -/
inductive Event.Counts (n : Nat) : Event → Prop
  | draw (a : ResourceId) : Counts n (.act (.perform n (.draw a)))
  | execute (children : List CommandBuffer) : Counts n (.act (.perform n (.execute children)))
  | executeOthers (children : List Nat) : Counts n (.act (.execute n children))

namespace Session

/-- Two sessions are the same but for what was sent and what one command buffer has counted. -/
structure SameButCounts (n : Nat) (s s' : Session Trace) : Prop where
  store : s'.store = s.store
  others : ∀ m ≠ n, s'.buffers[m]? = s.buffers[m]?
  own : ∃ c stats, s.buffers[n]? = some c ∧ s'.buffers[n]? = some { c with stats }

theorem SameButCounts.refl {s : Session Trace} {n : Nat} {c : CommandBuffer}
    (found : s.buffers[n]? = some c) : SameButCounts n s s :=
  ⟨rfl, fun _ _ => rfl, c, c.stats, found, found⟩

theorem SameButCounts.trans {n : Nat} {s s' s'' : Session Trace} (h : SameButCounts n s s')
    (h' : SameButCounts n s' s'') : SameButCounts n s s'' := by
  obtain ⟨c, stats, found, found'⟩ := h.own
  obtain ⟨c', stats', found₁, found''⟩ := h'.own
  obtain rfl := Option.some.inj (found'.symm.trans found₁)
  exact ⟨h'.store.trans h.store, fun m hm => (h'.others m hm).trans (h.others m hm),
    c, stats', found, found''⟩

/-- A draw or an execution is the same operation wherever only the counts differ, and changes
nothing but the counts. -/
theorem operation_of_counts {n : Nat} {e : Event} (h : e.Counts n) (s : Session Trace) :
    ∃ op, (∀ s', SameButCounts n s s' → s'.operation? e = some (n, op) ∧
        s'.after e = (s'.perform n op).session) ∧
      ∀ (c : CommandBuffer) (d : Device Trace) (store : Store),
        (c.perform d store op).store = store ∧
          ∃ stats, (c.perform d store op).buffer = { c with stats } := by
  cases h with
  | draw a =>
    refine ⟨.draw a, fun s' _ => ⟨rfl, rfl⟩, fun c d store => ⟨rfl, ?_⟩⟩
    exact ⟨_, c.buffer_draw d.capabilities.multiDrawIndirect store a⟩
  | execute children =>
    refine ⟨.execute children, fun s' _ => ⟨rfl, rfl⟩, fun c d store => ⟨rfl, ?_⟩⟩
    exact ⟨_, c.buffer_execute store children⟩
  | executeOthers children =>
    refine ⟨.execute (s.select (children.filter (· ≠ n))), fun s' hsame => ?_,
      fun c d store => ⟨rfl, _, c.buffer_execute store _⟩⟩
    have hselect : s'.select (children.filter (· ≠ n)) = s.select (children.filter (· ≠ n)) :=
      select_congr fun m hm => hsame.others m (by simpa using (List.mem_filter.1 hm).2)
    rw [← hselect]
    exact ⟨rfl, rfl⟩

theorem counted_of_counts {n : Nat} {e : Event} (h : e.Counts n) {s s' : Session Trace}
    (same : SameButCounts n s s') :
    s'.counted n e = s.counted n e ∧ SameButCounts n s (s'.after e) := by
  obtain ⟨op, hop, hbuffer⟩ := operation_of_counts h s
  obtain ⟨c, stats, found, found'⟩ := same.own
  obtain ⟨named, done⟩ := hop s (.refl found)
  obtain ⟨named', done'⟩ := hop s' same
  constructor
  · rw [counted_of_operation found named done, counted_of_operation found' named' done',
      same.store]
    cases op <;> rfl
  · refine same.trans ?_
    obtain ⟨hstore, stats', hstats⟩ :=
      hbuffer { c with stats } s'.device s'.store
    have hlt := (List.getElem?_eq_some_iff.1 found').1
    rw [done', perform, found']
    refine ⟨hstore, fun m hm => List.getElem?_set_ne (Ne.symm hm), _, stats', found', ?_⟩
    show (s'.buffers.set n _)[n]? = _
    rw [hstats]
    exact List.getElem?_set_self hlt

/-- Draws and executions count the same wherever they stand among each other. -/
theorem account_of_counts {n : Nat} {s s' : Session Trace} (same : SameButCounts n s s')
    {turns : List Event} (h : ∀ e ∈ turns, e.Counts n) :
    s'.account n turns =
      ⟨turns.flatMap fun e => (s.counted n e).draws,
        turns.flatMap fun e => (s.counted n e).children⟩ := by
  induction turns generalizing s' with
  | nil => rfl
  | cons e turns ih =>
    obtain ⟨hcounted, hsame⟩ := counted_of_counts (h e List.mem_cons_self) same
    rw [account, hcounted, ih hsame fun e' he' => h e' (List.mem_cons_of_mem _ he')]
    rfl

theorem not_reopens_of_counts {n : Nat} {e : Event} (h : e.Counts n) (s : Session Trace) :
    s.reopens n e = false := by
  unfold reopens
  split
  · rename_i named
    cases h <;> cases named <;> exact Bool.and_false _
  · rfl

/-! ## 5. The counters of a recording -/

/-- Since the last opening of a recording by a command buffer with a native buffer, whatever
happens: each counter is the clamped sum over the direct draws that went into the stream and over
the ready children of each execution.  Draws and executions that follow each other in another order
count the same. -/
theorem counters_mirror_stream (available : Capabilities) (settings : Settings)
    (past since : List Event) (opening : Event) (n : Nat)
    (opens : ((start available settings).through past).reopens n opening = true)
    (last : ∀ before e rest, since = before ++ e :: rest →
      (((start available settings).through (past ++ [opening])).through before).reopens n e =
        false) :
    let s := (start available settings).through (past ++ [opening])
    (∃ c, (s.through since).buffers[n]? = some c ∧ c.stats = (s.account n since).totals) ∧
      ∀ turns turns' : List Event, turns ~ turns' → (∀ e ∈ turns, e.Counts n) →
        ((s.through since).through turns').buffers[n]?.map (·.stats) =
          ((s.through since).through turns).buffers[n]?.map (·.stats) := by
  intro s
  have sound (events : List Event) : (s.through events).Sound := by
    rw [← through_append]
    exact sound_through available settings _
  obtain ⟨c, found, hstats⟩ : ∃ c, s.buffers[n]? = some c ∧ c.stats = {} := by
    show ∃ c, ((start available settings).through (past ++ [opening])).buffers[n]? = some c ∧ _
    rw [through_concat]
    exact stats_of_opening opens
  have hsound : s.Sound := sound []
  obtain ⟨c', found', hstats'⟩ := stats_through hsound found (a := {}) hstats last
  refine ⟨⟨c', found', hstats'⟩, fun turns turns' hperm hturns => ?_⟩
  have hafter {turns : List Event} (hturns : ∀ e ∈ turns, e.Counts n) :
      ((s.through since).through turns).buffers[n]?.map (·.stats) =
        some ((s.account n since).append ((s.through since).account n turns)).totals := by
    have hlast : ∀ before e rest, turns = before ++ e :: rest →
        ((s.through since).through before).reopens n e = false :=
      fun before e rest heq => not_reopens_of_counts (hturns e (by simp [heq])) _
    obtain ⟨c'', found'', hstats''⟩ := stats_through (sound since) found' hstats' hlast
    rw [found'', Option.map_some, hstats'']
    rfl
  have hturns' : ∀ e ∈ turns', e.Counts n := fun e he => hturns e (hperm.mem_iff.2 he)
  rw [hafter hturns, hafter hturns', account_of_counts (.refl found') hturns,
    account_of_counts (.refl found') hturns']
  congr 1
  exact Account.totals_of_perm ((hperm.flatMap_right _).symm.append_left _)
    ((hperm.flatMap_right _).symm.append_left _)

/-- A secondary buffer draws as many instances as can be counted. -/
def childThatDraws : List Event := [
  .act (.change (.addAssembler
    { parameters := { vertexCount := 9, instanceCount := maxCount } })),
  .act .create,
  .act .create,
  .act (.perform 0 (.setUp .primary ⟨⟨800⟩, 0⟩)),
  .act (.perform 1 (.setUp .secondary ⟨⟨800⟩, 0⟩)),
  .act (.perform 1 (.begin (some ⟨⟨3⟩, ⟨901⟩, 0⟩) 0 none)),
  .act (.perform 1 (.bindPipeline (uniformPipeline 9 501))),
  .act (.perform 1 (.draw ⟨1⟩))]

/-- A primary buffer executes it and draws the same: two draws, and the other counters stay at their
largest value in either order. -/
theorem drawAndExecute_mirror_stream :
    let opening : Event := .act (.perform 0 (.begin none 0 none))
    let since : List Event := [
      .act (.perform 0 (.beginPass
        ⟨⟨⟨3⟩, ⟨901⟩, 0⟩, ⟨⟨4⟩, .offscreen ⟨902⟩⟩, { width := 8, height := 8 }, [], .one, 0⟩)),
      .act (.perform 0 (.bindPipeline (uniformPipeline 9 501)))]
    let draw : Event := .act (.perform 0 (.draw ⟨1⟩))
    let execute : Event := .act (.execute 0 [1])
    let s := ((start {} {}).through (childThatDraws ++ [opening])).through since
    s.account 0 [draw, execute] =
        ⟨[⟨some .triangleList, 9, maxCount⟩], [⟨1, maxCount, maxCount⟩]⟩ ∧
      (s.through [draw, execute]).buffers[0]?.map (·.stats) = some ⟨2, maxCount, maxCount⟩ ∧
      (s.through [draw, execute]).buffers[0]?.map (·.stats) =
        (s.through [execute, draw]).buffers[0]?.map (·.stats) := by
  intro opening since draw execute s
  have hlast : Accepts (fun (s : Session Trace) e => s.reopens 0 e = false) after
      ((start {} {}).through (childThatDraws ++ [opening])) since := by decide +kernel
  obtain ⟨_, horder⟩ := counters_mirror_stream {} {} childThatDraws since opening 0
    (by decide +kernel) (accepts_iff_forall.1 hlast)
  refine ⟨by decide +kernel, by decide +kernel, horder _ _ (.swap _ _ _) fun e he => ?_⟩
  rcases List.mem_cons.1 he with rfl | he
  · exact .executeOthers [1]
  · obtain rfl := List.mem_singleton.1 he
    exact .draw ⟨1⟩

end Session

end GpuRecorder
