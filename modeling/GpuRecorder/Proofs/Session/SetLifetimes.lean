import GpuRecorder.Proofs.Recording.Observed
import GpuRecorder.Proofs.Session.BoundLayout
import GpuRecorder.Proofs.Session.FreshHandles
import Mathlib.Data.List.Induction

/-!
# The life of a descriptor set

On a device without push descriptors every binding of a layout allocates its own sets, writes them
and binds them, and that is all that ever happens to them: over any driver that does not hand out a
set while it is live, and in every run without a reset of the sets.
-/

namespace GpuRecorder

open Native Resource Recording Device

/-! ## 1. One action -/

theorem uninvolved_of_lends {c : Call} (h : lends c) : Uninvolved c := by
  cases c with
  | createCommandPool family pool => exact ⟨fun _ => rfl, rfl, rfl⟩
  | allocateCommandBuffers pool level buffers => exact ⟨fun _ => rfl, rfl, rfl⟩
  | _ => cases h

theorem uninvolved_of_makesPool {c : Call} (h : Device.makesPool c) : Uninvolved c := by
  cases c with
  | createDescriptorPool pool maxSets => exact ⟨fun _ => rfl, rfl, rfl⟩
  | _ => cases h

/-- What the delivery of a layout adds to the history: its sets are allocated, written and bound. -/
structure Delivered (b : Handle .commandBuffer) (p : Pipeline) (pool : Handle .descriptorPool)
    (sets : List (Handle .descriptorSet)) (tries writes calls : List Call) : Prop where
  declared : sets.length ≤ p.shader.sets.length
  tried : ∀ c ∈ tries, makesPool c
  written : ∀ c ∈ writes, writesSets c ∧ ∀ h ∈ updatedSets c, h ∈ sets
  calls : calls =
    tries ++ .allocateDescriptorSets pool (p.shader.nativeLayouts sets.length) sets ::
      (writes ++ [.request (.record b (.bindDescriptorSets p.point p.shader.layout 0 sets []))])

section

variable {σ : Type} [Driver σ] {d : Device (Observed σ)} {b : Handle .commandBuffer} {p : Pipeline}
  {l : Layout}

/-- Sets that were granted and are then written and bound make a delivery. -/
theorem delivered_of_granted (hsound : l.Sound) {tries : List Call}
    (htries : ∀ c ∈ tries, makesPool c) {pool : Handle .descriptorPool}
    {sets natives : List (Handle .descriptorSet)} (hcount : sets.length = sharedSets l p.shader)
    (hnatives : natives = (l.storeSets (sets.take (sharedSets l p.shader))).nativeSets.take
      (sharedSets l p.shader)) (useTemplates : Bool) :
    Delivered b p pool sets tries (writeSets useTemplates p.shader l sets).calls
      (tries ++ [.allocateDescriptorSets pool
          (p.shader.nativeLayouts (sharedSets l p.shader)) sets] ++
        (writeSets useTemplates p.shader l natives ++
          .record b [.bindDescriptorSets p.point p.shader.layout 0 natives []]).calls) where
  declared := by
    rw [hcount]
    exact Nat.min_le_right _ _
  tried := htries
  written := writesSets_writeSets useTemplates p.shader l sets
  calls := by
    rw [natives_eq hsound hcount hnatives, Script.calls_append, Script.calls_record, hcount,
      List.append_assoc]
    rfl

/-- Without push descriptors a layout is delivered through sets of its own, or no set is
involved. -/
theorem history_resolveLayout (hpush : d.capabilities.pushDescriptor = false)
    (b : Handle .commandBuffer) (p : Pipeline) (hsound : l.Sound)
    (counts : ∀ pool layouts sets, .allocateDescriptorSets pool layouts sets ∈
      (resolveLayout d b p l).outcome.device.driver.history → sets.length = layouts.length) :
    ∃ calls, (resolveLayout d b p l).outcome.device.driver.history = d.driver.history ++ calls ∧
      ((∀ c ∈ calls, Uninvolved c) ∨
        ∃ pool sets tries writes, Delivered b p pool sets tries writes calls) := by
  obtain ⟨script, hresolves, hdevice⟩ :
      ∃ script, Resolves d b p l (resolveLayout d b p l).outcome.answer
        (resolveLayout d b p l).layout script ∧ _ :=
    resolves_played d b p l
  have hhistory : (resolveLayout d b p l).outcome.device.driver.history =
      (pooled d p l).driver.history ++ script.calls := by
    rw [hdevice]
    exact Observed.history_play _ script
  rw [hhistory] at counts ⊢
  obtain ⟨tries, htries, hasked⟩ := history_allocate d.descriptorPools d.driver
    (p.shader.nativeLayouts (sharedSets l p.shader))
  generalize (resolveLayout d b p l).outcome.answer = answer,
    (resolveLayout d b p l).layout = l' at hresolves
  cases hresolves with
  | nothing hzero =>
    rw [pooled, if_pos (Or.inl hzero)]
    exact ⟨[], by simp, Or.inl (by simp)⟩
  | pushed hpos hpushes =>
    rw [hpush] at hpushes
    cases hpushes
  | refused hpos _ hsets =>
    rw [pooled_of_pos hpos hpush]
    rw [show (d.descriptorPools.allocate d.driver _).answer = _ from hsets] at hasked
    refine ⟨tries, ?_, Or.inl fun c hc => uninvolved_of_makesPool (htries c hc)⟩
    rw [Script.calls_nil, List.append_nil]
    exact hasked
  | @written sets natives hpos _ hsets hnatives =>
    rw [pooled_of_pos hpos hpush] at counts ⊢
    rw [show (d.descriptorPools.allocate d.driver _).answer = _ from hsets] at hasked
    have hlayouts : (p.shader.nativeLayouts (sharedSets l p.shader)).length =
        sharedSets l p.shader :=
      length_nativeLayouts (Nat.min_le_right _ _)
    rcases hasked with ⟨hnone, _⟩ | ⟨pool, hgranted⟩
    · rw [hnone] at hlayouts
      exact absurd hlayouts (Nat.ne_of_lt hpos)
    · have hhistory : (d.allocateSets
          (p.shader.nativeLayouts (sharedSets l p.shader))).device.driver.history = _ := hgranted
      rw [hhistory] at counts ⊢
      have hcount := (counts pool _ sets (by simp)).trans hlayouts
      exact ⟨_, List.append_assoc _ _ _, Or.inr ⟨pool, sets, tries, _,
        delivered_of_granted hsound htries hcount hnatives _⟩⟩

end

section

variable {b : Handle .commandBuffer} {p : Pipeline} {pool : Handle .descriptorPool}
  {sets : List (Handle .descriptorSet)} {tries writes calls : List Call}

/-- Only the sets of a delivery are used by it. -/
theorem Delivered.uses (h : Delivered b p pool sets tries writes calls) {c : Call} (hc : c ∈ calls)
    {set : Handle .descriptorSet} (hset : Uses c set) : set ∈ sets := by
  rw [h.calls] at hc
  rcases List.mem_append.1 hc with hc | hc
  · exact absurd hset ((uninvolved_of_makesPool (h.tried c hc)).not_uses set)
  · rcases List.mem_cons.1 hc with rfl | hc
    · rcases hset with hset | hset <;> cases hset
    · rcases List.mem_append.1 hc with hc | hc
      · obtain ⟨hwrites, hupdated⟩ := h.written c hc
        rw [Uses, boundSets_eq_nil (bindsSets_of_writesSets hwrites).1] at hset
        exact hupdated set (hset.resolve_right List.not_mem_nil)
      · obtain rfl := List.mem_singleton.1 hc
        exact hset.resolve_left List.not_mem_nil

/-- After a delivery its sets are live, with all that were live before. -/
theorem Delivered.liveSets (h : Delivered b p pool sets tries writes calls) (before : List Call) :
    liveSets (before ++ calls) = liveSets before ++ sets.map (pool, ·) := by
  have htries := foldl_liveAfter fun c hc => (uninvolved_of_makesPool (h.tried c hc)).live
  have hwrites := foldl_liveAfter fun c hc => (bindsSets_of_writesSets (h.written c hc).1).2
  rw [liveSets_append, h.calls, List.foldl_append, htries, List.foldl_cons, List.foldl_append,
    hwrites]
  rfl

/-- The sets of a delivery are fresh. -/
theorem Delivered.fresh (h : Delivered b p pool sets tries writes calls) {before : List Call}
    (hissues : IssuesFreshSets (before ++ calls)) : ∀ set ∈ sets, ¬ IsLive before set := by
  have htries := foldl_liveAfter fun c hc => (uninvolved_of_makesPool (h.tried c hc)).live
  have hsplit := hissues (before ++ tries) pool _ sets _ (by
    rw [h.calls, List.append_assoc])
  intro set hset hlive
  apply hsplit.2.2 set hset
  rwa [IsLive, liveSets_append, htries]

/-- The one entry of a delivery that binds sets is its last call. -/
theorem Delivered.last_of_binds {before after : List Call} {c : Call} (hc : bindsSets c)
    (h : Delivered b p pool sets tries writes (before ++ c :: after)) :
    before = tries ++ .allocateDescriptorSets pool (p.shader.nativeLayouts sets.length) sets ::
        writes ∧
      c = .request (.record b (.bindDescriptorSets p.point p.shader.layout 0 sets [])) ∧
        after = [] := by
  have hearlier : ∀ c ∈ tries ++ .allocateDescriptorSets pool
      (p.shader.nativeLayouts sets.length) sets :: writes, bindsSets c = false := by
    intro c hc
    rcases List.mem_append.1 hc with hc | hc
    · exact (uninvolved_of_makesPool (h.tried c hc)).binds
    · rcases List.mem_cons.1 hc with rfl | hc
      · rfl
      · exact (bindsSets_of_writesSets (h.written c hc).1).1
  have hcalls := h.calls
  rw [← List.cons_append, ← List.append_assoc] at hcalls
  rcases split_append hcalls.symm with ⟨rest, hbefore, _⟩ | ⟨rest, hbefore, hlast⟩
  · -- None of the others binds sets.
    have hmem := hearlier c (by rw [hbefore]; simp)
    rw [hmem] at hc
    cases hc
  · cases rest with
    | nil =>
      obtain ⟨rfl, rfl⟩ := List.cons.inj hlast
      exact ⟨by rw [hbefore, List.append_nil], rfl, rfl⟩
    | cons c' rest => simp at hlast

end

namespace Session

variable {σ : Type}

/-- What an action adds to the history: it has no part in the life of any set, or it is the binding
of a layout and delivers it. -/
inductive Adds (s : Session (Observed σ)) (a : Action) (calls : List Call) : Prop
  | apart (uninvolved : ∀ c ∈ calls, Uninvolved c) : Adds s a calls
  | delivery {n id c b p pool sets tries writes} (named : a = .perform n (.bindLayout id))
      (found : s.buffers[n]? = some c) (ready : c.handle? = some b)
      (pipeline : c.bindings.pipeline = some p)
      (delivered : Delivered b p pool sets tries writes calls) : Adds s a calls

theorem adds_of_appends {s : Session (Observed σ)} {a : Action} {Q : Call → Prop}
    (hQ : ∀ c, Q c → Uninvolved c) {o : Observed σ} (h : Observed.Appends Q s.device.driver o) :
    ∃ calls, o.history = s.history ++ calls ∧ s.Adds a calls := by
  obtain ⟨calls, hhistory, hcalls⟩ := h
  exact ⟨calls, hhistory, .apart fun c hc => hQ c (hcalls c hc)⟩

/-- Sets stay live, and those used by the new calls are fresh. -/
theorem Adds.spec {s : Session (Observed σ)} {a : Action} {before calls : List Call}
    (h : s.Adds a calls) (hissues : IssuesFreshSets (before ++ calls)) :
    (∀ set, IsLive before set → IsLive (before ++ calls) set) ∧
      ∀ c ∈ calls, ∀ set, Uses c set → IsLive (before ++ calls) set ∧ ¬ IsLive before set := by
  cases h with
  | apart uninvolved =>
    have hlive : liveSets (before ++ calls) = liveSets before := by
      rw [liveSets_append]
      exact foldl_liveAfter (fun c hc => (uninvolved c hc).live) _
    refine ⟨fun set hset => by rwa [IsLive, hlive], fun c hc set hset => ?_⟩
    exact absurd hset ((uninvolved c hc).not_uses set)
  | @delivery n id c b p pool sets tries writes named found ready pipeline delivered =>
    have hlive := delivered.liveSets before
    refine ⟨fun set hset => ?_, fun c hc set hset => ?_⟩
    · obtain ⟨pool', hmem⟩ := hset
      exact ⟨pool', by rw [hlive]; exact List.mem_append_left _ hmem⟩
    · have hmem := delivered.uses hc hset
      refine ⟨⟨pool, ?_⟩, delivered.fresh hissues set hmem⟩
      rw [hlive]
      exact List.mem_append_right _ (List.mem_map_of_mem hmem)

variable [Driver σ]

theorem adds_perform {s : Session (Observed σ)}
    (hpush : s.device.capabilities.pushDescriptor = false)
    (hsound : ∀ id, (s.store.layouts.get id).Sound) (a : Action) {n : Nat} {op : Operation}
    (named : (∀ id, op ≠ .bindLayout id) ∨ a = .perform n op)
    (counts : ∀ pool layouts sets, .allocateDescriptorSets pool layouts sets ∈
      (s.perform n op).session.history → sets.length = layouts.length) :
    ∃ calls, (s.perform n op).session.history = s.history ++ calls ∧ s.Adds a calls := by
  unfold perform at counts ⊢
  split at counts
  · exact adds_of_appends (fun _ h => h) (.refl _)
  · rename_i c found
    simp only [history] at counts ⊢
    by_cases hmoves : op.moves = false
    · by_cases hbind : ∃ id, op = .bindLayout id
      · obtain ⟨id, rfl⟩ := hbind
        have hends := c.endsBinding s.device s.store id
        simp only [CommandBuffer.perform] at counts ⊢
        generalize c.bindLayout s.device s.store id = result at hends counts ⊢
        cases hends with
        | left why => exact adds_of_appends (fun _ h => h) (.refl _)
        | @resolved b p r ready pipeline fresh fits done =>
          rw [done] at counts ⊢
          obtain ⟨calls, hhistory, hcalls⟩ :=
            history_resolveLayout hpush b p ((hsound id).refresh _ _) counts
          refine ⟨calls, hhistory, ?_⟩
          rcases hcalls with hnone | ⟨pool, sets, tries, writes, hdelivered⟩
          · exact .apart hnone
          · exact .delivery (named.resolve_left fun h => h id rfl) found ready pipeline hdelivered
      · exact adds_of_appends (fun _ => uninvolved_of_plain)
          (c.appends_perform s.device s.store hmoves fun id hid => hbind ⟨id, hid⟩)
    · exact adds_of_appends (fun _ => uninvolved_of_lends)
        (c.lends_of_moves s.device s.store (Bool.of_not_eq_false hmoves))

theorem adds_step {s : Session (Observed σ)}
    (hpush : s.device.capabilities.pushDescriptor = false)
    (hsound : ∀ id, (s.store.layouts.get id).Sound) {a : Action} (hreset : a ≠ .resetSets)
    (counts : ∀ pool layouts sets, .allocateDescriptorSets pool layouts sets ∈
      (s.step a).session.history → sets.length = layouts.length) :
    ∃ calls, (s.step a).session.history = s.history ++ calls ∧ s.Adds a calls := by
  cases a with
  | change c => exact adds_of_appends (fun _ h => h) (.refl _)
  | create => exact adds_of_appends (fun _ h => h) (.refl _)
  | perform n op => exact adds_perform hpush hsound _ (Or.inr rfl) counts
  | execute n children => exact adds_perform hpush hsound _ (Or.inl nofun) counts
  | submit queue buffers fence =>
    simp only [step, ofDevice, Device.submit, history]
    split
    · exact adds_of_appends (fun _ h => h) (.refl _)
    · refine adds_of_appends (fun _ h => h) ?_
      apply Observed.Appends.answered
      exact fun _ => ⟨fun _ => rfl, rfl, rfl⟩
  | resetSets => exact absurd rfl hreset

/-! ## 2. A run -/

/-- Every set that is written into or bound is live. -/
def UsesLiveSets (calls : List Call) : Prop := ∀ c ∈ calls, ∀ set, Uses c set → IsLive calls set

/-- How an entry that binds sets has come about in a run: a binding of a layout allocated the sets,
one for each set layout of the shader that was bound, wrote them, and bound them from set zero on.
No other call of the run writes into them or binds them. -/
inductive BindsOwnSets (s : Session (Observed σ)) (actions : List Action)
    (b : Handle .commandBuffer) (point : BindPoint) (layout : Handle .pipelineLayout) (first : Nat)
    (sets : List (Handle .descriptorSet)) (offsets : List Nat) (before after : List Call) : Prop
  | intro {earlier later n id c p pool tries writes}
      (split : actions = earlier ++ .perform n (.bindLayout id) :: later)
      (found : (s.run earlier).buffers[n]? = some c) (ready : c.handle? = some b)
      (pipeline : c.bindings.pipeline = some p) (target : point = p.point ∧ layout = p.shader.layout)
      (start : first = 0) (declared : sets.length ≤ p.shader.sets.length)
      (issued : before = (s.run earlier).history ++ (tries ++
        .allocateDescriptorSets pool (p.shader.nativeLayouts sets.length) sets :: writes))
      (last : (s.run (earlier ++ [.perform n (.bindLayout id)])).history =
        before ++ [.request (.record b (.bindDescriptorSets point layout first sets offsets))])
      (tried : ∀ c ∈ tries, makesPool c)
      (written : ∀ c ∈ writes, writesSets c ∧ ∀ set ∈ updatedSets c, set ∈ sets)
      (unused : ∀ c ∈ (s.run earlier).history, ∀ set ∈ sets, ¬ Uses c set)
      (final : ∀ c ∈ after, ∀ set ∈ sets, ¬ Uses c set) :
    BindsOwnSets s actions b point layout first sets offsets before after

theorem observed_run (driver : σ) (available : Capabilities) (settings : Settings)
    (actions : List Action) :
    let s := (observed driver available settings).run actions
    s.device.capabilities = available.withOverrides settings.capabilities ∧
      ∀ id, (s.store.layouts.get id).Sound := by
  induction actions using List.reverseRecOn with
  | nil => exact ⟨rfl, fun _ => Layout.sound_default⟩
  | append_singleton actions a ih =>
    rw [run_append]
    exact ⟨(capabilities_step _ a).trans ih.1, (keeps_step _ a).sound ih.2⟩

section

variable {s : Session (Observed σ)} {actions : List Action} {b : Handle .commandBuffer}
  {point : BindPoint} {layout : Handle .pipelineLayout} {first : Nat}
  {sets : List (Handle .descriptorSet)} {offsets : List Nat} {before after : List Call}

/-- One more action that leaves the sets alone. -/
theorem BindsOwnSets.extend
    (h : s.BindsOwnSets actions b point layout first sets offsets before after) (a : Action)
    {calls : List Call} (hunused : ∀ c ∈ calls, ∀ set ∈ sets, ¬ Uses c set) :
    s.BindsOwnSets (actions ++ [a]) b point layout first sets offsets before (after ++ calls) := by
  obtain ⟨split, found, ready, pipeline, target, start, declared, issued, last, tried, written,
    unused, final⟩ := h
  exact .intro (by rw [split, List.append_assoc, List.cons_append]) found ready pipeline target
    start declared issued last tried written unused fun c hc =>
      (List.mem_append.1 hc).elim (final c) (hunused c)

/-- An entry that the last action has added: that action is the binding that made it. -/
theorem Adds.bindsOwnSets {a : Action} {rest : List Call}
    (h : (s.run actions).Adds a
      (rest ++ .request (.record b (.bindDescriptorSets point layout first sets offsets)) :: after))
    (hgrows : (s.run (actions ++ [a])).history = (s.run actions).history ++
      (rest ++ .request (.record b (.bindDescriptorSets point layout first sets offsets)) :: after))
    (hunused : ∀ c ∈ (s.run actions).history, ∀ set ∈ sets, ¬ Uses c set) :
    s.BindsOwnSets (actions ++ [a]) b point layout first sets offsets
      ((s.run actions).history ++ rest) after := by
  cases h with
  | apart uninvolved =>
    have hbinds := (uninvolved _ (List.mem_append_right _ List.mem_cons_self)).binds
    cases hbinds
  | @delivery n id c b' p pool sets' tries writes named found ready pipeline delivered =>
    obtain ⟨hrest, hcall, hlast⟩ := delivered.last_of_binds rfl
    cases hcall
    subst named hlast hrest
    refine .intro rfl found ready pipeline ⟨rfl, rfl⟩ rfl delivered.declared rfl ?_ delivered.tried
      delivered.written hunused fun c hc => absurd hc List.not_mem_nil
    rw [hgrows, ← List.append_assoc]

end

theorem ownSets_run (driver : σ) (available : Capabilities) (settings : Settings)
    (hpush : (available.withOverrides settings.capabilities).pushDescriptor = false)
    (actions : List Action) (hreset : .resetSets ∉ actions)
    (hissues : IssuesFreshSets ((observed driver available settings).run actions).history) :
    UsesLiveSets ((observed driver available settings).run actions).history ∧
      ∀ {b point layout first sets offsets before after},
        ((observed driver available settings).run actions).history =
            before ++ .request (.record b (.bindDescriptorSets point layout first sets offsets)) ::
              after →
          (observed driver available settings).BindsOwnSets actions b point layout first sets
            offsets before after := by
  induction actions using List.reverseRecOn with
  | nil =>
    refine ⟨fun c hc => absurd hc List.not_mem_nil, fun {b point layout first sets offsets
      before after} heq => ?_⟩
    have hnone := congrArg List.length heq
    simp [observed, history, Device.start] at hnone
  | append_singleton actions a ih =>
    obtain ⟨hcapabilities, hsound⟩ := observed_run driver available settings actions
    rw [← hcapabilities] at hpush
    rw [run_append] at hissues ⊢
    obtain ⟨calls, hgrows, hadds⟩ := adds_step hpush hsound (a := a)
      (by rintro rfl; exact hreset (by simp)) (fun pool layouts sets hmem => by
        obtain ⟨before, after, heq⟩ := List.append_of_mem hmem
        exact (hissues before pool layouts sets after heq).1)
    have hrun : ((observed driver available settings).run actions |>.run [a]).history =
        ((observed driver available settings).run actions).history ++ calls := hgrows
    have hissues' := hrun ▸ hissues
    obtain ⟨hlive, hbinds⟩ := ih (fun hmem => hreset (by simp [hmem])) hissues'.of_append
    obtain ⟨hstays, hfresh⟩ := hadds.spec hissues'
    rw [hrun]
    refine ⟨fun c hc set hset => ?_, fun {b point layout first sets offsets before after} heq => ?_⟩
    · rcases List.mem_append.1 hc with hc | hc
      · exact hstays set (hlive c hc set hset)
      · exact (hfresh c hc set hset).1
    rcases split_append heq with ⟨rest, hbefore, rfl⟩ | ⟨rest, rfl, rfl⟩
    · -- The entry is an earlier one, and what the last action uses was not live then.
      refine (hbinds hbefore).extend a fun c hc set hset huses => ?_
      have hentry : .request (.record b (.bindDescriptorSets point layout first sets offsets)) ∈
          ((observed driver available settings).run actions).history := by
        rw [hbefore]
        exact List.mem_append_right _ List.mem_cons_self
      exact (hfresh c hc set huses).2 (hlive _ hentry set (Or.inr hset))
    · -- The entry is new, and what was used before was live then.
      refine hadds.bindsOwnSets (by rw [run_append, hrun]) fun c hc set hset huses => ?_
      have hnew := hfresh _ (List.mem_append_right rest List.mem_cons_self) set (Or.inr hset)
      exact hnew.2 (hlive c hc set huses)

/-- On a device without push descriptors, over any driver that issues fresh sets, every entry that
binds sets binds those that the same binding has allocated. -/
theorem bound_sets_are_own (driver : σ) (available : Capabilities) (settings : Settings)
    (hpush : (available.withOverrides settings.capabilities).pushDescriptor = false)
    (actions : List Action) (hreset : .resetSets ∉ actions)
    (hissues : IssuesFreshSets ((observed driver available settings).run actions).history)
    (b : Handle .commandBuffer) (point : BindPoint) (layout : Handle .pipelineLayout) (first : Nat)
    (sets : List (Handle .descriptorSet)) (offsets : List Nat) (before after : List Call)
    (hentry : ((observed driver available settings).run actions).history = before ++
      .request (.record b (.bindDescriptorSets point layout first sets offsets)) :: after) :
    (observed driver available settings).BindsOwnSets actions b point layout first sets offsets
      before after :=
  (ownSets_run driver available settings hpush actions hreset hissues).2 hentry

/-- Two command buffers bind one layout. -/
def sharedLayout : List Action := [
  .change (.addLayout (uniformPipeline 1 501).shader),
  .create, .create,
  .perform 0 (.setUp .primary ⟨⟨800⟩, 0⟩),
  .perform 1 (.setUp .primary ⟨⟨800⟩, 0⟩),
  .perform 0 (.begin none 0 none),
  .perform 1 (.begin none 0 none),
  .perform 0 (.bindPipeline (uniformPipeline 2 501)),
  .perform 1 (.bindPipeline (uniformPipeline 2 501)),
  .perform 0 (.bindLayout ⟨1⟩),
  .perform 1 (.bindLayout ⟨1⟩)]

theorem sharedLayout_binds_own_sets :
    let s := observed ({} : Trace) {} {}
    let history := (s.run sharedLayout).history
    s.device.capabilities.pushDescriptor = false ∧ .resetSets ∉ sharedLayout ∧
      IssuesFreshSets history ∧
        history = history.take 10 ++
          .request (.record ⟨4097⟩ (.bindDescriptorSets .graphics ⟨501⟩ 0 [⟨4100⟩] [])) ::
            history.drop 11 ∧
          s.BindsOwnSets sharedLayout ⟨4097⟩ .graphics ⟨501⟩ 0 [⟨4100⟩] [] (history.take 10)
            (history.drop 11) := by
  have hreset : .resetSets ∉ sharedLayout := by simp [sharedLayout]
  have hissues := (numbered_run {} {} sharedLayout).sets
  have hentry : ((observed ({} : Trace) {} {}).run sharedLayout).history =
      ((observed ({} : Trace) {} {}).run sharedLayout).history.take 10 ++
        .request (.record ⟨4097⟩ (.bindDescriptorSets .graphics ⟨501⟩ 0 [⟨4100⟩] [])) ::
          ((observed ({} : Trace) {} {}).run sharedLayout).history.drop 11 := by decide +kernel
  refine ⟨rfl, hreset, hissues, hentry, ?_⟩
  exact bound_sets_are_own ({} : Trace) {} {} rfl sharedLayout hreset hissues _ _ _ _ _ _ _ _ hentry

end Session

end GpuRecorder
