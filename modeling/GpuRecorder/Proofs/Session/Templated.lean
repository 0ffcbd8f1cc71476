import GpuRecorder.Proofs.Session.Journals

/-!
# What goes through templates

A set is written or pushed through a template only if that is the template of the set in the bound
shader, and then with data for every slot that the shader declares there.  Every request of a run
is one entry of the log.
-/

namespace GpuRecorder

open Native Resource Recording Device

/-! ## 1. Requests in order -/

namespace Native

/-- The template that a request goes through, and the data for it. -/
def Request.templated? : Request → Option (UpdateTemplate × List DescriptorInfo)
  | .updateSet _ template infos => some (template, infos)
  | .record _ (.pushDescriptors template _ _ infos) => some (template, infos)
  | _ => none

end Native

/-- The template of a set that the shader declares, and data for each of its slots. -/
def Resource.Shader.Serves (s : Shader) (template : UpdateTemplate) (infos : List DescriptorInfo) :
    Prop :=
  ∃ set declared, s.sets[set]? = some declared ∧ s.template? set = some template ∧
    infos.length = declared.slots.length

/-- One entry of the log, through a template only what the shader of such a pipeline declares, and
a push only where pushes are known. -/
structure Native.Request.InOrder (P : Pipeline → Prop) (push : Bool) (r : Request) : Prop where
  whole : r.entries = [r]
  serves : ∀ {template infos}, r.templated? = some (template, infos) →
    ∃ p, P p ∧ p.shader.Serves template infos
  pushed : r.pushes = true → push = true

/-- The requests of a script are in order. -/
def Native.Script.InOrder (P : Pipeline → Prop) (push : Bool) (s : Script) : Prop :=
  ∀ r ∈ s.requests, r.InOrder P push

namespace Recording

variable {P : Pipeline → Prop} {push : Bool}

theorem inOrder_append {s t : Script} (hs : s.InOrder P push) (ht : t.InOrder P push) :
    (s ++ t).InOrder P push := by
  intro r hr
  rw [Script.requests_append] at hr
  exact (List.mem_append.1 hr).elim (hs r) (ht r)

/-- A command that is whole and goes through no template. -/
theorem inOrder_record {c : Command} (hwhole : c.IsWhole) (hsort : c.sort ≠ .descriptors)
    (b : Handle .commandBuffer) : (Request.record b c).InOrder P push := by
  cases c with
  | pushDescriptors template layout set infos => exact absurd rfl hsort
  | _ => exact ⟨hwhole b, nofun, nofun⟩

theorem inOrder_scripted {σ : Type} [Driver σ] {c : CommandBuffer} {d : Device σ} {s : Store}
    {op : Operation} {sent : CommandBuffer × Script} (h : c.scripted? d s op = some sent) :
    sent.2.InOrder P push := by
  intro r hr
  rcases CommandBuffer.records_scripted h with hnone | ⟨b, commands, _, hrequests, hsorts⟩
  · rw [hnone] at hr
    cases hr
  · rw [hrequests] at hr
    obtain ⟨x, hx, rfl⟩ := List.mem_map.1 hr
    refine inOrder_record (hsorts x hx).2 (fun hsort => ?_) b
    exact CommandBuffer.descriptors_not_mem_sorts h (hsort ▸ (hsorts x hx).1)

/-! ## 2. Delivering a layout -/

section

variable {s : Shader} {l : Layout}

/-- The layout has the slots that the shader declares. -/
def Fits (l : Layout) (s : Shader) : Prop := ∀ set < sharedSets l s, l.slots set = s.slots set

theorem serves_of_fits (fits : Fits l s) {set : Nat} (hset : set < sharedSets l s)
    {template : UpdateTemplate} (ht : s.template? set = some template) :
    s.Serves template (l.infos set) := by
  have hdeclared : set < s.sets.length := Nat.lt_of_lt_of_le hset (Nat.min_le_right _ _)
  refine ⟨set, s.sets[set], List.getElem?_eq_getElem hdeclared, ht, ?_⟩
  have hslots : (l.slots set).length = (s.slots set).length := congrArg List.length (fits set hset)
  rw [Layout.slots, List.length_map, Shader.slots, List.getElem?_eq_getElem hdeclared] at hslots
  rw [Layout.infos, List.length_map, hslots]
  rfl

theorem inOrder_pushes {p : Pipeline} (hp : P p) (fits : Fits l p.shader) (hpush : push = true)
    (b : Handle .commandBuffer) :
    Script.InOrder P push ((List.range (sharedSets l p.shader)).map (pushSet b p.shader l)) := by
  intro r hr
  obtain ⟨e, he, her⟩ := List.mem_filterMap.1 hr
  obtain ⟨set, hset, rfl⟩ := List.mem_map.1 he
  cases ht : p.shader.template? set with
  | none =>
    rw [pushSet, ht] at her
    cases her
  | some template =>
    rw [pushSet, ht] at her
    obtain rfl := Option.some.inj her
    refine ⟨rfl, fun h => ?_, fun _ => hpush⟩
    obtain ⟨rfl, rfl⟩ := Prod.mk.inj (Option.some.inj h)
    exact ⟨p, hp, serves_of_fits fits (List.mem_range.1 hset) ht⟩

theorem inOrder_writeSets {p : Pipeline} (hp : P p) (fits : Fits l p.shader) (useTemplates : Bool)
    {natives : List (Handle .descriptorSet)} (hcount : natives.length ≤ sharedSets l p.shader) :
    (writeSets useTemplates p.shader l natives).InOrder P push := by
  intro r hr
  obtain ⟨e, he, her⟩ := List.mem_filterMap.1 hr
  obtain ⟨script, hscript, hmem⟩ := List.mem_flatten.1 he
  obtain ⟨⟨native, set⟩, hx, rfl⟩ := List.mem_map.1 hscript
  have hset : set < sharedSets l p.shader :=
    Nat.lt_of_lt_of_le (List.snd_lt_of_mem_zipIdx hx) hcount
  replace hmem : e ∈ writeSet useTemplates p.shader l native set := hmem
  unfold writeSet at hmem
  split at hmem
  · rename_i template ht
    rw [List.mem_singleton.1 hmem] at her
    obtain rfl := Option.some.inj her
    refine ⟨rfl, fun h => ?_, nofun⟩
    obtain ⟨rfl, rfl⟩ := Prod.mk.inj (Option.some.inj h)
    exact ⟨p, hp, serves_of_fits fits hset (Option.filter_eq_some_iff.1 ht).1⟩
  · simp only at hmem
    split at hmem
    · cases hmem
    · rw [List.mem_singleton.1 hmem] at her
      obtain rfl := Option.some.inj her
      exact ⟨rfl, nofun, nofun⟩

theorem inOrder_resolved {σ : Type} [Driver σ] {d : Device σ} {b : Handle .commandBuffer}
    {p : Pipeline} {l l' : Layout} {answer : Except Failure Unit} {script : Script}
    (h : Resolves d b p l answer l' script) (hp : P p) (fits : Fits l p.shader)
    (hknown : d.capabilities.pushDescriptor = true → push = true) : script.InOrder P push := by
  cases h with
  | nothing hzero => exact fun r hr => by cases hr
  | pushed hpos hpush => exact inOrder_pushes hp fits (hknown hpush) b
  | refused hpos hpush hsets => exact fun r hr => by cases hr
  | @written sets natives hpos hpush hsets hnatives =>
    refine inOrder_append (inOrder_writeSets hp fits _ ?_) fun r hr => ?_
    · rw [hnatives]
      exact List.length_take_le _ _
    · rw [Script.requests_record] at hr
      obtain ⟨c, hc, rfl⟩ := List.mem_map.1 hr
      rw [List.mem_singleton.1 hc]
      exact ⟨rfl, nofun, nofun⟩

end

end Recording

/-! ## 3. Journals in order -/

namespace Native.Journal

variable {σ : Type} {P : Pipeline → Prop} {push : Bool}

/-- Between two moments only requests in order were made. -/
def Orderly (P : Pipeline → Prop) (push : Bool) (j j' : Journal σ) : Prop :=
  ∃ more, j'.attempts = j.attempts ++ more ∧
    ∀ r, .through (.request r) ∈ more → r.InOrder P push

variable {j j' j'' : Journal σ}

theorem Orderly.refl (j : Journal σ) : Orderly P push j j :=
  ⟨[], (List.append_nil _).symm, fun _ h => absurd h List.not_mem_nil⟩

theorem Orderly.trans (h : Orderly P push j j') (h' : Orderly P push j' j'') :
    Orderly P push j j'' := by
  obtain ⟨more, hattempts, hmore⟩ := h
  obtain ⟨more', hattempts', hmore'⟩ := h'
  refine ⟨more ++ more', by rw [hattempts', hattempts, List.append_assoc], fun r hr => ?_⟩
  exact (List.mem_append.1 hr).elim (hmore r) (hmore' r)

theorem orderly_answered (j : Journal σ) {α : Type} {q : Question} {call : α → Call}
    (h : ∀ a r, call a ≠ .request r) (answer : Except ResultCode α × σ) :
    Orderly P push j (j.answered q call answer).2 := by
  refine ⟨[_], rfl, fun r hr => ?_⟩
  have heq := List.mem_singleton.1 hr
  cases hanswer : answer.1 with
  | error code => rw [hanswer] at heq; cases heq
  | ok a =>
    rw [hanswer] at heq
    exact absurd (Attempt.through.inj heq).symm (h a r)

theorem orderly_told (j : Journal σ) {c : Call} (h : ∀ r, c ≠ .request r) (driver : σ) :
    Orderly P push j (j.told c driver) := by
  refine ⟨[_], rfl, fun r hr => ?_⟩
  cases List.mem_singleton.1 hr
  exact absurd rfl (h r)

variable [Driver σ]

theorem poolCalls_orderly : PoolCalls (Orderly (σ := σ) P push) where
  refl := .refl
  trans := .trans
  createCommandPool j _ := orderly_answered j nofun _
  allocateCommandBuffers j _ _ _ := orderly_answered j nofun _
  createDescriptorPool j _ _ := orderly_answered j nofun _
  allocateDescriptorSets j _ _ := orderly_answered j nofun _
  resetDescriptorPool j _ := orderly_answered j nofun _

theorem destroyingCalls_orderly : DestroyingCalls (Orderly (σ := σ) P push) where
  refl := .refl
  trans := .trans
  destroyCommandPool j _ := orderly_told j (by simp) _
  destroyDescriptorPool j _ := orderly_told j (by simp) _

theorem orderly_play {s : Script} (h : s.InOrder P push) (j : Journal σ) :
    Orderly P push j (s.play j).2 := by
  induction s generalizing j with
  | nil => exact .refl j
  | cons e s ih =>
    cases e with
    | report m => exact ih h j
    | request r =>
      refine .trans ⟨[_], rfl, fun r' hr' => ?_⟩ (ih (fun r' hr' => h r' ?_) _)
      · cases List.mem_singleton.1 hr'
        exact h r List.mem_cons_self
      · exact List.mem_cons_of_mem _ hr'

end Native.Journal

namespace Recording.CommandBuffer

open Journal

variable {σ : Type} [Driver σ] {P : Pipeline → Prop} {push : Bool}

theorem orderly_resolveLayout {p : Pipeline} (hp : P p) {l : Layout} (fits : Fits l p.shader)
    {d : Device (Journal σ)} (hknown : d.capabilities.pushDescriptor = true → push = true)
    (b : Handle .commandBuffer) :
    Orderly P push d.driver (resolveLayout d b p l).outcome.device.driver := by
  obtain ⟨script, hresolves, hdevice⟩ : ∃ script, _ ∧ _ := resolves_played d b p l
  rw [hdevice]
  refine .trans ?_ (orderly_play (inOrder_resolved hresolves hp fits hknown) _)
  unfold pooled
  split
  · exact .refl _
  · exact poolCalls_orderly.allocate _ _ _

/-- A command buffer with such a pipeline bound, if any, makes requests in order. -/
theorem orderly_perform (c : CommandBuffer) (hbound : ∀ p, c.bindings.pipeline = some p → P p)
    {d : Device (Journal σ)} (hknown : d.capabilities.pushDescriptor = true → push = true)
    (s : Store) (op : Operation) :
    Orderly P push d.driver (c.perform d s op).outcome.device.driver := by
  cases hscript : c.scripted? d s op with
  | some sent =>
    rw [(perform_scripted hscript).2]
    exact orderly_play (inOrder_scripted hscript) _
  | none =>
    cases op with
    | setUp kind queue =>
      show Orderly P push d.driver (c.setUp d kind queue).outcome.device.driver
      rw [(setUp_spec c d kind queue).1, ← driver_release c d]
      exact poolCalls_orderly.request _ _ kind.level queue.family
    | release =>
      show Orderly P push d.driver (c.release d).outcome.device.driver
      rw [driver_release]
      exact .refl _
    | begin pass subpass framebuffer =>
      simp only [perform, asked, CommandBuffer.begin]
      split
      · exact .refl _
      · split
        · exact .refl _
        · exact orderly_answered _ (by simp) _
    | finish =>
      simp only [perform, asked, finish]
      split
      · exact .refl _
      · exact orderly_answered _ (by simp) _
    | bindLayout id =>
      show Orderly P push d.driver (c.bindLayout d s id).outcome.device.driver
      have hends := c.endsBinding d s id
      generalize c.bindLayout d s id = result at hends ⊢
      cases hends with
      | left why => exact .refl _
      | @resolved b p r ready pipeline fresh fits done =>
        rw [done]
        refine orderly_resolveLayout (hbound p pipeline) (fun set hset => ?_) hknown b
        have hshape := (s.layouts.get id).shape_refresh s.buffers s.textures
        rw [show s.refreshed (s.layouts.get id) = (s.layouts.get id).refresh s.buffers s.textures
          from rfl] at hset ⊢
        rw [sharedSets_of_shape_eq hshape] at hset
        rw [Layout.slots_of_shape_eq hshape]
        exact fits set hset
    | _ => cases hscript

/-- Only binding a pipeline binds one. -/
theorem pipeline_perform {c : CommandBuffer} {d : Device σ} {s : Store} {op : Operation}
    {p : Pipeline} (h : (c.perform d s op).buffer.bindings.pipeline = some p) :
    c.bindings.pipeline = some p ∨ op = .bindPipeline p := by
  cases hscript : c.scripted? d s op with
  | some sent =>
    rw [(perform_scripted hscript).1] at h
    cases op with
    | bindPipeline q =>
      obtain rfl := Option.some.inj hscript
      unfold bindPipeline withNative at h
      split at h
      · exact Or.inl h
      · split at h
        · exact Or.inl h
        · obtain rfl := Option.some.inj h
          exact Or.inr rfl
    | _ =>
      rw [(leaves_scripted hscript).pipeline nofun] at h
      exact Or.inl h
  | none =>
    cases op with
    | setUp kind queue =>
      replace h : (c.setUp d kind queue).buffer.bindings.pipeline = some p := h
      rw [(setUp_spec c d kind queue).2] at h
      replace h : (if c.isReady then {} else c.bindings).pipeline = some p := h
      split at h
      · cases h
      · exact Or.inl h
    | release => cases h
    | begin pass subpass framebuffer =>
      simp only [perform, asked, CommandBuffer.begin] at h
      split at h
      · exact Or.inl h
      · split at h <;> cases h
    | finish =>
      simp only [perform, asked, finish] at h
      split at h <;> exact Or.inl h
    | bindLayout id =>
      replace h : (c.bindLayout d s id).buffer.bindings.pipeline = some p := h
      have hends := c.endsBinding d s id
      generalize c.bindLayout d s id = result at hends h
      cases hends with
      | left why => exact Or.inl h
      | @resolved b p r ready pipeline fresh fits done =>
        cases hanswer : r.outcome.answer <;> rw [hanswer] at h <;> exact Or.inl h
    | _ => cases hscript

end Recording.CommandBuffer

/-! ## 4. Runs in order -/

/-- The task binds such pipelines only. -/
def Task.BindsOnly (P : Pipeline → Prop) : Task → Prop
  | .act (.perform _ (.bindPipeline p)) => P p
  | _ => True

/-- Every pipeline that is bound is such a one. -/
def Session.HasBound {σ : Type} (P : Pipeline → Prop) (s : Session σ) : Prop :=
  ∀ c ∈ s.buffers, ∀ p, c.bindings.pipeline = some p → P p

section

variable {σ : Type} [Driver σ] {P : Pipeline → Prop} {push : Bool}

theorem Session.orderly_perform {s : Session (Journal σ)} (hbound : s.HasBound P)
    (hknown : s.device.capabilities.pushDescriptor = true → push = true) {n : Nat} {op : Operation}
    (hbinds : (Task.act (.perform n op)).BindsOnly P) :
    Journal.Orderly P push s.device.driver (s.perform n op).session.device.driver ∧
      (s.perform n op).session.HasBound P := by
  unfold Session.perform
  cases hc : s.buffers[n]? with
  | none => exact ⟨.refl _, hbound⟩
  | some c =>
    have hmem := List.mem_of_getElem? hc
    refine ⟨c.orderly_perform (hbound c hmem) hknown _ op, fun c' hc' p hp => ?_⟩
    rcases List.mem_or_eq_of_mem_set hc' with hold | rfl
    · exact hbound c' hold p hp
    · rcases CommandBuffer.pipeline_perform hp with hold | rfl
      · exact hbound c hmem p hold
      · exact hbinds

theorem Session.orderly_step {s : Session (Journal σ)} (hbound : s.HasBound P)
    (hknown : s.device.capabilities.pushDescriptor = true → push = true) {a : Action}
    (hbinds : (Task.act a).BindsOnly P) :
    Journal.Orderly P push s.device.driver (s.step a).session.device.driver ∧
      (s.step a).session.HasBound P := by
  cases a with
  | change c => exact ⟨.refl _, hbound⟩
  | create =>
    refine ⟨.refl _, fun c hc p hp => ?_⟩
    rcases List.mem_append.1 hc with hold | hnew
    · exact hbound c hold p hp
    · rw [List.mem_singleton.1 hnew] at hp
      cases hp
  | perform n op => exact s.orderly_perform hbound hknown hbinds
  | execute n children => exact s.orderly_perform hbound hknown trivial
  | submit queue buffers fence =>
    refine ⟨?_, hbound⟩
    simp only [step, ofDevice, Device.submit]
    split
    · exact .refl _
    · exact Journal.orderly_answered _ (by simp) _
  | resetSets => exact ⟨Journal.poolCalls_orderly.reset _ _, hbound⟩

theorem Session.orderly_run {s : Session (Journal σ)} (hbound : s.HasBound P)
    (hknown : s.device.capabilities.pushDescriptor = true → push = true) {actions : List Action}
    (hbinds : ∀ a ∈ actions, (Task.act a).BindsOnly P) :
    Journal.Orderly P push s.device.driver (s.run actions).device.driver ∧
      (s.run actions).HasBound P := by
  induction actions generalizing s with
  | nil => exact ⟨.refl _, hbound⟩
  | cons a actions ih =>
    obtain ⟨hstep, hbound⟩ := s.orderly_step hbound hknown (hbinds a List.mem_cons_self)
    obtain ⟨hrest, hbound⟩ := ih hbound (by rwa [capabilities_step])
      fun a ha => hbinds a (List.mem_cons_of_mem _ ha)
    exact ⟨hstep.trans hrest, hbound⟩

theorem Session.orderly_close {s : Session (Journal σ)} (hbound : s.HasBound P)
    (hknown : s.device.capabilities.pushDescriptor = true → push = true) :
    Journal.Orderly P push s.device.driver s.close.device.driver ∧ s.close.HasBound P := by
  have hreleased : Journal.Orderly P push s.device.driver s.releaseAll.device.driver ∧
      s.releaseAll.HasBound P := by
    rw [s.releaseAll_eq_run]
    refine s.orderly_run hbound hknown fun a ha => ?_
    obtain ⟨n, -, rfl⟩ := List.mem_map.1 ha
    trivial
  exact ⟨hreleased.1.trans (Journal.destroyingCalls_orderly.destroys s.releaseAll.device),
    hreleased.2⟩

variable {flip : Switch → Journal σ → Journal σ}

theorem Bench.orderly_step (flips : ∀ x j, Journal.Orderly P push j (flip x j))
    {b : Bench (Journal σ)} (hbound : b.session.HasBound P)
    (hknown : b.session.device.capabilities.pushDescriptor = true → push = true) {t : Task}
    (hbinds : t.BindsOnly P) :
    Journal.Orderly P push b.driver (b.step flip t).bench.driver ∧
      (b.step flip t).bench.session.HasBound P := by
  cases t with
  | act a => exact b.session.orderly_step hbound hknown hbinds
  | borrow level family => exact ⟨Journal.poolCalls_orderly.request _ _ level family, hbound⟩
  | giveBack level family n =>
    refine ⟨?_, ?_⟩
    · show Journal.Orderly P push _ (b.giveBack level family n).bench.session.device.driver
      rw [(b.device_giveBack level family n).1]
      exact .refl _
    · show (b.giveBack level family n).bench.session.HasBound P
      unfold giveBack
      split <;> exact hbound
  | allocateSets layouts => exact ⟨Journal.poolCalls_orderly.allocate _ _ layouts, hbound⟩
  | hold =>
    refine ⟨?_, ?_⟩
    · show Journal.Orderly P push _ b.hold.bench.session.device.driver
      rw [b.device_hold.1]
      exact .refl _
    · show b.hold.bench.session.HasBound P
      unfold hold
      split <;> exact hbound
  | letGo => exact ⟨.refl _, hbound⟩
  | close => exact b.session.orderly_close hbound hknown
  | switch x => exact ⟨flips x _, hbound⟩

/-- In a run that binds such pipelines only, every request is in order. -/
theorem Bench.orderly_run (flips : ∀ x j, Journal.Orderly P push j (flip x j))
    {b : Bench (Journal σ)} (hbound : b.session.HasBound P)
    (hknown : b.session.device.capabilities.pushDescriptor = true → push = true) {tasks : List Task}
    (hbinds : ∀ t ∈ tasks, t.BindsOnly P) :
    Journal.Orderly P push b.driver (b.run flip tasks).driver := by
  induction tasks generalizing b with
  | nil => exact .refl _
  | cons t tasks ih =>
    obtain ⟨hstep, hbound⟩ := Bench.orderly_step flips hbound hknown (hbinds t List.mem_cons_self)
    exact hstep.trans (ih hbound (by rwa [Bench.capabilities_step])
      fun t ht => hbinds t (List.mem_cons_of_mem _ ht))

end

end GpuRecorder
