import GpuRecorder.Proofs.Device.Driving
import GpuRecorder.Proofs.Recording.Scripts
import GpuRecorder.Proofs.Resource.LayoutShape

/-!
# What resolving a layout sends

Resolving a layout first asks the pools for sets, if it needs any, and then sends one script.
`Resolves` lists the four ways this can go, and `Delivers` what of it reaches the command buffer.
-/

namespace GpuRecorder.Recording

open Native Resource Device

/-! ## 1. Writing and pushing -/

/-- Writing sets is done on the device. -/
theorem confined_writeSets (useTemplates : Bool) (s : Shader) (l : Layout)
    (natives : List (Handle .descriptorSet)) :
    Confined none (writeSets useTemplates s l natives).calls := by
  have one (native : Handle .descriptorSet) (set : Nat) :
      Confined none (writeSet useTemplates s l native set).calls := by
    unfold writeSet
    split
    · simp [Confined, Script.calls, Request.entries, Call.target?]
    · simp only
      split
      · exact Confined.nil _
      · simp [Confined, Script.calls, Request.entries, Call.target?]
  unfold writeSets
  induction natives.zipIdx with
  | nil => exact Confined.nil _
  | cons x rest ih =>
    rw [List.map_cons, List.flatten_cons, Script.calls_append]
    exact (one x.1 x.2).append ih

/-- The pushes of some sets, those with a template. -/
def pushCommands (s : Shader) (l : Layout) (sets : List Nat) : List Command :=
  sets.filterMap fun set =>
    (s.template? set).map fun t => .pushDescriptors t s.layout set (l.infos set)

theorem calls_pushes (handle : Handle .commandBuffer) (s : Shader) (l : Layout) (sets : List Nat) :
    Script.calls (sets.map (pushSet handle s l)) =
      recordedCalls handle (pushCommands s l sets) := by
  induction sets with
  | nil => rfl
  | cons set sets ih =>
    rw [List.map_cons, ← List.singleton_append, Script.calls_append, ih]
    cases ht : s.template? set with
    | none => simp [pushSet, pushCommands, ht, Script.calls, Script.requests]
    | some t =>
      have hone : Script.calls [pushSet handle s l set] =
          recordedCalls handle [.pushDescriptors t s.layout set (l.infos set)] := by
        rw [pushSet, ht]
        rfl
      rw [hone, ← recordedCalls_append]
      simp [pushCommands, ht]

/-- A set without a template is reported when it is to be pushed. -/
theorem isSome_template_of_quiet {handle : Handle .commandBuffer} {s : Shader} {l : Layout}
    {sets : List Nat}
    (h : ∀ m, Effect.report m ∈ sets.map (pushSet handle s l) → m.severity ≠ .error) :
    ∀ set ∈ sets, (s.template? set).isSome := by
  intro set hset
  cases ht : s.template? set with
  | some t => rfl
  | none =>
    have hreport : Effect.report
        (.error s!"Shader '{s.name}' has no push descriptor template for set {set}") ∈
          sets.map (pushSet handle s l) := by
      refine List.mem_map.2 ⟨set, hset, ?_⟩
      rw [pushSet, ht]
    exact absurd rfl (h _ hreport)

theorem callsInto_writeSets (b : Handle .commandBuffer) (useTemplates : Bool) (s : Shader)
    (l : Layout) (natives : List (Handle .descriptorSet)) :
    callsInto b (writeSets useTemplates s l natives).calls = [] := by
  apply callsInto_eq_nil
  intro c hc heq
  rcases confined_writeSets _ _ _ _ c hc with h | h <;>
  · rw [h] at heq
    cases heq

theorem callsInto_of_madeByPools (b : Handle .commandBuffer) {calls : List Call}
    (h : ∀ c ∈ calls, madeByPools c) : callsInto b calls = [] := by
  apply callsInto_eq_nil
  intro c hc heq
  rw [target_of_madeByPools (h c hc)] at heq
  cases heq

/-! ## 2. Resolving -/

/-- How a layout can be resolved: the answer, the layout afterwards, and the script. -/
inductive Resolves {σ : Type} [Driver σ] (d : Device σ) (handle : Handle .commandBuffer)
    (p : Pipeline) (l : Layout) : Except Failure Unit → Layout → Script → Prop
  | nothing (hzero : sharedSets l p.shader = 0) : Resolves d handle p l (.ok ()) l []
  | pushed (hpos : 0 < sharedSets l p.shader) (hpush : d.capabilities.pushDescriptor = true) :
    Resolves d handle p l (.ok ()) l
      ((List.range (sharedSets l p.shader)).map (pushSet handle p.shader l))
  | refused {e : Failure} (hpos : 0 < sharedSets l p.shader)
      (hpush : d.capabilities.pushDescriptor = false)
      (hsets : (d.allocateSets (p.shader.nativeLayouts (sharedSets l p.shader))).answer =
        .error e) :
    Resolves d handle p l (.error e) l []
  | written {sets : List (Handle .descriptorSet)} {natives : List (Handle .descriptorSet)}
      (hpos : 0 < sharedSets l p.shader) (hpush : d.capabilities.pushDescriptor = false)
      (hsets : (d.allocateSets (p.shader.nativeLayouts (sharedSets l p.shader))).answer = .ok sets)
      (hnatives : natives = (l.storeSets (sets.take (sharedSets l p.shader))).nativeSets.take
        (sharedSets l p.shader)) :
    Resolves d handle p l (.ok ()) (l.storeSets (sets.take (sharedSets l p.shader)))
      (writeSets d.capabilities.descriptorUpdateTemplate p.shader l natives ++
        .record handle [.bindDescriptorSets p.point p.shader.layout 0 natives []])

/-- Every set of a layout has a place for its native set, so the native sets that are written are
the ones that were granted. -/
theorem natives_eq {l : Layout} (hsound : l.Sound) {p : Pipeline}
    {sets natives : List (Handle .descriptorSet)} (hcount : sets.length = sharedSets l p.shader)
    (hnatives : natives = (l.storeSets (sets.take (sharedSets l p.shader))).nativeSets.take
      (sharedSets l p.shader)) : natives = sets := by
  have hplaces : sets.length ≤ l.nativeSets.length := by
    rw [hcount, hsound.natives]
    exact Nat.min_le_left _ _
  rw [hnatives, ← hcount, List.take_of_length_le (Nat.le_refl _)]
  exact Layout.take_nativeSets_storeSets hplaces

theorem length_nativeLayouts {s : Shader} {count : Nat} (h : count ≤ s.sets.length) :
    (s.nativeLayouts count).length = count := by
  rw [Shader.nativeLayouts, List.length_map, List.length_take, Nat.min_eq_left h]

/-- Native sets have no part in how a set is written. -/
theorem writeSets_storeSets (useTemplates : Bool) (s : Shader) (l : Layout)
    (sets natives : List (Handle .descriptorSet)) :
    writeSets useTemplates s (l.storeSets sets) natives = writeSets useTemplates s l natives :=
  rfl

/-- The device once its pools were asked for the sets that a layout needs. -/
def pooled {σ : Type} [Driver σ] (d : Device σ) (p : Pipeline) (l : Layout) : Device σ :=
  if sharedSets l p.shader = 0 ∨ d.capabilities.pushDescriptor = true then d
  else (d.allocateSets (p.shader.nativeLayouts (sharedSets l p.shader))).device

theorem pooled_of_pos {σ : Type} [Driver σ] {d : Device σ} {p : Pipeline} {l : Layout}
    (hpos : 0 < sharedSets l p.shader) (hpush : d.capabilities.pushDescriptor = false) :
    pooled d p l = (d.allocateSets (p.shader.nativeLayouts (sharedSets l p.shader))).device :=
  if_neg (by simp [Nat.ne_of_gt hpos, hpush])

/-- Over any driver the pools are asked first, and then one script is sent. -/
theorem resolves_played {σ : Type} [Driver σ] (d : Device σ) (handle : Handle .commandBuffer)
    (p : Pipeline) (l : Layout) :
    let r := resolveLayout d handle p l
    ∃ script, Resolves d handle p l r.outcome.answer r.layout script ∧
      r.outcome.device = ((pooled d p l).play script).device := by
  have hnone (h : sharedSets l p.shader = 0 ∨ d.capabilities.pushDescriptor = true) :
      pooled d p l = d := if_pos h
  unfold resolveLayout
  simp only
  split
  · rename_i hzero
    rw [hnone (Or.inl hzero)]
    exact ⟨[], .nothing hzero, rfl⟩
  · rename_i hpos
    have hpos := Nat.pos_of_ne_zero hpos
    split
    · rename_i hpush
      rw [hnone (Or.inr hpush)]
      exact ⟨_, .pushed hpos hpush, rfl⟩
    · rename_i hpush
      have hpush := Bool.eq_false_iff.2 hpush
      rw [pooled_of_pos hpos hpush]
      split
      · rename_i e hsets
        exact ⟨[], .refused hpos hpush hsets, rfl⟩
      · rename_i sets hsets
        exact ⟨_, .written hpos hpush hsets rfl, rfl⟩

/-- The pools are asked first; then the script is sent, and what it reports comes out. -/
theorem resolves (d : Device Trace) (handle : Handle .commandBuffer) (p : Pipeline) (l : Layout) :
    let r := resolveLayout d handle p l
    ∃ pooled script, Resolves d handle p l r.outcome.answer r.layout script ∧
      (∀ c ∈ pooled, madeByPools c) ∧
      d.driver.next ≤ r.outcome.device.driver.next ∧
      r.outcome.device.driver.log.toList = d.driver.log.toList ++ (pooled ++ script.calls) ∧
      ∀ m, Effect.report m ∈ script → m ∈ r.outcome.messages := by
  have hplay (d : Device Trace) (script : Script) :
      (d.play script).device.driver.next = d.driver.next ∧
        (d.play script).device.driver.log.toList = d.driver.log.toList ++ script.calls := by
    rw [play_device, Script.play_trace, Trace.log_noteAll]
    exact ⟨rfl, rfl⟩
  unfold resolveLayout
  simp only
  -- No set is shared, sets are pushed, or native ones are asked for.
  split
  · rename_i hzero
    exact ⟨[], [], .nothing hzero, by simp, Nat.le_refl _, by simp, by simp⟩
  · rename_i hpos
    have hpos := Nat.pos_of_ne_zero hpos
    split
    · rename_i hpush
      refine ⟨[], _, .pushed hpos hpush, by simp, Nat.le_of_eq (hplay d _).1.symm, (hplay d _).2,
        fun m hm => ?_⟩
      exact List.mem_append_right _ (Script.mem_play_of_report _ hm)
    · rename_i hpush
      have hpush := Bool.eq_false_iff.2 hpush
      obtain ⟨hnext, pooled, hlog, hpooled⟩ : Trace.Appends (madeByPools ·) d.driver
          (d.allocateSets (p.shader.nativeLayouts (sharedSets l p.shader))).device.driver :=
        poolCalls_appends.allocate _ _ _
      split
      · rename_i e hsets
        exact ⟨pooled, [], .refused hpos hpush hsets, hpooled, hnext, by simpa using hlog, by simp⟩
      · rename_i sets hsets
        refine ⟨pooled, _, .written hpos hpush hsets rfl, hpooled, ?_, ?_, fun m hm => ?_⟩
        · rw [(hplay _ _).1]
          exact hnext
        · rw [(hplay _ _).2, hlog, List.append_assoc, writeSets_storeSets]
        · exact List.mem_append_right _ (Script.mem_play_of_report _ hm)

/-- Resolving a layout exchanges its native sets and nothing else. -/
theorem layout_resolveLayout {σ : Type} [Driver σ] (d : Device σ) (handle : Handle .commandBuffer)
    (p : Pipeline) (l : Layout) :
    (resolveLayout d handle p l).layout.shape = l.shape ∧
      (l.Sound → (resolveLayout d handle p l).layout.Sound) := by
  obtain ⟨_, hresolves, _⟩ : ∃ script, Resolves d handle p l
      (resolveLayout d handle p l).outcome.answer (resolveLayout d handle p l).layout script ∧ _ :=
    resolves_played d handle p l
  generalize (resolveLayout d handle p l).outcome.answer = answer,
    (resolveLayout d handle p l).layout = l' at hresolves ⊢
  cases hresolves with
  | written hpos hpush hsets hnatives => exact ⟨rfl, fun h => h.storeSets _⟩
  | _ => exact ⟨rfl, id⟩

/-! ## 3. Entries in the command buffer -/

/-- What a way of resolving records into the command buffer. -/
inductive Delivers (p : Pipeline) (l : Layout) : Except Failure Unit → List Command → Prop
  | nothing (hzero : sharedSets l p.shader = 0) : Delivers p l (.ok ()) []
  | pushed (hpos : 0 < sharedSets l p.shader) :
    Delivers p l (.ok ()) (pushCommands p.shader l (List.range (sharedSets l p.shader)))
  | refused (e : Failure) : Delivers p l (.error e) []
  | bound (hpos : 0 < sharedSets l p.shader) (natives : List (Handle .descriptorSet)) :
    Delivers p l (.ok ()) [.bindDescriptorSets p.point p.shader.layout 0 natives []]

theorem sort_delivers {p : Pipeline} {l : Layout} {answer : Except Failure Unit}
    {commands : List Command} (h : Delivers p l answer commands) :
    ∀ c ∈ commands, c.sort = .descriptors := by
  intro c hc
  cases h with
  | nothing hzero => cases hc
  | refused e => cases hc
  | pushed hpos =>
    obtain ⟨set, _, hset⟩ := List.mem_filterMap.1 hc
    obtain ⟨t, _, rfl⟩ := Option.map_eq_some_iff.1 hset
    rfl
  | bound hpos natives =>
    obtain rfl := List.mem_singleton.1 hc
    rfl

/-- What reaches the command buffer; it is something, unless no set is shared or an error comes
out. -/
theorem delivers (d : Device Trace) (handle : Handle .commandBuffer) (p : Pipeline) (l : Layout) :
    let r := resolveLayout d handle p l
    ∃ commands, Delivers p l r.outcome.answer commands ∧
      callsInto handle (d.driver.callsSince r.outcome.device.driver) =
        recordedCalls handle commands ∧
      (0 < sharedSets l p.shader → r.outcome.answer = .ok () →
        (∀ m ∈ r.outcome.messages, m.severity ≠ .error) → commands ≠ []) := by
  intro r
  obtain ⟨pooled, script, hresolves, hpooled, _, hlog, hreports⟩ :
      ∃ pooled script, Resolves d handle p l r.outcome.answer r.layout script ∧ _ :=
    resolves d handle p l
  -- What the pools do is done on the device, so only the script matters here.
  rw [Trace.callsSince_of_append hlog, callsInto_append, callsInto_of_madeByPools handle hpooled,
    List.nil_append]
  generalize r.outcome.answer = answer, r.layout = l' at hresolves ⊢
  cases hresolves with
  | nothing hzero => exact ⟨[], .nothing hzero, rfl, fun hpos => absurd hzero (Nat.ne_of_gt hpos)⟩
  | pushed hpos hpush =>
    refine ⟨_, .pushed hpos, ?_, fun _ _ hquiet => ?_⟩
    · rw [calls_pushes, callsInto_recordedCalls]
    · -- The first set is pushed.
      obtain ⟨t, ht⟩ := Option.isSome_iff_exists.1 <|
        isSome_template_of_quiet (fun m hm => hquiet m (hreports m hm)) 0 (List.mem_range.2 hpos)
      apply List.ne_nil_of_mem
      exact List.mem_filterMap.2 ⟨0, List.mem_range.2 hpos, by rw [ht]; rfl⟩
  | refused hpos hpush hsets => exact ⟨[], .refused _, rfl, fun _ hok => nomatch hok⟩
  | @written sets natives hpos hpush hsets hnatives =>
    refine ⟨_, .bound hpos natives, ?_, fun _ _ _ => List.cons_ne_nil _ _⟩
    -- The sets are written on the device; into the buffer goes that they are bound.
    rw [Script.calls_append, callsInto_append, callsInto_writeSets, List.nil_append,
      Script.calls_record, callsInto_recordedCalls]

/-- Only the given buffer is recorded into. -/
theorem growsOnly_resolveLayout (d : Device Trace) (handle : Handle .commandBuffer) (p : Pipeline)
    (l : Layout) :
    Trace.GrowsOnly (some handle) d.driver (resolveLayout d handle p l).outcome.device.driver := by
  obtain ⟨pooled, script, hresolves, hpooled, hnext, hlog, _⟩ :
      ∃ pooled script, Resolves d handle p l (resolveLayout d handle p l).outcome.answer
        (resolveLayout d handle p l).layout script ∧ _ :=
    resolves d handle p l
  refine ⟨hnext, _, hlog, Confined.append (fun c hc => Or.inl ?_) ?_⟩
  · exact target_of_madeByPools (hpooled c hc)
  · generalize (resolveLayout d handle p l).outcome.answer = answer,
      (resolveLayout d handle p l).layout = l' at hresolves
    cases hresolves with
    | nothing hzero => exact Confined.nil _
    | pushed hpos hpush =>
      rw [calls_pushes]
      exact Confined.recorded _ _
    | refused hpos hpush hsets => exact Confined.nil _
    | written hpos hpush hsets hnatives =>
      rw [Script.calls_append, Script.calls_record]
      refine Confined.append (fun c hc => Or.inl ?_) (Confined.recorded _ _)
      exact (confined_writeSets _ _ _ _ c hc).elim id id

end GpuRecorder.Recording
