import GpuRecorder.Proofs.Recording.Moved

/-!
# The names of the sets that are bound

A stream names descriptor sets only where it binds them, and only sets that have been made are
bound.  So their numbers are below the next one, and what a renaming does to later sets does not
concern the stream so far.
-/

namespace GpuRecorder

open Native Resource Recording Device

namespace Native

/-! ## 1. Numbered sets -/

/-- Every set that a call binds has been numbered. -/
def BindsBelow (next : Nat) (c : Call) : Prop := ∀ set ∈ boundSets c, set.number < next

theorem bindsBelow_of_nil {next : Nat} {c : Call} (h : boundSets c = []) : BindsBelow next c := by
  intro set hset
  rw [h] at hset
  cases hset

theorem bindsBelow_of_target {next : Nat} {c : Call} (h : c.target? = none) :
    BindsBelow next c := by
  apply bindsBelow_of_nil
  cases c with
  | request r =>
    cases r with
    | record b x => cases h
    | _ => rfl
  | _ => rfl

/-- The pools bind nothing. -/
theorem bindsBelow_of_pools {next : Nat} {t t' : Trace}
    (h : Trace.Appends (madeByPools ·) t t') : Trace.Appends (BindsBelow next) t t' :=
  h.mono fun _ hc => bindsBelow_of_target (target_of_madeByPools hc)

def Trace.BoundBelow (t : Trace) : Prop := ∀ c ∈ t.log.toList, BindsBelow t.next c

theorem Trace.BoundBelow.appends {t t' : Trace} (h : t.BoundBelow)
    (happends : Trace.Appends (BindsBelow t'.next) t t') : t'.BoundBelow := by
  obtain ⟨hnext, calls, hlog, hcalls⟩ := happends
  intro c hc
  rw [hlog] at hc
  rcases List.mem_append.1 hc with hc | hc
  · exact fun set hset => Nat.lt_of_lt_of_le (h c hc set hset) hnext
  · exact hcalls c hc

/-- A call stays as it is where it is when its own sets keep their names. -/
theorem Call.moved_eq_self {b : Handle .commandBuffer}
    {f : Handle .descriptorSet → Handle .descriptorSet} {c : Call} (into : c.target? = some b)
    (keeps : ∀ set ∈ boundSets c, f set = set) : c.moved b f = c := by
  cases c with
  | begin b' args =>
    cases into
    rfl
  | finish b' =>
    cases into
    rfl
  | request r =>
    cases r with
    | record b' x =>
      cases into
      cases x with
      | bindDescriptorSets point layout first sets offsets =>
        have hsets : sets.map f = sets := (List.map_congr_left keeps).trans (List.map_id sets)
        simp only [Call.moved, Request.moved, Command.renameSets, hsets]
      | _ => rfl
    | _ => cases into
  | _ => cases into

/-- What went into a command buffer, the same before and alike from there on, is alike as a
whole. -/
theorem GrownAlike.exists_perm_commandsOf {b : Handle .commandBuffer} {t u u' : Trace}
    (h : GrownAlike b b t u t u') (below : t.BoundBelow) :
    ∃ f : Equiv.Perm (Handle .descriptorSet),
      u'.commandsOf b = (u.commandsOf b).map (Call.moved b f) := by
  obtain ⟨calls, calls', hlog, hlog', hsame⟩ := h
  obtain ⟨f, hf, hfixed⟩ := hsame.exists_perm
  -- What was bound before has names that the permutation leaves alone.
  have hbefore : (callsInto b t.log.toList).map (Call.moved b f) = callsInto b t.log.toList := by
    refine (List.map_congr_left fun c hc => ?_).trans (List.map_id _)
    obtain ⟨hmem, hinto⟩ := List.mem_filter.1 hc
    refine Call.moved_eq_self (of_decide_eq_true hinto) fun set hset => ?_
    exact hfixed set (below c hmem set hset) (below c hmem set hset)
  refine ⟨f, ?_⟩
  calc callsInto b u'.log.toList
    _ = callsInto b t.log.toList ++ callsInto b calls' := by rw [hlog', callsInto_append]
    _ = (callsInto b t.log.toList ++ callsInto b calls).map (Call.moved b f) := by
      rw [List.map_append, hbefore, hf]
    _ = (callsInto b u.log.toList).map (Call.moved b f) := by rw [hlog, callsInto_append]

end Native

namespace Recording

/-! ## 2. What is recorded -/

theorem boundSets_pushes {b : Handle .commandBuffer} {x : Shader} {l : Layout} {sets : List Nat} :
    ∀ c ∈ recordedCalls b (pushCommands x l sets), boundSets c = [] := by
  intro c hc
  obtain ⟨r, hr, rfl⟩ := List.mem_map.1 hc
  obtain ⟨command, hcommand, hentry⟩ := List.mem_flatMap.1 hr
  obtain ⟨set, _, hset⟩ := List.mem_filterMap.1 hcommand
  obtain ⟨t, _, rfl⟩ := Option.map_eq_some_iff.1 hset
  rw [List.mem_singleton.1 hentry]
  rfl

/-- Resolving a layout binds sets that it was granted. -/
theorem bindsBelow_resolveLayout (d : Device Trace) (b : Handle .commandBuffer) (p : Pipeline)
    {l : Layout} (hsound : l.Sound) :
    let t := (resolveLayout d b p l).outcome.device.driver
    Trace.Appends (BindsBelow t.next) d.driver t := by
  intro t
  obtain ⟨script, tries, hresolves, htries, hle, hnext, hlog⟩ :
      ∃ script tries, Resolves d b p l (resolveLayout d b p l).outcome.answer
        (resolveLayout d b p l).layout script ∧ _ :=
    resolves_on_trace d b p l
  have hlength : (p.shader.nativeLayouts (sharedSets l p.shader)).length =
      sharedSets l p.shader :=
    length_nativeLayouts (Nat.min_le_right _ _)
  -- The script is played after the pools have been asked, and makes no handles.
  suffices hscript : ∀ c ∈ script.calls, BindsBelow (pooled d p l).driver.next c by
    refine ⟨hnext ▸ hle, _, hlog, fun c hc => ?_⟩
    rcases List.mem_append.1 hc with hc | hc
    · exact bindsBelow_of_target (target_of_madeByPools (htries c hc))
    · exact hnext ▸ hscript c hc
  generalize (resolveLayout d b p l).outcome.answer = answer,
    (resolveLayout d b p l).layout = l' at hresolves
  intro c hc
  cases hresolves with
  | nothing hzero => cases hc
  | pushed hpos hpush =>
    rw [calls_pushes] at hc
    exact bindsBelow_of_nil (boundSets_pushes c hc)
  | refused hpos hpush hsets => cases hc
  | @written sets natives hpos hpush hsets hnatives =>
    have hsome : p.shader.nativeLayouts (sharedSets l p.shader) ≠ [] :=
      List.length_pos_iff.1 (by rw [hlength]; exact hpos)
    obtain ⟨first, hnumbered, _, hbelow⟩ := granted_on_trace hsome hsets
    have hcount : sets.length = sharedSets l p.shader := by
      rw [hnumbered, Handle.length_freshList, hlength]
    rw [natives_eq hsound hcount hnatives, Script.calls_append, Script.calls_record] at hc
    rcases List.mem_append.1 hc with hc | hc
    · exact bindsBelow_of_target ((confined_writeSets _ _ _ _ c hc).elim id id)
    · obtain rfl := List.mem_singleton.1 hc
      intro set hset
      have hmem : set ∈ sets := hset
      rw [hnumbered] at hmem
      rw [pooled_of_pos hpos hpush]
      exact Nat.lt_of_lt_of_le (Handle.mem_freshList.1 hmem).2 hbelow

theorem CommandBuffer.bindsBelow_perform (c : CommandBuffer) (d : Device Trace) {s : Store}
    (sound : ∀ id, (s.layouts.get id).Sound) (op : Operation) :
    let t := (c.perform d s op).outcome.device.driver
    Trace.Appends (BindsBelow t.next) d.driver t := by
  apply c.driver_cases d s op (P := fun t => Trace.Appends (BindsBelow t.next) d.driver t)
  case noted =>
    intro calls plain
    refine ⟨Nat.le_refl _, calls, Trace.log_noteAll _ _, fun c hc => ?_⟩
    exact bindsBelow_of_nil (boundSets_eq_nil (uninvolved_of_plain (plain c hc)).binds)
  case pooled => exact fun t => bindsBelow_of_pools
  case resolved => exact fun b p id => bindsBelow_resolveLayout d b p ((sound id).refresh _ _)

end Recording

end GpuRecorder
