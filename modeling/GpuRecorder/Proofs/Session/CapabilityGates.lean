import GpuRecorder.Proofs.Recording.Reaching
import GpuRecorder.Proofs.Recording.SetUse
import GpuRecorder.Proofs.Session.ForgottenPast

/-!
# What capabilities gate

The capabilities in effect are those that the device reports, less what the settings disable.
`AllowedBy` says what each call needs of them.  Over a whole run, with any shaders, any number of
command buffers and failures switched on and off, every call that is written down is allowed.
-/

namespace GpuRecorder.Native

open Device

/-! ## 1. What a call needs -/

/-- A push needs push descriptors, and where these are in effect sets are neither written nor
bound; writing through a template needs update templates; an indirect draw of more than one record
needs multi-draw. -/
def Call.AllowedBy (caps : Capabilities) : Call → Prop
  | .request (.record _ (.pushDescriptors _ _ _ _)) => caps.pushDescriptor = true
  | .request (.record _ (.bindDescriptorSets _ _ _ _ _)) => caps.pushDescriptor = false
  | .request (.writeDescriptors _) => caps.pushDescriptor = false
  | .request (.updateSet _ _ _) =>
    caps.pushDescriptor = false ∧ caps.descriptorUpdateTemplate = true
  | .request (.record _ (.drawIndirect _ count _))
  | .request (.record _ (.drawIndexedIndirect _ count _)) =>
    caps.multiDrawIndirect = true ∨ count = 1
  | _ => True

/-- A call that allocates, writes or binds descriptor sets. -/
def Call.concernsSets : Call → Bool
  | .allocateDescriptorSets _ _ _ => true
  | c => writesSets c || bindsSets c

section

variable {caps : Capabilities}

theorem allowed_of_madeByPools {c : Call} (h : madeByPools c) : c.AllowedBy caps := by
  cases c with
  | request r => cases h
  | _ => trivial

/-- No command of another sort needs anything. -/
theorem allowed_of_sort {x : Command} (hdescriptors : x.sort ≠ .descriptors)
    (hdraw : x.sort ≠ .draw) (b : Handle .commandBuffer) :
    (Call.request (.record b x)).AllowedBy caps := by
  cases x with
  | pushDescriptors template layout set infos => exact absurd rfl hdescriptors
  | bindDescriptorSets point layout first sets offsets => exact absurd rfl hdescriptors
  | drawIndirect records count stride => exact absurd rfl hdraw
  | drawIndexedIndirect records count stride => exact absurd rfl hdraw
  | _ => trivial

end

end GpuRecorder.Native

namespace GpuRecorder.Recording

open Draw Native Resource Device

namespace CommandBuffer

/-! ## 2. Draws -/

theorem allowed_indirect {caps : Capabilities} (start : BufferPoint) (i : Indirect)
    (b : Handle .commandBuffer) :
    ∀ x ∈ indirectCommands caps.multiDrawIndirect start i,
      (Call.request (.record b x)).AllowedBy caps := by
  intro x hx
  have one (records : BufferPoint) {count : Nat}
      (h : caps.multiDrawIndirect = true ∨ count = 1) :
      (Call.request (.record b (if i.indexed then .drawIndexedIndirect records count i.stride
        else .drawIndirect records count i.stride))).AllowedBy caps := by
    cases i.indexed <;> exact h
  unfold indirectCommands at hx
  simp only at hx
  split at hx
  · rename_i hmulti
    obtain rfl := List.mem_singleton.1 hx
    exact one _ (Or.inl hmulti)
  · -- One call per record.
    obtain ⟨record, _, rfl⟩ := List.mem_map.1 hx
    exact one _ (Or.inr rfl)

theorem allowed_direct {caps : Capabilities} (indexed : Bool) (p : Parameters)
    (b : Handle .commandBuffer) :
    (Call.request (.record b (directCommand indexed p))).AllowedBy caps := by
  cases indexed <;> trivial

/-! ## 3. Scripts -/

variable {c : CommandBuffer} {d : Device Trace} {s : Store}

theorem allowed_draw (id : ResourceId) :
    ∀ call ∈ (c.draw d.capabilities.multiDrawIndirect s id).2.calls,
      call.AllowedBy d.capabilities := by
  have hdraws {commands : List Command} (hsort : ∀ x ∈ commands, x.sort = .draw)
      (b : Handle .commandBuffer)
      (hallowed : ∀ x ∈ commands, (Call.request (.record b x)).AllowedBy d.capabilities) :
      ∀ call ∈ (Script.record b commands).calls, call.AllowedBy d.capabilities := by
    intro call hcall
    rw [Script.calls_record] at hcall
    obtain ⟨x, hx, rfl⟩ := mem_recordedCalls_of_sort
      (fun x hx => by rw [hsort x hx]; decide) hcall
    exact hallowed x hx
  cases hn : c.native with
  | none =>
    rw [draw, withNative_of_not_ready hn]
    exact fun call hcall => absurd hcall List.not_mem_nil
  | some n =>
    rw [draw, withNative_of_ready hn]
    split
    · exact fun call hcall => absurd hcall List.not_mem_nil
    · simp only
      split
      · rename_i i _
        exact hdraws (sort_indirect _ _ _) _ (allowed_indirect _ i _)
      · refine hdraws (fun x hx => ?_) _ fun x hx => ?_ <;>
        · obtain rfl := List.mem_singleton.1 hx
          first | exact sort_direct _ _ | exact allowed_direct _ _ _

theorem allowed_scripted {op : Operation} {r : CommandBuffer × Script}
    (h : c.scripted? d s op = some r) : ∀ call ∈ r.2.calls, call.AllowedBy d.capabilities := by
  by_cases hdraw : ∃ id, op = .draw id
  · obtain ⟨id, rfl⟩ := hdraw
    obtain rfl := Option.some.inj h
    exact allowed_draw id
  · -- Nothing else records draws, and no script records descriptors.
    have hsorts : ∀ sort ∈ op.sorts, sort ≠ .descriptors ∧ sort ≠ .draw := by
      intro sort hsort
      refine ⟨fun heq => descriptors_not_mem_sorts h (heq ▸ hsort), ?_⟩
      rintro rfl
      cases op <;> simp [Operation.sorts] at hsort
      exact hdraw ⟨_, rfl⟩
    intro call hcall
    rcases sends_scripted h with hnone | ⟨b, commands, _, hcalls, hsent⟩
    · rw [hnone] at hcall
      cases hcall
    · rw [hcalls] at hcall
      obtain ⟨x, hx, x', rfl, hsort⟩ := sort_of_mem_recordedCalls hcall
      obtain ⟨hdescriptors, hdraw⟩ := hsorts x.sort (hsent x hx)
      exact allowed_of_sort (hsort ▸ hdescriptors) (hsort ▸ hdraw) b

end CommandBuffer

/-! ## 4. Layouts -/

/-- Sets are written through templates only where these may be used. -/
theorem allowed_writeSets {caps : Capabilities} (hpush : caps.pushDescriptor = false) (s : Shader)
    (l : Layout) (natives : List (Handle .descriptorSet)) :
    ∀ call ∈ (writeSets caps.descriptorUpdateTemplate s l natives).calls,
      call.AllowedBy caps := by
  have one (native : Handle .descriptorSet) (set : Nat) :
      ∀ call ∈ (writeSet caps.descriptorUpdateTemplate s l native set).calls,
        call.AllowedBy caps := by
    unfold writeSet
    split
    · rename_i template htemplate
      intro call hcall
      obtain rfl : call = _ := by simpa [Script.calls, Request.entries] using hcall
      exact ⟨hpush, (Option.filter_eq_some_iff.1 htemplate).2⟩
    · simp only
      split
      · exact fun call hcall => absurd hcall List.not_mem_nil
      · intro call hcall
        obtain rfl : call = _ := by simpa [Script.calls, Request.entries] using hcall
        exact hpush
  unfold writeSets
  induction natives.zipIdx with
  | nil => exact fun call hcall => absurd hcall List.not_mem_nil
  | cons x rest ih =>
    rw [List.map_cons, List.flatten_cons, Script.calls_append]
    intro call hcall
    exact (List.mem_append.1 hcall).elim (one x.1 x.2 call) (ih call)

theorem allowed_pushes {caps : Capabilities} (hpush : caps.pushDescriptor = true)
    (b : Handle .commandBuffer) (s : Shader) (l : Layout) (sets : List Nat) :
    ∀ call ∈ Script.calls (sets.map (pushSet b s l)),
      call.AllowedBy caps ∧ call.concernsSets = false := by
  intro call hcall
  rw [calls_pushes] at hcall
  obtain ⟨r, hr, rfl⟩ := List.mem_map.1 hcall
  obtain ⟨x, hx, hentry⟩ := List.mem_flatMap.1 hr
  obtain ⟨set, _, hset⟩ := List.mem_filterMap.1 hx
  obtain ⟨template, _, rfl⟩ := Option.map_eq_some_iff.1 hset
  obtain rfl := List.mem_singleton.1 hentry
  exact ⟨hpush, rfl⟩

/-- A call that is allowed, and concerns no sets where descriptors are pushed. -/
def Gated (caps : Capabilities) (call : Call) : Prop :=
  call.AllowedBy caps ∧ (caps.pushDescriptor = true → call.concernsSets = false)

theorem gated_resolveLayout (d : Device Trace) (b : Handle .commandBuffer) (p : Pipeline)
    (l : Layout) :
    Trace.Appends (Gated d.capabilities) d.driver
      (resolveLayout d b p l).outcome.device.driver := by
  obtain ⟨script, hresolves, hdevice⟩ : ∃ script, Resolves d b p l
      (resolveLayout d b p l).outcome.answer (resolveLayout d b p l).layout script ∧ _ :=
    resolves_played d b p l
  -- Where descriptors are pushed the pools are not asked.
  have hpooled : Trace.Appends (Gated d.capabilities) d.driver (pooled d p l).driver := by
    unfold pooled
    split
    · exact .refl _
    · rename_i hneeded
      refine (poolCalls_appends.allocate _ _ _).mono fun call hcall => ?_
      exact ⟨allowed_of_madeByPools hcall, fun hpush => absurd (Or.inr hpush) hneeded⟩
  suffices hscript : ∀ call ∈ script.calls, Gated d.capabilities call by
    rw [hdevice, play_device, Script.play_trace]
    exact hpooled.trans ⟨Nat.le_refl _, script.calls, Trace.log_noteAll _ _, hscript⟩
  generalize (resolveLayout d b p l).outcome.answer = answer,
    (resolveLayout d b p l).layout = l' at hresolves
  cases hresolves with
  | nothing hzero => exact fun call hcall => absurd hcall List.not_mem_nil
  | refused hpos hpush hsets => exact fun call hcall => absurd hcall List.not_mem_nil
  | pushed hpos hpush =>
    intro call hcall
    obtain ⟨hallowed, hsets⟩ := allowed_pushes hpush b p.shader l _ call hcall
    exact ⟨hallowed, fun _ => hsets⟩
  | written hpos hpush hsets hnatives =>
    have hnever : d.capabilities.pushDescriptor ≠ true := by simp [hpush]
    intro call hcall
    refine ⟨?_, fun h => absurd h hnever⟩
    rw [Script.calls_append, Script.calls_record] at hcall
    rcases List.mem_append.1 hcall with hwrite | hbind
    · exact allowed_writeSets hpush p.shader l _ call hwrite
    · obtain rfl : call = _ := by simpa [recordedCalls, Request.entries] using hbind
      exact hpush

/-! ## 5. Operations -/

namespace CommandBuffer

theorem gated_bindLayout (c : CommandBuffer) (d : Device Trace) (s : Store) (id : ResourceId) :
    Trace.Appends (Gated d.capabilities) d.driver
      (c.perform d s (.bindLayout id)).outcome.device.driver := by
  show Trace.Appends _ _ (c.bindLayout d s id).outcome.device.driver
  have hends := c.endsBinding d s id
  generalize c.bindLayout d s id = result at hends ⊢
  cases hends with
  | left why => exact .refl _
  | @resolved b p r ready pipeline fresh fits done =>
    rw [done]
    exact gated_resolveLayout d b p _

theorem allowed_perform (c : CommandBuffer) (d : Device Trace) (s : Store) (op : Operation) :
    Trace.Appends (Call.AllowedBy d.capabilities) d.driver
      (c.perform d s op).outcome.device.driver := by
  have note (call : Call) (h : call.AllowedBy d.capabilities) :
      Trace.Appends (Call.AllowedBy d.capabilities) d.driver (d.driver.note call) :=
    .note (Nat.le_refl _) rfl h
  cases hscript : c.scripted? d s op with
  | some r =>
    rw [(perform_scripted hscript).2, Script.play_trace]
    exact ⟨Nat.le_refl _, r.2.calls, Trace.log_noteAll _ _, allowed_scripted hscript⟩
  | none =>
    cases op with
    | setUp kind queue =>
      show Trace.Appends _ _ (c.setUp d kind queue).outcome.device.driver
      rw [(setUp_spec c d kind queue).1, ← driver_release c d]
      exact (poolCalls_appends.request _ _ kind.level queue.family).mono
        fun _ => allowed_of_madeByPools
    | release =>
      show Trace.Appends _ _ (c.release d).outcome.device.driver
      rw [driver_release]
      exact .refl _
    | begin pass subpass framebuffer =>
      simp only [perform, asked, CommandBuffer.begin]
      split
      · exact .refl _
      · split
        · exact .refl _
        · exact note _ trivial
    | finish =>
      simp only [perform, asked, finish]
      split
      · exact .refl _
      · exact note _ trivial
    | bindLayout id => exact (c.gated_bindLayout d s id).mono fun _ h => h.1
    | _ => cases hscript

end CommandBuffer

end GpuRecorder.Recording

/-! ## 6. Runs -/

namespace GpuRecorder.Session

open Native Resource Recording Device

/-- Every call that is written down is allowed. -/
def LogAllowed (s : Session Trace) : Prop :=
  ∀ call ∈ s.device.driver.log.toList, call.AllowedBy s.device.capabilities

theorem LogAllowed.appends {s s' : Session Trace} (h : s.LogAllowed)
    (hcaps : s'.device.capabilities = s.device.capabilities)
    (happends : Trace.Appends (Call.AllowedBy s.device.capabilities) s.device.driver
      s'.device.driver) : s'.LogAllowed := by
  obtain ⟨_, calls, hlog, hcalls⟩ := happends
  unfold LogAllowed
  rw [hlog, hcaps]
  intro call hcall
  exact (List.mem_append.1 hcall).elim (h call) (hcalls call)

theorem logAllowed_after {s : Session Trace} (h : s.LogAllowed) (e : Event) :
    (s.after e).LogAllowed := by
  have hpools {t : Trace} (happends : Trace.Appends (madeByPools ·) s.device.driver t) :
      Trace.Appends (Call.AllowedBy s.device.capabilities) s.device.driver t :=
    happends.mono fun _ => allowed_of_madeByPools
  apply after_cases (P := LogAllowed)
  case stays => exact h
  case perform =>
    intro n c op found
    exact h.appends (CommandBuffer.capabilities_perform c _ _ op) (c.allowed_perform _ _ op)
  case change => exact fun c _ => h.appends rfl (.refl _)
  case create => exact h.appends rfl (.refl _)
  case submit => exact fun queue buffers fence => h.appends rfl (.note (Nat.le_refl _) rfl trivial)
  case resetSets => exact h.appends rfl (hpools (poolCalls_appends.reset _ _))
  case allocateSets =>
    exact fun layouts => h.appends rfl (hpools (poolCalls_appends.allocate _ _ _))
  case switch =>
    intro x
    cases x with
    | clearLog => exact fun call hcall => absurd hcall List.not_mem_nil
    | _ => exact h

theorem logAllowed_through (available : Capabilities) (settings : Settings)
    (events : List Event) : ((start available settings).through events).LogAllowed :=
  through_induction (P := LogAllowed) (fun _ hcall => absurd hcall List.not_mem_nil)
    (fun _ e h => logAllowed_after h e) events

/-- Along every run, whatever the device reports and the settings disable: the calls that are
written down need nothing that is not in effect, and where push descriptors are in effect binding
a layout neither allocates nor writes nor binds a set. -/
theorem calls_need_capabilities_in_effect (available : Capabilities) (settings : Settings)
    (events : List Event) :
    let caps := available.withOverrides settings.capabilities
    let s := (start available settings).through events
    (∀ call ∈ s.device.driver.log.toList, call.AllowedBy caps) ∧
      (caps.pushDescriptor = true → ∀ n id,
        ∀ call ∈ s.device.driver.callsSince
          (s.perform n (.bindLayout id)).session.device.driver, call.concernsSets = false) := by
  intro caps s
  have hcaps : s.device.capabilities = caps := capabilities_through available settings events
  refine ⟨?_, fun hpush n id => ?_⟩
  · rw [← hcaps]
    exact logAllowed_through available settings events
  · unfold perform
    split
    · rw [Trace.callsSince_of_log_eq rfl]
      exact fun call hcall => absurd hcall List.not_mem_nil
    · rename_i c _
      obtain ⟨_, calls, hlog, hcalls⟩ := c.gated_bindLayout s.device s.store id
      rw [Trace.callsSince_of_append hlog]
      intro call hcall
      exact (hcalls call hcall).2 (by rw [hcaps]; exact hpush)

end GpuRecorder.Session
