import GpuRecorder.Proofs.Device.Asking
import GpuRecorder.Proofs.Recording.BindLayout
import GpuRecorder.Proofs.Recording.Deliveries
import GpuRecorder.Proofs.Recording.SetUse

/-!
# What a set was last supplied with

A recording supplies a set with data that is pushed, or by binding a native set; the contents are
then the data, or all that was ever written into the native set.  On a trace every native set that
is written into was handed out just before, so what is supplied is never written over.
-/

namespace GpuRecorder.Recording

open Native Resource Device

/-! ## 1. Reading calls -/

/-- What a set is supplied with: data, or a native set. -/
inductive Supply where
  | data (template : UpdateTemplate) (infos : List DescriptorInfo)
  | native (handle : Handle .descriptorSet)
  deriving DecidableEq, Repr

/-- What a call supplies the set of a number with. -/
def suppliedBy? (set : Nat) : Call → Option Supply
  | .request (.record _ (.bindDescriptorSets _ _ first natives _)) =>
    if first ≤ set then natives[set - first]?.map .native else none
  | .request (.record _ (.pushDescriptors template _ set' infos)) =>
    if set' = set then some (.data template infos) else none
  | _ => none

/-- What the open recording last supplied the set with; a recording that is opened has not supplied
it yet. -/
def supplyAfter (set : Nat) (last : Option Supply) : Call → Option Supply
  | .begin _ _ => none
  | c => (suppliedBy? set c).or last

def lastSupply (set : Nat) (calls : List Call) : Option Supply :=
  calls.foldl (supplyAfter set) none

/-- What a call writes into a native set, read as the set of a number. -/
def writtenInto (p : Pipeline) (set : Nat) (native : Handle .descriptorSet) :
    Call → List Delivery
  | .request (.updateSet native' template infos) =>
    if native' = native ∧ p.shader.template? set = some template then
      Delivery.ofInfos set (p.shader.slots set) infos
    else []
  | .request (.writeDescriptors writes) =>
    (writes.filter fun w => w.set = native).map fun w =>
      ⟨set, ⟨w.binding, w.element, w.type⟩, w.payload⟩
  | _ => []

/-- The contents of a supply for the set of a number: the data that was pushed, or all that some
calls write into the native set. -/
def contents (p : Pipeline) (set : Nat) (calls : List Call) : Supply → List Delivery
  | .data template infos =>
    if p.shader.template? set = some template then
      Delivery.ofInfos set (p.shader.slots set) infos
    else []
  | .native handle => calls.flatMap (writtenInto p set handle)

theorem supplyAfter_of_ne_begin {set : Nat} {c : Call} (h : ∀ b args, c ≠ .begin b args)
    (last : Option Supply) : supplyAfter set last c = (suppliedBy? set c).or last := by
  cases c with
  | begin b args => exact absurd rfl (h b args)
  | _ => rfl

theorem writtenInto_eq_nil {p : Pipeline} {set : Nat} {native : Handle .descriptorSet} {c : Call}
    (h : native ∉ updatedSets c) : writtenInto p set native c = [] := by
  cases c with
  | request r =>
    cases r with
    | updateSet native' template infos =>
      have hne : native' ≠ native := by
        rintro rfl
        exact h List.mem_cons_self
      exact if_neg fun hboth => hne hboth.1
    | writeDescriptors writes =>
      have hnone : (writes.filter fun w => w.set = native) = [] := by
        rw [List.filter_eq_nil_iff]
        intro w hw heq
        exact h (List.mem_map.2 ⟨w, hw, by simpa using heq⟩)
      rw [writtenInto, hnone, List.map_nil]
    | record b x => rfl
  | _ => rfl

theorem flatMap_writtenInto_eq_nil {p : Pipeline} {set : Nat} {native : Handle .descriptorSet}
    {calls : List Call} (h : ∀ c ∈ calls, native ∉ updatedSets c) :
    calls.flatMap (writtenInto p set native) = [] :=
  List.flatMap_eq_nil_iff.2 fun c hc => writtenInto_eq_nil (h c hc)

/-- A native set that is bound in one place takes what is delivered to that place. -/
theorem writtenInto_eq_deliveredBy {p : Pipeline} {set : Nat} {native : Handle .descriptorSet}
    {c : Call} (h : writesSets c) (buffer : Handle .commandBuffer) :
    writtenInto p set native c = deliveredBy buffer p [(native, set)] c := by
  have hbound (native' : Handle .descriptorSet) :
      boundAt [(native, set)] native' = if native' = native then [set] else [] := by
    rw [boundAt, List.filter_cons]
    by_cases heq : native' = native
    · simp [heq]
    · simp [heq, Ne.symm heq]
  cases c with
  | request r =>
    cases r with
    | updateSet native' template infos =>
      rw [deliveredBy, hbound, writtenInto]
      by_cases heq : native' = native
      · simp [heq]
      · simp [heq]
    | writeDescriptors writes =>
      rw [deliveredBy, writtenInto]
      clear h
      induction writes with
      | nil => rfl
      | cons w writes ih =>
        rw [List.flatMap_cons, ← ih, hbound, List.filter_cons]
        by_cases heq : w.set = native
        · simp [heq]
        · simp [heq]
    | record b x => cases h
  | _ => cases h

theorem writtenInto_writeSet {p : Pipeline} (useTemplates : Bool) (l : Layout)
    (native : Handle .descriptorSet) (set : Nat) :
    (writeSet useTemplates p.shader l native set).calls.flatMap (writtenInto p set native) =
      Delivery.ofInfos set (p.shader.slots set) (l.infos set) := by
  have hbound : boundAt [(native, set)] native = [set] := by simp [boundAt]
  have hcalls : ∀ c ∈ (writeSet useTemplates p.shader l native set).calls,
      writtenInto p set native c = deliveredBy .null p [(native, set)] c :=
    fun c hc => writtenInto_eq_deliveredBy (writesSets_writeSet _ _ _ _ _ c hc).1 _
  rw [List.flatMap_congr hcalls]
  exact deliveredBy_writeSet useTemplates l hbound

/-- Each of some different native sets gets the data of its own set. -/
theorem writtenInto_writeEach {p : Pipeline} (useTemplates : Bool) (l : Layout)
    {xs : List (Handle .descriptorSet × Nat)} (hkeys : (xs.map (·.1)).Nodup)
    {x : Handle .descriptorSet × Nat} (hx : x ∈ xs) :
    (Script.calls (xs.map fun (native, set) =>
      writeSet useTemplates p.shader l native set).flatten).flatMap (writtenInto p x.2 x.1) =
        Delivery.ofInfos x.2 (p.shader.slots x.2) (l.infos x.2) := by
  -- The set is the first one, and the others are not written into it, or it is among the others.
  induction xs with
  | nil => cases hx
  | cons y rest ih =>
    rw [List.map_cons, List.nodup_cons] at hkeys
    obtain ⟨hy, hrest⟩ := hkeys
    rw [List.map_cons, List.flatten_cons, Script.calls_append, List.flatMap_append]
    rcases List.mem_cons.1 hx with rfl | hx
    · rw [writtenInto_writeSet, flatMap_writtenInto_eq_nil fun c hc hmem => ?_, List.append_nil]
      exact hy ((writesSets_writeEach _ _ _ _ c hc).2 _ hmem)
    · rw [ih hrest hx, flatMap_writtenInto_eq_nil fun c hc hmem => ?_, List.nil_append]
      rw [← (writesSets_writeSet _ _ _ _ _ c hc).2 _ hmem] at hy
      exact hy (List.mem_map_of_mem hx)

theorem writtenInto_writeSets {p : Pipeline} (useTemplates : Bool) (l : Layout)
    {natives : List (Handle .descriptorSet)} (hnodup : natives.Nodup) {set : Nat}
    {native : Handle .descriptorSet} (hnative : natives[set]? = some native) :
    (writeSets useTemplates p.shader l natives).calls.flatMap (writtenInto p set native) =
      Delivery.ofInfos set (p.shader.slots set) (l.infos set) := by
  have hkeys : (natives.zipIdx.map (·.1)).Nodup := by rwa [List.zipIdx_map_fst]
  exact writtenInto_writeEach useTemplates l hkeys (List.mk_mem_zipIdx_iff_getElem?.2 hnative)

/-! ## 2. What a delivery supplies -/

theorem lastSupply_append {set : Nat} (calls more : List Call) :
    lastSupply set (calls ++ more) = more.foldl (supplyAfter set) (lastSupply set calls) :=
  List.foldl_append

/-- Of some pushes the one of the set decides, if the set has a template to be pushed through. -/
theorem foldl_supplyAfter_pushes (b : Handle .commandBuffer) (s : Shader) (l : Layout)
    (count set : Nat) (last : Option Supply) :
    (recordedCalls b (pushCommands s l (List.range count))).foldl (supplyAfter set) last =
      if set < count then ((s.template? set).map (.data · (l.infos set))).or last else last := by
  induction count with
  | zero => rfl
  | succ count ih =>
    have hcommands : pushCommands s l (List.range (count + 1)) =
        pushCommands s l (List.range count) ++ pushCommands s l [count] := by
      rw [pushCommands, List.range_succ, List.filterMap_append]
      rfl
    rw [hcommands, recordedCalls_append, List.foldl_append, ih]
    by_cases heq : set = count
    · subst heq
      cases ht : s.template? set <;>
        simp [pushCommands, ht, recordedCalls, Request.entries, supplyAfter, suppliedBy?]
    · have hlt : set < count + 1 ↔ set < count := by omega
      cases ht : s.template? count <;>
        simp [pushCommands, ht, recordedCalls, Request.entries, supplyAfter, suppliedBy?, hlt,
          Ne.symm heq]

/-- The native sets that are written into between two moments were handed out between them. -/
structure WritesNew (t t' : Trace) : Prop where
  next_le : t.next ≤ t'.next
  writes : ∀ c ∈ t.callsSince t', ∀ h ∈ updatedSets c, t.next ≤ h.number ∧ h.number < t'.next

theorem WritesNew.of_appends {t t' : Trace} {Q : Call → Prop} (h : Trace.Appends Q t t')
    (hQ : ∀ c, Q c → updatedSets c = []) : WritesNew t t' := by
  obtain ⟨hnext, calls, hlog, hcalls⟩ := h
  refine ⟨hnext, fun c hc set hset => ?_⟩
  rw [Trace.callsSince_of_append hlog] at hc
  rw [hQ c (hcalls c hc)] at hset
  cases hset

theorem updatedSets_of_madeByPools {c : Call} (h : madeByPools c) : updatedSets c = [] := by
  cases c with
  | request r => cases h
  | _ => rfl

theorem updatedSets_of_mem_recordedCalls {b : Handle .commandBuffer} {commands : List Command}
    {c : Call} (h : c ∈ recordedCalls b commands) : updatedSets c = [] := by
  obtain ⟨x, _, x', rfl, _⟩ := sort_of_mem_recordedCalls h
  rfl

section

variable {d : Device Trace} {b : Handle .commandBuffer} {p : Pipeline} {l : Layout}

theorem next_resolveLayout (d : Device Trace) (b : Handle .commandBuffer) (p : Pipeline)
    (l : Layout) :
    (resolveLayout d b p l).outcome.device.driver.next = (pooled d p l).driver.next := by
  obtain ⟨script, _, hdevice⟩ :
      ∃ script, Resolves d b p l _ _ script ∧ _ := resolves_played d b p l
  rw [hdevice, play_device, Script.play_trace]
  rfl

/-- The native sets that are written are numbered from the next number on. -/
theorem fresh_natives (hsound : l.Sound) (hpos : 0 < sharedSets l p.shader)
    (hpush : d.capabilities.pushDescriptor = false) {sets natives : List (Handle .descriptorSet)}
    (hsets : (d.allocateSets (p.shader.nativeLayouts (sharedSets l p.shader))).answer = .ok sets)
    (hnatives : natives = (l.storeSets (sets.take (sharedSets l p.shader))).nativeSets.take
      (sharedSets l p.shader)) (b : Handle .commandBuffer) :
    ∃ first, natives = Handle.freshList first (sharedSets l p.shader) ∧ d.driver.next ≤ first ∧
      first + sharedSets l p.shader ≤ (resolveLayout d b p l).outcome.device.driver.next := by
  have hlength : (p.shader.nativeLayouts (sharedSets l p.shader)).length = sharedSets l p.shader :=
    length_nativeLayouts (Nat.min_le_right _ _)
  have hsome : p.shader.nativeLayouts (sharedSets l p.shader) ≠ [] := by
    rw [← List.length_pos_iff, hlength]
    exact hpos
  obtain ⟨first, rfl, hfirst, hlast⟩ := granted_on_trace hsome hsets
  rw [hlength] at hnatives hlast
  refine ⟨first, natives_eq hsound (Handle.length_freshList _ _) hnatives, hfirst, ?_⟩
  have hasked : pooled d p l =
      (d.allocateSets (p.shader.nativeLayouts (sharedSets l p.shader))).device :=
    if_neg (by simp [Nat.ne_of_gt hpos, hpush])
  rw [next_resolveLayout, hasked]
  exact hlast

theorem writesNew_resolveLayout (d : Device Trace) (b : Handle .commandBuffer) (p : Pipeline)
    (hsound : l.Sound) :
    WritesNew d.driver (resolveLayout d b p l).outcome.device.driver := by
  obtain ⟨pooled, script, hresolves, hpooled, hnext, hlog, _⟩ :
      ∃ pooled script, Resolves d b p l _ _ script ∧ _ := resolves d b p l
  refine ⟨hnext, fun c hc h hh => ?_⟩
  rw [Trace.callsSince_of_append hlog] at hc
  rcases List.mem_append.1 hc with hc | hc
  · rw [updatedSets_of_madeByPools (hpooled c hc)] at hh
    cases hh
  · generalize (resolveLayout d b p l).outcome.answer = answer,
      (resolveLayout d b p l).layout = l' at hresolves
    cases hresolves with
    | nothing hzero => cases hc
    | pushed hpos hpush =>
      rw [calls_pushes] at hc
      rw [updatedSets_of_mem_recordedCalls hc] at hh
      cases hh
    | refused hpos hpush hsets => cases hc
    | @written sets natives hpos hpush hsets hnatives =>
      obtain ⟨first, rfl, hfirst, hlast⟩ := fresh_natives hsound hpos hpush hsets hnatives b
      rw [Script.calls_append, Script.calls_record] at hc
      rcases List.mem_append.1 hc with hc | hc
      · have hbounds := Handle.mem_freshList.1 ((writesSets_writeSets _ _ _ _ c hc).2 h hh)
        omega
      · rw [updatedSets_of_mem_recordedCalls hc] at hh
        cases hh

/-- The set of a number is supplied with these contents, which nothing numbered from `next` on can
change. -/
def HasContents (p : Pipeline) (set : Nat) (history : List Call) (next : Nat)
    (supply : Option Supply) (xs : List Delivery) : Prop :=
  ∃ x, supply = some x ∧ (∀ native, x = .native native → native.number < next) ∧
    contents p set history x = xs

/-- Different native sets, new ones, that are written and bound: each has the data of its set. -/
theorem hasContents_written {natives : List (Handle .descriptorSet)} (hnodup : natives.Nodup)
    {set : Nat} {native : Handle .descriptorSet} (hnative : natives[set]? = some native)
    {history pooled : List Call} (hnew : ∀ c ∈ history, native ∉ updatedSets c)
    (hpooled : ∀ c ∈ pooled, madeByPools c) {next : Nat} (hnext : native.number < next)
    (useTemplates : Bool) (last : Option Supply) :
    let script := writeSets useTemplates p.shader l natives ++
      .record b [.bindDescriptorSets p.point p.shader.layout 0 natives []]
    HasContents p set (history ++ (pooled ++ script.calls)) next
      ((callsInto b script.calls).foldl (supplyAfter set) last)
      (Delivery.ofInfos set (p.shader.slots set) (l.infos set)) := by
  refine ⟨.native native, ?_, ?_, ?_⟩
  · rw [Script.calls_append, Script.calls_record, callsInto_append, callsInto_writeSets,
      List.nil_append, callsInto_recordedCalls]
    simp [recordedCalls, Request.entries, supplyAfter, suppliedBy?, hnative]
  · rintro _ ⟨⟩
    exact hnext
  · -- Only the calls that write the sets concern it.
    have hpools : pooled.flatMap (writtenInto p set native) = [] := by
      apply flatMap_writtenInto_eq_nil
      intro c hc hmem
      rw [updatedSets_of_madeByPools (hpooled c hc)] at hmem
      cases hmem
    rw [contents, List.flatMap_append, List.flatMap_append, flatMap_writtenInto_eq_nil hnew, hpools,
      Script.calls_append, List.flatMap_append, writtenInto_writeSets _ l hnodup hnative]
    simp [recordedCalls, Request.entries, Script.calls_record, writtenInto]

/-- Sets are to be pushed, and the shader has no template to push this one through. -/
def LacksTemplate (d : Device Trace) (p : Pipeline) (set : Nat) : Prop :=
  d.capabilities.pushDescriptor = true ∧ p.shader.template? set = none

instance (d : Device Trace) (p : Pipeline) (set : Nat) : Decidable (LacksTemplate d p set) :=
  inferInstanceAs (Decidable (_ ∧ _))

/-- A shared set that lacks its template is reported. -/
theorem not_lacksTemplate_of_quiet {d : Device Trace} {b : Handle .commandBuffer}
    (hquiet : ∀ m ∈ (resolveLayout d b p l).outcome.messages, m.severity ≠ .error) {set : Nat}
    (hset : set < sharedSets l p.shader) : ¬ LacksTemplate d p set := by
  rintro ⟨hpush, hnone⟩
  obtain ⟨pooled, script, hresolves, _, _, _, hreports⟩ :
      ∃ pooled script, Resolves d b p l _ _ script ∧ _ := resolves d b p l
  generalize (resolveLayout d b p l).outcome.answer = answer,
    (resolveLayout d b p l).layout = l' at hresolves
  cases hresolves with
  | nothing hzero => omega
  | pushed hpos _ =>
    have hsome := isSome_template_of_quiet (fun m hm => hquiet m (hreports m hm)) set
      (List.mem_range.2 hset)
    rw [hnone] at hsome
    cases hsome
  | refused hpos hpush' hsets => exact Bool.noConfusion (hpush.symm.trans hpush')
  | written hpos hpush' hsets hnatives => exact Bool.noConfusion (hpush.symm.trans hpush')

/-- A layout that is resolved supplies every shared set with its data, but for those that lack the
template they would be pushed through: nothing is recorded for them. -/
theorem supplies_resolveLayout (d : Device Trace) (b : Handle .commandBuffer) (hsound : l.Sound)
    (hok : (resolveLayout d b p l).outcome.answer = .ok ()) {set : Nat}
    (hset : set < sharedSets l p.shader) {history : List Call}
    (hbelow : ∀ c ∈ history, ∀ h ∈ updatedSets c, h.number < d.driver.next)
    (last : Option Supply) :
    let news := d.driver.callsSince (resolveLayout d b p l).outcome.device.driver
    if LacksTemplate d p set then (callsInto b news).foldl (supplyAfter set) last = last
    else HasContents p set (history ++ news) (resolveLayout d b p l).outcome.device.driver.next
      ((callsInto b news).foldl (supplyAfter set) last)
      (Delivery.ofInfos set (p.shader.slots set) (l.infos set)) := by
  intro news
  obtain ⟨pooled, script, hresolves, hpooled, hnext, hlog, _⟩ :
      ∃ pooled script, Resolves d b p l _ _ script ∧ _ := resolves d b p l
  have hnews : news = pooled ++ script.calls := Trace.callsSince_of_append hlog
  rw [hnews, callsInto_append, callsInto_of_madeByPools b hpooled, List.nil_append]
  rw [hok] at hresolves
  generalize (resolveLayout d b p l).layout = l' at hresolves
  cases hresolves with
  | nothing hzero => omega
  | pushed hpos hpush =>
    rw [calls_pushes, callsInto_recordedCalls, foldl_supplyAfter_pushes, if_pos hset]
    split
    · rename_i hlacks
      rw [hlacks.2, Option.map_none, Option.none_or]
    · rename_i hhas
      obtain ⟨template, htemplate⟩ := Option.ne_none_iff_exists'.1 fun hnone => hhas ⟨hpush, hnone⟩
      rw [htemplate, Option.map_some, Option.some_or]
      exact ⟨_, rfl, nofun, if_pos htemplate⟩
  | @written sets natives hpos hpush hsets hnatives =>
    rw [if_neg fun hlacks => Bool.noConfusion (hlacks.1.symm.trans hpush)]
    obtain ⟨first, rfl, hfirst, hlast⟩ := fresh_natives hsound hpos hpush hsets hnatives b
    have hlt : set < (Handle.freshList first (sharedSets l p.shader) :
        List (Handle .descriptorSet)).length := by
      rwa [Handle.length_freshList]
    have hget := List.getElem?_eq_getElem hlt
    have hbounds := Handle.mem_freshList.1 (List.getElem_mem hlt)
    generalize (Handle.freshList first (sharedSets l p.shader))[set] = native at hget hbounds
    refine hasContents_written (Handle.nodup_freshList _ _) hget (fun c hc hmem => ?_) hpooled
      (by omega) _ last
    have hearlier := hbelow c hc native hmem
    omega

/-- What nothing numbered from `next` on can change stays. -/
theorem HasContents.extend {set next : Nat} {history calls : List Call} {supply : Option Supply}
    {xs : List Delivery} (h : HasContents p set history next supply xs)
    (hcalls : ∀ c ∈ calls, ∀ native ∈ updatedSets c, next ≤ native.number) {next' : Nat}
    (hnext : next ≤ next') : HasContents p set (history ++ calls) next' supply xs := by
  obtain ⟨x, hsupply, hbelow, hcontents⟩ := h
  refine ⟨x, hsupply, fun native hx => Nat.lt_of_lt_of_le (hbelow native hx) hnext, ?_⟩
  cases x with
  | data template infos => exact hcontents
  | native native =>
    have hnone : calls.flatMap (writtenInto p set native) = [] := by
      apply flatMap_writtenInto_eq_nil
      intro c hc hmem
      have hle := hcalls c hc native hmem
      have hlt := hbelow native rfl
      omega
    rw [contents, List.flatMap_append, hnone, List.append_nil]
    exact hcontents

end

/-! ## 3. Every operation -/

theorem WritesNew.refl (t : Trace) : WritesNew t t := by
  have hnone : Trace.Appends (fun _ => False) t t := .refl t
  exact .of_appends hnone nofun

theorem WritesNew.noteAll {t : Trace} {calls : List Call} (h : ∀ c ∈ calls, updatedSets c = []) :
    WritesNew t (t.noteAll calls) :=
  .of_appends ⟨Nat.le_refl _, calls, t.log_noteAll calls, h⟩ fun _ => id

theorem WritesNew.note {t : Trace} {c : Call} (h : updatedSets c = []) : WritesNew t (t.note c) := by
  rw [Trace.note_eq_noteAll]
  exact .noteAll fun c' hc' => List.mem_singleton.1 hc' ▸ h

theorem WritesNew.of_silent {t t' : Trace} (hnext : t.next ≤ t'.next) (h : t.callsSince t' = []) :
    WritesNew t t' := by
  refine ⟨hnext, fun c hc => ?_⟩
  rw [h] at hc
  cases hc

theorem WritesNew.of_pools {t t' : Trace} (h : Trace.Appends (madeByPools ·) t t') :
    WritesNew t t' :=
  .of_appends h fun _ => updatedSets_of_madeByPools

theorem CommandBuffer.writesNew_perform (c : CommandBuffer) (d : Device Trace) {s : Store}
    (hsound : ∀ id, (s.layouts.get id).Sound) (op : Operation) :
    WritesNew d.driver (c.perform d s op).outcome.device.driver := by
  apply c.driver_cases d s op (P := WritesNew d.driver)
  case noted => exact fun calls plain => .noteAll fun c hc => (uninvolved_of_plain (plain c hc)).updated
  case pooled => exact fun t => .of_pools
  case resolved => exact fun b p id => writesNew_resolveLayout d b p ((hsound id).refresh _ _)

/-- When a layout becomes the bound one, each shared set is supplied with what is due to it, unless
it lacks its template. -/
theorem CommandBuffer.contents_bindLayout {c : CommandBuffer} {d : Device Trace} {s : Store}
    {id : ResourceId} {p : Pipeline} (hpipeline : c.bindings.pipeline = some p)
    (hfresh : c.bindings.layout ≠ some id)
    (hbound : (c.bindLayout d s id).buffer.bindings.layout = some id)
    (hsound : (s.layouts.get id).Sound) {history : List Call}
    (hbelow : ∀ call ∈ history, ∀ h ∈ updatedSets call, h.number < d.driver.next) {set : Nat}
    (hset : set < sharedSets (s.layouts.get id) p.shader) (last : Option Supply) :
    let after := (c.perform d s (.bindLayout id)).outcome.device.driver
    let supply := (c.recorded d s (.bindLayout id)).foldl (supplyAfter set) last
    if LacksTemplate d p set then supply = last
    else HasContents p set (history ++ d.driver.callsSince after) after.next supply
      (due s (s.layouts.get id) set) := by
  show if LacksTemplate d p set then
      (c.recorded d s (.bindLayout id)).foldl (supplyAfter set) last = last
    else HasContents p set
      (history ++ d.driver.callsSince (c.bindLayout d s id).outcome.device.driver)
      (c.bindLayout d s id).outcome.device.driver.next _ _
  have hrecorded {b : Handle .commandBuffer} (hb : c.handle? = some b) :
      c.recorded d s (.bindLayout id) =
        callsInto b (d.driver.callsSince (c.bindLayout d s id).outcome.device.driver) := by
    rw [recorded, hb]
    rfl
  have hends := c.endsBinding d s id
  generalize c.bindLayout d s id = result at hends hbound hrecorded ⊢
  cases hends with
  | left why => exact absurd hbound hfresh
  | @resolved b p r ready pipeline fresh fits done =>
    cases pipeline.symm.trans hpipeline
    cases hanswer : r.outcome.answer with
    | error e =>
      rw [hanswer] at hbound
      exact absurd hbound hfresh
    | ok _ =>
      have hshape : (s.refreshed (s.layouts.get id)).shape = (s.layouts.get id).shape :=
        Layout.shape_refresh _ _ _
      have hshared := sharedSets_of_shape_eq hshape p.shader
      have hrefreshed : (s.refreshed (s.layouts.get id)).Sound := hsound.refresh _ _
      have hsupplies := supplies_resolveLayout d b hrefreshed (done ▸ hanswer)
        (hshared.symm ▸ hset) hbelow last
      rw [← fits set hset, ofInfos_refreshed s hsound, ← done] at hsupplies
      rw [hrecorded ready]
      exact hsupplies

/-- A shared set that lacks its template is reported when its layout becomes the bound one. -/
theorem CommandBuffer.not_lacksTemplate_of_quiet {c : CommandBuffer} {d : Device Trace} {s : Store}
    {id : ResourceId} {p : Pipeline} (hpipeline : c.bindings.pipeline = some p)
    (hfresh : c.bindings.layout ≠ some id)
    (hbound : (c.bindLayout d s id).buffer.bindings.layout = some id)
    (hquiet : ∀ m ∈ (c.bindLayout d s id).outcome.messages, m.severity ≠ .error) {set : Nat}
    (hset : set < sharedSets (s.layouts.get id) p.shader) : ¬ LacksTemplate d p set := by
  have hends := c.endsBinding d s id
  generalize c.bindLayout d s id = result at hends hquiet hbound
  cases hends with
  | left why => exact absurd hbound hfresh
  | @resolved b p r ready pipeline fresh fits done =>
    cases pipeline.symm.trans hpipeline
    have hshape : (s.refreshed (s.layouts.get id)).shape = (s.layouts.get id).shape :=
      Layout.shape_refresh _ _ _
    exact Recording.not_lacksTemplate_of_quiet (done ▸ hquiet)
      ((sharedSets_of_shape_eq hshape p.shader).symm ▸ hset)

end GpuRecorder.Recording
