import GpuRecorder.Proofs.Session.RecordingContract

/-!
# Misuse

What is asked of a command buffer out of place, or with arguments that do not fit, is reported and
dropped.  `Misuse` lists the cases.  Over any driver, one that counts every call it gets included,
a dropped operation leaves the whole session as it was: the driver, the pools, the layouts and
what the command buffer has bound, remembers and has counted.  So a run goes on as it would have
gone on without it.
-/

namespace GpuRecorder.Recording

open Draw Native Resource Device

/-! ## 1. The cases -/

namespace CommandBuffer

inductive Misuse (c : CommandBuffer) (s : Store) : Operation → Prop
  | notReady {op : Operation} (idle : c.isReady = false) (records : op.moves = false) :
    Misuse c s op
  | drawOutsidePass {a : ResourceId} (primary : c.kind = .primary) (outside : c.inPass = false) :
    Misuse c s (.draw a)
  | updateInsidePass {buffer : ResourceId} {offset : Nat} {data : List UInt8}
      (primary : c.kind = .primary) (inside : c.inPass = true) :
    Misuse c s (.updateBuffer buffer offset data)
  | noData {buffer : ResourceId} {offset : Nat} : Misuse c s (.updateBuffer buffer offset [])
  | misaligned {buffer : ResourceId} {offset : Nat} {data : List UInt8}
      (uneven : offset % 4 ≠ 0 ∨ data.length % 4 ≠ 0) :
    Misuse c s (.updateBuffer buffer offset data)
  | outOfBounds {buffer : ResourceId} {offset : Nat} {data : List UInt8}
      (past : (s.backing buffer).size < offset + data.length) :
    Misuse c s (.updateBuffer buffer offset data)
  | copyInsidePass {sources : List ResourceId} {texture : ResourceId} {regions : List CopyRegion}
      (primary : c.kind = .primary) (inside : c.inPass = true) :
    Misuse c s (.copyToTexture sources texture regions)
  | noRegions {sources : List ResourceId} {texture : ResourceId} :
    Misuse c s (.copyToTexture sources texture [])
  | fewSources {sources : List ResourceId} {texture : ResourceId} {regions : List CopyRegion}
      (short : sources.length < regions.length) :
    Misuse c s (.copyToTexture sources texture regions)
  | noPipeline {layout : ResourceId} (unbound : c.bindings.pipeline = none) :
    Misuse c s (.bindLayout layout)
  | otherSlots {layout : ResourceId} {p : Pipeline} {set : Nat}
      (bound : c.bindings.pipeline = some p)
      (shared : set < sharedSets (s.layouts.get layout) p.shader)
      (differ : (s.layouts.get layout).slots set ≠ p.shader.slots set) :
    Misuse c s (.bindLayout layout)
  | unresolved {p : PassOpening} (noImage : s.resolve p.framebuffer = none) :
    Misuse c s (.beginPass p)
  | nothingToExecute {children : List CommandBuffer}
      (idle : ∀ child ∈ children, child.isReady = false) :
    Misuse c s (.execute children)

end CommandBuffer

/-- How an operation that is dropped ends. -/
def Operation.dropped : Operation → Answer
  | .updateBuffer _ _ _ => .updated false
  | _ => .done

namespace CommandBuffer

variable {σ : Type} [Driver σ] {c : CommandBuffer} {s : Store}

/-! ## 2. One operation -/

/-- An operation does nothing but report. -/
def Drops (c : CommandBuffer) (d : Device σ) (s : Store) (op : Operation) : Prop :=
  ∃ messages, c.perform d s op = ⟨c, s, { answer := op.dropped, device := d, messages }⟩

/-- A script without requests reaches no driver. -/
theorem send_reports (d : Device σ) (answer : Answer) {script : Script}
    (h : script.requests = []) :
    send d s answer (c, script) =
      ⟨c, s, { answer, device := d, messages := (d.play script).messages }⟩ := by
  have hdriver : (script.play d.driver).2 = d.driver := by
    rw [Script.play_state, h, List.foldl_nil]
  rw [send, Device.play_device, hdriver]

/-- Without a native buffer every recording operation is dropped. -/
theorem drops_of_not_ready (hc : c.isReady = false) (d : Device σ) {op : Operation}
    (h : op.moves = false) : c.Drops d s op := by
  have hnative : c.native = none := by simpa [isReady] using hc
  have hhandle : c.handle? = none := by rw [handle?, hnative, Option.map_none]
  have hreported (command : String) :
      Script.requests [.report (notReady command)] = [] := rfl
  cases op with
  | setUp kind queue => cases h
  | release => cases h
  | begin pass subpass framebuffer =>
    refine ⟨[notReady "begin"], ?_⟩
    simp only [perform, CommandBuffer.begin, hhandle]
    rfl
  | finish =>
    refine ⟨[notReady "end"], ?_⟩
    simp only [perform, finish, hhandle]
    rfl
  | bindLayout id =>
    refine ⟨[notReady "bind_binding_layout"], ?_⟩
    simp only [perform, bindLayout, hhandle]
    rfl
  | bindAssembler id =>
    simp only [Drops, perform, bindAssembler, hhandle]
    exact ⟨_, send_reports d .done (hreported _)⟩
  | updateBuffer buffer offset data =>
    simp only [Drops, perform, updateBuffer, hhandle]
    exact ⟨_, send_reports d (.updated false) (hreported _)⟩
  | execute children =>
    simp only [Drops, perform, execute]
    split
    · exact ⟨_, send_reports d .done rfl⟩
    · rw [withNative_of_not_ready hnative]
      exact ⟨_, send_reports d .done (hreported _)⟩
  | copyToTexture sources texture regions =>
    simp only [Drops, perform, copyToTexture, hhandle]
    exact ⟨_, send_reports d .done (hreported _)⟩
  | _ =>
    simp only [Drops, perform, beginPass, endPass, bindPipeline, set, draw,
      withNative_of_not_ready hnative]
    exact ⟨_, send_reports d .done (hreported _)⟩

theorem beginPass_of_unresolved {p : PassOpening} (hc : c.isReady = true)
    (h : s.resolve p.framebuffer = none) :
    c.beginPass s p =
      c.refuse "Framebuffer has no native framebuffer for the current swapchain image" := by
  obtain ⟨n, hn⟩ := Option.isSome_iff_exists.1 hc
  rw [beginPass, withNative_of_ready hn, h]

theorem draw_outside_pass {a : ResourceId} (hc : c.isReady = true) (hkind : c.kind = .primary)
    (hpass : c.inPass = false) (multiDraw : Bool) :
    c.draw multiDraw s a = c.refuse "Command 'draw' must be recorded inside a render pass" := by
  obtain ⟨n, hn⟩ := Option.isSome_iff_exists.1 hc
  have hmissing : c.passIsMissing = true := by simp [passIsMissing, hkind, hpass]
  rw [draw, withNative_of_ready hn, if_pos hmissing]

/-- Children without native buffers are reported one by one, and nothing is executed. -/
theorem execute_nothing {children : List CommandBuffer} (hc : c.isReady = true)
    (h : ∀ child ∈ children, child.isReady = false) :
    c.execute children = (c, skipped children) := by
  obtain ⟨n, hn⟩ := Option.isSome_iff_exists.1 hc
  have hready : children.filter isReady = [] := by
    rw [List.filter_eq_nil_iff]
    intro child hchild
    rw [h child hchild]
    decide
  cases children with
  | nil => rfl
  | cons child rest =>
    rw [execute, if_neg (by simp), withNative_of_ready hn, hready]
    show (c, skipped (child :: rest) ++ []) = _
    rw [List.append_nil]

/-- No data, data that does not fit and data inside a pass are not recorded. -/
theorem updateBuffer_refused {buffer : ResourceId} {offset : Nat} {data : List UInt8}
    (hc : c.isReady = true)
    (h : c.passIsOpen = true ∨ data = [] ∨
      updateFault (s.backing buffer).size offset data.length ≠ none) :
    ∃ script, script.requests = [] ∧ c.updateBuffer s buffer offset data = (false, c, script) := by
  obtain ⟨n, hn⟩ := Option.isSome_iff_exists.1 hc
  have hhandle : c.handle? = some n.handle := by rw [handle?, hn, Option.map_some]
  simp only [updateBuffer, hhandle]
  by_cases hopen : c.passIsOpen = true
  · rw [if_pos hopen]
    exact ⟨_, rfl, rfl⟩
  rw [if_neg hopen]
  by_cases hdata : data = []
  · rw [if_pos (by rw [hdata]; rfl)]
    exact ⟨[], rfl, rfl⟩
  rw [if_neg (by simpa using hdata)]
  cases hfault : updateFault (s.backing buffer).size offset data.length with
  | some text => exact ⟨_, rfl, rfl⟩
  | none => exact absurd hfault ((h.resolve_left hopen).resolve_left hdata)

theorem copyToTexture_refused {sources : List ResourceId} {texture : ResourceId}
    {regions : List CopyRegion} (hc : c.isReady = true)
    (h : c.passIsOpen = true ∨ regions = [] ∨ sources.length < regions.length) :
    ∃ script, script.requests = [] ∧
      c.copyToTexture s sources texture regions = (.ok (), c, script) := by
  obtain ⟨n, hn⟩ := Option.isSome_iff_exists.1 hc
  have hhandle : c.handle? = some n.handle := by rw [handle?, hn, Option.map_some]
  simp only [copyToTexture, hhandle]
  by_cases hopen : c.passIsOpen = true
  · rw [if_pos hopen]
    exact ⟨_, rfl, rfl⟩
  rw [if_neg hopen]
  by_cases hregions : regions = []
  · rw [if_pos (by rw [hregions]; rfl)]
    exact ⟨[], rfl, rfl⟩
  rw [if_neg (by simpa using hregions), if_pos ((h.resolve_left hopen).resolve_left hregions)]
  exact ⟨_, rfl, rfl⟩

/-- A layout is refused before its data is refreshed, also where it is the one that is bound. -/
theorem bindLayout_refused {id : ResourceId} (hc : c.isReady = true)
    (h : ∀ p, c.bindings.pipeline = some p → ∃ set < sharedSets (s.layouts.get id) p.shader,
      (s.layouts.get id).slots set ≠ p.shader.slots set) (d : Device σ) :
    ∃ messages, c.bindLayout d s id = ⟨c, s, { answer := .ok (), device := d, messages }⟩ := by
  obtain ⟨n, hn⟩ := Option.isSome_iff_exists.1 hc
  have hhandle : c.handle? = some n.handle := by rw [handle?, hn, Option.map_some]
  cases hpipeline : c.bindings.pipeline with
  | none =>
    simp only [bindLayout, hhandle, hpipeline]
    exact ⟨_, rfl⟩
  | some p =>
    obtain ⟨set, hshared, hdiffer⟩ := h p hpipeline
    simp only [bindLayout, hhandle, hpipeline]
    split
    · exact ⟨[], rfl⟩
    cases hmismatch : mismatch? (s.layouts.get id) p.shader with
    | none => exact absurd (mismatch?_eq_none_iff.1 hmismatch set hshared) hdiffer
    | some other => exact ⟨_, rfl⟩

theorem drops_of_misuse {op : Operation} (h : c.Misuse s op) (d : Device σ) : c.Drops d s op := by
  by_cases hready : c.isReady = true
  swap
  · -- Without a native buffer the case does not matter.
    have hidle : c.isReady = false := by simpa using hready
    cases h with
    | notReady _ records => exact drops_of_not_ready hidle d records
    | _ => exact drops_of_not_ready hidle d rfl
  have hupdate {buffer : ResourceId} {offset : Nat} {data : List UInt8}
      (hcase : c.passIsOpen = true ∨ data = [] ∨
        updateFault (s.backing buffer).size offset data.length ≠ none) :
      c.Drops d s (.updateBuffer buffer offset data) := by
    obtain ⟨script, hscript, heq⟩ := updateBuffer_refused hready hcase
    simp only [Drops, perform, heq]
    exact ⟨_, send_reports d (.updated false) hscript⟩
  have hcopy {sources : List ResourceId} {texture : ResourceId} {regions : List CopyRegion}
      (hcase : c.passIsOpen = true ∨ regions = [] ∨ sources.length < regions.length) :
      c.Drops d s (.copyToTexture sources texture regions) := by
    obtain ⟨script, hscript, heq⟩ : ∃ script, script.requests = [] ∧
        c.copyToTexture s sources texture regions = (.ok (), c, script) :=
      copyToTexture_refused hready hcase
    simp only [Drops, perform, heq]
    exact ⟨_, send_reports d .done hscript⟩
  have hlayout {id : ResourceId}
      (hcase : ∀ p, c.bindings.pipeline = some p →
        ∃ set < sharedSets (s.layouts.get id) p.shader,
          (s.layouts.get id).slots set ≠ p.shader.slots set) :
      c.Drops d s (.bindLayout id) := by
    obtain ⟨messages, heq⟩ := bindLayout_refused hready hcase d
    simp only [Drops, perform, heq]
    exact ⟨messages, rfl⟩
  have hopen (primary : c.kind = .primary) (inside : c.inPass = true) : c.passIsOpen = true := by
    simp [passIsOpen, primary, inside]
  cases h with
  | notReady idle _ => exact absurd hready (by simp [idle])
  | drawOutsidePass primary outside =>
    simp only [Drops, perform, draw_outside_pass hready primary outside]
    exact ⟨_, send_reports d .done rfl⟩
  | updateInsidePass primary inside => exact hupdate (Or.inl (hopen primary inside))
  | noData => exact hupdate (Or.inr (Or.inl rfl))
  | misaligned uneven =>
    refine hupdate (Or.inr (Or.inr fun hfault => ?_))
    obtain ⟨hoffset, hlength, _⟩ := updateFault_eq_none_iff.1 hfault
    exact uneven.elim (absurd hoffset) (absurd hlength)
  | outOfBounds past =>
    refine hupdate (Or.inr (Or.inr fun hfault => ?_))
    exact absurd past (Nat.not_lt.2 (updateFault_eq_none_iff.1 hfault).2.2)
  | copyInsidePass primary inside => exact hcopy (Or.inl (hopen primary inside))
  | noRegions => exact hcopy (Or.inr (Or.inl rfl))
  | fewSources short => exact hcopy (Or.inr (Or.inr short))
  | noPipeline unbound =>
    refine hlayout fun p hp => ?_
    rw [unbound] at hp
    cases hp
  | @otherSlots _ p set bound shared differ =>
    refine hlayout fun q hq => ?_
    obtain rfl := Option.some.inj (bound.symm.trans hq)
    exact ⟨set, shared, differ⟩
  | unresolved noImage =>
    simp only [Drops, perform, beginPass_of_unresolved hready noImage]
    exact ⟨_, send_reports d .done rfl⟩
  | nothingToExecute idle =>
    simp only [Drops, perform, execute_nothing hready idle]
    exact ⟨_, send_reports d .done (requests_skipped _)⟩

end CommandBuffer

end GpuRecorder.Recording

/-! ## 3. Runs -/

namespace GpuRecorder.Session

open Native Resource Recording Device

variable {σ : Type} [Driver σ]

/-- What the actions of a run answer and report, one after the other. -/
def report (s : Session σ) : List Action → List (Answer × List Message)
  | [] => []
  | a :: rest => ((s.step a).answer, (s.step a).messages) :: (s.step a).session.report rest

theorem report_append (s : Session σ) (actions more : List Action) :
    s.report (actions ++ more) = s.report actions ++ (s.run actions).report more := by
  induction actions generalizing s with
  | nil => rfl
  | cons a rest ih =>
    rw [List.cons_append, report, ih, report, run_cons, List.cons_append]

theorem length_report (s : Session σ) (actions : List Action) :
    (s.report actions).length = actions.length := by
  induction actions generalizing s with
  | nil => rfl
  | cons a rest ih => rw [report, List.length_cons, ih, List.length_cons]

/-- An action of a command buffer is the operation it stands for. -/
theorem step_of_acting {s : Session σ} {a : Action} {c : CommandBuffer} {op : Operation}
    (h : s.acting? a = some (c, op)) :
    ∃ n, s.buffers[n]? = some c ∧ s.step a = s.perform n op := by
  cases a with
  | perform n op' =>
    obtain ⟨c', hc', heq⟩ := Option.map_eq_some_iff.1 h
    cases heq
    exact ⟨n, hc', rfl⟩
  | execute n children =>
    obtain ⟨c', hc', heq⟩ := Option.map_eq_some_iff.1 h
    cases heq
    exact ⟨n, hc', rfl⟩
  | _ => cases h

theorem perform_of_drops {s : Session σ} {n : Nat} {c : CommandBuffer} {op : Operation}
    (found : s.buffers[n]? = some c) (h : c.Drops s.device s.store op) :
    (s.perform n op).session = s ∧ (s.perform n op).answer = op.dropped := by
  obtain ⟨messages, hdrops⟩ := h
  obtain ⟨hlt, hget⟩ := List.getElem?_eq_some_iff.1 found
  have hset : s.buffers.set n c = s.buffers := by
    rw [← hget]
    exact List.set_getElem_self hlt
  simp only [perform, found, hdrops, hset, and_self]

theorem step_of_misuse {s : Session σ} {a : Action} {c : CommandBuffer} {op : Operation}
    (acting : s.acting? a = some (c, op)) (misuse : c.Misuse s.store op) :
    (s.step a).session = s ∧ (s.step a).answer = op.dropped := by
  obtain ⟨n, hn, hstep⟩ := step_of_acting acting
  rw [hstep]
  exact perform_of_drops hn (CommandBuffer.drops_of_misuse misuse s.device)

/-- Over any driver, at any point of any run: a misused operation ends as if it had gone well, and
the session after it is the session before it.  The run goes on, and answers and reports, as it
does with the operation left out. -/
theorem misuse_leaves_no_trace (s : Session σ) (earlier : List Action) (a : Action)
    {c : CommandBuffer} {op : Operation} (acting : (s.run earlier).acting? a = some (c, op))
    (misuse : c.Misuse (s.run earlier).store op) :
    ((s.run earlier).step a).answer = op.dropped ∧
      ((s.run earlier).step a).session = s.run earlier ∧
      ∀ later, s.run (earlier ++ a :: later) = s.run (earlier ++ later) ∧
        (s.report (earlier ++ a :: later)).eraseIdx earlier.length =
          s.report (earlier ++ later) := by
  obtain ⟨hsession, hanswer⟩ := step_of_misuse acting misuse
  refine ⟨hanswer, hsession, fun later => ⟨?_, ?_⟩⟩
  · rw [run_append, run_cons, hsession, run_append]
  · -- The one entry that is left out stands behind those of the earlier actions.
    rw [report_append, report_append, report, hsession, ← s.length_report earlier,
      List.eraseIdx_append_of_length_le (Nat.le_refl _), Nat.sub_self, List.eraseIdx_cons_zero]

/-- A primary buffer with an open pass. -/
def insidePass : List Action := [
  .change (.addBuffer (.ofRange ⟨900⟩ 0 0 16 4)),
  .create,
  .perform 0 (.setUp .primary ⟨⟨800⟩, 0⟩),
  .perform 0 (.begin none 0 none),
  .perform 0 (.beginPass
    ⟨⟨⟨3⟩, ⟨901⟩, 0⟩, ⟨⟨4⟩, .offscreen ⟨902⟩⟩, { width := 8, height := 8 }, [], .one, 0⟩)]

/-- Data written inside the pass: the run goes on as without it, and the same data is recorded
once the pass is closed. -/
theorem update_inside_pass_leaves_no_trace :
    let s := observed ({} : Trace) {} {}
    let update : Action := .perform 0 (.updateBuffer ⟨1⟩ 0 [1, 2, 3, 4])
    let later : List Action := [.perform 0 .endPass, update]
    ((s.run insidePass).step update).answer = .updated false ∧
      ((s.run insidePass).step update).session = s.run insidePass ∧
      s.run (insidePass ++ update :: later) = s.run (insidePass ++ later) ∧
      (s.run (insidePass ++ update :: later)).history.length =
        (s.run insidePass).history.length + 2 := by
  intro s update later
  obtain ⟨hanswer, hsession, hlater⟩ := misuse_leaves_no_trace s insidePass update rfl
    (.updateInsidePass rfl rfl)
  exact ⟨hanswer, hsession, (hlater later).1, by decide +kernel⟩

end GpuRecorder.Session
