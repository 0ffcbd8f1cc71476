import GpuRecorder.Proofs.Session.PassPlacement

/-!
# Brackets in the stream of a primary buffer

Inside a recording the marks of render passes should take turns, and a recording should not be
closed while a pass is open.  The command buffer does not see to it: opening a pass inside a pass,
closing one that is not open and closing the recording inside a pass all go to the driver.  The
stream is bracketed exactly when none of this was asked for.
-/

namespace GpuRecorder.Native

/-! ## 1. Brackets -/

def Call.isMark : Call → Bool
  | .begin _ _ | .finish _ => true
  | _ => false

def Call.isFinish : Call → Bool
  | .finish _ => true
  | _ => false

/-- The marks of render passes, in order. -/
def passMarks (calls : List Call) : List CommandSort :=
  (calls.filterMap Call.sort?).filter fun sort => sort = .passStart ∨ sort = .passEnd

/-- Opening and closing take turns, as after a pass that was closed. -/
def TakeTurns (marks : List CommandSort) : Prop := (CommandSort.passEnd :: marks).IsChain (· ≠ ·)

/-- Between the opening of a recording and the next mark of a recording the marks of passes take
turns, and no recording is closed while a pass is open. -/
structure Bracketed (stream : List Call) : Prop where
  passes : ∀ before b args within rest, stream = before ++ .begin b args :: (within ++ rest) →
    (∀ c ∈ within, c.isMark = false) → TakeTurns (passMarks within)
  ends : ∀ before b rest, stream = before ++ .finish b :: rest → passOpen before = false

/-! ## 2. Brackets call by call -/

def recordingAfter (recording : Bool) : Call → Bool
  | .begin _ _ => true
  | .finish _ => false
  | _ => recording

/-- A call that may come now, inside a recording or not and with a pass open or not. -/
structure Fits (recording isOpen : Bool) (c : Call) : Prop where
  start : recording = true → c.sort? = some .passStart → isOpen = false
  stop : recording = true → c.sort? = some .passEnd → isOpen = true
  finish : c.isFinish = true → isOpen = false

def Nests (recording isOpen : Bool) (calls : List Call) : Prop :=
  Accepts (fun s c => Fits s.1 s.2 c) (fun s c => (recordingAfter s.1 c, passAfter s.2 c))
    (recording, isOpen) calls

section

variable {recording isOpen : Bool} {c : Call}

theorem fits_of_plain (hmark : c.isMark = false) (hstart : c.sort? ≠ some .passStart)
    (hstop : c.sort? ≠ some .passEnd) : Fits recording isOpen c where
  start _ hsort := absurd hsort hstart
  stop _ hsort := absurd hsort hstop
  finish hfinish := by
    cases c with
    | finish b => cases hmark
    | _ => cases hfinish

theorem fits_passStart (h : c.sort? = some .passStart) :
    Fits recording isOpen c ↔ (recording = true → isOpen = false) := by
  refine ⟨fun hfits hrecording => hfits.start hrecording h, fun hclosed => ?_⟩
  refine ⟨fun hrecording _ => hclosed hrecording, fun _ hstop => ?_, fun hfinish => ?_⟩
  · rw [h] at hstop
    cases hstop
  · cases c <;> first | cases h | cases hfinish

theorem fits_passEnd (h : c.sort? = some .passEnd) :
    Fits recording isOpen c ↔ (recording = true → isOpen = true) := by
  refine ⟨fun hfits hrecording => hfits.stop hrecording h, fun hopen => ?_⟩
  refine ⟨fun _ hstart => ?_, fun hrecording _ => hopen hrecording, fun hfinish => ?_⟩
  · rw [h] at hstart
    cases hstart
  · cases c <;> first | cases h | cases hfinish

theorem fits_begin (b : Handle .commandBuffer) (args : RecordingBegin) :
    Fits recording isOpen (.begin b args) := ⟨nofun, nofun, nofun⟩

theorem fits_finish (b : Handle .commandBuffer) :
    Fits recording isOpen (.finish b) ↔ isOpen = false :=
  ⟨fun hfits => hfits.finish rfl, fun hclosed => ⟨nofun, nofun, fun _ => hclosed⟩⟩

end

theorem nests_cons {recording isOpen : Bool} {c : Call} {rest : List Call} :
    Nests recording isOpen (c :: rest) ↔
      Fits recording isOpen c ∧ Nests (recordingAfter recording c) (passAfter isOpen c) rest :=
  Iff.rfl

/-- The two parts of the state do not depend on each other. -/
theorem foldl_recording_pass (recording isOpen : Bool) (calls : List Call) :
    calls.foldl (fun s c => (recordingAfter s.1 c, passAfter s.2 c)) (recording, isOpen) =
      (calls.foldl recordingAfter recording, calls.foldl passAfter isOpen) := by
  induction calls generalizing recording isOpen with
  | nil => rfl
  | cons c calls ih => exact ih _ _

theorem nests_append {recording isOpen : Bool} {calls more : List Call} :
    Nests recording isOpen (calls ++ more) ↔
      Nests recording isOpen calls ∧
        Nests (calls.foldl recordingAfter recording) (calls.foldl passAfter isOpen) more := by
  rw [Nests, accepts_append, foldl_recording_pass]
  rfl

theorem nests_iff_forall {calls : List Call} :
    Nests false false calls ↔ ∀ before c rest, calls = before ++ c :: rest →
      Fits (before.foldl recordingAfter false) (passOpen before) c := by
  simp only [Nests, accepts_iff_forall, foldl_recording_pass]
  rfl

instance (recording isOpen : Bool) (c : Call) : Decidable (Fits recording isOpen c) :=
  decidable_of_iff
    ((recording = true → c.sort? = some .passStart → isOpen = false) ∧
      (recording = true → c.sort? = some .passEnd → isOpen = true) ∧
      (c.isFinish = true → isOpen = false))
    ⟨fun h => ⟨h.1, h.2.1, h.2.2⟩, fun h => ⟨h.start, h.stop, h.finish⟩⟩

instance (recording isOpen : Bool) (calls : List Call) : Decidable (Nests recording isOpen calls) :=
  inferInstanceAs (Decidable (Accepts _ _ _ _))

theorem recordingAfter_of_not_mark {c : Call} (h : c.isMark = false) (recording : Bool) :
    recordingAfter recording c = recording := by
  cases c with
  | begin b args => cases h
  | finish b => cases h
  | _ => rfl

theorem passAfter_of_not_mark {c : Call} (h : c.isMark = false) (isOpen : Bool) :
    passAfter isOpen c = match c.sort? with
      | some .passStart => true
      | some .passEnd => false
      | _ => isOpen := by
  cases c with
  | begin b args => cases h
  | finish b => cases h
  | _ => rfl

theorem foldl_recordingAfter_of_not_mark {calls : List Call} (h : ∀ c ∈ calls, c.isMark = false)
    (recording : Bool) : calls.foldl recordingAfter recording = recording := by
  induction calls with
  | nil => rfl
  | cons c calls ih =>
    rw [List.foldl_cons, recordingAfter_of_not_mark (h c List.mem_cons_self)]
    exact ih fun c' hc' => h c' (List.mem_cons_of_mem _ hc')

/-- Inside a recording, calls fit one after the other exactly when their marks take turns. -/
theorem nests_iff_isChain {within : List Call} (h : ∀ c ∈ within, c.isMark = false)
    (isOpen : Bool) :
    Nests true isOpen within ↔
      ((if isOpen then CommandSort.passStart else .passEnd) :: passMarks within).IsChain
        (· ≠ ·) := by
  induction within generalizing isOpen with
  | nil => simp [Nests, Accepts, passMarks]
  | cons c within ih =>
    have hmark := h c List.mem_cons_self
    rw [nests_cons, recordingAfter_of_not_mark hmark, passAfter_of_not_mark hmark,
      ih fun c' hc' => h c' (List.mem_cons_of_mem _ hc')]
    cases hsort : c.sort? with
    | none =>
      have hfits : Fits true isOpen c := fits_of_plain hmark (by simp [hsort]) (by simp [hsort])
      simp [hfits, passMarks, hsort]
    | some sort =>
      cases sort with
      | passStart =>
        rw [fits_passStart hsort]
        cases isOpen <;> simp [passMarks, hsort]
      | passEnd =>
        rw [fits_passEnd hsort]
        cases isOpen <;> simp [passMarks, hsort]
      | _ =>
        have hfits : Fits true isOpen c := fits_of_plain hmark (by simp [hsort]) (by simp [hsort])
        simp [hfits, passMarks, hsort]

/-- Inside a recording there is a last opening, and no mark of a recording after it. -/
theorem exists_begin_of_recording {before : List Call}
    (h : before.foldl recordingAfter false = true) :
    ∃ earlier b args within, before = earlier ++ .begin b args :: within ∧
      ∀ c ∈ within, c.isMark = false := by
  induction before using List.reverseRecOn with
  | nil => cases h
  | append_singleton before c ih =>
    rw [List.foldl_append, List.foldl_cons, List.foldl_nil] at h
    cases hmark : c.isMark with
    | false =>
      rw [recordingAfter_of_not_mark hmark] at h
      obtain ⟨earlier, b, args, within, rfl, hwithin⟩ := ih h
      refine ⟨earlier, b, args, within ++ [c], by simp, fun c' hc' => ?_⟩
      rcases List.mem_append.1 hc' with hc' | hc'
      · exact hwithin c' hc'
      · rwa [List.mem_singleton.1 hc']
    | true =>
      cases c with
      | begin b args => exact ⟨before, b, args, [], rfl, by simp⟩
      | finish b => cases h
      | _ => cases hmark

theorem fits_of_bracketed {stream : List Call} (h : Bracketed stream) {before rest : List Call}
    {c : Call} (hsplit : stream = before ++ c :: rest) :
    Fits (before.foldl recordingAfter false) (passOpen before) c := by
  have hmarks (hrecording : before.foldl recordingAfter false = true) (hmark : c.isMark = false) :
      Fits true (passOpen before) c := by
    -- From the opening on the marks take turns, those of this call included.
    obtain ⟨earlier, b, args, within, rfl, hwithin⟩ := exists_begin_of_recording hrecording
    have hwhole : ∀ c' ∈ within ++ [c], c'.isMark = false := by
      intro c' hc'
      rcases List.mem_append.1 hc' with hc' | hc'
      · exact hwithin c' hc'
      · rwa [List.mem_singleton.1 hc']
    have hturns := h.passes earlier b args (within ++ [c]) rest (by simp [hsplit]) hwhole
    have hnests := (nests_append.1 ((nests_iff_isChain hwhole false).2 hturns)).2
    rw [foldl_recordingAfter_of_not_mark hwithin] at hnests
    have hopen : passOpen (earlier ++ .begin b args :: within) = within.foldl passAfter false := by
      rw [passOpen, List.foldl_append, List.foldl_cons]
      rfl
    rw [hopen]
    exact hnests.1
  refine ⟨fun hrecording hsort => ?_, fun hrecording hsort => ?_, fun hfinish => ?_⟩
  · refine (hmarks hrecording ?_).start rfl hsort
    cases c <;> first | rfl | cases hsort
  · refine (hmarks hrecording ?_).stop rfl hsort
    cases c <;> first | rfl | cases hsort
  · cases c with
    | finish b => exact h.ends before b rest hsplit
    | _ => cases hfinish

theorem bracketed_iff_nests (stream : List Call) : Bracketed stream ↔ Nests false false stream := by
  constructor
  · exact fun h => nests_iff_forall.2 fun before c rest hsplit => fits_of_bracketed h hsplit
  · intro h
    constructor
    · intro before b args within rest hsplit hwithin
      rw [hsplit] at h
      have hbegun := (nests_append.1 h).2.2
      exact (nests_iff_isChain hwithin false).1 (nests_append.1 hbegun).1
    · intro before b rest hsplit
      rw [hsplit] at h
      exact (nests_append.1 h).2.1.finish rfl

instance (stream : List Call) : Decidable (Bracketed stream) :=
  decidable_of_iff _ (bracketed_iff_nests stream).symm

theorem nests_of_plain {calls : List Call} (hmark : ∀ c ∈ calls, c.isMark = false)
    (hpass : ∀ c ∈ calls, c.sort? ≠ some .passStart ∧ c.sort? ≠ some .passEnd)
    (recording isOpen : Bool) : Nests recording isOpen calls := by
  induction calls generalizing isOpen with
  | nil => trivial
  | cons c calls ih =>
    obtain ⟨hstart, hstop⟩ := hpass c List.mem_cons_self
    refine nests_cons.2 ⟨fits_of_plain (hmark c List.mem_cons_self) hstart hstop, ?_⟩
    rw [recordingAfter_of_not_mark (hmark c List.mem_cons_self)]
    exact ih (fun c' hc' => hmark c' (List.mem_cons_of_mem _ hc'))
      (fun c' hc' => hpass c' (List.mem_cons_of_mem _ hc')) _

theorem isMark_of_mem_recordedCalls {b : Handle .commandBuffer} {commands : List Command} :
    ∀ c ∈ recordedCalls b commands, c.isMark = false := by
  intro c hc
  obtain ⟨_, _, _, rfl, _⟩ := sort_of_mem_recordedCalls hc
  rfl

/-- Commands that neither open nor close a pass fit anywhere. -/
theorem nests_recordedCalls {commands : List Command}
    (h : ∀ x ∈ commands, x.sort ≠ .passStart ∧ x.sort ≠ .passEnd) (b : Handle .commandBuffer)
    (recording isOpen : Bool) : Nests recording isOpen (recordedCalls b commands) := by
  refine nests_of_plain isMark_of_mem_recordedCalls (fun c hc => ?_) recording isOpen
  obtain ⟨x, hx, x', rfl, hsort⟩ := sort_of_mem_recordedCalls hc
  rw [Call.sort?, hsort]
  obtain ⟨hstart, hstop⟩ := h x hx
  exact ⟨fun heq => hstart (Option.some.inj heq), fun heq => hstop (Option.some.inj heq)⟩

end GpuRecorder.Native

/-! ## 3. One operation -/

namespace GpuRecorder.Recording

open Native Resource Device

/-- Whether recording is open after an operation of a primary buffer. -/
def Operation.recordingAfter (recording : Bool) : Operation → Bool
  | .begin _ _ _ => true
  | .finish | .setUp _ _ | .release => false
  | _ => recording

namespace CommandBuffer

/-- Inside a recording a pass is opened inside a pass, or closed where none is open; or the
recording is closed inside a pass. -/
def Oversteps (c : CommandBuffer) (s : Store) (recording : Bool) : Operation → Prop
  | .beginPass p => recording = true ∧ c.inPass = true ∧ (s.resolve p.framebuffer).isSome
  | .endPass => recording = true ∧ c.inPass = false
  | .finish => c.inPass = true
  | _ => False

/-- What an operation records fits exactly if the operation does not overstep. -/
def Brackets (c : CommandBuffer) (s : Store) (op : Operation) (news : List Call) : Prop :=
  ∀ recording, (Nests recording c.inPass news ↔ ¬ c.Oversteps s recording op) ∧
    news.foldl recordingAfter recording = op.recordingAfter recording

theorem brackets_recordedCalls {c : CommandBuffer} {s : Store} {op : Operation}
    {commands : List Command} (h : ∀ x ∈ commands, x.sort ≠ .passStart ∧ x.sort ≠ .passEnd)
    (b : Handle .commandBuffer) (hop : ∀ recording, ¬ c.Oversteps s recording op)
    (hrecording : ∀ recording, op.recordingAfter recording = recording) :
    c.Brackets s op (recordedCalls b commands) := by
  intro recording
  refine ⟨iff_of_true (nests_recordedCalls h b recording _) (hop recording), ?_⟩
  rw [hrecording, foldl_recordingAfter_of_not_mark isMark_of_mem_recordedCalls]

theorem recorded_of_scripted {c : CommandBuffer} {b : Handle .commandBuffer}
    (hb : c.handle? = some b) {d : Device Trace} {s : Store} {op : Operation}
    {r : CommandBuffer × Script} (h : c.scripted? d s op = some r) :
    c.recorded d s op = callsInto b r.2.calls := by
  rw [recorded_scripted h, hb]
  rfl

theorem brackets_beginPass {c : CommandBuffer} {b : Handle .commandBuffer}
    (hb : c.handle? = some b) (d : Device Trace) (s : Store) (p : PassOpening) :
    c.Brackets s (.beginPass p) (c.recorded d s (.beginPass p)) := by
  rw [recorded_of_scripted hb rfl]
  obtain ⟨native, hn, rfl⟩ := Option.map_eq_some_iff.1 hb
  rw [beginPass, withNative_of_ready hn]
  cases hresolve : s.resolve p.framebuffer with
  | none =>
    intro recording
    refine ⟨iff_of_true trivial ?_, rfl⟩
    simp [Oversteps, hresolve]
  | some framebuffer =>
    simp only
    rw [Script.calls_append, Script.calls_of_requests_nil p.requests_shortage, List.nil_append,
      Script.calls_record, callsInto_recordedCalls, List.cons_append, ← List.singleton_append,
      recordedCalls_append]
    -- Viewport and scissor follow the opening of the pass and fit anywhere.
    have hsettings : ∀ x ∈ (Setting.viewport (.ofRect p.area)).commands ++
        (Setting.scissor p.area).commands, x.sort ≠ .passStart ∧ x.sort ≠ .passEnd := by
      intro x hx
      rcases List.mem_append.1 hx with hx | hx
      · simp [sort_setting _ x hx]
      · simp [sort_setting _ x hx]
    intro recording
    constructor
    · rw [nests_append, and_iff_left (nests_recordedCalls hsettings _ _ _)]
      show Fits recording c.inPass _ ∧ True ↔ _
      rw [and_true, fits_passStart rfl]
      simp [Oversteps, hresolve]
    · rw [List.foldl_append, foldl_recordingAfter_of_not_mark isMark_of_mem_recordedCalls]
      rfl

theorem brackets_endPass {c : CommandBuffer} {b : Handle .commandBuffer}
    (hb : c.handle? = some b) (d : Device Trace) (s : Store) :
    c.Brackets s .endPass (c.recorded d s .endPass) := by
  rw [recorded_of_scripted hb rfl]
  obtain ⟨native, hn, rfl⟩ := Option.map_eq_some_iff.1 hb
  rw [endPass, withNative_of_ready hn, Script.calls_record, callsInto_recordedCalls]
  intro recording
  refine ⟨?_, rfl⟩
  show Fits recording c.inPass _ ∧ True ↔ _
  rw [and_true, fits_passEnd rfl]
  simp [Oversteps]

theorem brackets_finish {c : CommandBuffer} {b : Handle .commandBuffer}
    (hb : c.handle? = some b) (d : Device Trace) (s : Store) :
    c.Brackets s .finish (c.recorded d s .finish) := by
  rw [(recorded_finish hb d s).1]
  intro recording
  refine ⟨?_, rfl⟩
  show Fits recording c.inPass (.finish b) ∧ True ↔ _
  rw [and_true, fits_finish]
  simp [Oversteps]

/-- Every operation of a primary buffer, borrowing and giving back apart. -/
theorem brackets_perform {c : CommandBuffer} (hkind : c.kind = .primary)
    {b : Handle .commandBuffer} (hb : c.handle? = some b) (d : Device Trace) (s : Store)
    {op : Operation} (hmoves : op.moves = false) : c.Brackets s op (c.recorded d s op) := by
  -- A script of other sorts neither opens nor closes anything.
  have hother {r : CommandBuffer × Script} (h : c.scripted? d s op = some r)
      (hsorts : .passStart ∉ op.sorts ∧ .passEnd ∉ op.sorts)
      (hop : ∀ recording, ¬ c.Oversteps s recording op)
      (hrecording : ∀ recording, op.recordingAfter recording = recording) :
      c.Brackets s op (c.recorded d s op) := by
    rw [recorded_of_scripted hb h]
    rcases sends_scripted h with hnone | ⟨b', commands, hb', hcalls, hmem⟩
    · rw [hnone]
      show c.Brackets s op (recordedCalls b [])
      exact brackets_recordedCalls (by simp) b hop hrecording
    · cases hb.symm.trans hb'
      rw [hcalls, callsInto_recordedCalls]
      refine brackets_recordedCalls (fun x hx => ⟨fun hsort => ?_, fun hsort => ?_⟩) b hop
        hrecording
      · exact hsorts.1 (hsort ▸ hmem x hx)
      · exact hsorts.2 (hsort ▸ hmem x hx)
  cases op with
  | setUp kind queue => cases hmoves
  | release => cases hmoves
  | begin pass subpass framebuffer =>
    rw [(recorded_begin hkind hb d s pass subpass framebuffer).1]
    exact fun recording => ⟨iff_of_true ⟨fits_begin _ _, trivial⟩ not_false, rfl⟩
  | finish => exact brackets_finish hb d s
  | beginPass p => exact brackets_beginPass hb d s p
  | endPass => exact brackets_endPass hb d s
  | bindLayout id =>
    have hbinds := c.bindsLayout d s id
    generalize c.bindLayout d s id = result, c.recorded d s (.bindLayout id) = news at hbinds ⊢
    cases hbinds with
    | left why => exact fun recording => ⟨iff_of_true trivial not_false, rfl⟩
    | @resolved b' p r commands ready pipeline fresh fits done delivers speaks =>
      refine brackets_recordedCalls (fun x hx => ?_) b' (fun _ => not_false) fun _ => rfl
      rw [sort_delivers delivers x hx]
      simp
  | _ => exact hother rfl (by simp [Operation.sorts]) (fun _ => not_false) fun _ => rfl

end CommandBuffer

end GpuRecorder.Recording

/-! ## 4. A run -/

namespace GpuRecorder

open Native Resource Recording Device

/-- Whether the recording of a primary buffer is open, by what was asked of it. -/
def Event.recordingAfter (n : Nat) (recording : Bool) : Event → Bool
  | .act (.perform m op) => if m = n then op.recordingAfter recording else recording
  | _ => recording

def isRecording (n : Nat) (events : List Event) : Bool := events.foldl (Event.recordingAfter n) false

namespace Session

/-- None of some events makes a command buffer borrow its native buffer or give it back. -/
def StaysLent (n : Nat) (s : Session Trace) (events : List Event) : Prop :=
  Accepts (fun s e => s.moves n e = false) after s events

/-- An event lets a command buffer overstep. -/
def Oversteps (n : Nat) (s : Session Trace) (recording : Bool) (e : Event) : Prop :=
  ∃ c op, s.buffers[n]? = some c ∧ s.operation? e = some (n, op) ∧ c.isReady = true ∧
    c.Oversteps s.store recording op

/-- Since it borrowed its native buffer, a command buffer has not overstepped. -/
def NeverOversteps (available : Capabilities) (settings : Settings) (n : Nat)
    (events : List Event) : Prop :=
  ∀ earlier e later, events = earlier ++ e :: later →
    let s := (start available settings).through earlier
    s.StaysLent n (e :: later) → ¬ s.Oversteps n (isRecording n earlier) e

variable {available : Capabilities} {settings : Settings} {n : Nat}

theorem staysLent_append (s : Session Trace) (events more : List Event) :
    s.StaysLent n (events ++ more) ↔ s.StaysLent n events ∧ (s.through events).StaysLent n more :=
  accepts_append

theorem neverOversteps_concat (events : List Event) (e : Event) :
    NeverOversteps available settings n (events ++ [e]) ↔
      ((start available settings).through events).moves n e = true ∨
        NeverOversteps available settings n events ∧
          ¬ ((start available settings).through events).Oversteps n (isRecording n events) e := by
  constructor
  · intro h
    cases hmoves : ((start available settings).through events).moves n e with
    | true => exact Or.inl rfl
    | false =>
      refine Or.inr ⟨fun earlier e' later heq => ?_, h events e [] rfl ⟨hmoves, trivial⟩⟩
      intro s' hlent
      refine h earlier e' (later ++ [e]) (by simp [heq]) ?_
      rw [← List.cons_append, staysLent_append, ← through_append, ← heq]
      exact ⟨hlent, hmoves, trivial⟩
  · rintro h earlier e' later heq s' hlent
    -- The event is the last one or stands before it.
    rcases List.eq_nil_or_concat later with rfl | ⟨later, last, rfl⟩
    · obtain ⟨rfl, hlast⟩ := List.append_inj' heq rfl
      obtain rfl : e = e' := by simpa using hlast
      refine (h.resolve_left fun hmoves => ?_).2
      rw [hlent.1] at hmoves
      cases hmoves
    · rw [List.concat_eq_append, ← List.cons_append] at heq hlent
      rw [← List.append_assoc] at heq
      obtain ⟨rfl, hlast⟩ := List.append_inj' heq rfl
      obtain rfl : e = last := by simpa using hlast
      rw [staysLent_append, ← through_append] at hlent
      obtain ⟨hbefore, hmoves, -⟩ := hlent
      refine (h.resolve_left fun h => ?_).1 earlier e' later rfl hbefore
      rw [hmoves] at h
      cases h

theorem recordingAfter_of_operation {s : Session Trace} {e : Event} {op : Operation}
    (h : s.operation? e = some (n, op)) (recording : Bool) :
    e.recordingAfter n recording = op.recordingAfter recording := by
  cases op with
  | execute children =>
    cases e with
    | act a =>
      cases a with
      | perform m op =>
        cases h
        exact if_pos rfl
      | _ => rfl
    | _ => rfl
  | _ =>
    rw [eq_of_operation? h (by simp)]
    exact if_pos rfl

theorem isRecording_concat (events : List Event) (e : Event) :
    isRecording n (events ++ [e]) = e.recordingAfter n (isRecording n events) := by
  simp [isRecording]

theorem oversteps_iff {s : Session Trace} {e : Event} {c : CommandBuffer} {op : Operation}
    (found : s.buffers[n]? = some c) (named : s.operation? e = some (n, op)) (recording : Bool) :
    s.Oversteps n recording e ↔ c.isReady = true ∧ c.Oversteps s.store recording op := by
  constructor
  · rintro ⟨c', op', found', named', h⟩
    cases found.symm.trans found'
    cases named.symm.trans named'
    exact h
  · exact fun h => ⟨c, op, found, named, h⟩

/-- What is known of a command buffer and its stream after some events. -/
def BracketsSoFar (available : Capabilities) (settings : Settings) (n : Nat)
    (events : List Event) : Option CommandBuffer → List Call → Prop
  | none, _ => NeverOversteps available settings n events
  | some c, stream => c.kind = .primary →
    passOpen stream = c.inPass ∧
      (c.isReady = true → stream.foldl recordingAfter false = isRecording n events) ∧
      (Nests false false stream ↔ NeverOversteps available settings n events)

/-- One more event that brings nothing and does not overstep. -/
theorem bracketsSoFar_still {events : List Event} {e : Event} {c : CommandBuffer}
    {stream : List Call} (h : BracketsSoFar available settings n events (some c) stream)
    (hmoves : ((start available settings).through events).moves n e = false)
    (hrecording : c.isReady = true → ∀ recording, e.recordingAfter n recording = recording)
    (hkeeps : ¬ ((start available settings).through events).Oversteps n (isRecording n events) e) :
    BracketsSoFar available settings n (events ++ [e]) (some c) stream := by
  intro hkind
  obtain ⟨hopen, hrecorded, hnests⟩ := h hkind
  refine ⟨hopen, fun hready => ?_, ?_⟩
  · rw [isRecording_concat, hrecording hready]
    exact hrecorded hready
  · rw [hnests, neverOversteps_concat, hmoves]
    simp [hkeeps]

theorem bracketsSoFar_own {events : List Event} {e : Event} {c : CommandBuffer} {op : Operation}
    {stream : List Call} (h : BracketsSoFar available settings n events (some c) stream)
    (hidle : c.native = none → c.bindings = {}) :
    let s := (start available settings).through events
    s.buffers[n]? = some c → s.operation? e = some (n, op) →
      BracketsSoFar available settings n (events ++ [e])
        (some (c.perform s.device s.store op).buffer)
        (if op.moves then [] else stream ++ c.recorded s.device s.store op) := by
  intro s found named
  have hsame : s.moves n e = op.moves := by simp [moves, named]
  cases hmoves : op.moves with
  | true =>
    -- A new native buffer, or none: nothing is recorded in it and nothing was asked of it.
    intro _
    refine ⟨?_, fun _ => ?_, iff_of_true trivial ?_⟩
    · rw [CommandBuffer.inPass, CommandBuffer.bindings_of_moves hidle _ _ hmoves]
      rfl
    · rw [isRecording_concat, recordingAfter_of_operation named]
      cases op <;> first | rfl | cases hmoves
    · exact (neverOversteps_concat events e).2 (Or.inl (hsame.trans hmoves))
  | false =>
    rw [hmoves] at hsame
    cases hn : c.native with
    | none =>
      have hready : c.isReady ≠ true := by simp [CommandBuffer.isReady, hn]
      have hnothing : c.recorded s.device s.store op = [] := by
        rw [CommandBuffer.recorded, CommandBuffer.handle?, hn]
        rfl
      rw [CommandBuffer.buffer_perform_of_not_ready hn _ _ hmoves, hnothing]
      simp only [Bool.false_eq_true, if_false, List.append_nil]
      refine bracketsSoFar_still h hsame (fun h => absurd h hready) ?_
      rw [oversteps_iff found named]
      exact fun h => hready h.1
    | some native =>
      intro hkind
      rw [(CommandBuffer.frame_perform c _ _ hmoves).2.1] at hkind
      have hb := CommandBuffer.handle?_of_native hn
      have hready : c.isReady = true := by simp [CommandBuffer.isReady, hn]
      obtain ⟨hopen, hrecorded, hnests⟩ := h hkind
      obtain ⟨hfits, hafter⟩ := CommandBuffer.brackets_perform hkind hb s.device s.store hmoves
        (isRecording n events)
      have hpass := (CommandBuffer.continues_perform hkind s.device s.store hmoves).2
      rw [if_neg (by simp)]
      refine ⟨?_, fun _ => ?_, ?_⟩
      · rw [← hpass, ← hopen, passOpen, List.foldl_append]
        rfl
      · rw [List.foldl_append, hrecorded hready, hafter, isRecording_concat,
          recordingAfter_of_operation named]
      · rw [nests_append, hrecorded hready, show stream.foldl passAfter false = c.inPass from hopen,
          hnests, hfits, neverOversteps_concat, show moves _ n e = false from hsame,
          oversteps_iff found named]
        simp [hready]

theorem bracketsSoFar_of_run (available : Capabilities) (settings : Settings) (n : Nat)
    (events : List Event) :
    BracketsSoFar available settings n events
      ((Watch.start available settings).through n events).session.buffers[n]?
      ((Watch.start available settings).through n events).stream := by
  apply Watch.place_induction (P := BracketsSoFar available settings n)
  · intro earlier e later heq
    simp at heq
  · -- A buffer that is not there, or has just been made, has not overstepped.
    intro events e c? s found new h
    have hkeeps : ¬ s.Oversteps n (isRecording n events) e := by
      rintro ⟨c, op, found', -⟩
      rw [found] at found'
      cases found'
    have hnever := (neverOversteps_concat events e).2 (Or.inr ⟨h, hkeeps⟩)
    cases c? with
    | none => exact hnever
    | some c =>
      rw [new c rfl]
      exact fun _ => ⟨rfl, nofun, iff_of_true trivial hnever⟩
  · intro events e c op stream s found named _ hidle h
    exact bracketsSoFar_own h hidle found named
  · -- Others act, or the event names a binding that is not possible.
    intro events e c stream s found kept idle h
    apply bracketsSoFar_still h
    · unfold moves
      split
      · rename_i m op named
        by_cases hm : m = n
        · obtain ⟨id, rfl⟩ := idle op (hm ▸ named)
          exact Bool.and_false _
        · simp [hm]
      · rfl
    · intro _ recording
      unfold Event.recordingAfter
      split
      · rename_i m op
        split
        · rename_i hm
          obtain ⟨id, rfl⟩ := idle op (hm ▸ rfl)
          rfl
        · rfl
      · rfl
    · rintro ⟨c', op, _, named, _, h⟩
      obtain ⟨id, rfl⟩ := idle op named
      exact h

/-- For a primary command buffer, at any point of any run: the stream of the native buffer that it
holds is bracketed exactly if, since it borrowed that buffer, it has not overstepped.  To open a
pass inside a pass, to close one that is not open and to close the recording inside a pass break
the brackets, and nothing else does. -/
theorem bracketed_iff_neverOversteps (available : Capabilities) (settings : Settings) (n : Nat)
    (events : List Event) (c : CommandBuffer)
    (hc : ((Watch.start available settings).through n events).session.buffers[n]? = some c)
    (hkind : c.kind = .primary) :
    Bracketed ((Watch.start available settings).through n events).stream ↔
      NeverOversteps available settings n events := by
  have hrun := bracketsSoFar_of_run available settings n events
  rw [hc] at hrun
  rw [bracketed_iff_nests]
  exact (hrun hkind).2.2

theorem drawThenUpdate_neverOversteps :
    ∃ c, ((Watch.start {} {}).through 0 drawThenUpdate).session.buffers[0]? = some c ∧
      c.kind = .primary ∧ NeverOversteps {} {} 0 drawThenUpdate := by
  have hbracketed : Bracketed ((Watch.start {} {}).through 0 drawThenUpdate).stream := by
    decide +kernel
  exact ⟨_, rfl, rfl,
    (bracketed_iff_neverOversteps {} {} 0 drawThenUpdate _ rfl rfl).1 hbracketed⟩

/-- Opening a pass inside a pass, closing one that is not open, and closing the recording inside a
pass: each is sent to the driver and breaks the brackets. -/
theorem misuse_breaks_brackets :
    let pass : Operation := .beginPass
      ⟨⟨⟨3⟩, ⟨901⟩, 0⟩, ⟨⟨4⟩, .offscreen ⟨902⟩⟩, { width := 8, height := 8 }, [], .one, 0⟩
    let opening : List Operation := [.setUp .primary ⟨⟨800⟩, 0⟩, .begin none 0 none]
    ∀ misuse ∈ [[pass, pass], [.endPass], [pass, .finish]],
      ¬ Bracketed ((Watch.start {} {}).through 0
        (.act .create :: (opening ++ misuse).map fun op => .act (.perform 0 op))).stream := by
  decide +kernel

end Session

end GpuRecorder
