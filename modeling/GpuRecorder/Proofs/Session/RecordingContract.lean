import GpuRecorder.Proofs.Recording.Reaching
import GpuRecorder.Proofs.Session.Driving

/-!
# Commands inside and outside of recordings

A driver expects commands in a native buffer only while a recording of that buffer is open: after
an opening that went through, with no closing since.  The command buffer does not see to it.  Over
any driver the commands stay inside recordings exactly along the runs in which nothing that gets
past the guards of a command buffer is asked of one whose recording is not open.
-/

namespace GpuRecorder.Native

/-! ## 1. Marks of recordings -/

inductive RecordingMark where
  | opened
  | closed
  | command
  deriving DecidableEq

def Call.mark : Call → RecordingMark
  | .begin _ _ => .opened
  | .finish _ => .closed
  | _ => .command

/-- Every command comes after an opening, with no closing in between. -/
def InsideRecordings (marks : List RecordingMark) : Prop :=
  ∀ before rest, marks = before ++ .command :: rest →
    ∃ earlier later, before = earlier ++ .opened :: later ∧ .closed ∉ later

def RecordingMark.after (recording : Bool) : RecordingMark → Bool
  | .opened => true
  | .closed => false
  | .command => recording

/-- Every command is inside a recording, given whether one is open at the start. -/
def Inside (recording : Bool) (marks : List RecordingMark) : Prop :=
  Accepts (fun recording m => m = .command → recording = true) RecordingMark.after recording marks

instance (recording : Bool) (marks : List RecordingMark) : Decidable (Inside recording marks) :=
  inferInstanceAs (Decidable (Accepts _ _ recording marks))

/-- A recording is open if it was from the start on, or since an opening. -/
theorem foldl_after_iff (recording : Bool) (marks : List RecordingMark) :
    marks.foldl RecordingMark.after recording = true ↔
      recording = true ∧ .closed ∉ marks ∨
        ∃ earlier later, marks = earlier ++ .opened :: later ∧ .closed ∉ later := by
  induction marks generalizing recording with
  | nil => simp
  | cons m marks ih =>
    have hsplit : (∃ earlier later, m :: marks = earlier ++ .opened :: later ∧ .closed ∉ later) ↔
        m = .opened ∧ .closed ∉ marks ∨
          ∃ earlier later, marks = earlier ++ .opened :: later ∧ .closed ∉ later := by
      constructor
      · rintro ⟨_ | ⟨m', earlier⟩, later, heq, hlater⟩ <;> cases heq
        · exact Or.inl ⟨rfl, hlater⟩
        · exact Or.inr ⟨earlier, later, rfl, hlater⟩
      · rintro (⟨rfl, hlater⟩ | ⟨earlier, later, rfl, hlater⟩)
        · exact ⟨[], marks, rfl, hlater⟩
        · exact ⟨m :: earlier, later, rfl, hlater⟩
    rw [List.foldl_cons, ih, hsplit]
    cases m <;> cases recording <;> simp [RecordingMark.after]

/-- Commands alone are inside exactly if the recording is open, and leave it so. -/
theorem inside_commands {marks : List RecordingMark} (h : ∀ m ∈ marks, m = .command)
    (recording : Bool) :
    (Inside recording marks ↔ (marks ≠ [] → recording = true)) ∧
      marks.foldl RecordingMark.after recording = recording := by
  induction marks with
  | nil => simp [Inside, Accepts]
  | cons m marks ih =>
    obtain ⟨hinside, hafter⟩ := ih fun m' hm' => h m' (List.mem_cons_of_mem _ hm')
    rw [h m List.mem_cons_self, List.foldl_cons, RecordingMark.after, hafter]
    refine ⟨⟨fun hopen _ => hopen.1 rfl, fun hopen => ?_⟩, rfl⟩
    have hopen := hopen (List.cons_ne_nil _ _)
    exact ⟨fun _ => hopen, hinside.2 fun _ => hopen⟩

theorem inside_closings {marks : List RecordingMark} (h : ∀ m ∈ marks, m = .closed) :
    Inside false marks ∧ marks.foldl RecordingMark.after false = false := by
  induction marks with
  | nil => exact ⟨trivial, rfl⟩
  | cons m marks ih =>
    rw [h m List.mem_cons_self]
    obtain ⟨hinside, hafter⟩ := ih fun m' hm' => h m' (List.mem_cons_of_mem _ hm')
    exact ⟨⟨nofun, hinside⟩, hafter⟩

theorem insideRecordings_iff (marks : List RecordingMark) :
    InsideRecordings marks ↔ Inside false marks := by
  rw [Inside, accepts_iff_forall]
  constructor
  · rintro h before m rest heq rfl
    exact (foldl_after_iff false before).2 (Or.inr (h before rest heq))
  · intro h before rest heq
    exact ((foldl_after_iff false before).1 (h before _ rest heq rfl)).resolve_left (by simp)

instance (marks : List RecordingMark) : Decidable (InsideRecordings marks) :=
  decidable_of_iff _ (insideRecordings_iff marks).symm

end GpuRecorder.Native

/-! ## 2. One action -/

namespace GpuRecorder.Session

open Native Resource Recording Device

variable {σ : Type} [Driver σ]

/-- The command buffer that an action concerns, and the operation that it performs. -/
def acting? (s : Session σ) : Action → Option (CommandBuffer × Operation)
  | .perform n op => s.buffers[n]?.map (·, op)
  | .execute n children =>
    s.buffers[n]?.map (·, .execute (s.select (children.filter (· ≠ n))))
  | _ => none

/-- An action asks something that gets past its guards of a holder of a native buffer. -/
def Reaches (s : Session σ) (b : Handle .commandBuffer) (a : Action) : Prop :=
  ∃ c op, s.acting? a = some (c, op) ∧ c.handle? = some b ∧ c.Reaches s.device s.store op

/-- Whether the recording of a native buffer is open after an action. -/
def isOpenAfter (s : Session σ) (b : Handle .commandBuffer) (recording : Bool) (a : Action) :
    Bool :=
  match s.acting? a with
  | some (c, op) =>
    if c.handle? = some b then c.isOpenAfter s.device s.store recording op else recording
  | none => recording

/-- The holder of a native buffer is asked to open or to close a recording. -/
def delimits (s : Session σ) (b : Handle .commandBuffer) (a : Action) : Bool :=
  match s.acting? a with
  | some (c, op) => c.handle? = some b && op.delimits
  | none => false

/-- The marks of a native buffer that come from an action.  To be asked for an opening or a closing
ends what was open before, whether the driver accepts it or not; the rest is what went through. -/
def marks (s : Session (Observed σ)) (b : Handle .commandBuffer) (a : Action) :
    List RecordingMark :=
  (if s.delimits b a then [.closed] else []) ++
    (callsInto b ((s.step a).session.history.drop s.history.length)).map Call.mark

/-! ## 3. What an action leaves -/

/-- An action adds calls to the buffer that the acting command buffer holds and to no other. -/
def PutsOwn (s : Session (Observed σ)) (a : Action) (news : List Call) : Prop :=
  match s.acting? a with
  | some (c, op) =>
    Confined c.handle? news ∧
      ∀ b, c.handle? = some b → c.Puts s.device s.store b op (callsInto b news)
  | none => Confined none news

theorem history_step (s : Session (Observed σ)) (a : Action) :
    ∃ news, (s.step a).session.history = s.history ++ news ∧ s.PutsOwn a news := by
  -- Without a command buffer that acts, what is added is done on the device.
  have happart (hacting : s.acting? a = none)
      (happends : Observed.Appends (·.target? = none) s.device.driver
        (s.step a).session.device.driver) :
      ∃ news, (s.step a).session.history = s.history ++ news ∧ s.PutsOwn a news := by
    obtain ⟨news, hhistory, hnews⟩ := happends
    refine ⟨news, hhistory, ?_⟩
    rw [PutsOwn, hacting]
    exact fun x hx => Or.inl (hnews x hx)
  have hperform {n : Nat} {op : Operation} (hacting : s.acting? a = s.buffers[n]?.map (·, op))
      (hstep : s.step a = s.perform n op) :
      ∃ news, (s.step a).session.history = s.history ++ news ∧ s.PutsOwn a news := by
    cases found : s.buffers[n]? with
    | none =>
      refine happart (by rw [hacting, found, Option.map_none]) ?_
      rw [hstep, perform, found]
      exact .refl _
    | some c =>
      obtain ⟨news, hhistory, hputs⟩ := c.putsOwn_perform s.device s.store op
      refine ⟨news, ?_, ?_⟩
      · rw [hstep, perform, found]
        exact hhistory
      · rw [PutsOwn, hacting, found, Option.map_some]
        exact hputs
  cases a with
  | change c => exact happart rfl (.refl _)
  | create => exact happart rfl (.refl _)
  | perform n op => exact hperform rfl rfl
  | execute n children => exact hperform rfl rfl
  | submit queue buffers fence =>
    refine happart rfl ?_
    simp only [step, ofDevice, Device.submit]
    split
    · exact .refl _
    · apply Observed.Appends.answered
      exact fun _ => rfl
  | resetSets =>
    refine happart rfl ?_
    exact (poolCalls_observed.reset _ _).mono fun _ => target_of_madeByPools

theorem marks_of_news {s : Session (Observed σ)} {a : Action} {news : List Call}
    (h : (s.step a).session.history = s.history ++ news) (b : Handle .commandBuffer) :
    s.marks b a = (if s.delimits b a then [.closed] else []) ++ (callsInto b news).map Call.mark := by
  rw [marks, h, List.drop_left]

/-- What an operation puts into its own buffer is inside a recording exactly if the recording is
open or the operation does not get past its guards. -/
theorem inside_puts {c : CommandBuffer} {d : Device (Observed σ)} {s : Store}
    {b : Handle .commandBuffer} {op : Operation} {calls : List Call}
    (h : c.Puts d s b op calls) (recording : Bool) :
    let marks := (if op.delimits then [.closed] else []) ++ calls.map Call.mark
    (Inside recording marks ↔ (c.Reaches d s op → recording = true)) ∧
      marks.foldl RecordingMark.after recording = c.isOpenAfter d s recording op := by
  cases h with
  | opened opens => exact ⟨iff_of_true ⟨nofun, nofun, trivial⟩ nofun, (opens recording).symm⟩
  | unopened stays => exact ⟨iff_of_true ⟨nofun, trivial⟩ nofun, (stays recording).symm⟩
  | closed ends =>
    have hmarks : ∀ m ∈ calls.map Call.mark, m = .closed := by
      intro m hm
      obtain ⟨x, hx, rfl⟩ := List.mem_map.1 hm
      rw [ends x hx]
      rfl
    obtain ⟨hinside, hafter⟩ := inside_closings hmarks
    exact ⟨iff_of_true ⟨nofun, hinside⟩ nofun, hafter⟩
  | @recorded _ commands inside reaches =>
    have hmarks : ∀ m ∈ (recordedCalls b commands).map Call.mark, m = .command := by
      intro m hm
      obtain ⟨x, hx, rfl⟩ := List.mem_map.1 hm
      obtain ⟨_, _, _, rfl, _⟩ := sort_of_mem_recordedCalls hx
      rfl
    obtain ⟨hinside, hafter⟩ := inside_commands hmarks recording
    have hkeeps : c.isOpenAfter d s recording op = recording := by
      cases op <;> first | rfl | cases inside
    simp only [inside, Bool.false_eq_true, if_false, List.nil_append]
    rw [hinside, hafter, hkeeps, ← reaches, ne_eq, List.map_eq_nil_iff]
    exact ⟨Iff.rfl, rfl⟩

/-- The same for an action: only what it asks of a holder of the buffer matters. -/
theorem inside_marks (s : Session (Observed σ)) (b : Handle .commandBuffer) (a : Action)
    (recording : Bool) :
    (Inside recording (s.marks b a) ↔ (s.Reaches b a → recording = true)) ∧
      (s.marks b a).foldl RecordingMark.after recording = s.isOpenAfter b recording a := by
  obtain ⟨news, hhistory, hputs⟩ := s.history_step a
  rw [marks_of_news hhistory]
  unfold PutsOwn at hputs
  unfold delimits Reaches isOpenAfter
  -- The action concerns a holder of the buffer, another command buffer, or none.
  cases hacting : s.acting? a with
  | none =>
    rw [hacting] at hputs
    have hnone : callsInto b news = [] := callsInto_eq_nil fun x hx => by
      rw [(hputs x hx).elim id id]
      nofun
    simp [hnone, Inside, Accepts]
  | some acting =>
    obtain ⟨c, op⟩ := acting
    rw [hacting] at hputs
    obtain ⟨hconfined, hputs⟩ := hputs
    by_cases hb : c.handle? = some b
    · have hown := inside_puts (hputs b hb) recording
      simpa [hb] using hown
    · have hnone : callsInto b news = [] := callsInto_eq_nil fun x hx heq => by
        rcases hconfined x hx with h | h
        · rw [h] at heq
          cases heq
        · exact hb (h.symm.trans heq)
      simp [hnone, hb, Inside, Accepts]

/-! ## 4. A run -/

/-- The marks of a native buffer along a run. -/
def transcript (s : Session (Observed σ)) (b : Handle .commandBuffer) :
    List Action → List RecordingMark
  | [] => []
  | a :: rest => s.marks b a ++ (s.step a).session.transcript b rest

/-- Whether the recording of a native buffer is open after a run, by what was asked of its holders
and what came back. -/
def isOpenThrough (s : Session σ) (b : Handle .commandBuffer) (recording : Bool) :
    List Action → Bool
  | [] => recording
  | a :: rest => (s.step a).session.isOpenThrough b (s.isOpenAfter b recording a) rest

theorem inside_transcript (s : Session (Observed σ)) (b : Handle .commandBuffer)
    (recording : Bool) (actions : List Action) :
    Inside recording (s.transcript b actions) ↔
      ∀ earlier a later, actions = earlier ++ a :: later → (s.run earlier).Reaches b a →
        s.isOpenThrough b recording earlier = true := by
  induction actions generalizing s recording with
  | nil => simp [transcript, Inside, Accepts]
  | cons a rest ih =>
    obtain ⟨hinside, hafter⟩ := s.inside_marks b a recording
    rw [transcript, Inside, accepts_append]
    show Inside recording _ ∧ Inside _ _ ↔ _
    rw [hinside, hafter, ih]
    constructor
    · rintro ⟨hfirst, hrest⟩ earlier a' later heq
      cases earlier with
      | nil =>
        cases heq
        exact hfirst
      | cons first earlier =>
        cases heq
        exact hrest earlier a' later rfl
    · intro h
      exact ⟨h [] a rest rfl, fun earlier a' later heq => h (a :: earlier) a' later (by simp [heq])⟩

/-- Over any driver and along any run: the commands that go into a native buffer come after an
opening of its recording that went through, with no closing since, exactly if nothing that gets
past its guards was asked of a holder while the recording was not open. -/
theorem insideRecordings_iff_reaches (driver : σ) (available : Capabilities) (settings : Settings)
    (actions : List Action) (b : Handle .commandBuffer) :
    let s := observed driver available settings
    InsideRecordings (s.transcript b actions) ↔
      ∀ earlier a later, actions = earlier ++ a :: later → (s.run earlier).Reaches b a →
        s.isOpenThrough b false earlier = true := by
  intro s
  rw [insideRecordings_iff]
  exact s.inside_transcript b false actions

/-- A command before the first opening, one after the closing, and one in a secondary buffer whose
opening was reported for want of a render pass: each goes to the driver outside of a recording. -/
theorem commands_outside_recordings :
    let command : Operation := .set (.lineWidth .one)
    let opening : Operation := .begin none 0 none
    ∀ misuse ∈ [(BufferKind.primary, [command]), (.primary, [opening, .finish, command]),
        (.secondary, [opening, command])],
      let operations := .setUp misuse.1 ⟨⟨800⟩, 0⟩ :: misuse.2
      ¬ InsideRecordings ((observed ({} : Trace) {} {}).transcript ⟨4097⟩
        (.create :: operations.map (.perform 0))) := by
  decide +kernel

end GpuRecorder.Session
