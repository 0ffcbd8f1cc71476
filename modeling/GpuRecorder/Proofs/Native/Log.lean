import GpuRecorder.Native.Trace

/-!
# What reaches the log of a trace

A trace only ever appends to its log, and all that its requests change is the log.  `noteAll` is
that one change.  What was written down between two moments is `callsSince`; `callsInto` keeps the
part that went into one command buffer.
-/

namespace GpuRecorder.Native

/-! ## 1. Streams -/

def callsInto (buffer : Handle .commandBuffer) (calls : List Call) : List Call :=
  calls.filter fun c => c.target? = some buffer

theorem callsInto_append (buffer : Handle .commandBuffer) (calls more : List Call) :
    callsInto buffer (calls ++ more) = callsInto buffer calls ++ callsInto buffer more := by
  simp [callsInto]

theorem callsInto_eq_self {buffer : Handle .commandBuffer} {calls : List Call}
    (h : ∀ c ∈ calls, c.target? = some buffer) : callsInto buffer calls = calls := by
  rw [callsInto, List.filter_eq_self]
  intro c hc
  simpa using h c hc

theorem callsInto_eq_nil {buffer : Handle .commandBuffer} {calls : List Call}
    (h : ∀ c ∈ calls, c.target? ≠ some buffer) : callsInto buffer calls = [] := by
  rw [callsInto, List.filter_eq_nil_iff]
  intro c hc
  simpa using h c hc

/-- The calls that recording a list of commands into one buffer leaves. -/
def recordedCalls (buffer : Handle .commandBuffer) (commands : List Command) : List Call :=
  (commands.flatMap fun c => (Request.record buffer c).entries).map .request

theorem entries_record_target (buffer : Handle .commandBuffer) (c : Command) :
    ∀ r ∈ (Request.record buffer c).entries, (Call.request r).target? = some buffer := by
  intro r hr
  cases c with
  | setViewports first viewports =>
    obtain ⟨v, _, rfl⟩ := List.mem_map.1 hr
    rfl
  | setScissors first scissors =>
    obtain ⟨s, _, rfl⟩ := List.mem_map.1 hr
    rfl
  | _ =>
    obtain rfl := List.mem_singleton.1 hr
    rfl

theorem target_of_mem_recordedCalls {buffer : Handle .commandBuffer} {commands : List Command}
    {call : Call} (h : call ∈ recordedCalls buffer commands) : call.target? = some buffer := by
  obtain ⟨r, hr, rfl⟩ := List.mem_map.1 h
  obtain ⟨c, _, hc⟩ := List.mem_flatMap.1 hr
  exact entries_record_target buffer c r hc

theorem callsInto_recordedCalls (buffer : Handle .commandBuffer) (commands : List Command) :
    callsInto buffer (recordedCalls buffer commands) = recordedCalls buffer commands :=
  callsInto_eq_self fun _ h => target_of_mem_recordedCalls h

@[simp] theorem recordedCalls_nil (buffer : Handle .commandBuffer) :
    recordedCalls buffer [] = [] := rfl

theorem recordedCalls_append (buffer : Handle .commandBuffer) (commands more : List Command) :
    recordedCalls buffer (commands ++ more) =
      recordedCalls buffer commands ++ recordedCalls buffer more := by
  simp [recordedCalls]

/-- All that is recorded goes into one buffer, if there is one. -/
def Confined (buffer? : Option (Handle .commandBuffer)) (calls : List Call) : Prop :=
  ∀ c ∈ calls, c.target? = none ∨ c.target? = buffer?

theorem Confined.nil (buffer? : Option (Handle .commandBuffer)) : Confined buffer? [] := by
  simp [Confined]

theorem Confined.append {buffer? : Option (Handle .commandBuffer)} {calls more : List Call}
    (h : Confined buffer? calls) (hmore : Confined buffer? more) :
    Confined buffer? (calls ++ more) := by
  intro c hc
  rcases List.mem_append.1 hc with hc | hc
  · exact h c hc
  · exact hmore c hc

theorem Confined.recorded (buffer : Handle .commandBuffer) (commands : List Command) :
    Confined (some buffer) (recordedCalls buffer commands) :=
  fun _ hc => Or.inr (target_of_mem_recordedCalls hc)

/-! ## 2. The calls of a script -/

def Script.calls (s : Script) : List Call :=
  (s.requests.flatMap Request.entries).map .request

@[simp] theorem Script.calls_nil : Script.calls [] = [] := rfl

theorem Script.calls_append (s t : Script) : Script.calls (s ++ t) = s.calls ++ t.calls := by
  simp [Script.calls]

theorem Script.calls_of_requests_nil {s : Script} (h : s.requests = []) : s.calls = [] := by
  simp [Script.calls, h]

@[simp] theorem Script.calls_record (buffer : Handle .commandBuffer) (commands : List Command) :
    (Script.record buffer commands).calls = recordedCalls buffer commands := by
  simp [Script.calls, recordedCalls, List.flatMap_map]

/-! ## 3. The log grows at its end -/

namespace Trace

def noteAll (t : Trace) (calls : List Call) : Trace := { t with log := t.log ++ calls.toArray }

@[simp] theorem noteAll_nil (t : Trace) : t.noteAll [] = t := by
  simp [noteAll]

theorem noteAll_noteAll (t : Trace) (calls more : List Call) :
    (t.noteAll calls).noteAll more = t.noteAll (calls ++ more) := by
  simp [noteAll, Array.append_assoc]

theorem note_eq_noteAll (t : Trace) (c : Call) : t.note c = t.noteAll [c] := by
  simp [note, noteAll]

@[simp] theorem log_noteAll (t : Trace) (calls : List Call) :
    (t.noteAll calls).log.toList = t.log.toList ++ calls := by
  simp [noteAll]

theorem request_eq_noteAll (t : Trace) (r : Request) :
    t.request r = ([], t.noteAll (r.entries.map .request)) := by
  have fold : ∀ (entries : List Request) (t : Trace),
      entries.foldl (fun t entry => t.note (.request entry)) t =
        t.noteAll (entries.map .request) := by
    intro entries
    induction entries with
    | nil => intro t; simp
    | cons e entries ih =>
      intro t
      rw [List.foldl_cons, ih, note_eq_noteAll, noteAll_noteAll]
      rfl
  rw [request, fold]

end Trace

/-- A script on a trace: its own messages come out and its calls are written down. -/
theorem Script.play_trace (t : Trace) (s : Script) :
    (s.play t).2 = t.noteAll s.calls := by
  induction s generalizing t with
  | nil => simp [play]
  | cons e s ih =>
    cases e with
    | report m => simpa [play, calls] using ih t
    | request r =>
      have hr : Driver.request t r = ([], t.noteAll (r.entries.map .request)) :=
        t.request_eq_noteAll r
      simp only [play, hr, ih]
      rw [Trace.noteAll_noteAll]
      simp [calls]

/-- What a script reports comes out, over any driver. -/
theorem Script.mem_play_of_report {σ : Type} [Driver σ] (driver : σ) {s : Script} {m : Message}
    (h : Effect.report m ∈ s) : m ∈ (s.play driver).1 := by
  induction s generalizing driver with
  | nil => cases h
  | cons e s ih =>
    cases e with
    | report m' =>
      rcases List.mem_cons.1 h with heq | hmem
      · cases heq
        exact List.mem_cons_self
      · exact List.mem_cons_of_mem _ (ih driver hmem)
    | request r =>
      have hmem : Effect.report m ∈ s := by simpa using h
      exact List.mem_append_right _ (ih _ hmem)

/-! ## 4. Between two moments -/

def Trace.callsSince (before after : Trace) : List Call :=
  after.log.toList.drop before.log.size

theorem Trace.callsSince_of_append {before after : Trace} {calls : List Call}
    (h : after.log.toList = before.log.toList ++ calls) : before.callsSince after = calls := by
  rw [callsSince, h, ← Array.length_toList, List.drop_left]

theorem Trace.callsSince_of_log_eq {before after : Trace} (h : after.log = before.log) :
    before.callsSince after = [] :=
  callsSince_of_append (by rw [h, List.append_nil])

theorem Trace.confined_of_log_eq {buffer? : Option (Handle .commandBuffer)}
    {before after : Trace} (h : after.log = before.log) :
    Confined buffer? (before.callsSince after) := by
  rw [callsSince_of_log_eq h]
  exact Confined.nil _

/-- Between the two moments only calls of one sort were written down. -/
def Trace.Appends (Q : Call → Prop) (before after : Trace) : Prop :=
  before.next ≤ after.next ∧
    ∃ calls, after.log.toList = before.log.toList ++ calls ∧ ∀ c ∈ calls, Q c

/-- Between the two moments nothing went into a command buffer other than the given one. -/
def Trace.GrowsOnly (buffer? : Option (Handle .commandBuffer)) (before after : Trace) : Prop :=
  Appends (fun c => c.target? = none ∨ c.target? = buffer?) before after

namespace Trace

variable {Q Q' : Call → Prop} {buffer? : Option (Handle .commandBuffer)} {t t' t'' : Trace}

theorem Appends.refl (t : Trace) : Appends Q t t :=
  ⟨Nat.le_refl _, [], by simp, by simp⟩

theorem Appends.trans (h : Appends Q t t') (h' : Appends Q t' t'') : Appends Q t t'' := by
  obtain ⟨hnext, calls, hlog, hcalls⟩ := h
  obtain ⟨hnext', calls', hlog', hcalls'⟩ := h'
  refine ⟨Nat.le_trans hnext hnext', calls ++ calls', by rw [hlog', hlog, List.append_assoc], ?_⟩
  intro c hc
  exact (List.mem_append.1 hc).elim (hcalls c) (hcalls' c)

theorem Appends.mono (h : Appends Q t t') (hQ : ∀ c, Q c → Q' c) : Appends Q' t t' := by
  obtain ⟨hnext, calls, hlog, hcalls⟩ := h
  exact ⟨hnext, calls, hlog, fun c hc => hQ c (hcalls c hc)⟩

theorem Appends.note {c : Call} (hnext : t.next ≤ t'.next) (hlog : t'.log = t.log.push c)
    (hc : Q c) : Appends Q t t' := by
  refine ⟨hnext, [c], by rw [hlog, Array.toList_push], ?_⟩
  intro c' hc'
  obtain rfl := List.mem_singleton.1 hc'
  exact hc

theorem GrowsOnly.of_none (h : GrowsOnly none t t') : GrowsOnly buffer? t t' :=
  h.mono fun _ hc => Or.inl (hc.elim id id)

theorem GrowsOnly.noteAll {calls : List Call} (h : Confined buffer? calls) :
    GrowsOnly buffer? t (t.noteAll calls) :=
  ⟨Nat.le_refl _, calls, by simp, h⟩

theorem GrowsOnly.callsInto_other (h : GrowsOnly buffer? t t') {other : Handle .commandBuffer}
    (hne : buffer? ≠ some other) : callsInto other (t.callsSince t') = [] := by
  obtain ⟨_, calls, hlog, htarget⟩ := h
  rw [callsSince_of_append hlog]
  apply callsInto_eq_nil
  intro c hc heq
  rcases htarget c hc with hnone | hbuffer
  · rw [hnone] at heq
    exact Option.some_ne_none _ heq.symm
  · exact hne (hbuffer.symm.trans heq)

end Trace

/-! ## 5. Entry by entry -/

/-- Each entry of a history is allowed in the state that the entries before it lead to. -/
def Accepts {α β : Type} (allowed : β → α → Prop) (next : β → α → β) (state : β) : List α → Prop
  | [] => True
  | x :: rest => allowed state x ∧ Accepts allowed next (next state x) rest

section

variable {α β : Type} {allowed : β → α → Prop} {next : β → α → β}

theorem accepts_append {state : β} {xs ys : List α} :
    Accepts allowed next state (xs ++ ys) ↔
      Accepts allowed next state xs ∧ Accepts allowed next (xs.foldl next state) ys := by
  induction xs generalizing state with
  | nil => simp [Accepts]
  | cons x xs ih => rw [List.cons_append, Accepts, ih, Accepts, List.foldl_cons, and_assoc]

theorem accepts_iff_forall {state : β} {xs : List α} :
    Accepts allowed next state xs ↔
      ∀ before x rest, xs = before ++ x :: rest → allowed (before.foldl next state) x := by
  constructor
  · rintro h before x rest rfl
    exact (accepts_append.1 h).2.1
  · intro h
    induction xs generalizing state with
    | nil => trivial
    | cons x xs ih =>
      refine ⟨h [] x xs rfl, ih fun before y rest heq => ?_⟩
      exact h (x :: before) y rest (by rw [heq, List.cons_append])

/-- Steps that are allowed in a state and leave it are allowed one after the other. -/
theorem accepts_of_still {state : β} {xs : List α}
    (h : ∀ x ∈ xs, allowed state x ∧ next state x = state) :
    Accepts allowed next state xs ∧ xs.foldl next state = state := by
  induction xs with
  | nil => exact ⟨trivial, rfl⟩
  | cons x xs ih =>
    have hfirst := h x List.mem_cons_self
    have hrest := ih fun y hy => h y (List.mem_cons_of_mem x hy)
    rw [Accepts, List.foldl_cons, hfirst.2]
    exact ⟨⟨hfirst.1, hrest.1⟩, hrest.2⟩

instance decidableAccepts [∀ state x, Decidable (allowed state x)] (state : β) :
    (xs : List α) → Decidable (Accepts allowed next state xs)
  | [] => isTrue trivial
  | x :: rest =>
    have := decidableAccepts (next state x) rest
    inferInstanceAs (Decidable (_ ∧ _))

end

end GpuRecorder.Native
