import GpuRecorder.Proofs.Device.TracePools
import GpuRecorder.Proofs.Native.Journal
import GpuRecorder.Proofs.Session.Bench

/-!
# Runs with a journal

Two drivers that answer alike call by call, wherever they are asked alike, mirror each other: all
that is known of them is how they answered in the end, and every state on the way there has part of
that end in its journal.  A trace answers with handles that it never used before, and notes each
attempt that goes through.
-/

namespace GpuRecorder.Native

open Device

/-! ## 1. One more attempt -/

theorem Request.pushes_named (f : Names) (r : Request) : (r.named f).pushes = r.pushes := by
  cases r with
  | record buffer c => cases c <;> rfl
  | _ => rfl

namespace Attempt

variable {f : Names}

theorem named_ofAnswer {α : Type} {q : Question} {call call' : α → Call} {name : α → α}
    (h : ∀ a, call' (name a) = (call a).named f) (answer : Except ResultCode α) :
    ofAnswer q call' (answer.map name) = (ofAnswer q call answer).named f := by
  cases answer with
  | error code => rfl
  | ok a => exact congrArg Attempt.through (h a)

theorem question_ofAnswer {α : Type} {q : Question} {call : α → Call}
    (h : ∀ a, (call a).question? = some q) (answer : Except ResultCode α) :
    (ofAnswer q call answer).question? = some q := by
  cases answer with
  | error code => rfl
  | ok a => exact h a

/-- Answers that go by these names are the same answer under other names. -/
theorem AnsweredAs.answer {α : Type} {q : Question} {call call' : α → Call} {name : α → α}
    {answer answer' : Except ResultCode α}
    (h : (ofAnswer q call answer).AnsweredAs f (ofAnswer q call' answer'))
    (same : ∀ {a a'}, (through (call a)).AnsweredAs f (through (call' a')) → a' = name a) :
    answer' = answer.map name := by
  have hrefusal := h.refusal
  cases answer with
  | error code =>
    cases answer' with
    | error code' => exact congrArg Except.error (Option.some.inj hrefusal)
    | ok a' => cases hrefusal
  | ok a =>
    cases answer' with
    | error code' => cases hrefusal
    | ok a' => exact congrArg Except.ok (same h)

end Attempt

/-- Two journals with one more attempt, on the way to ends that are answered alike. -/
theorem AnsweredUnder.next {f : Names} {ends ends' past past' : List Attempt} {a a' : Attempt}
    (h : AnsweredUnder f ends ends') (hpast : past' = past.map (Attempt.named f))
    (hends : past ++ [a] <+: ends) (hends' : past' ++ [a'] <+: ends')
    (hquestion : a'.question? = a.question?) : a.AnsweredAs f a' := by
  obtain ⟨rest, rfl⟩ := hends
  obtain ⟨rest', rfl⟩ := hends'
  refine h (a, a') ?_ hquestion
  -- Both pasts are of one length, so the two attempts stand side by side.
  have hlength : (past ++ [a]).length = (past' ++ [a']).length := by
    rw [hpast, List.length_append, List.length_append, List.length_map]
    rfl
  rw [List.zip_append hlength, List.zip_append (by rw [hpast, List.length_map])]
  exact List.mem_append_left _ (List.mem_append_right _ List.mem_cons_self)

namespace Journal

variable {σ τ : Type}

/-! ## 2. Two journals -/

/-- The second journal has the same attempts under other names. -/
structure Alongside (f : Names) (fit : τ → Prop) (j : Journal σ) (j' : Journal τ) : Prop where
  attempts : j'.attempts = j.attempts.map (Attempt.named f)
  fit : fit j'.driver

/-- The run comes to an end with this journal. -/
def EndsIn (ends : List Attempt) (j : Journal σ) : Prop := j.attempts <+: ends

variable {f : Names} {fit : τ → Prop} {ends ends' : List Attempt} {j : Journal σ} {j' : Journal τ}

theorem EndsIn.before {a : Attempt} {driver driver' : σ} {past : List Attempt}
    (h : EndsIn ends ⟨driver', past ++ [a]⟩) : EndsIn ends ⟨driver, past⟩ :=
  (List.prefix_append past [a]).trans h

theorem closingCalls_endsIn [Driver σ] (ends : List Attempt) :
    ClosingCalls fun j after : Journal σ => EndsIn ends after → EndsIn ends j where
  refl _ := id
  trans h h' := h ∘ h'
  createCommandPool _ _ := EndsIn.before
  allocateCommandBuffers _ _ _ _ := EndsIn.before
  createDescriptorPool _ _ _ := EndsIn.before
  allocateDescriptorSets _ _ _ := EndsIn.before
  resetDescriptorPool _ _ := EndsIn.before
  submit _ _ _ _ := EndsIn.before
  beginRecording _ _ _ := EndsIn.before
  endRecording _ _ := EndsIn.before
  request _ _ := EndsIn.before
  destroyCommandPool _ _ := EndsIn.before
  destroyDescriptorPool _ _ := EndsIn.before

theorem Alongside.told (h : j.Alongside f fit j') {c c' : Call} (hcall : c' = c.named f) {d : σ}
    {d' : τ} (hfit : fit d') : (j.told c d).Alongside f fit (j'.told c' d') := by
  refine ⟨?_, hfit⟩
  show j'.attempts ++ _ = (j.attempts ++ _).map _
  rw [List.map_append, h.attempts, hcall]
  rfl

/-- A question that is asked on both sides is answered the same under other names. -/
theorem Alongside.answered (answers : AnsweredUnder f ends ends') (h : j.Alongside f fit j')
    {α : Type} {q : Question} (call call' : α → Call) (name : α → α)
    (asks : ∀ a, (call a).question? = some q) (asks' : ∀ a, (call' a).question? = some q)
    (same : ∀ {a a'}, (Attempt.through (call a)).AnsweredAs f (.through (call' a')) → a' = name a)
    (names : ∀ a, call' (name a) = (call a).named f) {r : Except ResultCode α × σ}
    {r' : Except ResultCode α × τ} (hfit : fit r'.2) :
    Agrees (Alongside f fit) (EndsIn ends) (EndsIn ends') (j.answered q call r).2
      (j'.answered q call' r').2 (r'.1 = r.1.map name) := by
  intro hends hends'
  have hquestion : (Attempt.ofAnswer q call' r'.1).question? =
      (Attempt.ofAnswer q call r.1).question? :=
    (Attempt.question_ofAnswer asks' _).trans (Attempt.question_ofAnswer asks _).symm
  have hanswer : r'.1 = r.1.map name := (answers.next h.attempts hends hends' hquestion).answer same
  refine ⟨hanswer, ?_, hfit⟩
  show j'.attempts ++ [Attempt.ofAnswer q call' r'.1] =
    (j.attempts ++ [Attempt.ofAnswer q call r.1]).map _
  rw [List.map_append, h.attempts, hanswer, Attempt.named_ofAnswer names]
  rfl

/-- A question whose answer says nothing but that it went through. -/
theorem Alongside.granted (answers : AnsweredUnder f ends ends') (h : j.Alongside f fit j')
    {q : Question} {call call' : Call} (asks : call.question? = some q)
    (names : call' = call.named f) {r : Except ResultCode Unit × σ}
    {r' : Except ResultCode Unit × τ} (hfit : fit r'.2) :
    Agrees (Alongside f fit) (EndsIn ends) (EndsIn ends') (j.answered q (fun _ => call) r).2
      (j'.answered q (fun _ => call') r').2 (r'.1 = r.1) := by
  have asks' : call'.question? = some q := by
    rw [names, ← asks]
    cases call <;> rfl
  intro hends hends'
  obtain ⟨hanswer, hend⟩ := h.answered answers (fun _ => call) (fun _ => call') id (fun _ => asks)
    (fun _ => asks') (fun _ => rfl) (fun _ => names) hfit hends hends'
  exact ⟨hanswer.trans (congrFun Except.map_id _), hend⟩

/-! ## 3. They mirror each other -/

section

variable [Driver σ] [Driver τ] {push : Bool}

/-- Nothing is reported about a request, unless it is a push that is not known. -/
def Silent (σ : Type) [Driver σ] (push : Bool) (fit : σ → Prop) : Prop :=
  ∀ d : σ, fit d → ∀ r : Request, (r.pushes = true → push = true) → (Driver.request d r).1 = []

/-- Sets are granted one for each layout. -/
def Grants (σ : Type) [Driver σ] : Prop :=
  ∀ {d : σ} {pool layouts sets},
    (Driver.allocateDescriptorSets d pool layouts).1 = .ok sets → sets.length = layouts.length

theorem pools_mirror (answers : AnsweredUnder f ends ends')
    (keeps : PoolCalls fun d d' : τ => fit d → fit d') :
    PoolMirror f (Alongside (σ := σ) f fit) (EndsIn ends) (EndsIn ends') where
  back := (closingCalls_endsIn ends).toPoolCalls
  back' := (closingCalls_endsIn ends').toPoolCalls
  createCommandPool h family :=
    h.answered answers (.createCommandPool family) (.createCommandPool family) f.commandPool
      (fun _ => rfl) (fun _ => rfl) (fun h => List.singleton_inj.1 h.commandPools) (fun _ => rfl)
      (keeps.createCommandPool _ _ h.fit)
  allocateCommandBuffers h pool level _ :=
    h.answered answers (.allocateCommandBuffers pool level)
      (.allocateCommandBuffers (f.commandPool pool) level) (List.map f.commandBuffer)
      (fun _ => rfl) (fun _ => rfl) (fun h => h.commandBuffers) (fun _ => rfl)
      (keeps.allocateCommandBuffers _ _ _ _ h.fit)
  createDescriptorPool h maxSets _ :=
    h.answered answers (.createDescriptorPool · maxSets) (.createDescriptorPool · maxSets)
      f.descriptorPool (fun _ => rfl) (fun _ => rfl)
      (fun h => List.singleton_inj.1 h.descriptorPools) (fun _ => rfl)
      (keeps.createDescriptorPool _ _ _ h.fit)
  allocateDescriptorSets h pool layouts :=
    h.answered answers (.allocateDescriptorSets pool layouts)
      (.allocateDescriptorSets (f.descriptorPool pool) layouts) (List.map f.descriptorSet)
      (fun _ => rfl) (fun _ => rfl) (fun h => h.descriptorSets) (fun _ => rfl)
      (keeps.allocateDescriptorSets _ _ _ h.fit)
  resetDescriptorPool h _ := h.granted answers rfl rfl (keeps.resetDescriptorPool _ _ h.fit)

theorem mirror (answers : AnsweredUnder f ends ends') (silent : Silent σ push fun _ => True)
    (silent' : Silent τ push fit) (keeps : ClosingCalls fun d d' : τ => fit d → fit d')
    (grants : Grants σ) :
    DriverMirror f push (Alongside (σ := σ) f fit) (EndsIn ends) (EndsIn ends') where
  toPoolMirror := pools_mirror answers keeps.toPoolCalls
  calls := closingCalls_endsIn ends
  calls' := closingCalls_endsIn ends'
  submit h _ _ _ := h.granted answers rfl rfl (keeps.submit _ _ _ _ h.fit)
  beginRecording h _ _ := h.granted answers rfl rfl (keeps.beginRecording _ _ _ h.fit)
  endRecording h _ := h.granted answers rfl rfl (keeps.endRecording _ _ h.fit)
  request h r hpush _ _ :=
    ⟨(silent' _ h.fit _ (by rwa [Request.pushes_named])).trans (silent _ trivial r hpush).symm,
      h.told rfl (keeps.request _ _ h.fit)⟩
  destroyCommandPool h _ := h.told rfl (keeps.destroyCommandPool _ _ h.fit)
  destroyDescriptorPool h _ := h.told rfl (keeps.destroyDescriptorPool _ _ h.fit)
  grants h := grants (congrArg Prod.fst h)

end

end Journal

/-! ## 4. On a trace -/

/-- What a trace notes for an attempt. -/
def Attempt.noted : Attempt → List Call
  | .through (.request r) => r.entries.map .request
  | .through c => [c]
  | .refused _ _ => []

/-- The handles that some attempts were answered with are new. -/
structure NewHandles (next next' : Nat) (attempts : List Attempt) : Prop where
  commandPools : New next next' (attempts.flatMap Attempt.commandPools)
  commandBuffers : New next next' (attempts.flatMap Attempt.commandBuffers)
  descriptorPools : New next next' (attempts.flatMap Attempt.descriptorPools)
  descriptorSets : New next next' (attempts.flatMap Attempt.descriptorSets)

namespace NewHandles

variable {next next' next'' : Nat} {attempts more : List Attempt}

theorem handsOutFresh (h : NewHandles next next' attempts) : HandsOutFresh attempts :=
  ⟨h.commandPools.1, h.commandBuffers.1, h.descriptorPools.1, h.descriptorSets.1⟩

theorem none : NewHandles next next' [] := ⟨new_nil, new_nil, new_nil, new_nil⟩

theorem append (h : NewHandles next next' attempts) (hmore : NewHandles next' next'' more)
    (hle : next ≤ next') (hle' : next' ≤ next'') : NewHandles next next'' (attempts ++ more) := by
  constructor <;> rw [List.flatMap_append]
  · exact h.commandPools.append hmore.commandPools hle hle'
  · exact h.commandBuffers.append hmore.commandBuffers hle hle'
  · exact h.descriptorPools.append hmore.descriptorPools hle hle'
  · exact h.descriptorSets.append hmore.descriptorSets hle hle'

theorem one {a : Attempt} (hpools : New next next' a.commandPools)
    (hbuffers : New next next' a.commandBuffers) (hdescriptors : New next next' a.descriptorPools)
    (hsets : New next next' a.descriptorSets) : NewHandles next next' [a] := by
  constructor <;> rwa [List.flatMap_singleton]

end NewHandles

namespace Journal

/-- Between two moments of a trace with a journal every attempt was noted and all that was handed
out was new. -/
structure Traced (j j' : Journal Trace) : Prop where
  next_le : j.driver.next ≤ j'.driver.next
  grown : ∃ more, j'.attempts = j.attempts ++ more ∧
    j'.driver.log.toList = j.driver.log.toList ++ more.flatMap Attempt.noted ∧
    NewHandles j.driver.next j'.driver.next more

variable {j j' j'' : Journal Trace}

theorem Traced.same (hnext : j.driver.next ≤ j'.driver.next) (hlog : j'.driver.log = j.driver.log)
    (hattempts : j'.attempts = j.attempts) : Traced j j' :=
  ⟨hnext, [], by rw [hattempts, List.append_nil], by rw [hlog]; exact (List.append_nil _).symm,
    .none⟩

theorem Traced.trans (h : Traced j j') (h' : Traced j' j'') : Traced j j'' := by
  obtain ⟨hnext, more, hattempts, hlog, hnew⟩ := h
  obtain ⟨hnext', more', hattempts', hlog', hnew'⟩ := h'
  refine ⟨Nat.le_trans hnext hnext', more ++ more', ?_, ?_, hnew.append hnew' hnext hnext'⟩
  · rw [hattempts', hattempts, List.append_assoc]
  · rw [hlog', hlog, List.flatMap_append, List.append_assoc]

theorem Traced.one {a : Attempt} {t : Trace} (hnext : j.driver.next ≤ t.next)
    (hlog : t.log.toList = j.driver.log.toList ++ a.noted)
    (hnew : NewHandles j.driver.next t.next [a]) : Traced j ⟨t, j.attempts ++ [a]⟩ :=
  ⟨hnext, [a], rfl, by rwa [List.flatMap_singleton], hnew⟩

/-- A call that hands nothing out. -/
theorem Traced.noted {c : Call} {t : Trace} (hnext : t.next = j.driver.next)
    (hlog : t.log.toList = j.driver.log.toList ++ (Attempt.through c).noted)
    (hnone : NewHandles j.driver.next t.next [.through c] := by
      exact .one new_nil new_nil new_nil new_nil) :
    Traced j ⟨t, j.attempts ++ [.through c]⟩ :=
  .one (Nat.le_of_eq hnext.symm) hlog hnone

theorem new_next {kind : Kind} (next : Nat) : New next (next + 1) [(⟨next⟩ : Handle kind)] := by
  show New next (next + 1) (Handle.freshList next 1)
  exact new_freshList (Nat.le_refl _)

theorem traced_refused (j : Journal Trace) {α : Type} (q : Question) (call : α → Call)
    (code : ResultCode) : Traced j (j.answered q call (.error code, j.driver)).2 :=
  .one (Nat.le_refl _) (List.append_nil _).symm (.one new_nil new_nil new_nil new_nil)

theorem closingCalls_traced : ClosingCalls Traced where
  refl _ := .same (Nat.le_refl _) rfl rfl
  trans := .trans
  createCommandPool j family :=
    .one (Nat.le_succ _) (Trace.log_note _ _)
      (.one (new_next _) new_nil new_nil new_nil)
  allocateCommandBuffers j pool level count := by
    show Traced j (j.answered _ _ (j.driver.allocateCommandBuffers pool level count)).2
    unfold Trace.allocateCommandBuffers
    split
    · exact traced_refused j _ _ _
    · exact .one (Nat.le_add_right _ _) (Trace.log_note _ _)
        (.one new_nil (new_freshList (Nat.le_refl _)) new_nil new_nil)
  createDescriptorPool j maxSets _ :=
    .one (Nat.le_succ _) (Trace.log_note _ _)
      (.one new_nil new_nil (new_next _) new_nil)
  allocateDescriptorSets j pool layouts := by
    show Traced j (j.answered _ _ (j.driver.allocateDescriptorSets pool layouts)).2
    unfold Trace.allocateDescriptorSets
    split
    · exact traced_refused j _ _ _
    · exact traced_refused j _ _ _
    · split
      · exact traced_refused j _ _ _
      · exact .one (Nat.le_add_right _ _) (Trace.log_note _ _)
          (.one new_nil new_nil new_nil (new_freshList (Nat.le_refl _)))
  resetDescriptorPool j pool := .noted rfl (Trace.log_note _ _)
  submit j queue buffers fence := .noted rfl (Trace.log_note _ _)
  beginRecording j buffer args := .noted rfl (Trace.log_note _ _)
  endRecording j buffer := .noted rfl (Trace.log_note _ _)
  request j r := by
    show Traced j (j.told (.request r) (j.driver.request r).2)
    rw [Trace.request_eq_noteAll]
    exact .noted rfl (Trace.log_noteAll _ _)
  destroyCommandPool j pool := .noted rfl (Trace.log_note _ _)
  destroyDescriptorPool j pool := .noted rfl (Trace.log_note _ _)

theorem traced_flip {x : Switch} (hplain : (Task.switch x).IsPlain) (j : Journal Trace) :
    Traced j (j.adjust (x.flip ·)) := by
  cases x with
  | clearLog => exact hplain.elim
  | takeHandle => exact .same (Nat.le_succ _) rfl rfl
  | _ => exact .same (Nat.le_refl _) rfl rfl

theorem grants_trace : Grants Trace := by
  intro t pool layouts sets h
  have hgrants := t.grants pool layouts
  rw [show t.allocateDescriptorSets pool layouts =
    (.ok sets, (t.allocateDescriptorSets pool layouts).2) from Prod.ext h rfl] at hgrants
  cases hgrants
  exact Handle.length_freshList _ _

theorem silent_trace (push : Bool) : Silent Trace push fun _ => True := by
  intro t _ r _
  exact congrArg Prod.fst (t.request_eq_noteAll r)

end Journal

end GpuRecorder.Native
