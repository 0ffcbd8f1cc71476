import GpuRecorder.Proofs.Recording.Resolve

/-!
# What an operation leaves alone

An operation records into the native buffer that is held and into no other; it changes which
native buffer is held only when it is `setUp` or `release`, and only these two touch the command
pools.
-/

namespace GpuRecorder.Recording

open Native Resource Device

namespace CommandBuffer

/-! ## 1. Borrowing -/

theorem buffer_release {σ : Type} (c : CommandBuffer) (d : Device σ) :
    (c.release d).buffer = { c with native := none, bindings := {} } := rfl

/-- Setting up is giving back, then asking for a buffer of the new level and family. -/
theorem setUp_spec {σ : Type} [Driver σ] (c : CommandBuffer) (d : Device σ) (kind : BufferKind)
    (queue : Queue) :
    let lent := (c.release d).outcome.device.requestBuffer kind.level queue.family
    (c.setUp d kind queue).outcome.device = lent.device ∧
      (c.setUp d kind queue).buffer =
        { c with
          kind
          queue := some queue
          native := lent.answer.toOption.map fun handle => ⟨handle, kind.level, queue.family⟩
          bindings := if c.isReady then {} else c.bindings } := by
  by_cases hready : c.isReady
  · simp only [setUp, hready, if_true, buffer_release]
    generalize (c.release d).outcome.device.requestBuffer kind.level queue.family = lent
    split <;>
    · rename_i heq
      simp [heq, Except.toOption]
  · have hnative : c.native = none := by simpa [isReady] using hready
    simp only [setUp, hready, Bool.false_eq_true, if_false, release_of_not_ready hnative]
    split <;>
    · rename_i heq
      simp [heq, Except.toOption, hnative]

theorem driver_release {σ : Type} (c : CommandBuffer) (d : Device σ) :
    (c.release d).outcome.device.driver = d.driver := by
  unfold release
  split <;> rfl

/-! ## 2. Every operation -/

/-- What an operation makes of the device: it notes calls of its own buffer, asks the command pools,
or resolves a layout. -/
inductive Acts (c : CommandBuffer) (d : Device Trace) (op : Operation) : Device Trace → Prop
  | noted {calls : List Call} (confined : Confined c.handle? calls) :
    Acts c d op { d with driver := d.driver.noteAll calls }
  | lent {kind : BufferKind} {queue : Queue} (named : op = .setUp kind queue) :
    Acts c d op
      ((c.release d).outcome.device.requestBuffer kind.level queue.family).device
  | released (named : op = .release) : Acts c d op (c.release d).outcome.device
  | resolved {b : Handle .commandBuffer} {p : Pipeline} {l : Layout} (ready : c.handle? = some b) :
    Acts c d op (resolveLayout d b p l).outcome.device

theorem acts_perform (c : CommandBuffer) (d : Device Trace) (s : Store) (op : Operation) :
    c.Acts d op (c.perform d s op).outcome.device := by
  have hstays : c.Acts d op d := by
    have hnone : c.Acts d op { d with driver := d.driver.noteAll [] } := .noted (Confined.nil _)
    rwa [Trace.noteAll_nil] at hnone
  have hnote (call : Call) (hcall : call.target? = c.handle?) :
      c.Acts d op { d with driver := d.driver.note call } := by
    rw [Trace.note_eq_noteAll]
    apply Acts.noted
    intro call' hmem
    obtain rfl := List.mem_singleton.1 hmem
    exact Or.inr hcall
  cases hscript : c.scripted? d s op with
  | some r =>
    rw [(perform_scripted hscript).2, Script.play_trace]
    exact .noted (confined_scripted hscript)
  | none =>
    -- What is left asks the device itself.
    cases op with
    | setUp kind queue =>
      show c.Acts d _ (c.setUp d kind queue).outcome.device
      rw [(setUp_spec c d kind queue).1]
      exact .lent rfl
    | release => exact .released rfl
    | begin pass subpass framebuffer =>
      simp only [perform, asked, CommandBuffer.begin]
      split
      · exact hstays
      · rename_i handle hhandle
        split
        · exact hstays
        · exact hnote _ hhandle.symm
    | finish =>
      simp only [perform, asked, finish]
      split
      · exact hstays
      · rename_i handle hhandle
        exact hnote _ hhandle.symm
    | bindLayout id =>
      simp only [perform, bindLayout]
      split
      · exact hstays
      · exact hstays
      · rename_i handle p hhandle _
        split
        · exact hstays
        · split
          · exact hstays
          · split <;> exact .resolved hhandle
    | _ => cases hscript

/-- An operation records into the native buffer that is held and into no other. -/
theorem growsOnly_perform (c : CommandBuffer) (d : Device Trace) (s : Store) (op : Operation) :
    Trace.GrowsOnly c.handle? d.driver (c.perform d s op).outcome.device.driver := by
  have hacts := c.acts_perform d s op
  generalize (c.perform d s op).outcome.device = d' at hacts ⊢
  cases hacts with
  | noted confined => exact .noteAll confined
  | @lent kind queue named =>
    have hrequest : Trace.GrowsOnly none (c.release d).outcome.device.driver
        ((c.release d).outcome.device.requestBuffer kind.level queue.family).device.driver :=
      growsOnly_of_pools (poolCalls_appends.request _ _ kind.level queue.family)
    rw [← driver_release c d]
    exact hrequest.of_none
  | released named =>
    rw [driver_release]
    exact .refl _
  | resolved ready =>
    rw [ready]
    exact growsOnly_resolveLayout _ _ _ _

/-- What an operation records into the native buffer that is held. -/
def recorded (c : CommandBuffer) (d : Device Trace) (s : Store) (op : Operation) : List Call :=
  match c.handle? with
  | none => []
  | some b => callsInto b (d.driver.callsSince (c.perform d s op).outcome.device.driver)

/-- An operation that sends a script records what of the script goes into the buffer. -/
theorem recorded_scripted {c : CommandBuffer} {d : Device Trace} {s : Store} {op : Operation}
    {r : CommandBuffer × Script} (h : c.scripted? d s op = some r) :
    c.recorded d s op = (c.handle?.map fun b => callsInto b r.2.calls).getD [] := by
  have hlog : (c.perform d s op).outcome.device.driver.log.toList =
      d.driver.log.toList ++ r.2.calls := by
    rw [(perform_scripted h).2, Script.play_trace, Trace.log_noteAll]
  rw [recorded, Trace.callsSince_of_append hlog]
  cases c.handle? <;> rfl

/-- Opening the recording of a primary buffer is one call, and everything bound is forgotten. -/
theorem recorded_begin {c : CommandBuffer} (hkind : c.kind = .primary) {b : Handle .commandBuffer}
    (hb : c.handle? = some b) (d : Device Trace) (s : Store) (pass : Option RenderPass)
    (subpass : Nat) (framebuffer : Option Framebuffer) :
    c.recorded d s (.begin pass subpass framebuffer) = [.begin b { flags := oneTimeSubmit }] ∧
      (c.perform d s (.begin pass subpass framebuffer)).buffer =
        { c with bindings := {}, stats := {} } := by
  have hbegin : (c.begin d s pass subpass framebuffer) =
      ⟨{ c with bindings := {}, stats := {} },
        d.call fun driver => Driver.beginRecording driver b { flags := oneTimeSubmit }⟩ := by
    simp [CommandBuffer.begin, hb, openingOf, hkind]
  have hlog : (c.perform d s (.begin pass subpass framebuffer)).outcome.device.driver.log.toList =
      d.driver.log.toList ++ [.begin b { flags := oneTimeSubmit }] := by
    simp only [perform, asked, hbegin]
    exact Trace.log_note _ _
  refine ⟨?_, by simp only [perform, asked, hbegin]⟩
  rw [recorded, hb]
  simp only [Trace.callsSince_of_append hlog]
  exact callsInto_eq_self fun call hcall => by rw [List.mem_singleton.1 hcall]; rfl

theorem recorded_finish {c : CommandBuffer} {b : Handle .commandBuffer} (hb : c.handle? = some b)
    (d : Device Trace) (s : Store) :
    c.recorded d s .finish = [.finish b] ∧
      (c.perform d s .finish).buffer =
        { c with bindings := { c.bindings with framebuffer := none } } := by
  have hfinish : c.finish d = ⟨{ c with bindings := { c.bindings with framebuffer := none } },
      d.call fun driver => Driver.endRecording driver b⟩ := by
    simp [finish, hb]
  have hlog : (c.perform d s .finish).outcome.device.driver.log.toList =
      d.driver.log.toList ++ [.finish b] := by
    simp only [perform, asked, hfinish]
    exact Trace.log_note _ _
  refine ⟨?_, by simp only [perform, asked, hfinish]⟩
  rw [recorded, hb]
  simp only [Trace.callsSince_of_append hlog]
  exact callsInto_eq_self fun call hcall => by rw [List.mem_singleton.1 hcall]; rfl

section

variable {σ : Type} [Driver σ]

/-- Unless it borrows or gives back, an operation keeps the native buffer, the kind and the
queue. -/
theorem frame_perform (c : CommandBuffer) (d : Device σ) (s : Store) {op : Operation}
    (h : op.moves = false) :
    (c.perform d s op).buffer.native = c.native ∧ (c.perform d s op).buffer.kind = c.kind ∧
      (c.perform d s op).buffer.queue = c.queue := by
  cases hscript : c.scripted? d s op with
  | some r =>
    rw [(perform_scripted hscript).1]
    have hleaves := leaves_scripted hscript
    exact ⟨hleaves.native, hleaves.kind, hleaves.queue⟩
  | none =>
    cases op with
    | setUp kind queue => cases h
    | release => cases h
    | begin pass subpass framebuffer =>
      simp only [perform, asked, CommandBuffer.begin]
      repeat' split
      all_goals exact ⟨rfl, rfl, rfl⟩
    | finish =>
      simp only [perform, asked, finish]
      split <;> exact ⟨rfl, rfl, rfl⟩
    | bindLayout id =>
      simp only [perform, bindLayout]
      repeat' split
      all_goals exact ⟨rfl, rfl, rfl⟩
    | _ => cases hscript

/-- Without a native buffer nothing changes but by borrowing one. -/
theorem buffer_perform_of_not_ready {c : CommandBuffer} (hn : c.native = none) (d : Device σ)
    (s : Store) {op : Operation} (h : op.moves = false) : (c.perform d s op).buffer = c := by
  have hhandle : c.handle? = none := by rw [handle?, hn, Option.map_none]
  cases op with
  | setUp kind queue => cases h
  | release => cases h
  | begin pass subpass framebuffer => simp [perform, asked, CommandBuffer.begin, hhandle]
  | finish => simp [perform, asked, finish, hhandle]
  | bindLayout id => simp [perform, bindLayout, hhandle]
  | bindAssembler id => simp [perform, send, bindAssembler, hhandle]
  | updateBuffer buffer offset data => simp [perform, send, updateBuffer, hhandle]
  | copyToTexture sources texture regions => simp [perform, send, copyToTexture, hhandle]
  | execute children =>
    show (c.execute children).1 = c
    unfold execute
    split
    · rfl
    · rw [withNative_of_not_ready hn]
  | _ => exact congrArg Prod.fst (withNative_of_not_ready hn _ _)

theorem commandPools_resolveLayout (d : Device σ) (handle : Handle .commandBuffer) (p : Pipeline)
    (l : Layout) :
    (resolveLayout d handle p l).outcome.device.commandPools = d.commandPools := by
  unfold resolveLayout
  simp only
  repeat' split
  all_goals rfl

theorem capabilities_resolveLayout (d : Device σ) (handle : Handle .commandBuffer) (p : Pipeline)
    (l : Layout) :
    (resolveLayout d handle p l).outcome.device.capabilities = d.capabilities := by
  unfold resolveLayout
  simp only
  repeat' split
  all_goals rfl

/-- What a device is capable of never changes. -/
theorem capabilities_perform (c : CommandBuffer) (d : Device σ) (s : Store) (op : Operation) :
    (c.perform d s op).outcome.device.capabilities = d.capabilities := by
  have hreleased : (c.release d).outcome.device.capabilities = d.capabilities := by
    unfold release
    split <;> rfl
  cases hscript : c.scripted? d s op with
  | some r => rw [(perform_scripted hscript).2]
  | none =>
    cases op with
    | setUp kind queue =>
      show (c.setUp d kind queue).outcome.device.capabilities = _
      rw [(setUp_spec c d kind queue).1]
      exact hreleased
    | release => exact hreleased
    | begin pass subpass framebuffer =>
      simp only [perform, asked, CommandBuffer.begin]
      repeat' split
      all_goals rfl
    | finish =>
      simp only [perform, asked, finish]
      split <;> rfl
    | bindLayout id =>
      simp only [perform, bindLayout]
      repeat' split
      all_goals first | rfl | exact capabilities_resolveLayout _ _ _ _
    | _ => cases hscript

/-- A buffer that was just borrowed or given back has nothing bound. -/
theorem bindings_of_moves {c : CommandBuffer} (hidle : c.native = none → c.bindings = {})
    (d : Device σ) (s : Store) {op : Operation} (hmoves : op.moves = true) :
    (c.perform d s op).buffer.bindings = {} := by
  cases op with
  | setUp kind queue =>
    show (c.setUp d kind queue).buffer.bindings = {}
    rw [(setUp_spec c d kind queue).2]
    show (if c.isReady then {} else c.bindings) = {}
    split
    · rfl
    · rename_i hready
      exact hidle (by simpa [isReady] using hready)
  | release => rfl
  | _ => cases hmoves

/-- Nothing is bound without a native buffer. -/
theorem idle_perform {c : CommandBuffer} (hidle : c.native = none → c.bindings = {})
    (d : Device σ) (s : Store) (op : Operation) :
    (c.perform d s op).buffer.native = none → (c.perform d s op).buffer.bindings = {} := by
  intro hnone
  cases hmoves : op.moves with
  | true => exact bindings_of_moves hidle d s hmoves
  | false =>
    rw [(frame_perform c d s hmoves).1] at hnone
    rw [buffer_perform_of_not_ready hnone d s hmoves]
    exact hidle hnone

/-- Unless it borrows or gives back, an operation leaves the command pools alone. -/
theorem commandPools_perform (c : CommandBuffer) (d : Device σ) (s : Store) {op : Operation}
    (h : op.moves = false) :
    (c.perform d s op).outcome.device.commandPools = d.commandPools := by
  cases hscript : c.scripted? d s op with
  | some r => rw [(perform_scripted hscript).2]
  | none =>
    cases op with
    | setUp kind queue => cases h
    | release => cases h
    | begin pass subpass framebuffer =>
      simp only [perform, asked, CommandBuffer.begin]
      repeat' split
      all_goals rfl
    | finish =>
      simp only [perform, asked, finish]
      split <;> rfl
    | bindLayout id =>
      simp only [perform, bindLayout]
      repeat' split
      all_goals first | rfl | exact commandPools_resolveLayout _ _ _ _
    | _ => cases hscript

end

end CommandBuffer

end GpuRecorder.Recording
