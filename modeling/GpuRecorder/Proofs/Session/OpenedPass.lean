import GpuRecorder.Proofs.Recording.Topics
import GpuRecorder.Proofs.Session.Driving
import GpuRecorder.Proofs.Session.Misuse

/-!
# What an opened pass sets

Opening a pass records the beginning of the pass and then the viewport and the scissor that cover
its area.  It sends both, whatever was set before, and remembers them as sent; so asking for them
again records nothing, until another value is sent, another pass is opened, or a new recording is
asked for.
-/

namespace GpuRecorder

open Binary Draw Native Resource Device

/-! ## 1. Clear values -/

namespace Draw

theorem getElem?_clearValues {attachments i : Nat} (h : i < attachments) (colors : List Color)
    (depth : Single) (stencil : Nat) :
    (clearValues attachments colors depth stencil)[i]? =
      some (.color (colors[i]?.getD default)) := by
  rw [clearValues, List.getElem?_append_left (by simpa using h), List.getElem?_map,
    List.getElem?_range h, Option.map_some]

theorem getLast?_clearValues (attachments : Nat) (colors : List Color) (depth : Single)
    (stencil : Nat) :
    (clearValues attachments colors depth stencil).getLast? =
      some (.depthStencil depth stencil) :=
  List.getLast?_concat

end Draw

/-! ## 2. One command buffer -/

namespace Recording.CommandBuffer

/-- A pass that has a framebuffer is opened on it; viewport and scissor are sent unconditionally. -/
theorem beginPass_of_resolved {c : CommandBuffer} {b : Handle .commandBuffer}
    (hb : c.handle? = some b) {s : Store} {p : PassOpening} {f : Handle .framebuffer}
    (h : s.resolve p.framebuffer = some f) :
    c.beginPass s p =
      ({ c with
          bindings :=
            { c.bindings with
              framebuffer := some f
              dynamic := (c.bindings.dynamic.remember (.viewport (.ofRect p.area))).remember
                (.scissor p.area) } },
        p.shortage ++
          .record b [
            .beginRenderPass
              { pass := p.pass.handle
                framebuffer := f
                area := p.area
                clears := clearValues p.pass.colorAttachments p.colors p.depth p.stencil },
            .setViewports 0 [(Viewport.ofRect p.area).toNative],
            .setScissors 0 [p.area]]) := by
  simp only [beginPass, withNative, hb, h]
  rfl

variable {σ : Type} [Driver σ]

/-- The settings stay unless one is made, a pass is opened or the recording starts over. -/
theorem dynamic_perform (c : CommandBuffer) (d : Device σ) (s : Store) {op : Operation}
    (hop : op.restarts = false) (hpass : ∀ p, op ≠ .beginPass p) (hset : ∀ x, op ≠ .set x) :
    (c.perform d s op).buffer.bindings.dynamic = c.bindings.dynamic := by
  cases hscript : c.scripted? d s op with
  | some r =>
    rw [(perform_scripted hscript).1]
    exact (leaves_scripted hscript).dynamic hpass hset
  | none =>
    -- Only closing a recording and binding a layout are left.
    cases op with
    | setUp kind queue => cases hop
    | release => cases hop
    | begin pass subpass framebuffer => cases hop
    | finish =>
      simp only [perform, asked, finish]
      split <;> rfl
    | bindLayout id =>
      show (c.bindLayout d s id).buffer.bindings.dynamic = _
      have hends := c.endsBinding d s id
      generalize c.bindLayout d s id = result at hends ⊢
      cases hends with
      | left why => rfl
      | @resolved b p r ready pipeline fresh fits done =>
        show (c.withLayout id r.outcome.answer).bindings.dynamic = _
        cases r.outcome.answer <;> rfl
    | _ => cases hscript

/-- As long as it is ready, it remembers a setting as sent. -/
def HasSent (c : CommandBuffer) (x : Setting) : Prop :=
  c.isReady = true → c.bindings.dynamic.holds x = true

/-- The operation takes the place of a setting: it sends another value, opens a pass or asks for a
new recording. -/
def supersedes (c : CommandBuffer) (s : Store) (x : Setting) : Operation → Bool
  | .set y => y.topic = x.topic && y ≠ x && !c.bindings.dynamic.holds y
  | .beginPass p => (s.resolve p.framebuffer).isSome
  | .begin _ _ _ | .setUp _ _ => true
  | _ => false

/-- What is remembered is not sent again. -/
theorem HasSent.drops_set {c : CommandBuffer} {x : Setting} (h : c.HasSent x) (d : Device σ)
    (s : Store) : c.Drops d s (.set x) := by
  by_cases hready : c.isReady = true
  · have hset : c.perform d s (.set x) = send d s .done (c, []) := by
      rw [← set_of_holds hready (h hready)]
      rfl
    exact ⟨_, hset.trans (send_reports d .done rfl)⟩
  · exact drops_of_not_ready (by simpa using hready) d rfl

theorem HasSent.perform {c : CommandBuffer} {x : Setting} (h : c.HasSent x) (d : Device σ)
    {s : Store} {op : Operation} (hop : c.supersedes s x op = false) :
    (c.perform d s op).buffer.HasSent x := by
  by_cases hmoves : op.moves = true
  · -- What is given back is not ready.
    cases op with
    | setUp kind queue => cases hop
    | release => exact nofun
    | _ => cases hmoves
  by_cases hready : c.isReady = true
  swap
  · -- What is not ready drops everything.
    have hidle : c.isReady = false := by simpa using hready
    obtain ⟨messages, hdrops⟩ := drops_of_not_ready hidle (s := s) d (by simpa using hmoves)
    rwa [hdrops]
  have hholds : c.bindings.dynamic.holds x = true := h hready
  obtain ⟨b, hb⟩ := Option.isSome_iff_exists.1 hready
  intro _
  have others (hpass : ∀ p, op ≠ .beginPass p) (hset : ∀ y, op ≠ .set y)
      (hrestarts : op.restarts = false) :
      (c.perform d s op).buffer.bindings.dynamic.holds x = true := by
    rw [dynamic_perform c d s hrestarts hpass hset]
    exact hholds
  cases op with
  | setUp kind queue => cases hop
  | begin pass subpass framebuffer => cases hop
  | release => exact absurd rfl hmoves
  | set y =>
    show (c.set y).1.bindings.dynamic.holds x = true
    rw [set, withNative_of_ready hb]
    split
    · exact hholds
    · rename_i hsent
      -- The setting itself would have been left out, so this is one on another topic.
      have hne : y ≠ x := fun heq => hsent (heq ▸ hholds)
      have hother : y.topic ≠ x.topic := by
        intro htopic
        simp [supersedes, htopic, hne, hsent] at hop
      exact (DynamicState.holds_remember_of_ne hother _).trans hholds
  | beginPass p =>
    have hnone : s.resolve p.framebuffer = none := by simpa [supersedes] using hop
    show (c.beginPass s p).1.bindings.dynamic.holds x = true
    rw [beginPass_of_unresolved hready hnone]
    exact hholds
  | _ => exact others (by simp) (by simp) rfl

end Recording.CommandBuffer

/-! ## 3. Sessions -/

namespace Session

open Recording

variable {σ : Type} [Driver σ]

theorem found_perform {s : Session σ} {n : Nat} {c : CommandBuffer} (found : s.buffers[n]? = some c)
    (op : Operation) :
    (s.perform n op).session.buffers[n]? = some (c.perform s.device s.store op).buffer := by
  obtain ⟨hlt, _⟩ := List.getElem?_eq_some_iff.1 found
  simp only [perform, found, List.getElem?_set_self hlt]

/-- The command buffer of a number, if there is one, remembers a setting as sent. -/
def HasSent (s : Session σ) (n : Nat) (x : Setting) : Prop :=
  ∀ c, s.buffers[n]? = some c → c.HasSent x

/-- The action takes the place of a setting of one command buffer. -/
def supersedes (s : Session σ) (n : Nat) (x : Setting) : Action → Bool
  | .perform m op => m = n && s.buffers[n]?.any (·.supersedes s.store x op)
  | _ => false

variable {s : Session σ} {n : Nat} {x : Setting}

theorem HasSent.perform_set (h : s.HasSent n x) : (s.perform n (.set x)).session = s := by
  cases found : s.buffers[n]? with
  | none => simp only [perform, found]
  | some c => exact (perform_of_drops found ((h c found).drops_set _ _)).1

theorem HasSent.perform (h : s.HasSent n x) {m : Nat} {op : Operation}
    (hop : m = n → ∀ c, s.buffers[n]? = some c → c.supersedes s.store x op = false) :
    (s.perform m op).session.HasSent n x := by
  intro c' found'
  by_cases hm : m = n
  · subst hm
    cases found : s.buffers[m]? with
    | none =>
      simp only [Session.perform, found] at found'
      cases found'
    | some c =>
      cases (found_perform found op).symm.trans found'
      exact (h c found).perform s.device (hop rfl c found)
  · rw [s.buffers_perform_of_ne hm] at found'
    exact h c' found'

theorem HasSent.step (h : s.HasSent n x) {a : Action} (ha : s.supersedes n x a = false) :
    (s.step a).session.HasSent n x := by
  cases a with
  | create =>
    intro c found
    rcases Nat.lt_or_ge n s.buffers.length with hn | hn
    · exact h c (by rwa [← List.getElem?_append_left hn])
    · -- A new command buffer is not ready.
      have hc : c ∈ [({} : CommandBuffer)] := by
        have hnew := (List.getElem?_append_right hn).symm.trans found
        exact List.mem_of_getElem? hnew
      obtain rfl := List.mem_singleton.1 hc
      exact nofun
  | perform m op =>
    refine h.perform fun hm c found => ?_
    simpa [supersedes, hm, found] using ha
  | execute m children => exact h.perform fun _ _ _ => rfl
  | _ => exact h

/-- Until it is superseded, the setting is remembered. -/
theorem HasSent.run (h : s.HasSent n x) {actions : List Action}
    (hactions : Accepts (fun s a => s.supersedes n x a = false) (fun s a => (s.step a).session)
      s actions) : (s.run actions).HasSent n x := by
  induction actions generalizing s with
  | nil => exact h
  | cons a actions ih => exact ih (h.step hactions.1) hactions.2

/-- The viewport and the scissor of a pass that was opened are remembered. -/
theorem hasSent_area {c : CommandBuffer} {b : Handle .commandBuffer}
    (found : s.buffers[n]? = some c) (ready : c.handle? = some b) {p : PassOpening}
    {f : Handle .framebuffer} (h : s.store.resolve p.framebuffer = some f) :
    ∀ x ∈ [Setting.viewport (.ofRect p.area), .scissor p.area],
      (s.perform n (.beginPass p)).session.HasSent n x := by
  intro x hx c' found' _
  cases (found_perform found _).symm.trans found'
  show (c.beginPass s.store p).1.bindings.dynamic.holds x = true
  rw [CommandBuffer.beginPass_of_resolved ready h]
  rcases List.mem_pair.1 hx with rfl | rfl
  · -- The scissor was remembered after the viewport.
    have hother : (Setting.scissor p.area).topic ≠ (Setting.viewport (.ofRect p.area)).topic := by
      simp [Setting.topic]
    rw [DynamicState.holds_remember_of_ne hother]
    exact DynamicState.holds_remember_viewport_ofRect _ _
  · exact DynamicState.holds_remember_scissor _ _

/-- Opening a pass for any framebuffer.  If there is a native framebuffer for it now, the beginning,
the viewport and the scissor are recorded, every attachment is cleared, and until they are
superseded the viewport and the scissor are not recorded again.  Otherwise the session stays. -/
theorem beginPass_covers_area {s : Session (Observed σ)} {n : Nat} {c : CommandBuffer}
    {b : Handle .commandBuffer} (found : s.buffers[n]? = some c) (ready : c.handle? = some b)
    (p : PassOpening) :
    let opened := (s.perform n (.beginPass p)).session
    let native := match p.framebuffer.target with
      | .offscreen handle => some handle
      | .swapchain id perImage => perImage[(s.store.swapchains.get id).current]?
    (∀ f, native = some f →
      (∃ clears,
        opened.history = s.history ++ [
          .request (.record b (.beginRenderPass
            { pass := p.pass.handle, framebuffer := f, area := p.area, clears })),
          .request (.record b (.setViewports 0 [(Viewport.ofRect p.area).toNative])),
          .request (.record b (.setScissors 0 [p.area]))] ∧
        clears.length = p.pass.attachments ∧
        (∀ i < p.pass.colorAttachments,
          clears[i]? = some (.color (p.colors[i]?.getD ⟨.zero, .zero, .zero, .zero⟩))) ∧
        clears.getLast? = some (.depthStencil p.depth p.stencil)) ∧
      opened.store = s.store ∧
      ∀ x ∈ [Setting.viewport (.ofRect p.area), .scissor p.area], ∀ actions,
        Accepts (fun s a => s.supersedes n x a = false) (fun s a => (s.step a).session)
          opened actions →
        ((opened.run actions).perform n (.set x)).session = opened.run actions) ∧
    (native = none → opened = s) := by
  intro opened native
  have hnative : s.store.resolve p.framebuffer = native := rfl
  refine ⟨fun f hf => ⟨?_, ?_, fun x hx actions hactions => ?_⟩, fun hnone => ?_⟩
  · refine ⟨clearValues p.pass.colorAttachments p.colors p.depth p.stencil, ?_,
      length_clearValues _ _ _ _, fun i hi => getElem?_clearValues hi _ _ _,
      getLast?_clearValues _ _ _ _⟩
    have hopen : opened.history =
        ((c.beginPass s.store p).2.play s.device.driver).2.history := by
      simp only [opened, Session.perform, found]
      rfl
    rw [hopen, Observed.history_play,
      CommandBuffer.beginPass_of_resolved ready (hnative.trans hf), Script.calls_append,
      Script.calls_of_requests_nil p.requests_shortage, Script.calls_record]
    rfl
  · simp only [opened, Session.perform, found]
    rfl
  · exact ((hasSent_area found ready (hnative.trans hf) x hx).run hactions).perform_set
  · have hdrops : c.Drops s.device s.store (.beginPass p) :=
      CommandBuffer.drops_of_misuse (.unresolved (hnative.trans hnone)) s.device
    exact (perform_of_drops found hdrops).1

/-- A pass on the second image of a swapchain, with one colour for its two colour attachments. -/
def swapchainPass : PassOpening where
  pass := { id := ⟨2⟩, handle := ⟨500⟩, colorAttachments := 2 }
  framebuffer := ⟨⟨3⟩, .swapchain ⟨1⟩ [⟨601⟩, ⟨602⟩]⟩
  area := { width := 8, height := 8 }
  colors := [⟨.one, .one, .one, .one⟩]
  depth := .one
  stencil := 0

/-- The viewport outlasts another scissor, a pass without an image and the recording of another
command buffer. -/
theorem swapchainPass_covers_area :
    let s : Session (Observed Trace) := (observed {} {} {}).run [
      .change (.addSwapchain 2), .change (.showImage ⟨1⟩ 1), .create, .create,
      .perform 0 (.setUp .primary ⟨⟨800⟩, 0⟩), .perform 0 (.begin none 0 none)]
    let opened := (s.perform 0 (.beginPass swapchainPass)).session
    let later := opened.run [
      .perform 0 (.set (.scissor { width := 4, height := 4 })), .perform 0 .endPass,
      .change (.showImage ⟨1⟩ 2), .perform 0 (.beginPass swapchainPass),
      .perform 1 (.setUp .primary ⟨⟨800⟩, 0⟩), .perform 1 (.begin none 0 none)]
    opened.history.length = s.history.length + 3 ∧
      (later.perform 0 (.set (.viewport (.ofRect swapchainPass.area)))).session = later ∧
      (later.perform 0 (.beginPass swapchainPass)).session = later := by
  intro s opened later
  obtain ⟨c, b, found, ready⟩ : ∃ c b, s.buffers[0]? = some c ∧ c.handle? = some b :=
    ⟨_, _, rfl, rfl⟩
  obtain ⟨c', b', found', ready'⟩ : ∃ c b, later.buffers[0]? = some c ∧ c.handle? = some b :=
    ⟨_, _, rfl, rfl⟩
  obtain ⟨⟨clears, hhistory, _⟩, _, hkept⟩ :=
    (beginPass_covers_area found ready swapchainPass).1 ⟨602⟩ rfl
  refine ⟨?_, ?_, (beginPass_covers_area found' ready' swapchainPass).2 rfl⟩
  · rw [hhistory, List.length_append]
    rfl
  · exact hkept (.viewport (.ofRect swapchainPass.area)) List.mem_cons_self _ (by decide +kernel)

end Session

end GpuRecorder
