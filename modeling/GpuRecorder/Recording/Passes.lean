import GpuRecorder.Recording.Buffer

/-!
# Opening and closing

Recording is opened by `begin` and closed by `finish`; inside it a render pass is opened by
`beginPass` and closed by `endPass`.  Opening a recording forgets everything bound before it.
Opening a pass sets viewport and scissor to the pass's area.
-/

namespace GpuRecorder.Recording

open Binary Draw Native Resource

/-! ## 1. The arguments of a pass -/

/-- How a render pass is to be opened. -/
structure PassOpening where
  pass : RenderPass
  framebuffer : Framebuffer
  area : Rect
  /-- One colour per colour attachment, in attachment order. -/
  colors : List Color
  depth : Single
  stencil : Nat
  deriving DecidableEq, Repr

/-- Too few colours for the attachments are reported; the missing ones are zero. -/
def PassOpening.shortage (p : PassOpening) : Script :=
  if p.colors.length < p.pass.colorAttachments then
    [.report (.warn (s!"{p.colors.length} clear colors supplied for " ++
      s!"{p.pass.colorAttachments} color attachments"))]
  else []

@[simp] theorem PassOpening.requests_shortage (p : PassOpening) : p.shortage.requests = [] := by
  unfold shortage
  split <;> rfl

namespace CommandBuffer

/-! ## 2. Recordings -/

section

variable {σ : Type} [Driver σ]

def passRequired : Message :=
  .error "A render pass has to be specified when beginning a secondary command buffer"

/-- How recording is opened: a secondary buffer continues the given pass, which it must have. -/
def openingOf (kind : BufferKind) (s : Store) (pass : Option RenderPass) (subpass : Nat)
    (framebuffer : Option Framebuffer) : Option RecordingBegin :=
  match kind, pass with
  | .primary, _ => some { flags := oneTimeSubmit }
  | .secondary, none => none
  | .secondary, some pass =>
    let native := (framebuffer.bind s.resolve).getD .null
    some
      { flags := oneTimeSubmit + renderPassContinue
        inheritance := some ⟨pass.handle, subpass, native⟩ }

/-- Forget what was bound and drawn, and open recording. -/
def begin (c : CommandBuffer) (d : Device σ) (s : Store) (pass : Option RenderPass)
    (subpass : Nat) (framebuffer : Option Framebuffer) : Result σ (Except DeviceError Unit) :=
  match c.handle? with
  | none => ⟨c, { answer := .ok (), device := d, messages := [notReady "begin"] }⟩
  | some handle =>
    let c := { c with bindings := {}, stats := {} }
    match openingOf c.kind s pass subpass framebuffer with
    | none => ⟨c, { answer := .ok (), device := d, messages := [passRequired] }⟩
    | some opening => ⟨c, d.call fun driver => Driver.beginRecording driver handle opening⟩

/-- Close recording; a pass that is still open is forgotten. -/
def finish (c : CommandBuffer) (d : Device σ) : Result σ (Except DeviceError Unit) :=
  match c.handle? with
  | none => ⟨c, { answer := .ok (), device := d, messages := [notReady "end"] }⟩
  | some handle =>
    ⟨{ c with bindings := { c.bindings with framebuffer := none } },
      d.call fun driver => Driver.endRecording driver handle⟩

theorem bindings_begin {c : CommandBuffer} (h : c.isReady) (d : Device σ) (s : Store)
    (pass : Option RenderPass) (subpass : Nat) (framebuffer : Option Framebuffer) :
    (c.begin d s pass subpass framebuffer).buffer = { c with bindings := {}, stats := {} } := by
  obtain ⟨n, hn⟩ := Option.isSome_iff_exists.1 h
  simp only [begin, handle?, hn, Option.map_some]
  split <;> rfl

end

/-! ## 3. Render passes -/

/-- Open a pass on the framebuffer that is current now, and cover its area. -/
def beginPass (c : CommandBuffer) (s : Store) (p : PassOpening) : CommandBuffer × Script :=
  c.withNative "begin_render_pass" fun handle =>
    match s.resolve p.framebuffer with
    | none => c.refuse "Framebuffer has no native framebuffer for the current swapchain image"
    | some framebuffer =>
      let begin : RenderPassBegin :=
        { pass := p.pass.handle
          framebuffer
          area := p.area
          clears := clearValues p.pass.colorAttachments p.colors p.depth p.stencil }
      let viewport := Setting.viewport (.ofRect p.area)
      let scissor := Setting.scissor p.area
      let dynamic := (c.bindings.dynamic.remember viewport).remember scissor
      ({ c with bindings := { c.bindings with framebuffer := some framebuffer, dynamic } },
        p.shortage ++
          .record handle (.beginRenderPass begin :: viewport.commands ++ scissor.commands))

def endPass (c : CommandBuffer) : CommandBuffer × Script :=
  c.withNative "end_render_pass" fun handle =>
    ({ c with bindings := { c.bindings with framebuffer := none } },
      .record handle [.endRenderPass])

end CommandBuffer

end GpuRecorder.Recording
