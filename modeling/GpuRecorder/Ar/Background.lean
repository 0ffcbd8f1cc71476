import GpuRecorder.Ar.Quad
import GpuRecorder.Ar.Tracker
import GpuRecorder.Recording.Binds
import GpuRecorder.Recording.Descriptors
import GpuRecorder.Recording.Draws
import GpuRecorder.Recording.Transfers

/-!
# The camera background

The camera image is drawn as a full-screen quad behind the scene.  `activate` imports the camera
texture while native access is exclusive.  Every frame `prepare` uploads the quad outside of
render passes, its indices and uniforms until they have arrived once, and `render` draws it inside
one.
-/

namespace GpuRecorder.Ar

open Native Resource Recording

/-! ## 1. Activation -/

/-- What the background draws with. -/
structure BackgroundParts where
  pipeline : Pipeline
  /-- Four vertices, written anew every frame. -/
  vertices : ResourceId
  indices : ResourceId
  uniforms : ResourceId
  sampler : Sampler
  /-- The set that holds the uniform block and the camera texture. -/
  materialSet : Nat

structure Background where
  parts : BackgroundParts
  assembler : ResourceId
  layout : ResourceId
  camera : ResourceId
  /-- The number the platform knows the camera texture by. -/
  textureId : Nat
  textureBound : Bool := false
  /-- Indices and uniforms have arrived. -/
  uploaded : Bool := false

/-- The binding of the uniform block in the material set. -/
def uniformBinding : Nat := 0

/-- The binding of the camera texture in the material set. -/
def cameraBinding : Nat := 1

/-- What is left after an activation. -/
structure Activation (σ : Type) where
  answer : Except DeviceError Background
  store : Store
  device : Device σ
  messages : List Message := []
  /-- Nobody else could have native access during the import. -/
  exclusive : Bool

/-- The objects of a background around an imported camera texture. -/
def assemble (s : Store) (parts : BackgroundParts) (camera : ResourceId) :
    Except DeviceError Background × Store × List Message :=
  match (s.textures.get camera).externalId with
  | none => (.error (.invalidOperation .cameraTextureNotExternal), s, [])
  | some textureId =>
    let (layout, s) := s.addLayout (.ofShader parts.pipeline.shader)
    match s.bindSlot layout (.buffer parts.uniforms) parts.materialSet uniformBinding 0 with
    | (.error e, s) => (.error e, s, [])
    | (.ok (), s) =>
      let (assembler, s) := s.addAssembler
        { streams := [parts.vertices]
          index := some parts.indices
          parameters := { indexCount := quadIndices.length } }
      (.ok { parts, assembler, layout, camera, textureId }, s,
        [.debug s!"AR background activated with camera texture {textureId}"])

/-- Import the camera texture and set up the background around it. -/
def activate {σ : Type} (d : Device σ) (s : Store) (parts : BackgroundParts)
    (importCamera : Device σ → Except DeviceError Texture) : Activation σ :=
  let inside := { d with held := true }
  let exclusive := inside.tryHold.isNone
  let device := inside.letGo
  match importCamera inside with
  | .error e => { answer := .error e, store := s, device, exclusive }
  | .ok texture =>
    let (camera, s) := s.addTexture texture
    let (answer, store, messages) := assemble s parts camera
    { answer, store, device, messages, exclusive }

/-! ## 2. Frames -/

/-- All that a frame of the background works on. -/
structure Scene (σ π : Type) where
  background : Background
  tracker : Tracker π
  buffer : CommandBuffer
  device : Device σ
  store : Store

namespace Scene

variable {σ π : Type} [Driver σ] [Platform π]

/-- Send what the command buffer recorded. -/
def send (s : Scene σ π) (recorded : CommandBuffer × Script) : Scene σ π × List Message :=
  let played := s.device.play recorded.2
  ({ s with buffer := recorded.1, device := played.device }, played.messages)

/-- Record an update of a buffer from its beginning. -/
def upload (s : Scene σ π) (buffer : ResourceId) (data : List UInt8) :
    Bool × Scene σ π × List Message :=
  let (recorded, c, script) := s.buffer.updateBuffer s.store buffer 0 data
  (recorded, s.send (c, script))

/-- Tell the platform which texture is the camera's, and bind it; both once. -/
def bindCamera (s : Scene σ π) : Except DeviceError Unit × Scene σ π :=
  let b := s.background
  if b.textureBound then (.ok (), s)
  else
    let tracker := s.tracker.tell (.cameraTexture b.textureId)
    let bind (store : Store) (r : Bindable) : Except DeviceError Unit × Store :=
      store.bindSlot b.layout r b.parts.materialSet cameraBinding 0
    match bind s.store (.texture b.camera) with
    | (.error e, store) => (.error e, { s with tracker, store })
    | (.ok (), store) =>
      match bind store (.sampler b.parts.sampler) with
      | (.error e, store) => (.error e, { s with tracker, store })
      | (.ok (), store) =>
        (.ok (), { s with tracker, store, background := { b with textureBound := true } })

/-- Upload indices and uniforms.  Both are attempted until both have arrived in one frame. -/
def uploadStatic (s : Scene σ π) : Scene σ π × List Message :=
  if s.background.uploaded then (s, [])
  else
    let (indices, s, messages) :=
      match (s.store.assemblers.get s.background.assembler).index with
      | none => (true, s, [])
      | some index => s.upload index indexBytes
    let (uniforms, s, more) := s.upload s.background.parts.uniforms quadUniforms.bytes
    ({ s with background := { s.background with uploaded := indices && uniforms } },
      messages ++ more)

/-- Upload the vertices with the texture coordinates of this frame. -/
def uploadVertices (s : Scene σ π) : Scene σ π × List Message :=
  let (coordinates, tracker, messages) := s.tracker.camera .textureCoordinates
  let (_, s, more) := { s with tracker }.upload s.background.parts.vertices
    (vertexBytes coordinates)
  (s, messages ++ more)

/-- Upload this frame's quad.  Answers whether tracking runs and the quad was uploaded. -/
def prepare (s : Scene σ π) : Except DeviceError Bool × Scene σ π × List Message :=
  let (running, tracker) := s.tracker.isRunning
  let s := { s with tracker }
  if !running then (.ok false, s, [])
  else if s.buffer.passIsOpen then
    (.ok false, s, [.error "AR background must be prepared outside of a render pass"])
  else
    match s.bindCamera with
    | (.error e, s) => (.error e, s, [])
    | (.ok (), s) =>
      let (s, messages) := s.uploadStatic
      let (s, more) := s.uploadVertices
      (.ok true, s, messages ++ more)

/-- Draw the quad in the open render pass. -/
def render (s : Scene σ π) : Except Failure Unit × Scene σ π × List Message :=
  let (running, tracker) := s.tracker.isRunning
  let s := { s with tracker }
  let b := s.background
  if !running then (.ok (), s, [])
  else if !b.textureBound then
    (.ok (), s, [.warn "AR background rendered before it was prepared"])
  else
    let (store, assembled) := s.buffer.bindAssembler s.store b.assembler
    let (s, first) := { s with store }.send assembled
    let (s, second) := s.send (s.buffer.bindPipeline b.parts.pipeline)
    let bound := s.buffer.bindLayout s.device s.store b.layout
    let s := { s with buffer := bound.buffer, store := bound.store, device := bound.outcome.device }
    let messages := first ++ second ++ bound.outcome.messages
    match bound.outcome.answer with
    | .error f => (.error f, s, messages)
    | .ok () =>
      let multiDraw := s.device.capabilities.multiDrawIndirect
      let (s, last) := s.send (s.buffer.draw multiDraw s.store b.assembler)
      (.ok (), s, messages ++ last)

theorem prepare_of_not_running {s : Scene σ π} (h : s.tracker.isRunning.1 = false) :
    s.prepare = (.ok false, { s with tracker := s.tracker.isRunning.2 }, []) := by
  unfold prepare
  split
  rename_i running tracker heq
  rw [heq] at h ⊢
  simp only at h
  simp [h]

end Scene

end GpuRecorder.Ar
