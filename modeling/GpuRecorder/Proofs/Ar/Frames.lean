import GpuRecorder.Ar.Background
import GpuRecorder.Proofs.Ar.Heard
import GpuRecorder.Proofs.Session.RetainedObjects

/-!
# What a frame of the background does

A frame is operations on the command buffer, and some questions and notices to the platform.  What
it does depends on what the background remembers: whether the camera texture is bound, and whether
indices and uniforms have arrived.
-/

namespace GpuRecorder

open Native Resource Recording

open scoped List

/-! ## 1. Operations in a row -/

/-- A script in two parts. -/
theorem Device.play_append {σ : Type} [Driver σ] (d : Device σ) (first second : Script) :
    d.play (first ++ second) =
      let played := (d.play first).device.play second
      { played with messages := (d.play first).messages ++ played.messages } := by
  simp only [Device.play, Script.play_append]

/-- Data for the beginning of a buffer. -/
structure Recording.Upload where
  buffer : ResourceId
  data : List UInt8
  deriving DecidableEq, Repr

namespace Recording.Upload

def operation (u : Upload) : Operation := .updateBuffer u.buffer 0 u.data

/-- What is sent for it. -/
def script (c : CommandBuffer) (s : Store) (u : Upload) : Script :=
  (c.updateBuffer s u.buffer 0 u.data).2.2

def isRecorded (c : CommandBuffer) (s : Store) (u : Upload) : Bool :=
  (c.updateBuffer s u.buffer 0 u.data).1

/-- It asks the store for buffers only. -/
theorem script_congr {s s' : Store} (h : s'.buffers = s.buffers) (c : CommandBuffer) (u : Upload) :
    u.script c s' = u.script c s := by
  simp only [script, CommandBuffer.updateBuffer, Store.backing, h]

theorem isRecorded_congr {s s' : Store} (h : s'.buffers = s.buffers) (c : CommandBuffer)
    (u : Upload) : u.isRecorded c s' = u.isRecorded c s := by
  simp only [isRecorded, CommandBuffer.updateBuffer, Store.backing, h]

/-- An upload that is tried is recorded or reported. -/
theorem script_ne_nil {u : Upload} (h : u.data ≠ []) (c : CommandBuffer) (s : Store) :
    u.script c s ≠ [] := by
  have hpieces : chunks maxUpdateBytes u.data ≠ [] := by
    intro hnone
    have hflat : (chunks maxUpdateBytes u.data).flatten = u.data := flatten_chunks (by decide) _
    rw [hnone] at hflat
    exact h hflat.symm
  obtain ⟨piece, pieces, hchunks⟩ := List.exists_cons_of_ne_nil hpieces
  simp only [script, CommandBuffer.updateBuffer, hchunks]
  split
  · exact List.cons_ne_nil _ _
  · split
    · exact List.cons_ne_nil _ _
    · rw [if_neg (by simpa using h)]
      split <;> exact List.cons_ne_nil _ _

end Recording.Upload

namespace Recording.CommandBuffer

/-- An update leaves the command buffer as it is. -/
theorem buffer_updateBuffer (c : CommandBuffer) (s : Store) (id : ResourceId) (offset : Nat)
    (data : List UInt8) : (c.updateBuffer s id offset data).2.1 = c := by
  simp only [updateBuffer]
  repeat' split
  all_goals rfl

variable {σ : Type} [Driver σ]

/-- Perform operations in order, up to the first that fails. -/
def performAll (c : CommandBuffer) (d : Device σ) (s : Store) : List Operation → Performed σ
  | [] => ⟨c, s, { answer := .done, device := d }⟩
  | op :: ops =>
    let p := c.perform d s op
    match p.outcome.answer with
    | .failed _ => p
    | _ =>
      let rest := p.buffer.performAll p.outcome.device p.store ops
      { rest with
        outcome := { rest.outcome with messages := p.outcome.messages ++ rest.outcome.messages } }

theorem retains_performAll (c : CommandBuffer) (d : Device σ) (s : Store) (ops : List Operation) :
    s.Retains (c.performAll d s ops).store := by
  induction ops generalizing c d s with
  | nil => exact .refl s
  | cons op ops ih =>
    have hfirst := c.retains_perform d s op
    simp only [performAll]
    split
    · exact hfirst
    · exact hfirst.trans (ih _ _ _)

/-- Uploads in a row send their scripts and change nothing else. -/
theorem performAll_uploads (c : CommandBuffer) (d : Device σ) (s : Store) (uploads : List Upload) :
    let played := d.play (uploads.flatMap (·.script c s))
    c.performAll d s (uploads.map (·.operation)) =
      ⟨c, s, { answer := .done, device := played.device, messages := played.messages }⟩ := by
  induction uploads generalizing d with
  | nil => rfl
  | cons u uploads ih =>
    have hbuffer := c.buffer_updateBuffer s u.buffer 0 u.data
    simp only [List.map_cons, List.flatMap_cons, Device.play_append, Upload.operation, performAll,
      perform, send, hbuffer]
    simp only [Upload.operation] at ih
    rw [ih]
    rfl

end Recording.CommandBuffer

namespace Resource.Layout

/-- A declared slot can be bound. -/
theorem bind_isOk {l : Layout} {set binding element : Nat}
    (h : ∃ slot ∈ l.slots set, slot.binding = binding ∧ slot.element = element) (r : Bindable) :
    ∃ l', l.bind r set binding element = .ok l' := by
  obtain ⟨slot, hslot, hbinding⟩ := h
  unfold slots at hslot
  unfold bind
  split
  · rename_i hnone
    rw [hnone] at hslot
    cases hslot
  · rename_i slots hslots
    rw [hslots, Option.getD_some] at hslot
    obtain ⟨s, hs, rfl⟩ := List.mem_map.1 hslot
    have hsome : (bindInSet r binding element slots).isSome :=
      bindInSet_isSome_iff.2 ⟨s, hs, hbinding⟩
    obtain ⟨slots', hbind⟩ := Option.isSome_iff_exists.1 hsome
    rw [hbind]
    exact ⟨_, rfl⟩

end Resource.Layout

/-- A bound slot is there to be bound again. -/
theorem Resource.Store.bindSlot_isOk {s : Store} {layout : ResourceId} {set binding element : Nat}
    (h : ∃ slot ∈ (s.layouts.get layout).slots set,
      slot.binding = binding ∧ slot.element = element) (r : Bindable) :
    ∃ s', s.bindSlot layout r set binding element = (.ok (), s') ∧ s.Retains s' ∧
      s'.buffers = s.buffers ∧
      ∃ slot ∈ (s'.layouts.get layout).slots set,
        slot.binding = binding ∧ slot.element = element := by
  obtain ⟨l, hl⟩ := Layout.bind_isOk h r
  have hbind : s.bindSlot layout r set binding element = (.ok (), s.setLayout layout l) := by
    simp only [Store.bindSlot, hl]
  have hretains := s.retains_bindSlot layout r set binding element
  rw [hbind] at hretains
  refine ⟨_, hbind, hretains, rfl, ?_⟩
  rw [Store.setLayout, Table.get_set_self, Layout.slots_of_shape_eq (Layout.bind_spec hl).1]
  exact h

namespace Ar

open Binary

/-! ## 2. The parts of a frame -/

namespace Background

/-- The layout in the store has the slot of the camera texture, the assembler the indices. -/
structure Hosted (b : Background) (s : Store) : Prop where
  layout_lt : b.layout.number < s.next
  assembler_lt : b.assembler.number < s.next
  slot : ∃ slot ∈ (s.layouts.get b.layout).slots b.parts.materialSet,
    slot.binding = cameraBinding ∧ slot.element = 0
  index : (s.assemblers.get b.assembler).index = some b.parts.indices

theorem Hosted.retained {b : Background} {s s' : Store} (h : b.Hosted s) (hs : s.Retains s') :
    b.Hosted s' where
  layout_lt := Nat.lt_of_lt_of_le h.layout_lt hs.next_le
  assembler_lt := Nat.lt_of_lt_of_le h.assembler_lt hs.next_le
  slot := by
    rw [Layout.slots_of_shape_eq (hs.shape b.layout h.layout_lt)]
    exact h.slot
  index := (hs.index b.assembler h.assembler_lt).trans h.index

/-- What has been done so far does not matter to it. -/
theorem Hosted.flagged {b : Background} {s : Store} (h : b.Hosted s) (bound uploaded : Bool) :
    Hosted { b with textureBound := bound, uploaded } s :=
  ⟨h.layout_lt, h.assembler_lt, h.slot, h.index⟩

/-- Indices and uniforms. -/
def staticUploads (b : Background) : List Upload :=
  [⟨b.parts.indices, indexBytes⟩, ⟨b.parts.uniforms, quadUniforms.bytes⟩]

theorem staticUploads_ne_nil (b : Background) : ∀ u ∈ b.staticUploads, u.data ≠ [] := by
  intro u hu
  rcases List.mem_cons.1 hu with rfl | hu
  · show indexBytes ≠ []
    decide
  · obtain rfl := List.mem_singleton.1 hu
    show quadUniforms.bytes ≠ []
    decide +kernel

def vertexUpload (b : Background) (coordinates : List Single) : Upload :=
  ⟨b.parts.vertices, vertexBytes coordinates⟩

/-- How the quad is drawn. -/
def drawing (b : Background) : List Operation :=
  [.bindAssembler b.assembler, .bindPipeline b.parts.pipeline, .bindLayout b.layout,
    .draw b.assembler]

end Background

namespace Scene

variable {σ π : Type}

/-- Indices and uniforms would both be recorded. -/
def lands (s : Scene σ π) : Bool :=
  s.background.staticUploads.all (·.isRecorded s.buffer s.store)

/-- The camera texture is announced and bound, unless it has been. -/
theorem bindCamera_of_hosted [Platform π] {s : Scene σ π} (h : s.background.Hosted s.store) :
    ∃ store, s.store.Retains store ∧ store.buffers = s.store.buffers ∧
      s.bindCamera = (.ok (),
        { s with
          tracker :=
            if s.background.textureBound then s.tracker
            else s.tracker.tell (.cameraTexture s.background.textureId)
          store
          background := { s.background with textureBound := true } }) := by
  cases hbound : s.background.textureBound with
  | true =>
    refine ⟨s.store, .refl _, rfl, ?_⟩
    have hsame : { s.background with textureBound := true } = s.background := by rw [← hbound]
    simp only [bindCamera, hbound, hsame, if_true]
  | false =>
    obtain ⟨s₁, htexture, hretains₁, hbuffers₁, hslot⟩ :=
      s.store.bindSlot_isOk h.slot (.texture s.background.camera)
    obtain ⟨s₂, hsampler, hretains₂, hbuffers₂, _⟩ :=
      s₁.bindSlot_isOk hslot (.sampler s.background.parts.sampler)
    refine ⟨s₂, hretains₁.trans hretains₂, hbuffers₂.trans hbuffers₁, ?_⟩
    simp only [bindCamera, hbound, htexture, hsampler]
    rfl

section

variable [Driver σ]

theorem upload_eq (s : Scene σ π) (buffer : ResourceId) (data : List UInt8) :
    let u : Upload := ⟨buffer, data⟩
    let played := s.device.play (u.script s.buffer s.store)
    s.upload buffer data =
      (u.isRecorded s.buffer s.store, { s with device := played.device }, played.messages) := by
  intro u played
  have hbuffer := s.buffer.buffer_updateBuffer s.store buffer 0 data
  simp only [upload, send, hbuffer]
  rfl

theorem uploadStatic_of_hosted {s : Scene σ π} (h : s.background.Hosted s.store) :
    let uploads := if s.background.uploaded then [] else s.background.staticUploads
    let played := s.device.play (uploads.flatMap (·.script s.buffer s.store))
    s.uploadStatic =
      ({ s with
          device := played.device
          background := { s.background with uploaded := s.background.uploaded || s.lands } },
        played.messages) := by
  intro uploads played
  cases huploaded : s.background.uploaded with
  | true =>
    have hsame : { s.background with uploaded := true } = s.background := by rw [← huploaded]
    simp only [uploadStatic, huploaded, if_true, Bool.true_or, hsame, played, uploads]
    rfl
  | false =>
    simp only [uploadStatic, huploaded, h.index, upload_eq, played, uploads, lands,
      Background.staticUploads, List.all_cons, List.all_nil, Bool.and_true, Bool.false_or,
      Bool.false_eq_true, if_false, List.flatMap_cons, List.flatMap_nil, List.append_nil,
      Device.play_append]

theorem uploadVertices_eq [Platform π] (s : Scene σ π) :
    let asked := s.tracker.camera .textureCoordinates
    let played := s.device.play ((s.background.vertexUpload asked.1).script s.buffer s.store)
    s.uploadVertices =
      ({ s with tracker := asked.2.1, device := played.device }, asked.2.2 ++ played.messages) := by
  intro asked played
  simp only [uploadVertices, upload_eq, played, Background.vertexUpload]
  rfl

/-! ## 3. Whole frames -/

/-- Tracking runs and the command buffer is not a primary one inside a pass. -/
def accepts [Platform π] (s : Scene σ π) : Bool :=
  s.tracker.isRunning.1 && !s.buffer.passIsOpen

/-- The tracker when tracking was found to run and the camera texture was announced, unless that
had been done before. -/
def announced [Platform π] (s : Scene σ π) : Tracker π :=
  if s.background.textureBound then s.tracker.isRunning.2
  else s.tracker.isRunning.2.tell (.cameraTexture s.background.textureId)

/-- A preparation that is not accepted asks whether tracking runs, and nothing else. -/
theorem prepare_of_not_accepted [Platform π] {s : Scene σ π} (h : s.accepts = false) :
    s.prepare.1 = .ok false ∧ s.prepare.2.1 = { s with tracker := s.tracker.isRunning.2 } := by
  cases hrunning : s.tracker.isRunning.1 with
  | false =>
    rw [prepare_of_not_running hrunning]
    exact ⟨rfl, rfl⟩
  | true =>
    have hopen : s.buffer.passIsOpen = true := by simpa [accepts, hrunning] using h
    simp [prepare, hrunning, hopen]

/-- An accepted preparation makes the uploads that are due, after the camera texture was announced
and bound. -/
theorem prepare_of_accepted [Platform π] {s : Scene σ π} (hosted : s.background.Hosted s.store)
    (h : s.accepts = true) :
    let asked := s.announced.camera .textureCoordinates
    let uploads := if s.background.uploaded then [] else s.background.staticUploads
    let first := s.device.play (uploads.flatMap (·.script s.buffer s.store))
    let last := first.device.play ((s.background.vertexUpload asked.1).script s.buffer s.store)
    ∃ store, s.store.Retains store ∧
      s.prepare = (.ok true,
        { s with
          background :=
            { s.background with
              textureBound := true
              uploaded := s.background.uploaded || s.lands }
          tracker := asked.2.1
          device := last.device
          store },
        first.messages ++ (asked.2.2 ++ last.messages)) := by
  intro asked uploads first last
  obtain ⟨hrunning, hopen⟩ : s.tracker.isRunning.1 = true ∧ s.buffer.passIsOpen = false := by
    simpa [accepts] using h
  obtain ⟨store, hretains, hbuffers, hbind⟩ :=
    bindCamera_of_hosted (s := { s with tracker := s.tracker.isRunning.2 }) hosted
  refine ⟨store, hretains, ?_⟩
  have hhosted := (hosted.retained hretains).flagged true s.background.uploaded
  have hscript (u : Upload) : u.script s.buffer store = u.script s.buffer s.store :=
    u.script_congr hbuffers s.buffer
  have hrecorded (u : Upload) : u.isRecorded s.buffer store = u.isRecorded s.buffer s.store :=
    u.isRecorded_congr hbuffers s.buffer
  let bound (t : Tracker π) : Scene σ π :=
    ⟨{ s.background with textureBound := true }, t, s.buffer, s.device, store⟩
  have hlands (t : Tracker π) : (bound t).lands = s.lands := by
    simp only [bound, lands, Background.staticUploads, List.all_cons, List.all_nil, hrecorded]
  have hstatic (t : Tracker π) := uploadStatic_of_hosted (s := bound t) hhosted
  simp only [bound] at hlands hstatic
  simp only [prepare, hrunning, hopen, hbind, hstatic, hlands, uploadVertices_eq, hscript]
  rfl

/-- Before the texture is bound, and while tracking does not run, nothing is drawn. -/
theorem render_of_not_bound [Platform π] {s : Scene σ π}
    (h : (s.tracker.isRunning.1 && s.background.textureBound) = false) :
    s.render.2.1 = { s with tracker := s.tracker.isRunning.2 } := by
  cases hrunning : s.tracker.isRunning.1 with
  | false => simp [render, hrunning]
  | true =>
    have hbound : s.background.textureBound = false := by simpa [hrunning] using h
    simp [render, hrunning, hbound]

theorem render_of_bound [Platform π] {s : Scene σ π} (hrunning : s.tracker.isRunning.1 = true)
    (hbound : s.background.textureBound = true) :
    let p := s.buffer.performAll s.device s.store s.background.drawing
    s.render.2.1 =
        { s with
          tracker := s.tracker.isRunning.2
          buffer := p.buffer
          device := p.outcome.device
          store := p.store } ∧
      s.render.2.2 = p.outcome.messages := by
  intro p
  simp only [render, hrunning, hbound, p, Background.drawing, CommandBuffer.performAll,
    CommandBuffer.perform, CommandBuffer.send, send]
  -- Only the binding of the layout can fail.
  generalize CommandBuffer.bindLayout (σ := σ) _ _ _ _ = bound
  cases bound.outcome.answer with
  | error f => simp [Answer.ofAttempt]
  | ok u => simp [Answer.ofAttempt, List.append_assoc]

/-! ## 4. What a frame is seen to do -/

/-- What a frame of a scene has left behind, and what it reported, is this: the platform has heard
certain things, and the command buffer has performed certain operations. -/
structure Does (s : Scene σ (Heard π)) (frame : Scene σ (Heard π) × List Message)
    (hearings : List Hearing) (operations : List Operation) : Prop where
  heard : frame.1.tracker.heard = s.tracker.heard ++ hearings
  buffer : frame.1.buffer = (s.buffer.performAll s.device s.store operations).buffer
  device : frame.1.device = (s.buffer.performAll s.device s.store operations).outcome.device
  reported : (s.buffer.performAll s.device s.store operations).outcome.messages <+ frame.2

/-- What a platform hears when it is asked whether it is running. -/
def asked (s : Scene σ (Heard π)) : List Hearing :=
  if s.tracker.platform.isSome then [.running] else []

omit [Driver σ] in
theorem namings_asked (s : Scene σ (Heard π)) : s.asked.countP (·.namesCamera) = 0 := by
  unfold asked
  split <;> rfl

theorem does_nothing [Platform π] {s : Scene σ (Heard π)}
    {frame : Scene σ (Heard π) × List Message}
    (h : frame.1 = { s with tracker := s.tracker.isRunning.2 }) : s.Does frame s.asked [] where
  heard := by
    rw [h]
    exact s.tracker.heard_isRunning
  buffer := by rw [h]; rfl
  device := by rw [h]; rfl
  reported := List.nil_sublist _

omit [Driver σ] in
theorem heard_announced [Platform π] {s : Scene σ (Heard π)}
    (hrunning : s.tracker.isRunning.1 = true) :
    s.announced.platform.isSome = true ∧ s.announced.heard = s.tracker.heard ++
      (s.asked ++
        if s.background.textureBound then []
        else [.told (.cameraTexture s.background.textureId)]) := by
  obtain ⟨_, hsome⟩ := Tracker.platform_of_isRunning hrunning
  have hasked : s.tracker.isRunning.2.heard = s.tracker.heard ++ s.asked :=
    s.tracker.heard_isRunning
  unfold announced
  split
  · exact ⟨hsome, by rw [hasked, List.append_nil]⟩
  · refine ⟨by simpa [Tracker.tell] using hsome, ?_⟩
    rw [Tracker.heard_tell hsome, hasked, List.append_assoc]

theorem does_prepare [Platform π] {s : Scene σ (Heard π)} (hosted : s.background.Hosted s.store)
    (h : s.accepts = true) :
    s.prepare.1 = .ok true ∧ ∃ coordinates,
      let announced : List Hearing :=
        if s.background.textureBound then [] else [.told (.cameraTexture s.background.textureId)]
      let uploads := if s.background.uploaded then [] else s.background.staticUploads
      s.Does s.prepare.2 (s.asked ++ (announced ++ [.camera .textureCoordinates]))
        ((uploads ++ [s.background.vertexUpload coordinates]).map (·.operation)) := by
  have hrunning : s.tracker.isRunning.1 = true := by
    simp only [accepts, Bool.and_eq_true] at h
    exact h.1
  obtain ⟨store, _, hprepare⟩ := prepare_of_accepted hosted h
  refine ⟨congrArg Prod.fst hprepare, (s.announced.camera .textureCoordinates).1, ?_⟩
  intro announcement uploads
  rw [hprepare]
  have hperform := s.buffer.performAll_uploads s.device s.store
    (uploads ++ [s.background.vertexUpload (s.announced.camera .textureCoordinates).1])
  simp only [List.flatMap_append, List.flatMap_cons, List.flatMap_nil, List.append_nil,
    Device.play_append] at hperform
  refine ⟨?_, ?_, ?_, ?_⟩
  · obtain ⟨hsome, hheard⟩ := heard_announced hrunning
    calc (s.announced.camera .textureCoordinates).2.1.heard
      _ = s.announced.heard ++ [.camera .textureCoordinates] := Tracker.heard_camera hsome _
      _ = s.tracker.heard ++ (s.asked ++ (announcement ++ [.camera .textureCoordinates])) := by
        rw [hheard, List.append_assoc, List.append_assoc]
  · rw [hperform]
  · rw [hperform]
  · -- Only what the camera array is reported for stands between them.
    rw [hperform]
    exact List.Sublist.append (List.Sublist.refl _) (List.sublist_append_right _ _)

/-- A frame draws while tracking runs, once the texture is bound. -/
theorem does_render [Platform π] (s : Scene σ (Heard π)) :
    s.Does s.render.2 s.asked
      (if s.tracker.isRunning.1 && s.background.textureBound then s.background.drawing
        else []) := by
  cases hdraws : s.tracker.isRunning.1 && s.background.textureBound with
  | false => exact does_nothing (render_of_not_bound hdraws)
  | true =>
    rw [Bool.and_eq_true] at hdraws
    obtain ⟨hscene, hmessages⟩ := render_of_bound hdraws.1 hdraws.2
    refine ⟨?_, ?_, ?_, ?_⟩
    · rw [hscene]
      exact s.tracker.heard_isRunning
    · rw [hscene]
      rfl
    · rw [hscene]
      rfl
    · exact hmessages ▸ List.Sublist.refl _

end

end Scene

end Ar

end GpuRecorder
