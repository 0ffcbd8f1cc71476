import GpuRecorder.Proofs.Ar.StaticData

/-!
# What the answer of a preparation tells

A preparation answers that the quad was uploaded once it has tried to, whatever came of the
vertices.  So the answer tells that they were recorded only for a command buffer that is ready and
a vertex buffer with room for four vertices; every other answer tells that nothing was recorded.
-/

namespace GpuRecorder

open Native Resource Recording

/-! ## 1. One upload -/

namespace Recording.Upload

/-- Small data is recorded in one update. -/
theorem requests_script {u : Upload} (h : u.data.length ≤ maxUpdateBytes) {c : CommandBuffer}
    {b : Handle .commandBuffer} (hb : c.handle? = some b) {s : Store}
    (hrecorded : u.isRecorded c s = true) :
    (u.script c s).requests = [.record b (.updateBuffer (s.start u.buffer) u.data)] := by
  have haccepts := CommandBuffer.updateBuffer_fst_iff.1 hrecorded
  rw [script, CommandBuffer.updateBuffer_of_accepts haccepts hb, Script.requests_record,
    chunks_of_length_le haccepts.2.2.1 h]
  rfl

/-- From its beginning on, a buffer takes whole words that it has room for. -/
theorem isRecorded_iff {u : Upload} (hdata : u.data ≠ []) (hwords : 4 ∣ u.data.length)
    {c : CommandBuffer} (hclosed : c.passIsOpen = false) (s : Store) :
    u.isRecorded c s = true ↔
      c.isReady = true ∧ u.data.length ≤ (s.backing u.buffer).size := by
  rw [isRecorded, CommandBuffer.updateBuffer_fst_iff]
  constructor
  · rintro ⟨hready, _, _, _, _, hroom⟩
    exact ⟨hready, by rwa [Nat.zero_add] at hroom⟩
  · rintro ⟨hready, hroom⟩
    exact ⟨hready, hclosed, hdata, Nat.dvd_zero 4, hwords, by rwa [Nat.zero_add]⟩

/-- After uploads of other data, its own update is among what is sent exactly if it is recorded. -/
theorem mem_requests_iff {uploads : List Upload} {u : Upload}
    (hothers : ∀ v ∈ uploads, v.data ≠ u.data)
    (hsmall : ∀ v ∈ uploads ++ [u], v.data.length ≤ maxUpdateBytes) (c : CommandBuffer)
    (s : Store) :
    (∃ b, c.handle? = some b ∧ .record b (.updateBuffer (s.start u.buffer) u.data) ∈
        Script.requests ((uploads ++ [u]).flatMap (·.script c s))) ↔ u.isRecorded c s = true := by
  constructor
  · rintro ⟨b, _, hmem⟩
    have hupdate : (s.start u.buffer, u.data) ∈ (uploads ++ [u]).filterMap (·.update? c s) := by
      rw [← updates_scripts hsmall]
      exact List.mem_filterMap.2 ⟨_, hmem, rfl⟩
    obtain ⟨v, hv, hsame⟩ := List.mem_filterMap.1 hupdate
    obtain ⟨hrecorded, _, hdata⟩ : v.isRecorded c s = true ∧ s.start v.buffer = s.start u.buffer ∧
        v.data = u.data := by
      simpa [update?] using hsame
    rcases List.mem_append.1 hv with hv | hv
    · exact absurd hdata (hothers v hv)
    · rwa [List.mem_singleton.1 hv] at hrecorded
  · intro hrecorded
    have haccepts := CommandBuffer.updateBuffer_fst_iff.1 hrecorded
    obtain ⟨n, hn⟩ := Option.isSome_iff_exists.1 haccepts.1
    have hb : c.handle? = some n.handle := by rw [CommandBuffer.handle?, hn, Option.map_some]
    refine ⟨n.handle, hb, ?_⟩
    rw [List.flatMap_append, List.flatMap_singleton, Script.requests_append,
      requests_script (hsmall u (List.mem_append_right _ (List.mem_singleton_self u))) hb hrecorded]
    exact List.mem_append_right _ (List.mem_singleton_self _)

end Recording.Upload

namespace Ar

open Binary

/-! ## 2. The vertices of a frame -/

theorem length_quadVerticesFrom_of_length {points : List (Single × Single)}
    {coordinates : List Single} (h : coordinates.length = 2 * points.length) :
    (quadVerticesFrom points coordinates).length = 4 * points.length := by
  fun_induction quadVerticesFrom points coordinates with
  | case1 x y points u v coordinates ih =>
    simp only [List.length_cons] at h ⊢
    have hrest := ih (by omega)
    omega
  | case2 points coordinates hnone =>
    rcases points with _ | ⟨⟨x, y⟩, points⟩
    · rfl
    · rcases coordinates with _ | ⟨u, _ | ⟨v, coordinates⟩⟩
      · simp at h
      · simp only [List.length_cons, List.length_nil] at h
        omega
      · exact absurd rfl (hnone x y points u v coordinates rfl)

/-- Four vertices take 64 bytes. -/
theorem length_vertexBytes_of_length {coordinates : List Single}
    (h : coordinates.length = CameraArray.textureCoordinates.length) :
    (vertexBytes coordinates).length = 64 := by
  have hvertices : (quadVertices coordinates).length = 4 * corners.length :=
    length_quadVerticesFrom_of_length h
  rw [vertexBytes, length_singleBytes, hvertices]
  rfl

namespace Tracker

variable {π : Type} [Platform π]

/-- A camera array is answered as it is kept. -/
theorem camera_fst (t : Tracker π) (a : CameraArray) :
    (t.camera a).1 = (t.camera a).2.1.cache.get a := by
  unfold camera
  split <;> rfl

theorem length_camera {t : Tracker π} (h : ∀ a, (t.cache.get a).length = a.length)
    (a : CameraArray) : (t.camera a).1.length = a.length := by
  unfold camera
  split
  · exact h a
  · exact CameraCache.length_accept h a a _

/-- What the platform answers to anything but a camera query does not concern the arrays. -/
theorem cache_isRunning (t : Tracker π) : t.isRunning.2.cache = t.cache := by
  unfold isRunning ask
  split <;> rfl

end Tracker

/-! ## 3. The parts of a preparation -/

namespace Scene

variable {σ π : Type}

/-- Binding the camera texture concerns the tracker, the layouts and the background's own memory. -/
structure LeavesRecording (s s' : Scene σ π) : Prop where
  buffer : s'.buffer = s.buffer
  device : s'.device = s.device
  buffers : s'.store.buffers = s.store.buffers
  parts : s'.background.parts = s.background.parts
  cache : s'.tracker.cache = s.tracker.cache

theorem buffers_bindSlot (s : Store) (layout : ResourceId) (r : Bindable)
    (set binding element : Nat) :
    (s.bindSlot layout r set binding element).2.buffers = s.buffers := by
  unfold Store.bindSlot
  split <;> rfl

theorem leavesRecording_bindCamera [Platform π] (s : Scene σ π) :
    s.LeavesRecording s.bindCamera.2 := by
  have htexture := buffers_bindSlot s.store s.background.layout (.texture s.background.camera)
    s.background.parts.materialSet cameraBinding 0
  unfold bindCamera
  dsimp only
  split
  · exact ⟨rfl, rfl, rfl, rfl, rfl⟩
  · split
    · rename_i e store hbind
      rw [hbind] at htexture
      exact ⟨rfl, rfl, htexture, rfl, rfl⟩
    · rename_i store hbind
      rw [hbind] at htexture
      have hsampler := buffers_bindSlot store s.background.layout
        (.sampler s.background.parts.sampler) s.background.parts.materialSet cameraBinding 0
      split
      · rename_i e store' hbind'
        rw [hbind'] at hsampler
        exact ⟨rfl, rfl, hsampler.trans htexture, rfl, rfl⟩
      · rename_i store' hbind'
        rw [hbind'] at hsampler
        exact ⟨rfl, rfl, hsampler.trans htexture, rfl, rfl⟩

variable [Driver σ]

/-- Indices, if the assembler has any, and uniforms: data of other lengths than vertices. -/
theorem uploadStatic_spec (s : Scene σ π) :
    ∃ uploads : List Upload, (∀ u ∈ uploads, u.data.length = 12 ∨ u.data.length = 128) ∧
      ∃ uploaded messages, s.uploadStatic =
        ({ s with
            device := (s.device.play (uploads.flatMap (·.script s.buffer s.store))).device
            background := { s.background with uploaded } }, messages) := by
  have huniforms : quadUniforms.bytes.length = 12 ∨ quadUniforms.bytes.length = 128 :=
    .inr length_uniformBytes
  unfold uploadStatic
  split
  · exact ⟨[], nofun, s.background.uploaded, [], rfl⟩
  · split
    rename_i indices s' messages hindices
    split at hindices
    · cases hindices
      refine ⟨[⟨s.background.parts.uniforms, quadUniforms.bytes⟩], by simpa using huniforms, ?_⟩
      simp only [upload_eq, List.flatMap_cons, List.flatMap_nil, List.append_nil]
      exact ⟨_, _, rfl⟩
    · rename_i index _
      rw [upload_eq] at hindices
      cases hindices
      refine ⟨[⟨index, indexBytes⟩, ⟨s.background.parts.uniforms, quadUniforms.bytes⟩], ?_, ?_⟩
      · intro u hu
        rcases List.mem_cons.1 hu with rfl | hu
        · exact .inl length_indexBytes
        · obtain rfl := List.mem_singleton.1 hu
          exact huniforms
      · simp only [upload_eq, List.flatMap_cons, List.flatMap_nil, List.append_nil,
          Device.play_append]
        exact ⟨_, _, rfl⟩

/-! ## 4. One preparation -/

/-- How a preparation can end: nothing is sent, or some uploads of other data and the one of the
vertices, with the coordinates that the tracker has now. -/
inductive EndsPreparing [Platform π] (s : Scene σ π) :
    Except DeviceError Bool × Scene σ π × List Message → Prop
  | idle {answer : Except DeviceError Bool} {now : Scene σ π} {messages : List Message}
      (other : answer ≠ .ok true) (device : now.device = s.device)
      (buffer : now.buffer = s.buffer) : EndsPreparing s (answer, now, messages)
  | sent {now : Scene σ π} {messages : List Message} (uploads : List Upload)
      (closed : s.buffer.passIsOpen = false)
      (others : ∀ u ∈ uploads, u.data.length = 12 ∨ u.data.length = 128)
      (asked : ∃ t : Tracker π, t.cache = s.tracker.cache ∧
        now.tracker = (t.camera .textureCoordinates).2.1)
      (device : now.device = (s.device.play
        ((uploads ++ [s.background.vertexUpload
          (now.tracker.cache.get .textureCoordinates)]).flatMap
            (·.script s.buffer s.store))).device) : EndsPreparing s (.ok true, now, messages)

theorem endsPreparing [Platform π] (s : Scene σ π) : s.EndsPreparing s.prepare := by
  have hrunning := s.tracker.cache_isRunning
  unfold prepare
  split
  rename_i running tracker hasked
  rw [hasked] at hrunning
  dsimp only at hrunning ⊢
  split
  · exact .idle (by simp) rfl rfl
  split
  · exact .idle (by simp) rfl rfl
  rename_i hclosed
  have hleaves := leavesRecording_bindCamera { s with tracker }
  split
  · rename_i e now hbind
    rw [hbind] at hleaves
    exact .idle (by simp) hleaves.device hleaves.buffer
  · rename_i bound hbind
    rw [hbind] at hleaves
    obtain ⟨uploads, hothers, uploaded, messages, hstatic⟩ := bound.uploadStatic_spec
    have hparts : bound.background.parts = s.background.parts := hleaves.parts
    have hdevice : bound.device = s.device := hleaves.device
    have hscript (u : Upload) : u.script bound.buffer bound.store = u.script s.buffer s.store := by
      rw [hleaves.buffer]
      exact u.script_congr hleaves.buffers s.buffer
    simp only [hstatic, uploadVertices_eq]
    refine .sent uploads (by simpa using hclosed) hothers
      ⟨bound.tracker, hleaves.cache.trans hrunning, rfl⟩ ?_
    simp only [Background.vertexUpload, hparts, hdevice, hscript,
      List.flatMap_append, List.flatMap_cons, List.flatMap_nil, List.append_nil,
      Device.play_append, Tracker.camera_fst]

variable [Platform π]

/-- The calls that a preparation makes on the driver. -/
def prepareCalls (s : Scene (Journal σ) π) : List Attempt :=
  s.prepare.2.1.device.driver.attempts.drop s.device.driver.attempts.length

/-- The vertices with the coordinates that the tracker has after a preparation. -/
def preparedVertices (s : Scene σ π) : List UInt8 :=
  vertexBytes (s.prepare.2.1.tracker.cache.get .textureCoordinates)

/-- The command buffer has an update of the vertex buffer as it is now. -/
def RecordsVertices (s : Scene (Journal σ) π) : Prop :=
  ∃ handle, s.buffer.handle? = some handle ∧
    .through (.request (.record handle
      (.updateBuffer (s.store.start s.background.parts.vertices) s.preparedVertices))) ∈
        s.prepareCalls

/-- Over any driver and any platform, for a command buffer in any state and buffers of any size:
when a preparation answers that the quad was uploaded, four vertices with the present texture
coordinates were recorded for the present place of the vertex buffer if, and only if, the command
buffer is ready and the buffer has room for them.  On every other answer nothing was recorded.  The
arrays that the tracker keeps have their lengths, as `length_accept` preserves them. -/
theorem vertices_recorded_iff (s : Scene (Journal σ) π)
    (hsized : ∀ a, (s.tracker.cache.get a).length = a.length) :
    match s.prepare.1 with
    | .ok true =>
      s.preparedVertices.length = 64 ∧
        (s.RecordsVertices ↔ s.buffer.isReady = true ∧
          64 ≤ (s.store.backing s.background.parts.vertices).size)
    | _ => s.prepareCalls = [] ∧ s.prepare.2.1.buffer = s.buffer := by
  simp only [RecordsVertices, preparedVertices, prepareCalls]
  have hends := s.endsPreparing
  generalize s.prepare = result at hends ⊢
  cases hends with
  | @idle answer now messages other device buffer =>
    have hcalls : now.device.driver.attempts.drop s.device.driver.attempts.length = [] := by
      rw [device, List.drop_length]
    split
    · exact absurd ‹_› other
    · exact ⟨hcalls, buffer⟩
  | @sent now messages uploads closed others asked device =>
    obtain ⟨t, hcache, htracker⟩ := asked
    have hlength : (vertexBytes (now.tracker.cache.get .textureCoordinates)).length = 64 := by
      apply length_vertexBytes_of_length
      rw [htracker, ← Tracker.camera_fst]
      exact Tracker.length_camera (hcache ▸ hsized) _
    refine ⟨hlength, ?_⟩
    let v : Upload := s.background.vertexUpload (now.tracker.cache.get .textureCoordinates)
    have hv : v.data.length = 64 := hlength
    have hcalls : now.device.driver.attempts.drop s.device.driver.attempts.length =
        (Script.requests ((uploads ++ [v]).flatMap (·.script s.buffer s.store))).map
          fun r => .through (.request r) := by
      rw [device, Device.play_device, Journal.attempts_play, List.drop_left]
    have hothers : ∀ u ∈ uploads, u.data ≠ v.data := by
      intro u hu hdata
      have hlengths := others u hu
      rw [hdata, hv] at hlengths
      omega
    have hsmall : ∀ u ∈ uploads ++ [v], u.data.length ≤ maxUpdateBytes := by
      unfold maxUpdateBytes
      intro u hu
      rcases List.mem_append.1 hu with hu | hu
      · have hlengths := others u hu
        omega
      · rw [List.mem_singleton.1 hu, hv]
        omega
    have hsent := Upload.mem_requests_iff hothers hsmall s.buffer s.store
    have hroom := Upload.isRecorded_iff (u := v) (List.ne_nil_of_length_pos (by omega))
      (by rw [hv]; decide) closed s.store
    rw [hv] at hroom
    rw [hcalls]
    refine Iff.trans ?_ (hsent.trans hroom)
    simp only [List.mem_map, Attempt.through.injEq, Call.request.injEq, exists_eq_right]
    exact .rfl

/-- A running tracker and the quad in the recording of a command buffer, with uniforms that fit. -/
def quadStage : Stage (Journal Trace) Scripted :=
  (Stage.activated quadSession { platform := some { running := true } } quadParts
    (fun _ => .ok { externalId := some 42 }) quadBackground).through
      [.act (.change (.rebuildBuffer quadParts.uniforms ⟨907⟩ 0 128))]

/-- The vertex buffer of the quad is large enough for the vertices. -/
theorem quad_vertices_recorded :
    ∃ s, quadStage.scene? 0 = some s ∧ (∀ a, (s.tracker.cache.get a).length = a.length) ∧
      s.prepare.1 = .ok true ∧ s.preparedVertices.length = 64 ∧ s.RecordsVertices := by
  have hfound : (quadStage.scene? 0).map (fun s => (s.prepare.1, s.buffer.isReady)) =
      some (.ok true, true) := by
    decide +kernel
  obtain ⟨s, hs, hfacts⟩ := Option.map_eq_some_iff.1 hfound
  obtain ⟨hanswer, hready⟩ := Prod.mk.inj hfacts
  obtain ⟨hbackground, htracker, _, hstore⟩ := Stage.scene?_eq_some hs
  have hsized : ∀ a, (s.tracker.cache.get a).length = a.length := by
    rw [htracker]
    intro a
    cases a <;> decide +kernel
  have hroom : 64 ≤ (s.store.backing s.background.parts.vertices).size := by
    rw [hbackground, hstore]
    decide +kernel
  have hrecorded := vertices_recorded_iff s hsized
  rw [hanswer] at hrecorded
  exact ⟨s, hs, hsized, hanswer, hrecorded.1, hrecorded.2.2 ⟨hready, hroom⟩⟩

/-- When the vertex buffer has been rebuilt with room for three vertices, the next preparation
records nothing and answers that the quad was uploaded. -/
theorem shrunk_vertices_not_recorded :
    ∃ s, (quadStage.through
        [.prepare 0, .act (.change (.rebuildBuffer quadParts.vertices ⟨908⟩ 0 48))]).scene? 0 =
          some s ∧
      s.buffer.isReady = true ∧ s.prepare.1 = .ok true ∧ s.prepareCalls = [] ∧
      ¬ s.RecordsVertices := by
  have hfound : ((quadStage.through
      [.prepare 0, .act (.change (.rebuildBuffer quadParts.vertices ⟨908⟩ 0 48))]).scene? 0).map
        (fun s => (s.buffer.isReady, s.prepare.1, s.prepareCalls)) =
          some (true, .ok true, []) := by
    decide +kernel
  obtain ⟨s, hs, hfacts⟩ := Option.map_eq_some_iff.1 hfound
  obtain ⟨hready, hanswer, hcalls⟩ : s.buffer.isReady = true ∧ s.prepare.1 = .ok true ∧
      s.prepareCalls = [] := by
    simpa using hfacts
  refine ⟨s, hs, hready, hanswer, hcalls, ?_⟩
  rintro ⟨_, _, hmem⟩
  rw [hcalls] at hmem
  exact absurd hmem List.not_mem_nil

end Scene

end Ar

end GpuRecorder
