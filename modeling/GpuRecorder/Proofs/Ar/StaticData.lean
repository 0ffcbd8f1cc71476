import GpuRecorder.Proofs.Ar.LifeCycle
import GpuRecorder.Proofs.Recording.BufferUpdates

/-!
# Where indices and uniforms are

A background uploads indices and uniforms until both have arrived once.  Their buffers can move to
other storage between any two frames, and nothing tells the background.  So as long as nothing is
refused, the data is in the storage that the buffers had in the first accepted preparation, and in
no other; after a move it is missing until the buffer moves back.
-/

namespace GpuRecorder

open Native Resource Recording

/-! ## 1. Native updates -/

/-- The data that goes into a native buffer with a request, and the point it is written from. -/
def Native.Request.update? : Request → Option (BufferPoint × List UInt8)
  | .record _ (.updateBuffer start data) => some (start, data)
  | _ => none

def Native.Attempt.update? : Attempt → Option (BufferPoint × List UInt8)
  | .through (.request r) => r.update?
  | _ => none

namespace Recording

/-- Data that fits into one piece is not cut. -/
theorem chunks_of_length_le {size : Nat} {data : List UInt8} (hdata : data ≠ [])
    (h : data.length ≤ size) : chunks size data = [data] := by
  have hpos : 0 < data.length := List.length_pos_iff.2 hdata
  have hcut : ¬ (size = 0 ∨ data = []) := by
    rintro (hsize | hnil)
    · omega
    · exact hdata hnil
  rw [chunks, dif_neg hcut, List.take_of_length_le h, List.drop_of_length_le h, chunks,
    dif_pos (.inr rfl)]

namespace Upload

/-- The native update that it comes to, if it is recorded. -/
def update? (c : CommandBuffer) (s : Store) (u : Upload) : Option (BufferPoint × List UInt8) :=
  if u.isRecorded c s then some (s.start u.buffer, u.data) else none

theorem updates_script {u : Upload} (h : u.data.length ≤ maxUpdateBytes) (c : CommandBuffer)
    (s : Store) :
    (u.script c s).requests.filterMap Request.update? = (u.update? c s).toList := by
  simp only [update?, isRecorded, script, CommandBuffer.updateBuffer, CommandBuffer.refuseInPass]
  cases c.handle? with
  | none => rfl
  | some b =>
    cases c.passIsOpen with
    | true => rfl
    | false =>
      cases hempty : u.data.isEmpty with
      | true => rfl
      | false =>
        have hdata : u.data ≠ [] := by simpa using hempty
        rw [chunks_of_length_le hdata h]
        cases CommandBuffer.updateFault (s.backing u.buffer).size 0 u.data.length with
        | some text => rfl
        | none => rfl

theorem updates_scripts {uploads : List Upload}
    (h : ∀ u ∈ uploads, u.data.length ≤ maxUpdateBytes) (c : CommandBuffer) (s : Store) :
    (Script.requests (uploads.flatMap (·.script c s))).filterMap Request.update? =
      uploads.filterMap (·.update? c s) := by
  induction uploads with
  | nil => rfl
  | cons u uploads ih =>
    have hfirst := updates_script (h u List.mem_cons_self) c s
    have hrest := ih fun v hv => h v (List.mem_cons_of_mem _ hv)
    rw [List.flatMap_cons, Script.requests_append, List.filterMap_append, hfirst, hrest,
      List.filterMap_cons]
    cases u.update? c s <;> rfl

end Upload

end Recording

namespace Ar

open Binary

/-! ## 2. What the uploads are told apart by -/

theorem length_quadVerticesFrom (points : List (Single × Single)) (coordinates : List Single) :
    ∃ n ≤ points.length, (quadVerticesFrom points coordinates).length = 4 * n := by
  fun_induction quadVerticesFrom points coordinates with
  | case1 x y points u v coordinates ih =>
    obtain ⟨n, hn, hlength⟩ := ih
    refine ⟨n + 1, Nat.succ_le_succ hn, ?_⟩
    simp only [List.length_cons, hlength]
    omega
  | case2 => exact ⟨0, Nat.zero_le _, rfl⟩

theorem length_vertexBytes (coordinates : List Single) :
    ∃ n ≤ 4, (vertexBytes coordinates).length = 16 * n := by
  obtain ⟨n, hn, hlength⟩ := length_quadVerticesFrom corners coordinates
  refine ⟨n, hn, ?_⟩
  rw [vertexBytes, quadVertices, length_singleBytes, hlength]
  omega

theorem length_indexBytes : indexBytes.length = 12 := by decide

theorem length_uniformBytes : quadUniforms.bytes.length = 128 := by decide +kernel

namespace Background

theorem length_of_mem_staticUploads {b : Background} {u : Upload} (h : u ∈ b.staticUploads) :
    u.data.length = 12 ∨ u.data.length = 128 := by
  rcases List.mem_cons.1 h with rfl | h
  · exact .inl length_indexBytes
  · obtain rfl := List.mem_singleton.1 h
    exact .inr length_uniformBytes

/-- Indices and uniforms are different data. -/
theorem eq_of_data_eq {b : Background} {u v : Upload} (hu : u ∈ b.staticUploads)
    (hv : v ∈ b.staticUploads) (h : v.data = u.data) : v = u := by
  have hlength := congrArg List.length h
  rcases List.mem_cons.1 hu with rfl | hu <;> rcases List.mem_cons.1 hv with rfl | hv
  · rfl
  · obtain rfl := List.mem_singleton.1 hv
    rw [length_indexBytes, length_uniformBytes] at hlength
    omega
  · obtain rfl := List.mem_singleton.1 hu
    rw [length_indexBytes, length_uniformBytes] at hlength
    omega
  · rw [List.mem_singleton.1 hu, List.mem_singleton.1 hv]

/-- Neither is the data of vertices. -/
theorem vertexBytes_ne {b : Background} {u : Upload} (h : u ∈ b.staticUploads)
    (coordinates : List Single) : (b.vertexUpload coordinates).data ≠ u.data := by
  intro heq
  obtain ⟨n, hn, hlength⟩ := length_vertexBytes coordinates
  have hstatic := length_of_mem_staticUploads h
  rw [← heq, vertexUpload, hlength] at hstatic
  omega

/-- The uploads of a preparation are small enough for one call each. -/
theorem length_le_maxUpdateBytes {b : Background} {uploads : List Upload}
    (h : uploads ⊆ b.staticUploads) (coordinates : List Single) :
    ∀ u ∈ uploads ++ [b.vertexUpload coordinates], u.data.length ≤ maxUpdateBytes := by
  unfold maxUpdateBytes
  intro u hu
  rcases List.mem_append.1 hu with hu | hu
  · have hstatic := length_of_mem_staticUploads (h hu)
    omega
  · obtain ⟨n, hn, hlength⟩ := length_vertexBytes coordinates
    rw [List.mem_singleton.1 hu, vertexUpload, hlength]
    omega

end Background

/-! ## 3. One preparation -/

namespace Scene

variable {σ π : Type}

/-- Uploads of indices and uniforms that a preparation makes. -/
def due (s : Scene σ π) : List Upload :=
  if s.background.uploaded then [] else s.background.staticUploads

theorem due_subset (s : Scene σ π) : s.due ⊆ s.background.staticUploads := by
  unfold due
  split
  · exact List.nil_subset _
  · exact List.Subset.refl _

/-- The command buffer takes transfers, and indices and uniforms have room in their buffers. -/
def fits (s : Scene σ π) : Bool :=
  s.buffer.isReady && !s.buffer.passIsOpen &&
    s.background.staticUploads.all fun u => u.data.length ≤ (s.store.backing u.buffer).size

theorem isRecorded_of_fits {s : Scene σ π} (h : s.fits = true) {u : Upload}
    (hu : u ∈ s.background.staticUploads) : u.isRecorded s.buffer s.store = true := by
  simp only [fits, Bool.and_eq_true, Bool.not_eq_true', List.all_eq_true, decide_eq_true_eq] at h
  obtain ⟨⟨hready, hclosed⟩, hroom⟩ := h
  have hwords : 4 ∣ u.data.length := by
    rcases Background.length_of_mem_staticUploads hu with hlength | hlength <;> rw [hlength] <;>
      decide
  have haccepts : s.buffer.AcceptsUpdate s.store u.buffer 0 u.data :=
    ⟨hready, hclosed, s.background.staticUploads_ne_nil u hu, Nat.dvd_zero 4, hwords,
      by rw [Nat.zero_add]; exact hroom u hu⟩
  obtain ⟨n, hn⟩ := Option.isSome_iff_exists.1 hready
  have hhandle : s.buffer.handle? = some n.handle := by rw [CommandBuffer.handle?, hn]; rfl
  rw [Upload.isRecorded, CommandBuffer.updateBuffer_of_accepts haccepts hhandle]

theorem lands_of_fits {s : Scene σ π} (h : s.fits = true) : s.lands = true :=
  List.all_eq_true.2 fun _ hu => isRecorded_of_fits h hu

variable [Driver σ] [Platform π]

theorem accepts_of_answer {s : Scene σ π} (h : s.prepare.1 = .ok true) : s.accepts = true := by
  by_contra hnot
  rw [(prepare_of_not_accepted (by simpa using hnot)).1] at h
  cases h

/-- The journal of a preparation that is accepted. -/
theorem attempts_prepare {s : Scene (Journal σ) π} (hosted : s.background.Hosted s.store)
    (h : s.accepts = true) :
    ∃ coordinates, s.prepare.2.1.device.driver.attempts = s.device.driver.attempts ++
      (Script.requests ((s.due ++ [s.background.vertexUpload coordinates]).flatMap
        (·.script s.buffer s.store))).map fun r => .through (.request r) := by
  obtain ⟨store, _, hprepare⟩ := prepare_of_accepted hosted h
  refine ⟨(s.announced.camera .textureCoordinates).1, ?_⟩
  rw [hprepare]
  simp only [Device.play_device, Journal.attempts_play, List.flatMap_append, List.flatMap_cons,
    List.flatMap_nil, List.append_nil, Script.requests_append, List.map_append, List.append_assoc,
    due]

end Scene

namespace Stage

variable {σ π : Type} [Driver σ] [Platform π]

/-- What a preparation wrote, and where to. -/
def wrote (t : Stage (Journal σ) π) : Cue → List (BufferPoint × List UInt8)
  | .prepare n =>
    let attempts := (t.after (.prepare n)).session.device.driver.attempts
    (attempts.drop t.session.device.driver.attempts.length).filterMap Attempt.update?
  | _ => []

theorem wrote_prepare {t : Stage (Journal σ) π}
    (hosted : t.background.Hosted t.session.store) {n : Nat} {s : Scene (Journal σ) π}
    (hscene : t.scene? n = some s) :
    ∃ coordinates, t.wrote (.prepare n) =
      if s.accepts then
        (s.due ++ [s.background.vertexUpload coordinates]).filterMap (·.update? s.buffer s.store)
      else [] := by
  obtain ⟨hbackground, _, hdevice, hstore⟩ := scene?_eq_some hscene
  simp only [wrote, after, hscene, put, ← hdevice]
  cases haccepts : s.accepts with
  | false =>
    rw [(Scene.prepare_of_not_accepted haccepts).2, List.drop_length]
    exact ⟨[], rfl⟩
  | true =>
    obtain ⟨coordinates, hattempts⟩ :=
      Scene.attempts_prepare (hbackground ▸ hstore ▸ hosted) haccepts
    refine ⟨coordinates, ?_⟩
    rw [hattempts, List.drop_left, List.filterMap_map, if_pos rfl]
    exact Upload.updates_scripts (Background.length_le_maxUpdateBytes s.due_subset _) _ _

/-- Indices and uniforms are written by an accepted preparation for which they are due, if they
are recorded, to where their buffers start then. -/
theorem mem_wrote_iff {t : Stage (Journal σ) π} (hosted : t.background.Hosted t.session.store)
    {n : Nat} {s : Scene (Journal σ) π} (hscene : t.scene? n = some s) {u : Upload}
    (hu : u ∈ t.background.staticUploads) (p : BufferPoint) :
    (p, u.data) ∈ t.wrote (.prepare n) ↔
      s.accepts = true ∧ t.background.uploaded = false ∧ u.isRecorded s.buffer s.store = true ∧
        p = t.session.store.start u.buffer := by
  obtain ⟨hbackground, _, _, hstore⟩ := scene?_eq_some hscene
  obtain ⟨coordinates, hwrote⟩ := wrote_prepare hosted hscene
  rw [hwrote, ← hbackground, ← hstore]
  rw [← hbackground] at hu
  constructor
  · intro hmem
    split at hmem
    · rename_i haccepts
      obtain ⟨v, hv, hupdate⟩ := List.mem_filterMap.1 hmem
      obtain ⟨hrecorded, heq⟩ : v.isRecorded s.buffer s.store = true ∧
          (s.store.start v.buffer, v.data) = (p, u.data) := by
        simpa [Upload.update?] using hupdate
      obtain ⟨hstart, hdata⟩ := Prod.mk.inj heq
      -- The data tells which of the uploads it was.
      rcases List.mem_append.1 hv with hv | hv
      · obtain rfl := Background.eq_of_data_eq hu (s.due_subset hv) hdata
        refine ⟨haccepts, ?_, hrecorded, hstart.symm⟩
        by_contra huploaded
        rw [Scene.due, if_pos (by simpa using huploaded)] at hv
        cases hv
      · rw [List.mem_singleton.1 hv] at hdata
        exact absurd hdata (Background.vertexBytes_ne hu coordinates)
    · cases hmem
  · rintro ⟨haccepts, huploaded, hrecorded, rfl⟩
    rw [if_pos haccepts, Scene.due, huploaded]
    refine List.mem_filterMap.2 ⟨u, List.mem_append_left _ hu, ?_⟩
    rw [Upload.update?, if_pos hrecorded]

/-! ## 4. Runs -/

/-- The cues of a run, each with the stage that it found. -/
def steps (t : Stage σ π) : List Cue → List (Stage σ π × Cue)
  | [] => []
  | cue :: cues => (t, cue) :: (t.after cue).steps cues

@[simp] theorem steps_concat (t : Stage σ π) (cues : List Cue) (cue : Cue) :
    t.steps (cues ++ [cue]) = t.steps cues ++ [(t.through cues, cue)] := by
  induction cues generalizing t with
  | nil => rfl
  | cons first cues ih => exact congrArg ((t, first) :: ·) (ih (t.after first))

/-- What the preparations of a run wrote, and where to. -/
def written (t : Stage (Journal σ) π) (cues : List Cue) : List (BufferPoint × List UInt8) :=
  (t.steps cues).flatMap fun step => step.1.wrote step.2

theorem mem_written_concat {t : Stage (Journal σ) π} {cues : List Cue} {cue : Cue}
    {x : BufferPoint × List UInt8} :
    x ∈ t.written (cues ++ [cue]) ↔ x ∈ t.written cues ∨ x ∈ (t.through cues).wrote cue := by
  simp [written]

omit [Driver σ] [Platform π] in
/-- If the cue is a preparation, it is one of a scene that fits. -/
def fits (t : Stage σ π) : Cue → Bool
  | .prepare n => (t.scene? n).all (·.fits)
  | _ => true

omit [Driver σ] in
/-- Where everything fits, an accepted preparation is one in which indices and uniforms arrive. -/
theorem prepares_lands {t : Stage σ π} {cue : Cue} (h : t.fits cue = true) :
    t.prepares (·.lands) cue = t.prepares (fun _ => true) cue := by
  cases cue with
  | prepare n =>
    simp only [prepares]
    cases hscene : t.scene? n with
    | none => rfl
    | some s =>
      have hfits : s.fits = true := by simpa [fits, hscene] using h
      simp [Scene.lands_of_fits hfits]
  | _ => rfl

theorem prepared_lands {t : Stage σ π} {cues : List Cue}
    (h : ∀ step ∈ t.steps cues, step.1.fits step.2 = true) :
    t.prepared (·.lands) cues = t.prepared (fun _ => true) cues := by
  induction cues generalizing t with
  | nil => rfl
  | cons cue cues ih =>
    have hfirst : t.prepares (·.lands) cue = t.prepares (fun _ => true) cue :=
      prepares_lands (h (t, cue) List.mem_cons_self)
    rw [prepared, prepared, hfirst, ih fun step hstep => h step (List.mem_cons_of_mem _ hstep)]

/-- Where indices and uniforms have been written to: nowhere as long as no preparation was
accepted, then to where their buffers started in the first accepted one. -/
inductive Arrival (t : Stage (Journal σ) π) (uploads : List Upload) (cues : List Cue) : Prop where
  | awaited (unprepared : t.prepared (fun _ => true) cues = false)
      (nowhere : ∀ u ∈ uploads, ∀ p, (p, u.data) ∉ t.written cues)
  | arrived (before : List Cue) (n : Nat) (later : List Cue)
      (split : cues = before ++ .prepare n :: later)
      (unprepared : t.prepared (fun _ => true) before = false)
      (accepted : (t.through before).prepares (fun _ => true) (.prepare n) = true)
      (there : ∀ u ∈ uploads, ∀ p, (p, u.data) ∈ t.written cues ↔
        p = (t.through before).session.store.start u.buffer)

theorem prepared_of_split {t : Stage σ π} {like : Scene σ π → Bool} {before later : List Cue}
    {cue : Cue} (h : (t.through before).prepares like cue = true) :
    t.prepared like (before ++ cue :: later) = true := by
  induction before generalizing t with
  | nil => exact Bool.or_eq_true_iff.2 (.inl h)
  | cons first before ih => exact Bool.or_eq_true_iff.2 (.inr (ih h))

/-- Another cue: what is due is written if it is the first preparation to be accepted, and nothing
is due after that. -/
theorem mem_wrote_of_lives {t : Stage (Journal σ) π} {cues : List Cue} {cue : Cue}
    (hlives : Lives t.background t cues)
    (hfits : ∀ step ∈ t.steps (cues ++ [cue]), step.1.fits step.2 = true) {u : Upload}
    (hu : u ∈ t.background.staticUploads) (p : BufferPoint) :
    (p, u.data) ∈ (t.through cues).wrote cue ↔
      (t.through cues).prepares (fun _ => true) cue = true ∧
        t.prepared (fun _ => true) cues = false ∧
        p = (t.through cues).session.store.start u.buffer := by
  rw [steps_concat] at hfits
  have hearlier := prepared_lands fun step hstep => hfits step (List.mem_append_left _ hstep)
  have hlast : (t.through cues).fits cue = true :=
    hfits (t.through cues, cue) (List.mem_append_right _ List.mem_cons_self)
  cases cue with
  | prepare n =>
    cases hscene : (t.through cues).scene? n with
    | none => simp [wrote, after, prepares, hscene]
    | some s =>
      obtain ⟨hbackground, _⟩ := scene?_eq_some hscene
      have hu' : u ∈ (t.through cues).background.staticUploads := by
        rw [hlives.background]
        exact hu
      have hrecorded : u.isRecorded s.buffer s.store = true := by
        refine Scene.isRecorded_of_fits ?_ (hbackground ▸ hu')
        simpa [fits, hscene] using hlast
      rw [mem_wrote_iff hlives.hosted_now hscene hu' p, hlives.background, hearlier]
      simp [prepares, hscene, hrecorded]
  | _ => simp [wrote, prepares]

theorem arrival_of_run {t : Stage (Journal σ) π} (hosted : t.background.Hosted t.session.store)
    (hbound : t.background.textureBound = false) (huploaded : t.background.uploaded = false)
    {cues : List Cue} (hfits : ∀ step ∈ t.steps cues, step.1.fits step.2 = true) :
    t.Arrival t.background.staticUploads cues := by
  -- By the last cue.
  induction cues using List.reverseRecOn with
  | nil => exact .awaited rfl fun _ _ _ hmem => absurd hmem List.not_mem_nil
  | append_singleton cues cue ih =>
    have hlives := lives_of_run hosted hbound huploaded cues
    have hlast {u : Upload} := mem_wrote_of_lives (u := u) hlives hfits
    have hearlier := ih fun step hstep =>
      hfits step (by rw [steps_concat]; exact List.mem_append_left _ hstep)
    cases hearlier with
    | arrived before n later split unprepared accepted there =>
      -- Nothing is due any more.
      refine .arrived before n (later ++ [cue]) (by simp [split]) unprepared accepted ?_
      intro u hu p
      have hprepared : t.prepared (fun _ => true) cues = true := split ▸ prepared_of_split accepted
      rw [mem_written_concat, there u hu p, hlast hu p, hprepared]
      simp
    | awaited unprepared nowhere =>
      cases hprepares : (t.through cues).prepares (fun _ => true) cue with
      | false =>
        refine .awaited (by rw [prepared_concat, unprepared, hprepares]; rfl) fun u hu p => ?_
        rw [mem_written_concat, hlast hu p, hprepares]
        simpa using nowhere u hu p
      | true =>
        cases cue with
        | prepare n =>
          refine .arrived cues n [] rfl unprepared hprepares fun u hu p => ?_
          rw [mem_written_concat, hlast hu p]
          simp [nowhere u hu p, unprepared, hprepares]
        | _ => cases hprepares

end Stage

/-! ## 5. Shaders without the camera texture -/

/-- A slot that is not declared cannot be bound. -/
theorem bindSlot_of_no_slot {s : Store} {layout : ResourceId} {set binding element : Nat}
    (h : ¬ ∃ slot ∈ (s.layouts.get layout).slots set,
      slot.binding = binding ∧ slot.element = element) (r : Bindable) :
    ∃ e, s.bindSlot layout r set binding element = (.error e, s) := by
  unfold Layout.slots at h
  unfold Store.bindSlot Layout.bind
  cases hset : (s.layouts.get layout).sets[set]? with
  | none => exact ⟨_, rfl⟩
  | some slots =>
    rw [hset, Option.getD_some] at h
    have hnone : Layout.bindInSet r binding element slots = none := by
      rw [← Option.not_isSome_iff_eq_none, Layout.bindInSet_isSome_iff]
      rintro ⟨slot, hslot, hmatches⟩
      exact h ⟨slot.slot, List.mem_map_of_mem hslot, hmatches⟩
    simp only [hnone]
    exact ⟨_, rfl⟩

/-- The texture is not bound, and the layout has no slot for it. -/
structure Background.Slotless (b : Background) (s : Store) : Prop where
  layout_lt : b.layout.number < s.next
  noSlot : ¬ ∃ slot ∈ (s.layouts.get b.layout).slots b.parts.materialSet,
    slot.binding = cameraBinding ∧ slot.element = 0
  unbound : b.textureBound = false

theorem Background.Slotless.retained {b : Background} {s s' : Store} (h : b.Slotless s)
    (hs : s.Retains s') : b.Slotless s' where
  layout_lt := Nat.lt_of_lt_of_le h.layout_lt hs.next_le
  noSlot := by
    rw [Layout.slots_of_shape_eq (hs.shape b.layout h.layout_lt)]
    exact h.noSlot
  unbound := h.unbound

section

variable {σ π : Type} [Driver σ] [Platform π]

/-- Then preparing fails at the binding, and leaves the background as it is. -/
theorem Scene.prepare_of_slotless {s : Scene σ π} (h : s.background.Slotless s.store) :
    s.prepare.1 ≠ .ok true ∧ s.prepare.2.1.background = s.background ∧
      s.prepare.2.1.store = s.store := by
  cases haccepts : s.accepts with
  | false =>
    obtain ⟨hanswer, hscene⟩ := prepare_of_not_accepted haccepts
    rw [hanswer, hscene]
    exact ⟨by simp, rfl, rfl⟩
  | true =>
    obtain ⟨hrunning, hopen⟩ : s.tracker.isRunning.1 = true ∧ s.buffer.passIsOpen = false := by
      simpa [accepts] using haccepts
    obtain ⟨e, hbind⟩ := bindSlot_of_no_slot h.noSlot (.texture s.background.camera)
    have hprepare : s.prepare = (.error e, { s with tracker := s.announced }, []) := by
      simp only [prepare, hrunning, hopen, bindCamera, announced, h.unbound, hbind]
      rfl
    rw [hprepare]
    exact ⟨by simp, rfl, rfl⟩

namespace Stage

theorem after_of_slotless {t : Stage σ π} (h : t.background.Slotless t.session.store)
    (cue : Cue) : (t.after cue).background = t.background ∧
      t.session.store.Retains (t.after cue).session.store := by
  cases cue with
  | act a => exact ⟨rfl, t.session.retains_step a⟩
  | query q => exact ⟨rfl, .refl _⟩
  | prepare n =>
    cases hscene : t.scene? n with
    | none => exact ⟨by simp [after, hscene], by simp [after, hscene, Store.Retains.refl]⟩
    | some s =>
      obtain ⟨hbackground, _, _, hstore⟩ := scene?_eq_some hscene
      obtain ⟨_, hsame, hkept⟩ := Scene.prepare_of_slotless (hbackground ▸ hstore ▸ h)
      simp only [after, hscene, put, hsame, hkept, ← hstore]
      exact ⟨hbackground, .refl _⟩
  | render n =>
    cases hscene : t.scene? n with
    | none => exact ⟨by simp [after, hscene], by simp [after, hscene, Store.Retains.refl]⟩
    | some s =>
      obtain ⟨hbackground, _, _, hstore⟩ := scene?_eq_some hscene
      have hidle : (s.tracker.isRunning.1 && s.background.textureBound) = false := by
        rw [hbackground, h.unbound, Bool.and_false]
      simp only [after, hscene, put, Scene.render_of_not_bound hidle, ← hstore]
      exact ⟨hbackground, .refl _⟩

theorem slotless_of_run {t : Stage σ π} (h : t.background.Slotless t.session.store)
    (cues : List Cue) :
    (t.through cues).background.Slotless (t.through cues).session.store := by
  induction cues using List.reverseRecOn with
  | nil => exact h
  | append_singleton cues cue ih =>
    obtain ⟨hsame, hretains⟩ := after_of_slotless ih cue
    rw [through_concat, hsame]
    exact ih.retained hretains

end Stage

end

/-! ## 6. After any preparation -/

/-- A background was activated, and in every preparation so far the command buffer took transfers
and indices and uniforms had room.  When a preparation has answered that the quad was uploaded,
there is a first one that was accepted; and each of indices and uniforms has been written to where
its buffer starts now if, and only if, the buffer started there in that first one too.  Whether it
has moved since does not matter to any later preparation. -/
theorem written_iff_unmoved {σ π : Type} [Driver σ] [Platform π] (session : Session (Journal σ))
    (tracker : Tracker π) (parts : BackgroundParts)
    (importCamera : Device (Journal σ) → Except DeviceError Texture) (b : Background)
    (hactivated : (activate session.device session.store parts importCamera).answer = .ok b)
    (earlier : List Cue) (n : Nat) (s : Scene (Journal σ) π)
    (hscene : ((Stage.activated session tracker parts importCamera b).through earlier).scene? n =
      some s)
    (hanswer : s.prepare.1 = .ok true)
    (hfits : ∀ step ∈ (Stage.activated session tracker parts importCamera b).steps
      (earlier ++ [.prepare n]), step.1.fits step.2 = true) :
    let stage := Stage.activated session tracker parts importCamera b
    let cues := earlier ++ [.prepare n]
    let now := (stage.through cues).session.store
    ∃ before m later, cues = before ++ .prepare m :: later ∧
      stage.prepared (fun _ => true) before = false ∧
      (stage.through before).prepares (fun _ => true) (.prepare m) = true ∧
      let first := (stage.through before).session.store
      ∀ u ∈ b.staticUploads, (now.start u.buffer, u.data) ∈ stage.written cues ↔
        now.start u.buffer = first.start u.buffer := by
  intro stage cues now
  have hassembled := assembled_of_activated hactivated
  by_cases hslot : ∃ slot ∈ parts.pipeline.shader.slots parts.materialSet,
      slot.binding = cameraBinding ∧ slot.element = 0
  · have harrival := Stage.arrival_of_run (t := stage) (hassembled.hosted hslot)
      hassembled.unbound hassembled.pending hfits
    cases harrival with
    | awaited unprepared nowhere =>
      have hlast : (stage.through earlier).prepares (fun _ => true) (.prepare n) = true := by
        simp [Stage.prepares, stage, hscene, Scene.accepts_of_answer hanswer]
      rw [Stage.prepared_concat, hlast, Bool.or_true] at unprepared
      cases unprepared
    | arrived before m later split unprepared accepted there =>
      exact ⟨before, m, later, split, unprepared, accepted, fun u hu => there u hu _⟩
  · -- Without a slot for the camera texture no preparation gets as far as the uploads.
    have hslotless : stage.background.Slotless stage.session.store :=
      ⟨hassembled.layout_lt, hassembled.slots ▸ hslot, hassembled.unbound⟩
    obtain ⟨hbackground, _, _, hstore⟩ := Stage.scene?_eq_some hscene
    have hnow := Stage.slotless_of_run hslotless earlier
    exact absurd hanswer (Scene.prepare_of_slotless (hbackground ▸ hstore ▸ hnow)).1

def quadTracker : Tracker Scripted := { platform := some { running := true } }

def quadCamera (_ : Device (Journal Trace)) : Except DeviceError Texture :=
  .ok { externalId := some 42 }

/-- The uniform buffer gets its room before the first preparation; the index buffer moves after
it. -/
def framesOfMovedIndices : List Cue := [
  .act (.change (.rebuildBuffer ⟨3⟩ ⟨907⟩ 0 128)),
  .prepare 0,
  .act (.change (.rebuildBuffer ⟨2⟩ ⟨908⟩ 32 12))]

/-- The uniforms are where they belong, the indices are not. -/
theorem moved_indices_missing :
    let stage := Stage.activated quadSession quadTracker quadParts quadCamera quadBackground
    let cues := framesOfMovedIndices ++ [.prepare 0]
    let now := (stage.through cues).session.store
    (∃ s, (stage.through framesOfMovedIndices).scene? 0 = some s ∧ s.prepare.1 = .ok true) ∧
      (∀ step ∈ stage.steps cues, step.1.fits step.2 = true) ∧
      (now.start quadParts.indices, indexBytes) ∉ stage.written cues ∧
      (now.start quadParts.uniforms, quadUniforms.bytes) ∈ stage.written cues ∧
      ∃ before m later, cues = before ++ .prepare m :: later ∧
        stage.prepared (fun _ => true) before = false ∧
        (stage.through before).prepares (fun _ => true) (.prepare m) = true ∧
        let first := (stage.through before).session.store
        ∀ u ∈ quadBackground.staticUploads,
          (now.start u.buffer, u.data) ∈ stage.written cues ↔
            now.start u.buffer = first.start u.buffer := by
  have hanswer :
      (((Stage.activated quadSession quadTracker quadParts quadCamera quadBackground).through
        framesOfMovedIndices).scene? 0).map (·.prepare.1) = some (.ok true) := by decide +kernel
  obtain ⟨s, hscene, hprepare⟩ := Option.map_eq_some_iff.1 hanswer
  have hfits : ∀ step ∈
      (Stage.activated quadSession quadTracker quadParts quadCamera quadBackground).steps
        (framesOfMovedIndices ++ [.prepare 0]), step.1.fits step.2 = true := by decide +kernel
  have hactivated : (activate quadSession.device quadSession.store quadParts quadCamera).answer =
      .ok quadBackground := rfl
  have hwritten := written_iff_unmoved quadSession quadTracker quadParts quadCamera quadBackground
    hactivated framesOfMovedIndices 0 s hscene hprepare hfits
  exact ⟨⟨s, hscene, hprepare⟩, hfits, by decide +kernel, by decide +kernel, hwritten⟩

/-- Both buffers move between two frames.  The second preparation answers that the quad was
uploaded, and has written neither indices nor uniforms to where the buffers are. -/
theorem moved_buffers_left_empty :
    let stage := Stage.activated quadSession quadTracker quadParts quadCamera quadBackground
    let earlier := framesOfMovedIndices ++ [.act (.change (.rebuildBuffer ⟨3⟩ ⟨909⟩ 256 128))]
    let cues := earlier ++ [.prepare 0]
    let now := (stage.through cues).session.store
    ((stage.through earlier).scene? 0).map (·.prepare.1) = some (.ok true) ∧
      (∀ step ∈ stage.steps cues, step.1.fits step.2 = true) ∧
      (stage.written cues).map (·.1) =
        [⟨⟨906⟩, 0⟩, ⟨⟨907⟩, 0⟩, ⟨⟨905⟩, 0⟩, ⟨⟨905⟩, 0⟩] ∧
      ∀ u ∈ quadBackground.staticUploads,
        (now.start u.buffer, u.data) ∉ stage.written cues := by
  intro stage earlier cues now
  exact ⟨by decide +kernel, by decide +kernel, by decide +kernel, by decide +kernel⟩

end Ar

end GpuRecorder
