import GpuRecorder.Proofs.Ar.Frames
import GpuRecorder.Proofs.Native.Journal
import Mathlib.Data.List.Induction

/-!
# The life of a background

A background lives beside a session and a tracker, and its frames may be recorded into any of the
session's command buffers.  What a frame does is told by two facts about the past: whether a
preparation has been accepted, and whether one has been in which indices and uniforms arrived.
-/

namespace GpuRecorder.Ar

open Native Resource Recording

/-! ## 1. Runs -/

/-- A session with a tracker and a background. -/
structure Stage (σ π : Type) where
  session : Session σ
  tracker : Tracker π
  background : Background

/-- What can happen on a stage: anything in the session, a query of the tracker, or a frame of the
background in one of the command buffers. -/
inductive Cue where
  | act (a : Action)
  | query (q : Query)
  | prepare (buffer : Nat)
  | render (buffer : Nat)

namespace Stage

variable {σ π : Type}

/-- All that a frame works on when it is recorded into a command buffer. -/
def scene? (t : Stage σ π) (n : Nat) : Option (Scene σ π) :=
  t.session.buffers[n]?.map fun c =>
    ⟨t.background, t.tracker, c, t.session.device, t.session.store⟩

/-- The stage with what a frame has left behind. -/
def put (t : Stage σ π) (n : Nat) (s : Scene σ π) : Stage σ π where
  session := ⟨s.device, s.store, t.session.buffers.set n s.buffer⟩
  tracker := s.tracker
  background := s.background

theorem scene?_eq_some {t : Stage σ π} {n : Nat} {s : Scene σ π} (h : t.scene? n = some s) :
    s.background = t.background ∧ s.tracker = t.tracker ∧ s.device = t.session.device ∧
      s.store = t.session.store := by
  obtain ⟨c, _, rfl⟩ := Option.map_eq_some_iff.1 h
  exact ⟨rfl, rfl, rfl, rfl⟩

variable [Driver σ] [Platform π]

/-- The stage after a cue; a frame needs a command buffer. -/
def after (t : Stage σ π) : Cue → Stage σ π
  | .act a => { t with session := (t.session.step a).session }
  | .query q => { t with tracker := (t.tracker.query q).2.1 }
  | .prepare n =>
    match t.scene? n with
    | none => t
    | some s => t.put n s.prepare.2.1
  | .render n =>
    match t.scene? n with
    | none => t
    | some s => t.put n s.render.2.1

def through (t : Stage σ π) (cues : List Cue) : Stage σ π := cues.foldl after t

@[simp] theorem through_concat (t : Stage σ π) (cues : List Cue) (cue : Cue) :
    t.through (cues ++ [cue]) = (t.through cues).after cue := by
  simp [through]

/-- The cue is an accepted preparation of a scene like this. -/
def prepares (like : Scene σ π → Bool) (t : Stage σ π) : Cue → Bool
  | .prepare n => (t.scene? n).any fun s => s.accepts && like s
  | _ => false

/-- Some cue of a run was. -/
def prepared (like : Scene σ π → Bool) (t : Stage σ π) : List Cue → Bool
  | [] => false
  | cue :: cues => t.prepares like cue || (t.after cue).prepared like cues

theorem prepared_concat (like : Scene σ π → Bool) (t : Stage σ π) (cues : List Cue) (cue : Cue) :
    t.prepared like (cues ++ [cue]) =
      (t.prepared like cues || (t.through cues).prepares like cue) := by
  induction cues generalizing t with
  | nil => simp [prepared, through]
  | cons first cues ih =>
    rw [List.cons_append, prepared, ih, ← Bool.or_assoc]
    rfl

/-! ## 2. What a background remembers -/

/-- What one cue makes of the background: a preparation that is accepted binds the texture, and one
in which indices and uniforms arrive is remembered. -/
theorem after_spec {t : Stage σ π} (hosted : t.background.Hosted t.session.store) (cue : Cue) :
    (t.after cue).background =
        { t.background with
          textureBound := t.background.textureBound || t.prepares (fun _ => true) cue
          uploaded := t.background.uploaded || t.prepares (·.lands) cue } ∧
      t.session.store.Retains (t.after cue).session.store := by
  cases cue with
  | act a => exact ⟨by simp [after, prepares], t.session.retains_step a⟩
  | query q => exact ⟨by simp [after, prepares], .refl _⟩
  | prepare n =>
    cases hscene : t.scene? n with
    | none => exact ⟨by simp [after, prepares, hscene], by simp [after, hscene, Store.Retains.refl]⟩
    | some s =>
      obtain ⟨hbackground, _, _, hstore⟩ := scene?_eq_some hscene
      simp only [after, prepares, hscene, put, Option.any_some, ← hbackground, ← hstore]
      cases haccepts : s.accepts with
      | false =>
        rw [(Scene.prepare_of_not_accepted haccepts).2]
        simp [Store.Retains.refl]
      | true =>
        obtain ⟨store, hretains, hprepare⟩ :=
          Scene.prepare_of_accepted (hbackground ▸ hstore ▸ hosted) haccepts
        rw [hprepare]
        exact ⟨by simp, hretains⟩
  | render n =>
    cases hscene : t.scene? n with
    | none => exact ⟨by simp [after, prepares, hscene], by simp [after, hscene, Store.Retains.refl]⟩
    | some s =>
      obtain ⟨hbackground, _, _, hstore⟩ := scene?_eq_some hscene
      simp only [after, prepares, hscene, put, Bool.or_false, ← hbackground, ← hstore]
      cases hdraws : s.tracker.isRunning.1 && s.background.textureBound with
      | false =>
        rw [Scene.render_of_not_bound hdraws]
        exact ⟨rfl, .refl _⟩
      | true =>
        rw [Bool.and_eq_true] at hdraws
        rw [(Scene.render_of_bound hdraws.1 hdraws.2).1]
        exact ⟨rfl, s.buffer.retains_performAll _ _ _⟩

/-- The camera texture is announced in the preparation that binds it, and in no other frame. -/
theorem namings_after {t : Stage σ (Heard π)} (hosted : t.background.Hosted t.session.store)
    {cue : Cue} (h : ∀ id, cue ≠ .query (.tell (.cameraTexture id))) :
    (t.after cue).tracker.namings = t.tracker.namings +
      if !t.background.textureBound && t.prepares (fun _ => true) cue then 1 else 0 := by
  cases cue with
  | act a => simp [after, prepares]
  | query q =>
    have hheard := t.tracker.heard_query q
    have hsilent : ((if t.tracker.platform.isSome then q.hearing?.toList else []).countP
        (·.namesCamera)) = 0 := by
      split
      · cases q with
        | tell n => cases n <;> first | rfl | exact absurd rfl (h _)
        | _ => rfl
      · rfl
    simp [after, prepares, Tracker.namings_of_heard hheard, hsilent]
  | prepare n =>
    cases hscene : t.scene? n with
    | none => simp [after, prepares, hscene]
    | some s =>
      obtain ⟨hbackground, htracker, _, hstore⟩ := scene?_eq_some hscene
      simp only [after, prepares, hscene, put, Option.any_some, ← hbackground, ← htracker]
      cases haccepts : s.accepts with
      | false =>
        have hidle := Scene.does_nothing (Scene.prepare_of_not_accepted haccepts).2
        simp [Tracker.namings_of_heard hidle.heard, s.namings_asked]
      | true =>
        obtain ⟨_, _, hdoes⟩ := Scene.does_prepare (hbackground ▸ hstore ▸ hosted) haccepts
        rw [Tracker.namings_of_heard hdoes.heard, List.countP_append, s.namings_asked]
        cases s.background.textureBound <;> simp [Hearing.namesCamera]
  | render n =>
    cases hscene : t.scene? n with
    | none => simp [after, prepares, hscene]
    | some s =>
      obtain ⟨hbackground, htracker, _, hstore⟩ := scene?_eq_some hscene
      simp only [after, prepares, hscene, put, ← htracker]
      simp [Tracker.namings_of_heard s.does_render.heard, s.namings_asked]

/-- A background that has lived through some cues. -/
structure Lives (b : Background) (t : Stage σ π) (cues : List Cue) : Prop where
  background : (t.through cues).background =
    { b with
      textureBound := t.prepared (fun _ => true) cues
      uploaded := t.prepared (·.lands) cues }
  hosted : b.Hosted (t.through cues).session.store

theorem Lives.hosted_now {b : Background} {t : Stage σ π} {cues : List Cue} (h : Lives b t cues) :
    (t.through cues).background.Hosted (t.through cues).session.store := by
  rw [h.background]
  exact h.hosted.flagged _ _

theorem lives_of_run {t : Stage σ π} (hosted : t.background.Hosted t.session.store)
    (hbound : t.background.textureBound = false) (huploaded : t.background.uploaded = false)
    (cues : List Cue) : Lives t.background t cues := by
  -- By the last cue.
  induction cues using List.reverseRecOn with
  | nil =>
    refine ⟨?_, hosted⟩
    calc t.background
      _ = { t.background with
            textureBound := t.background.textureBound
            uploaded := t.background.uploaded } := rfl
      _ = { t.background with textureBound := false, uploaded := false } := by
        rw [hbound, huploaded]
  | append_singleton cues cue ih =>
    have hafter := after_spec ih.hosted_now cue
    rw [ih.background] at hafter
    refine ⟨?_, ?_⟩
    · rw [through_concat, hafter.1, prepared_concat, prepared_concat]
    · rw [through_concat]
      exact ih.hosted.retained hafter.2

/-- Frames announce the camera texture once, as soon as a preparation is accepted. -/
theorem namings_of_run {t : Stage σ (Heard π)} (hosted : t.background.Hosted t.session.store)
    (hbound : t.background.textureBound = false) (huploaded : t.background.uploaded = false)
    {cues : List Cue} (hquiet : ∀ id, Cue.query (.tell (.cameraTexture id)) ∉ cues) :
    (t.through cues).tracker.namings =
      t.tracker.namings + if t.prepared (fun _ => true) cues then 1 else 0 := by
  induction cues using List.reverseRecOn with
  | nil => rfl
  | append_singleton cues cue ih =>
    have hlives := lives_of_run hosted hbound huploaded cues
    have hearlier := ih fun id hmem => hquiet id (List.mem_append_left _ hmem)
    have hlast := namings_after hlives.hosted_now fun id (heq : cue = _) =>
      hquiet id (List.mem_append_right _ (heq ▸ List.mem_singleton_self cue))
    rw [hlives.background, hearlier] at hlast
    rw [through_concat, hlast, prepared_concat]
    cases t.prepared (fun _ => true) cues <;> simp

end Stage

/-! ## 3. Activation -/

/-- A background that was just put together has done nothing yet, and its objects are in the
store: a layout with the slots of the shader and an assembler with the indices. -/
structure Background.Assembled (b : Background) (parts : BackgroundParts) (s : Store) : Prop where
  layout_lt : b.layout.number < s.next
  assembler_lt : b.assembler.number < s.next
  slots : (s.layouts.get b.layout).slots b.parts.materialSet =
    parts.pipeline.shader.slots parts.materialSet
  index : (s.assemblers.get b.assembler).index = some b.parts.indices
  unbound : b.textureBound = false
  pending : b.uploaded = false

theorem assembled_of_ok {s : Store} {parts : BackgroundParts} {camera : ResourceId}
    {b : Background} (h : (assemble s parts camera).1 = .ok b) :
    b.Assembled parts (assemble s parts camera).2.1 := by
  unfold assemble at h ⊢
  generalize (s.textures.get camera).externalId = external at h ⊢
  cases external with
  | none => cases h
  | some textureId =>
    simp only at h ⊢
    have hretains := (s.addLayout (.ofShader parts.pipeline.shader)).2.retains_bindSlot
      (s.addLayout (.ofShader parts.pipeline.shader)).1 (.buffer parts.uniforms) parts.materialSet
      uniformBinding 0
    generalize Store.bindSlot _ _ _ _ _ _ = result at h hretains ⊢
    obtain ⟨answer, bound⟩ := result
    cases answer with
    | error e => cases h
    | ok u =>
      obtain rfl := Except.ok.inj h
      -- The assembler comes after the layout, in a store that keeps the layout's slots.
      have hlt : s.next < bound.next := hretains.next_le
      refine ⟨Nat.lt_succ_of_lt hlt, Nat.lt_succ_self _, ?_, ?_, rfl, rfl⟩
      · have hshape := hretains.shape ⟨s.next⟩ (Nat.lt_succ_self _)
        show (bound.layouts.get ⟨s.next⟩).slots parts.materialSet = _
        rw [Layout.slots_of_shape_eq hshape]
        simp only [Store.addLayout, Store.fresh, Table.get_set_self, Layout.slots_ofShader]
      · simp only [Store.addAssembler, Store.fresh, Table.get_set_self]

theorem assembled_of_activated {σ : Type} {d : Device σ} {s : Store} {parts : BackgroundParts}
    {importCamera : Device σ → Except DeviceError Texture} {b : Background}
    (h : (activate d s parts importCamera).answer = .ok b) :
    b.Assembled parts (activate d s parts importCamera).store := by
  unfold activate at h ⊢
  simp only at h ⊢
  split at h
  · cases h
  · exact assembled_of_ok h

theorem Background.Assembled.hosted {b : Background} {parts : BackgroundParts} {s : Store}
    (h : b.Assembled parts s)
    (hslot : ∃ slot ∈ parts.pipeline.shader.slots parts.materialSet,
      slot.binding = cameraBinding ∧ slot.element = 0) : b.Hosted s :=
  ⟨h.layout_lt, h.assembler_lt, h.slots ▸ hslot, h.index⟩

/-- A stage on which a background was just activated. -/
def Stage.activated {σ π : Type} (session : Session σ) (tracker : Tracker π)
    (parts : BackgroundParts) (importCamera : Device σ → Except DeviceError Texture)
    (b : Background) : Stage σ π :=
  let a := activate session.device session.store parts importCamera
  ⟨{ session with device := a.device, store := a.store }, tracker, b⟩

/-! ## 4. Every frame of a life -/

/-- A background was activated for a shader that has the slot of the camera texture.  Then, whatever
happens on its stage, a preparation is accepted just where tracking runs and the command buffer is
not a primary one inside a pass, and it never fails.  An accepted one announces the camera texture
if none was accepted before, so that it is announced once at most, and uploads indices and uniforms
unless they have arrived in an accepted one before; what is tried of it is recorded or reported.
Drawing waits for an accepted preparation.  Nothing else is asked of the platform or recorded, and
where tracking does not run nothing at all. -/
theorem life_of_background {σ π : Type} [Driver σ] [Platform π] (session : Session (Journal σ))
    (tracker : Tracker (Heard π)) (parts : BackgroundParts)
    (importCamera : Device (Journal σ) → Except DeviceError Texture) (b : Background)
    (hactivated : (activate session.device session.store parts importCamera).answer = .ok b)
    (hslot : ∃ slot ∈ parts.pipeline.shader.slots parts.materialSet,
      slot.binding = cameraBinding ∧ slot.element = 0)
    (earlier : List Cue) (n : Nat) (s : Scene (Journal σ) (Heard π))
    (hscene : ((Stage.activated session tracker parts importCamera b).through earlier).scene? n =
      some s) :
    let stage := Stage.activated session tracker parts importCamera b
    let bound := stage.prepared (fun _ => true) earlier
    let arrived := stage.prepared (·.lands) earlier
    let announcement : List Hearing :=
      if bound then [] else [.told (.cameraTexture b.textureId)]
    let uploads := if arrived then [] else b.staticUploads
    s.prepare.1 = .ok s.accepts ∧
      ((∀ id, Cue.query (.tell (.cameraTexture id)) ∉ earlier) →
        s.tracker.namings = tracker.namings + if bound then 1 else 0) ∧
      (∃ coordinates, s.Does s.prepare.2
        (s.asked ++ if s.accepts then announcement ++ [.camera .textureCoordinates] else [])
        (if s.accepts then (uploads ++ [b.vertexUpload coordinates]).map (·.operation) else [])) ∧
      (∀ u ∈ uploads, u.script s.buffer s.store ≠ []) ∧
      s.Does s.render.2 s.asked
        (if s.tracker.isRunning.1 && bound then b.drawing else []) := by
  intro stage bound arrived announcement uploads
  have hassembled := assembled_of_activated hactivated
  have hosted := hassembled.hosted hslot
  have hlives := Stage.lives_of_run (t := stage) hosted hassembled.unbound hassembled.pending earlier
  obtain ⟨hbackground, htracker, _, hstore⟩ := Stage.scene?_eq_some hscene
  have hremembers : s.background = { b with textureBound := bound, uploaded := arrived } :=
    hbackground.trans hlives.background
  have hhosted : s.background.Hosted s.store := by
    rw [hremembers, hstore]
    exact hlives.hosted.flagged bound arrived
  refine ⟨?_, ?_, ?_, ?_, ?_⟩
  · cases haccepts : s.accepts with
    | false => exact (Scene.prepare_of_not_accepted haccepts).1
    | true => exact (Scene.does_prepare hhosted haccepts).1
  · intro hquiet
    rw [htracker]
    exact Stage.namings_of_run (t := stage) hosted hassembled.unbound hassembled.pending hquiet
  · cases haccepts : s.accepts with
    | false =>
      have hidle := Scene.does_nothing (Scene.prepare_of_not_accepted haccepts).2
      refine ⟨[], ?_⟩
      show s.Does s.prepare.2 (s.asked ++ []) []
      rwa [List.append_nil]
    | true =>
      obtain ⟨_, coordinates, hdoes⟩ := Scene.does_prepare hhosted haccepts
      rw [hremembers] at hdoes
      exact ⟨coordinates, hdoes⟩
  · intro u hu
    refine u.script_ne_nil (b.staticUploads_ne_nil u ?_) _ _
    by_cases harrived : arrived = true
    · simp [uploads, harrived] at hu
    · simpa [uploads, harrived] using hu
  · have hdoes := s.does_render
    rw [hremembers] at hdoes
    exact hdoes

/-- A quad with a uniform buffer that is too small at first, in the recording of a command
buffer. -/
def quadSession : Session (Journal Trace) :=
  let session : Session (Journal Trace) :=
    { device := (Device.start { driver := ({} : Trace) } {} {}).device }
  session.run [
    .change (.addBuffer (.ofRange ⟨905⟩ 128 0 64 16)),
    .change (.addBuffer (.ofRange ⟨906⟩ 64 0 12 2)),
    .change (.addBuffer (.ofRange ⟨907⟩ 16 0 64 0)),
    .create,
    .perform 0 (.setUp .primary ⟨⟨800⟩, 0⟩),
    .perform 0 (.begin none 0 none)]

def quadParts : BackgroundParts where
  pipeline :=
    { (default : Pipeline) with
      id := ⟨11⟩
      shader := ⟨⟨12⟩, "background", ⟨903⟩,
        [⟨⟨901⟩, []⟩, ⟨⟨902⟩, [⟨0, .uniformBuffer, 1, 1⟩, ⟨1, .combinedImageSampler, 1, 2⟩]⟩], []⟩ }
  vertices := ⟨1⟩
  indices := ⟨2⟩
  uniforms := ⟨3⟩
  sampler := default
  materialSet := 1

def quadBackground : Background where
  parts := quadParts
  camera := ⟨4⟩
  layout := ⟨5⟩
  assembler := ⟨6⟩
  textureId := 42

/-- The first preparation announces the camera texture, but the uniforms do not fit.  When the
uniform buffer has grown, indices and uniforms are uploaded again and the texture is not announced
again. -/
theorem uniforms_uploaded_when_they_fit :
    let tracker : Tracker (Heard Scripted) := { platform := some ⟨{ running := true }, []⟩ }
    let importCamera : Device (Journal Trace) → Except DeviceError Texture :=
      fun _ => .ok { externalId := some 42 }
    let stage := Stage.activated quadSession tracker quadParts importCamera quadBackground
    let earlier : List Cue := [.prepare 0, .act (.change (.rebuildBuffer ⟨3⟩ ⟨907⟩ 0 128))]
    (activate quadSession.device quadSession.store quadParts importCamera).answer =
        .ok quadBackground ∧
      (∃ slot ∈ quadParts.pipeline.shader.slots quadParts.materialSet,
        slot.binding = cameraBinding ∧ slot.element = 0) ∧
      ∃ s coordinates, (stage.through earlier).scene? 0 = some s ∧
        s.tracker.heard = [.running, .told (.cameraTexture 42), .camera .textureCoordinates] ∧
        s.tracker.namings = 1 ∧
        s.Does s.prepare.2 [.running, .camera .textureCoordinates]
          ((quadBackground.staticUploads ++ [quadBackground.vertexUpload coordinates]).map
            (·.operation)) := by
  intro tracker importCamera stage earlier
  have hactivated : (activate quadSession.device quadSession.store quadParts importCamera).answer =
      .ok quadBackground := rfl
  have hslot : ∃ slot ∈ quadParts.pipeline.shader.slots quadParts.materialSet,
      slot.binding = cameraBinding ∧ slot.element = 0 := by decide
  have hfound : ((stage.through earlier).scene? 0).map
      (fun s => (s.accepts, s.asked, s.tracker.heard)) = some (true, [.running],
        [.running, .told (.cameraTexture 42), .camera .textureCoordinates]) := by
    decide +kernel
  obtain ⟨s, hs, hfacts⟩ := Option.map_eq_some_iff.1 hfound
  obtain ⟨haccepts, hasked, hheard⟩ : s.accepts = true ∧ s.asked = [.running] ∧
      s.tracker.heard = [.running, .told (.cameraTexture 42), .camera .textureCoordinates] := by
    simpa using hfacts
  have hbound : (Stage.activated quadSession tracker quadParts importCamera
      quadBackground).prepared (fun _ => true) earlier = true := by decide +kernel
  have harrived : (Stage.activated quadSession tracker quadParts importCamera
      quadBackground).prepared (·.lands) earlier = false := by decide +kernel
  obtain ⟨_, hnamed, ⟨coordinates, hdoes⟩, _, _⟩ := life_of_background quadSession tracker quadParts
    importCamera quadBackground hactivated hslot earlier 0 s hs
  have honce := hnamed (by simp [earlier])
  simp only [hbound, harrived, haccepts, hasked, if_true] at honce hdoes
  exact ⟨hactivated, hslot, s, coordinates, hs, hheard, honce, hdoes⟩

end GpuRecorder.Ar
