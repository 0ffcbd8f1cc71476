import GpuRecorder.Ar.Tracker

/-!
# Platforms that keep what they hear

A platform of this kind keeps all that it is told and asked, in order.  It answers like the platform
inside it.
-/

namespace GpuRecorder.Ar

open Binary Native

/-- What a platform is told or asked. -/
inductive Hearing where
  | told (n : Notice)
  | state
  | running
  | camera (a : CameraArray)
  | planeCount (change : PlaneChange)
  | planes (change : PlaneChange)
  deriving DecidableEq, Repr

/-- What a platform hears of a query. -/
def Query.hearing? : Query → Option Hearing
  | .available | .infoLength => none
  | .tell n => some (.told n)
  | .state => some .state
  | .isRunning => some .running
  | .camera a => some (.camera a)
  | .planeCount change => some (.planeCount change)
  | .planes change => some (.planes change)

/-- It tells which texture is the camera's. -/
def Hearing.namesCamera : Hearing → Bool
  | .told (.cameraTexture _) => true
  | _ => false

/-- A platform and what it has heard. -/
structure Heard (π : Type) where
  platform : π
  heard : List Hearing := []
  deriving Repr

namespace Heard

variable {π : Type}

def answered {α : Type} (h : Heard π) (x : Hearing) (r : α × π) : α × Heard π :=
  (r.1, ⟨r.2, h.heard ++ [x]⟩)

instance [Platform π] : Platform (Heard π) where
  tell h n := ⟨Platform.tell h.platform n, h.heard ++ [.told n]⟩
  state h := h.answered .state (Platform.state h.platform)
  isRunning h := h.answered .running (Platform.isRunning h.platform)
  camera h a := h.answered (.camera a) (Platform.camera h.platform a)
  planeCount h change := h.answered (.planeCount change) (Platform.planeCount h.platform change)
  addedPlanes h := h.answered (.planes .added) (Platform.addedPlanes h.platform)
  removedPlanes h := h.answered (.planes .removed) (Platform.removedPlanes h.platform)
  updatedPlanes h := h.answered (.planes .updated) (Platform.updatedPlanes h.platform)

end Heard

namespace Tracker

variable {π : Type}

/-- What the platform behind a tracker has heard. -/
def heard (t : Tracker (Heard π)) : List Hearing := (t.platform.map (·.heard)).getD []

/-- How often the platform was told which texture is the camera's. -/
def namings (t : Tracker (Heard π)) : Nat := t.heard.countP (·.namesCamera)

variable [Platform π]

/-- Only a platform can be running. -/
theorem platform_of_isRunning {ρ : Type} [Platform ρ] {t : Tracker ρ} (h : t.isRunning.1 = true) :
    t.platform.isSome = true ∧ t.isRunning.2.platform.isSome = true := by
  cases hp : t.platform with
  | none =>
    rw [isRunning_of_no_platform hp] at h
    cases h
  | some p => exact ⟨rfl, by simp [isRunning, ask, hp]⟩

/-- A query is heard by the platform, if there is one and the query is for it. -/
theorem heard_query (t : Tracker (Heard π)) (q : Query) :
    (t.query q).2.1.heard = t.heard ++ if t.platform.isSome then q.hearing?.toList else [] := by
  have hplanes (change : PlaneChange) :
      (t.planes change).2.heard =
        t.heard ++ if t.platform.isSome then [.planes change] else [] := by
    cases hp : t.platform <;> cases change <;>
      simp [planes, heard, hp, Platform.addedPlanes, Platform.removedPlanes, Platform.updatedPlanes,
        Heard.answered]
  cases q with
  | planes change => exact hplanes change
  | _ =>
    cases hp : t.platform <;>
      simp [query, tell, isRunning, ask, camera, heard, hp, Query.hearing?, Platform.tell,
        Platform.state, Platform.isRunning, Platform.camera, Platform.planeCount, Heard.answered]

theorem heard_isRunning (t : Tracker (Heard π)) :
    t.isRunning.2.heard = t.heard ++ if t.platform.isSome then [.running] else [] :=
  t.heard_query .isRunning

theorem heard_tell {t : Tracker (Heard π)} (h : t.platform.isSome = true) (n : Notice) :
    (t.tell n).heard = t.heard ++ [.told n] := by
  have hquery := t.heard_query (.tell n)
  rwa [if_pos h] at hquery

theorem heard_camera {t : Tracker (Heard π)} (h : t.platform.isSome = true) (a : CameraArray) :
    (t.camera a).2.1.heard = t.heard ++ [.camera a] := by
  have hquery := t.heard_query (.camera a)
  rwa [if_pos h] at hquery

omit [Platform π] in
theorem namings_of_heard {t t' : Tracker (Heard π)} {hearings : List Hearing}
    (h : t'.heard = t.heard ++ hearings) :
    t'.namings = t.namings + hearings.countP (·.namesCamera) := by
  rw [namings, h, List.countP_append, namings]

end Tracker

end GpuRecorder.Ar
