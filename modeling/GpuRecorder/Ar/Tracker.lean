import GpuRecorder.Ar.Pose
import GpuRecorder.Native.Message

/-!
# Trackers

A tracker stands between the renderer and a platform that tracks the camera.  There may be no
platform at all, and a platform may answer arrays of any length, so the tracker keeps camera
arrays of fixed length: an answer that is too long is reported and ignored, a shorter one
overwrites the beginning.
-/

namespace GpuRecorder.Ar

open Binary Native

/-! ## 1. Platforms -/

/-- What a platform is told. -/
inductive Notice where
  | start
  | resume
  | pause
  | update
  | cameraTexture (id : Nat)
  | updatePlanes
  deriving DecidableEq, Repr

/-- The camera arrays. -/
inductive CameraArray where
  | pose
  | view
  | projection
  | textureCoordinates
  deriving DecidableEq, Repr

/-- What happened to planes at the last update. -/
inductive PlaneChange where
  | added
  | removed
  | updated
  deriving DecidableEq, Repr

/-- A platform of state `π`.  A question may change the state, like a notice. -/
class Platform (π : Type) where
  tell : π → Notice → π
  state : π → Int × π
  isRunning : π → Bool × π
  camera : π → CameraArray → List Single × π
  planeCount : π → PlaneChange → Int × π
  /-- Records of the planes that were added. -/
  addedPlanes : π → List Single × π
  /-- The numbers of the planes that were removed. -/
  removedPlanes : π → List Int × π
  /-- Records of the planes that were updated. -/
  updatedPlanes : π → List Single × π

/-! ## 2. Camera arrays -/

namespace CameraArray

def length : CameraArray → Nat
  | .pose => Pose.length
  | .view | .projection => 16
  | .textureCoordinates => 8

def what : CameraArray → String
  | .pose => "camera pose"
  | .view => "view matrix"
  | .projection => "projection matrix"
  | .textureCoordinates => "texture coordinates"

end CameraArray

/-- The camera arrays as last accepted. -/
structure CameraCache where
  pose : List Single
  view : List Single
  projection : List Single
  textureCoordinates : List Single
  deriving DecidableEq, Repr

namespace CameraCache

/-- All zeros. -/
def empty : CameraCache :=
  let zeros (a : CameraArray) : List Single := List.replicate a.length .zero
  ⟨zeros .pose, zeros .view, zeros .projection, zeros .textureCoordinates⟩

instance : Inhabited CameraCache := ⟨empty⟩

def get (c : CameraCache) : CameraArray → List Single
  | .pose => c.pose
  | .view => c.view
  | .projection => c.projection
  | .textureCoordinates => c.textureCoordinates

def set (c : CameraCache) : CameraArray → List Single → CameraCache
  | .pose, l => { c with pose := l }
  | .view, l => { c with view := l }
  | .projection, l => { c with projection := l }
  | .textureCoordinates, l => { c with textureCoordinates := l }

/-- Take over an answer of the platform, unless it is too long. -/
def accept (c : CameraCache) (a : CameraArray) (answer : List Single) :
    CameraCache × List Message :=
  if a.length < answer.length then
    (c, [.warn (s!"AR {a.what} has {answer.length} elements, at most {a.length} are supported; " ++
      "keeping the previous value")])
  else (c.set a (answer ++ (c.get a).drop answer.length), [])

@[simp] theorem get_set_self (c : CameraCache) (a : CameraArray) (l : List Single) :
    (c.set a l).get a = l := by
  cases a <;> rfl

theorem get_set_of_ne (c : CameraCache) {a b : CameraArray} (h : a ≠ b) (l : List Single) :
    (c.set a l).get b = c.get b := by
  cases a <;> cases b <;> first | rfl | exact absurd rfl h

/-- Accepting an answer keeps every array at its length. -/
theorem length_accept {c : CameraCache} (h : ∀ a, (c.get a).length = a.length) (a b : CameraArray)
    (answer : List Single) : ((c.accept a answer).1.get b).length = b.length := by
  unfold accept
  split
  · exact h b
  · by_cases hab : a = b
    · subst hab
      simp only [get_set_self, List.length_append, List.length_drop, h a]
      omega
    · simp only [get_set_of_ne c hab, h b]

end CameraCache

/-! ## 3. The tracker -/

structure Tracker (π : Type) where
  platform : Option π
  cache : CameraCache := .empty
  added : List Single := []
  removed : List Int := []
  updated : List Single := []
  /-- The length of the plane array that was asked for last. -/
  infoLength : Nat := 0

/-- What can be asked of a tracker. -/
inductive Query where
  | available
  | tell (n : Notice)
  | state
  | isRunning
  | camera (a : CameraArray)
  | planeCount (change : PlaneChange)
  | planes (change : PlaneChange)
  | infoLength
  deriving DecidableEq, Repr

/-- What a tracker answers. -/
inductive Reply where
  | done
  | flag (b : Bool)
  | number (i : Int)
  | singles (l : List Single)
  | integers (l : List Int)
  | length (n : Nat)
  deriving DecidableEq, Repr

namespace Tracker

variable {π : Type}

/-- A tracker over a platform, or over none. -/
def ofPlatform (platform : Option π) : Tracker π × List Message :=
  let messages :=
    if platform.isNone then [.debug "No AR platform linked; AR calls degrade to defaults"] else []
  ({ platform }, messages)

section

variable [Platform π]

def tell (t : Tracker π) (n : Notice) : Tracker π :=
  { t with platform := t.platform.map fun p => Platform.tell p n }

/-- Ask the platform; without one the answer is `default`. -/
def ask {α : Type} (t : Tracker π) (default : α) (question : π → α × π) : α × Tracker π :=
  match t.platform with
  | none => (default, t)
  | some p =>
    let (answer, p) := question p
    (answer, { t with platform := some p })

def isRunning (t : Tracker π) : Bool × Tracker π := t.ask false Platform.isRunning

/-- A camera array after asking the platform for it. -/
def camera (t : Tracker π) (a : CameraArray) : List Single × Tracker π × List Message :=
  match t.platform with
  | none => (t.cache.get a, t, [])
  | some p =>
    let (answer, p) := Platform.camera p a
    let (cache, messages) := t.cache.accept a answer
    (cache.get a, { t with platform := some p, cache }, messages)

/-- A plane array after asking the platform for it; without a platform the one it gave last. -/
def planes (t : Tracker π) : PlaneChange → Reply × Tracker π
  | .added =>
    match t.platform with
    | none => (.singles t.added, t)
    | some p =>
      let (added, p) := Platform.addedPlanes p
      (.singles added, { t with platform := some p, added, infoLength := added.length })
  | .removed =>
    match t.platform with
    | none => (.integers t.removed, t)
    | some p =>
      let (removed, p) := Platform.removedPlanes p
      (.integers removed, { t with platform := some p, removed, infoLength := removed.length })
  | .updated =>
    match t.platform with
    | none => (.singles t.updated, t)
    | some p =>
      let (updated, p) := Platform.updatedPlanes p
      (.singles updated, { t with platform := some p, updated, infoLength := updated.length })

/-- The number that stands for "no platform". -/
def noPlatform : Int := -1

/-- Answer a query. -/
def query (t : Tracker π) : Query → Reply × Tracker π × List Message
  | .available => (.flag t.platform.isSome, t, [])
  | .tell n => (.done, t.tell n, [])
  | .state =>
    let (answer, t) := t.ask noPlatform Platform.state
    (.number answer, t, [])
  | .isRunning =>
    let (answer, t) := t.isRunning
    (.flag answer, t, [])
  | .camera a =>
    let (answer, t, messages) := t.camera a
    (.singles answer, t, messages)
  | .planeCount change =>
    let (answer, t) := t.ask noPlatform fun p => Platform.planeCount p change
    (.number answer, t, [])
  | .planes change =>
    let (answer, t) := t.planes change
    (answer, t, [])
  | .infoLength => (.length t.infoLength, t, [])

theorem isRunning_of_no_platform {t : Tracker π} (h : t.platform = none) :
    t.isRunning = (false, t) := by
  simp [isRunning, ask, h]

end

end Tracker

/-! ## 4. A scripted platform -/

/-- A platform whose answers are given in advance.  It keeps the notices it gets. -/
structure Scripted where
  running : Bool := false
  state : Int := 0
  added : Int := 0
  removed : Int := 0
  updated : Int := 0
  camera : CameraCache := ⟨[], [], [], []⟩
  addedPlanes : List Single := []
  removedPlanes : List Int := []
  updatedPlanes : List Single := []
  notices : Array Notice := #[]

namespace Scripted

/-- Starting and resuming set it running, pausing stops it. -/
def tell (s : Scripted) (n : Notice) : Scripted :=
  let s := { s with notices := s.notices.push n }
  match n with
  | .start | .resume => { s with running := true }
  | .pause => { s with running := false }
  | _ => s

instance : Platform Scripted where
  tell := tell
  state s := (s.state, s)
  isRunning s := (s.running, s)
  camera s a := (s.camera.get a, s)
  planeCount s
    | .added => (s.added, s)
    | .removed => (s.removed, s)
    | .updated => (s.updated, s)
  addedPlanes s := (s.addedPlanes, s)
  removedPlanes s := (s.removedPlanes, s)
  updatedPlanes s := (s.updatedPlanes, s)

end Scripted

end GpuRecorder.Ar
