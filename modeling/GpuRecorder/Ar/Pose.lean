import GpuRecorder.Binary.Single

/-!
# Poses

A pose is a position and a rotation as a platform gives them, seven numbers.  As a rigid transform
its quaternion has unit length; where there is no direction to keep, as in an all-zero pose, the
rotation is none.
-/

namespace GpuRecorder.Ar

open Binary

/-- A quaternion; `w` is its real part. -/
structure Quaternion where
  i : Single
  j : Single
  k : Single
  w : Single
  deriving DecidableEq, Repr

namespace Quaternion

def identity : Quaternion := ⟨.zero, .zero, .zero, .one⟩

def toList (q : Quaternion) : List Single := [q.i, q.j, q.k, q.w]

/-- The squared length.  The squares are summed in two pairs, each rounded before the next. -/
def normSquared (q : Quaternion) : Single :=
  ((q.i.mul q.i).add (q.k.mul q.k)).add ((q.j.mul q.j).add (q.w.mul q.w))

/-- The quaternion of unit length in the same direction, or the identity if it is too short to
have one. -/
def normalized (q : Quaternion) : Quaternion :=
  let n := q.normSquared
  if Single.epsilon.value.lt n.value then
    let length := n.sqrt
    ⟨q.i.div length, q.j.div length, q.k.div length, q.w.div length⟩
  else identity

end Quaternion

/-- Position, then rotation with the real part last. -/
structure Pose where
  x : Single
  y : Single
  z : Single
  rotation : Quaternion
  deriving DecidableEq, Repr

namespace Pose

/-- The numbers in a pose. -/
def length : Nat := 7

def toList (p : Pose) : List Single := [p.x, p.y, p.z] ++ p.rotation.toList

/-- The pose in seven numbers; what is missing is zero. -/
def ofList (l : List Single) : Pose :=
  let entry (n : Nat) : Single := l[n]?.getD .zero
  ⟨entry 0, entry 1, entry 2, ⟨entry 3, entry 4, entry 5, entry 6⟩⟩

@[simp] theorem ofList_toList (p : Pose) : ofList p.toList = p := rfl

@[simp] theorem length_toList (p : Pose) : p.toList.length = length := rfl

end Pose

/-- A rigid transform: a rotation followed by a shift. -/
structure Isometry where
  shift : List Single
  rotation : Quaternion
  deriving DecidableEq, Repr

/-- The transform of a pose. -/
def Pose.isometry (p : Pose) : Isometry := ⟨[p.x, p.y, p.z], p.rotation.normalized⟩

example : (Quaternion.mk .zero .zero .zero .zero).normalized = .identity := by decide +kernel
example : (Quaternion.mk (.ofInt 3) .zero .zero (.ofInt 4)).normalized =
    ⟨⟨0x3f19999a⟩, .zero, .zero, ⟨0x3f4ccccd⟩⟩ := by decide +kernel

end GpuRecorder.Ar
