import GpuRecorder.Draw.Counter

/-!
# Primitive topologies

How a run of vertices is assembled, and how many triangles come out.
-/

namespace GpuRecorder.Draw

/-- The topology of a pipeline. -/
inductive Primitive where
  | pointList
  | lineList
  | lineStrip
  | triangleList
  | triangleStrip
  | triangleFan
  | patchList
  deriving DecidableEq, Repr, Inhabited

namespace Primitive

/-- The triangles in `count` vertices or indices; only triangle topologies have any. -/
def triangles : Primitive → Nat → Nat
  | .triangleList, count => count / 3
  | .triangleStrip, count | .triangleFan, count => count - 2
  | _, _ => 0

/-- The triangles of a draw as a counter shows them. -/
def triangleCount (p : Primitive) (count instances : Nat) : Nat :=
  saturate (p.triangles count * instances)

end Primitive

end GpuRecorder.Draw
