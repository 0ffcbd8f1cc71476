import GpuRecorder.Draw.Primitive

/-!
# Draw statistics

What one recording drew.  Totals are accumulated in saturating counters, so their order does not
matter.
-/

namespace GpuRecorder.Draw

/-- The direct draws of one recording, the instances and the triangles in them. -/
structure Stats where
  drawCalls : Nat := 0
  instances : Nat := 0
  triangles : Nat := 0
  deriving DecidableEq, Repr, Inhabited

namespace Stats

def accumulate (s t : Stats) : Stats where
  drawCalls := saturate (s.drawCalls + t.drawCalls)
  instances := saturate (s.instances + t.instances)
  triangles := saturate (s.triangles + t.triangles)

/-- One direct draw of `count` vertices or indices; without a topology it has no triangles. -/
def ofDraw (primitive : Option Primitive) (count instances : Nat) : Stats where
  drawCalls := 1
  instances := instances
  triangles := (primitive.map (·.triangleCount count instances)).getD 0

end Stats

end GpuRecorder.Draw
