/-!
# Saturating counters

Draw statistics are 32-bit counters that stay at their largest value instead of wrapping.  So does
the sum by which a trace tells whether a descriptor pool is full.
-/

namespace GpuRecorder.Draw

/-- The largest count a counter can show. -/
def maxCount : Nat := 4294967295

/-- What a counter shows for an exact count. -/
def saturate (n : Nat) : Nat := min n maxCount

/-- Clamping each step of a sum gives the clamped sum. -/
theorem saturate_saturate_add (a b : Nat) : saturate (saturate a + b) = saturate (a + b) := by
  simp only [saturate]; omega

theorem saturate_add_saturate (a b : Nat) : saturate (a + saturate b) = saturate (a + b) := by
  simp only [saturate]; omega

@[simp] theorem saturate_saturate (a : Nat) : saturate (saturate a) = saturate a := by
  simp only [saturate]; omega

theorem saturate_of_le {a : Nat} (h : a ≤ maxCount) : saturate a = a := Nat.min_eq_left h

theorem saturate_le (a : Nat) : saturate a ≤ maxCount := Nat.min_le_right _ _

end GpuRecorder.Draw
