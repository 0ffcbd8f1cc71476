import GpuRecorder.Ar.Pose

/-!
# Planes

A platform reports the planes it has found as records of twelve numbers, one after the other.
Three of them are integers in floating form.
-/

namespace GpuRecorder.Ar

open Binary

/-- A plane found in the scene. -/
structure Plane where
  index : Int
  type : Int
  tracking : Int
  extentX : Single
  extentZ : Single
  center : Pose
  deriving DecidableEq, Repr

namespace Plane

/-- The numbers in one record. -/
def recordLength : Nat := 12

/-- The plane in the first record of a list; none if the record is not complete. -/
def decode : List Single → Option Plane
  | index :: type :: tracking :: extentX :: extentZ :: x :: y :: z :: i :: j :: k :: w :: _ =>
    some ⟨index.toInt, type.toInt, tracking.toInt, extentX, extentZ, ⟨x, y, z, ⟨i, j, k, w⟩⟩⟩
  | _ => none

/-- The planes in a list of records; an incomplete last record is left out. -/
def decodeAll (l : List Single) : List Plane :=
  match _h : decode l with
  | none => []
  | some plane => plane :: decodeAll (l.drop recordLength)
termination_by l.length
decreasing_by
  have hl : l ≠ [] := by
    rintro rfl
    simp [decode] at _h
  have := List.length_pos_iff.2 hl
  simp only [List.length_drop, recordLength]
  omega

theorem decode_isSome_iff {l : List Single} : (decode l).isSome ↔ recordLength ≤ l.length := by
  unfold decode
  split
  · simp [recordLength]
  · rename_i hl
    simp only [Option.isSome_none, Bool.false_eq_true, recordLength, false_iff, Nat.not_le]
    apply Nat.lt_of_not_le
    intro hlen
    match l, hlen with
    | index :: type :: tracking :: extentX :: extentZ ::
        x :: y :: z :: i :: j :: k :: w :: rest, _ =>
      exact hl index type tracking extentX extentZ x y z i j k w rest rfl

/-- Only the first record is read. -/
theorem decode_append {l : List Single} (h : recordLength ≤ l.length) (more : List Single) :
    decode (l ++ more) = decode l := by
  match l, h with
  | index :: type :: tracking :: extentX :: extentZ :: x :: y :: z :: i :: j :: k :: w :: rest, _ =>
    rfl

end Plane

end GpuRecorder.Ar
