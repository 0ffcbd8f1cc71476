import GpuRecorder.Binary.Single
import GpuRecorder.Native.Handle

/-!
# Report data

What an observer is shown: calls and objects taken apart into named plain data, in which nothing
is left to interpret.
-/

namespace GpuRecorder.Report

open Binary Native

/-- Plain data. -/
inductive Datum where
  | none
  | flag (b : Bool)
  | number (i : Int)
  | text (s : String)
  | single (a : Single)
  | bytes (data : List UInt8)
  | list (items : List Datum)
  | record (fields : List (String × Datum))

abbrev Fields := List (String × Datum)

/-- A name with what belongs to it. -/
structure Description where
  name : String
  fields : Fields := []

namespace Datum

instance : Coe Int Datum := ⟨number⟩

def natural (n : Nat) : Datum := number n

instance : Coe Nat Datum := ⟨natural⟩

def handle {kind : Kind} (h : Handle kind) : Datum := natural h.number

instance {kind : Kind} : CoeOut (Handle kind) Datum := ⟨handle⟩

instance : Coe Single Datum := ⟨single⟩

def listOf {α : Type} (f : α → Datum) (l : List α) : Datum := list (l.map f)

def naturals (l : List Nat) : Datum := listOf natural l

def handles {kind : Kind} (l : List (Handle kind)) : Datum := listOf handle l

def singles (l : List Single) : Datum := listOf single l

def option {α : Type} (f : α → Datum) : Option α → Datum
  | some a => f a
  | .none => none

end Datum

end GpuRecorder.Report
