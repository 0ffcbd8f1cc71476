import GpuRecorder.Decimal.Fraction
import GpuRecorder.Document.Ron.Text
import GpuRecorder.Document.Shape

/-!
# Writing RON

A document is written on one line without blanks, or with each field of a record on a line of its
own.  Records are written without their names.
-/

namespace GpuRecorder.Document.Ron

open Binary (Single)

def spelling : Decimal.Spelling := ⟨"NaN", "inf"⟩

/-- A number in the fewest digits that tell it apart in single precision. -/
def writeSingle (x : Single) : List Char :=
  (Decimal.shortestText Binary.single spelling x.bits.toNat).toList

def writeFlag (b : Bool) : List Char := if b then "true".toList else "false".toList

/-- How much room the text takes. -/
inductive Layout where
  | oneLine
  /-- Fields start on new lines, indented by four more blanks in each record. -/
  | indented
  deriving DecidableEq, Repr

/-- What comes before a field that is `depth` records deep, and before the end of a record. -/
def Layout.lineBreak (layout : Layout) (depth : Nat) : List Char :=
  match layout with
  | .oneLine => []
  | .indented => '\n' :: List.replicate (4 * depth) ' '

/-- Between a key and its value. -/
def Layout.colon : Layout → List Char
  | .oneLine => [':']
  | .indented => [':', ' ']

/-- After a field: a comma, left out after the last one on one line. -/
def Layout.comma (layout : Layout) (last : Bool) : List Char :=
  if layout = .oneLine ∧ last then [] else [',']

mutual

def write (layout : Layout) (depth : Nat) : Value → List Char
  | .flag b => writeFlag b
  | .word n => Decimal.decimalChars n.toNat
  | .single x => writeSingle x
  | .text none => "None".toList
  | .text (some t) => "Some(".toList ++ quote t.toList ++ [')']
  | .choice name => name.toList
  | .record [] => ['(', ')']
  | .record (field :: fields) =>
    ['('] ++ writeFields layout (depth + 1) (field :: fields) ++ layout.lineBreak depth ++ [')']

def writeFields (layout : Layout) (depth : Nat) : List (String × Value) → List Char
  | [] => []
  | (key, value) :: fields =>
    layout.lineBreak depth ++ key.toList ++ layout.colon ++ write layout depth value ++
      layout.comma fields.isEmpty ++ writeFields layout depth fields

end

end GpuRecorder.Document.Ron
