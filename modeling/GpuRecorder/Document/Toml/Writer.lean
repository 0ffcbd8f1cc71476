import GpuRecorder.Decimal.Fraction
import GpuRecorder.Document.Shape
import GpuRecorder.Document.Toml.Text

/-!
# Writing TOML

A record is written as a table: first its plain fields, a line each, then its records, each under
a header and with a blank line before it.  Only a record can be a document.
-/

namespace GpuRecorder.Document.Toml

open Binary (Single)

def spelling : Decimal.Spelling := ⟨"nan", "inf"⟩

/-- A number in the fewest digits that tell it apart in the 64-bit format, which is what a reader
will take it for. -/
def writeSingle (x : Single) : List Char :=
  (Decimal.shortestText Binary.double spelling (Binary.double.encode x.value)).toList

def writeFlag (b : Bool) : List Char := if b then "true".toList else "false".toList

def writeWord (n : UInt32) : List Char := Decimal.decimalChars n.toNat

/-- The value of a field on its own line; an absent text and a record have none. -/
def writePlain? : Value → Option (List Char)
  | .flag b => some (writeFlag b)
  | .word n => some (writeWord n)
  | .single x => some (writeSingle x)
  | .text t => t.map fun t => quote t.toList
  | .choice name => some (quote name.toList)
  | .record _ => none

/-- The lines of the plain fields. -/
def writeLines : List (String × Value) → List Char
  | [] => []
  | (key, value) :: fields =>
    (match writePlain? value with
      | some text => key.toList ++ " = ".toList ++ text ++ ['\n']
      | none => []) ++ writeLines fields

/-- The path of a table in its header. -/
def dotted (path : List String) : List Char := (".".intercalate path).toList

/-- A table's header is left out when the headers of the tables inside it say enough. -/
def showsHeader (fields : List (String × Value)) : Bool :=
  fields.isEmpty || fields.any fun (_, value) => (writePlain? value).isSome

mutual

/-- A table that is not the root, if the value is one. -/
def writeTable (path : List String) : Value → List Char
  | .record fields =>
    (if showsHeader fields then ['\n', '['] ++ dotted path ++ [']', '\n'] else []) ++
      writeLines fields ++ writeTables path fields
  | _ => []

/-- The tables among the fields of a table. -/
def writeTables (path : List String) : List (String × Value) → List Char
  | [] => []
  | (key, value) :: fields => writeTable (path ++ [key]) value ++ writeTables path fields

end

/-- A document: it does not begin with a blank line. -/
def write? : Value → Option String
  | .record fields =>
    let text := writeLines fields ++ writeTables [] fields
    some (String.ofList (if text.head? = some '\n' then text.drop 1 else text))
  | _ => none

end GpuRecorder.Document.Toml
