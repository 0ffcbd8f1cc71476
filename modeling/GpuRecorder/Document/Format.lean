import GpuRecorder.Document.Ron.Reader
import GpuRecorder.Document.Ron.Writer
import GpuRecorder.Document.Toml.Reader
import GpuRecorder.Document.Toml.Writer

/-!
# Document formats

A document is read as a value of the shape asked for, in either of two text formats, and a value
is written in either of them.
-/

namespace GpuRecorder.Document

/-- A text format for documents. -/
inductive Format where
  | toml
  | ron
  deriving DecidableEq, Repr, Inhabited

namespace Format

/-- The end of the names of files in the format. -/
def suffix : Format → String
  | .toml => ".toml"
  | .ron => ".ron"

/-- The format of a file, by its name. -/
def ofFileName? (name : String) : Option Format :=
  [toml, ron].find? fun f => f.suffix.toList.isSuffixOf name.toList

example : ofFileName? "a.ron.toml" = some .toml ∧ ofFileName? ".ron" = some .ron := by
  decide +kernel
example : ofFileName? "toml" = none ∧ ofFileName? "x.TOML" = none := by decide +kernel

/-- The value of a shape in a document. -/
def read? (format : Format) (shape : Shape) (text : String) : Option Value :=
  match format with
  | .toml => do shape.read Toml.view (← Toml.read? text)
  | .ron => do
    let source ← Ron.read? text
    shape.read (Ron.view source.implicitSome) source.root

/-- A value as a document for people to read, if the format can hold it. -/
def write? (format : Format) (value : Value) : Option String :=
  match format with
  | .toml => Toml.write? value
  | .ron => some (String.ofList (Ron.write .indented 0 value))

end Format

end GpuRecorder.Document
