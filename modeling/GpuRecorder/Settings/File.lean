import GpuRecorder.Document.Format
import GpuRecorder.Settings.Form

/-!
# Settings in files

The name of a file tells its format.  `load` sees the content of the file, if there is one;
`save` gives the content to write.
-/

namespace GpuRecorder.Settings

open Document (Format)

inductive FileError where
  /-- The file cannot be read, or not as text, or cannot be written. -/
  | inaccessible
  | malformed
  | unsupportedFormat (name : String)
  deriving DecidableEq, Repr

/-- The wording of an error, where it is fixed. -/
def FileError.message? : FileError → Option String
  | .unsupportedFormat name => some ("Unsupported format: " ++ name)
  | _ => none

/-- A name that a file in the current folder can have. -/
def isFileName (name : String) : Bool :=
  name ≠ "" ∧ name ≠ "." ∧ name ≠ ".." ∧ name.utf8ByteSize ≤ 255 ∧
    name.toList.all fun c => c ≠ '/' ∧ c ≠ '\x00'

/-- The settings in a text of some format. -/
def parse? (format : Format) (text : String) : Option Settings := do
  ofValue? (← format.read? shape text)

/-- The settings in a file: the file is read before its name is looked at. -/
def load (name : String) (content : Option ByteArray) : Except FileError Settings :=
  match content.bind String.fromUTF8? with
  | none => .error .inaccessible
  | some text =>
    match Format.ofFileName? name with
    | none => .error (.unsupportedFormat name)
    | some format =>
      match parse? format text with
      | none => .error .malformed
      | some settings => .ok settings

/-- The content of a file with settings: its name is looked at before it is written. -/
def save (name : String) (settings : Settings) : Except FileError String :=
  match Format.ofFileName? name with
  | none => .error (.unsupportedFormat name)
  | some format =>
    match format.write? settings.toValue with
    | none => .error .malformed
    | some text => if isFileName name then .ok text else .error .inaccessible

end GpuRecorder.Settings
