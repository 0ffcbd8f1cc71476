import GpuRecorder.Report.Datum
import GpuRecorder.Settings.File

/-!
# Settings in reports

How settings, what became of a file with settings, and documents are shown.
-/

namespace GpuRecorder.Report

open Document (Format Shape)

def settings (s : Settings) : Datum :=
  let c := s.capabilities
  .record [
    ("disable", .list [.flag c.disablePushDescriptor, .flag c.disableDescriptorUpdateTemplate,
      .flag c.disableMultiDrawIndirect]),
    ("max_sets", s.descriptorPool.maxSetsPerPool.toNat),
    ("per_type", s.descriptorPool.descriptorsPerType.toNat),
    ("log_level", .option .text s.logLevel)]

def malformed : Datum := .record [("error", .text "Parse")]

def fileError (e : Settings.FileError) : Datum :=
  let message := (e.message?.map fun m => ("message", Datum.text m)).toList
  match e with
  | .inaccessible => .record (("error", .text "Io") :: message)
  | .malformed => malformed
  | .unsupportedFormat _ => .record (("error", .text "UnsupportedFormat") :: message)

/-- What a file holds. -/
def loaded (name : String) (content : Option ByteArray) : Datum :=
  match Settings.load name content with
  | .ok s => settings s
  | .error e => fileError e

/-- What is written into a file, and whether reading it again gives the same settings. -/
def saved (name : String) (s : Settings) : Datum :=
  match s.save name with
  | .ok text =>
    let again := Settings.load name (some text.toUTF8)
    .record [("text", .text text), ("same", .flag (again.toOption = some s))]
  | .error e => fileError e

/-- A document written again, in both formats. -/
def writtenBack (shape : Shape) (format : Format) (text : String) : Datum :=
  match format.read? shape text with
  | some value =>
    .record [("ron", .text (String.ofList (Document.Ron.write .oneLine 0 value))),
      ("toml", .option .text (Document.Toml.write? value))]
  | none => malformed

end GpuRecorder.Report
