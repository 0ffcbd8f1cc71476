/-!
# Messages

What operations report beside their answer.
-/

namespace GpuRecorder.Native

inductive Severity where
  | error
  | warn
  | info
  | debug
  | trace
  deriving DecidableEq, Repr

/-- One report. -/
structure Message where
  severity : Severity
  text : String
  deriving DecidableEq, Repr

namespace Message

def error (text : String) : Message := ⟨.error, text⟩

def warn (text : String) : Message := ⟨.warn, text⟩

def debug (text : String) : Message := ⟨.debug, text⟩

end Message

end GpuRecorder.Native
