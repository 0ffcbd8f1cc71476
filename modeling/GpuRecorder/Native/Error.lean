import GpuRecorder.Native.ResultCode

/-!
# Errors

`DeviceError` lists what an operation can fail with, each cause with its data; `message` is the
wording.  `Failure` adds the ways in which an operation can end without an error value.
-/

namespace GpuRecorder.Native

/-- Why an operation is invalid. -/
inductive InvalidReason where
  | setNotDeclared (set : Nat)
  | bindingNotDeclared (binding element set : Nat)
  | cameraTextureNotExternal
  | stated (reason : String)
  deriving DecidableEq, Repr

def InvalidReason.text : InvalidReason → String
  | .setNotDeclared set => s!"descriptor set {set} is not declared"
  | .bindingNotDeclared binding element set =>
    s!"binding {binding}[{element}] is not declared in set {set}"
  | .cameraTextureNotExternal => "camera texture has no external id"
  | .stated reason => reason

/-- What an operation on a device fails with. -/
inductive DeviceError where
  /-- The driver refused a call. -/
  | api (code : ResultCode)
  | invalidOperation (reason : InvalidReason)
  /-- No descriptor pool could serve a request, a new one included. -/
  | outOfPoolMemory (requested : Nat)
  | initializationFailed (reason : String)
  | missingExtension (name : String)
  deriving DecidableEq, Repr

def DeviceError.message : DeviceError → String
  | .api code => "Vulkan API error: " ++ code.text
  | .invalidOperation reason => "Invalid operation: " ++ reason.text
  | .outOfPoolMemory requested => s!"Descriptor pool exhausted: {requested} sets requested"
  | .initializationFailed reason => "Initialization failed: " ++ reason
  | .missingExtension name => "Missing device extension: " ++ name

/-- How an operation ends without a result. -/
inductive Failure where
  | error (e : DeviceError)
  /-- The descriptor pool cursor stands past the last pool, so there is no pool to ask. -/
  | noCurrentPool
  /-- A sum passed the width it is kept in. -/
  | overflow
  deriving DecidableEq, Repr

end GpuRecorder.Native
