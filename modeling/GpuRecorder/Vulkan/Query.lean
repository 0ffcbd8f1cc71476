import GpuRecorder.Device.Capabilities
import GpuRecorder.Native.Error
import GpuRecorder.Native.Message
import GpuRecorder.Vulkan.Call

/-!
# Querying capabilities

What a physical device tells about itself, and the capabilities that follow from it.
-/

namespace GpuRecorder.Vulkan

open Native Device

/-- What a physical device reports. -/
structure PhysicalDevice where
  extensions : List String := []
  /-- A packed version: ten bits of minor version below seven bits of major version. -/
  apiVersion : Nat := 0
  /-- `1` if one indirect call may cover several records. -/
  multiDrawIndirect : Nat := 0
  deriving Repr, Inhabited

def majorVersion (version : Nat) : Nat := version / Nat.pow 2 22 % Nat.pow 2 7

def minorVersion (version : Nat) : Nat := version / Nat.pow 2 12 % Nat.pow 2 10

def pushDescriptorExtension : String := "VK_KHR_push_descriptor"

/-- An extension's name is what stands before the first null character. -/
def nameOf (reported : String) : String := String.ofList (reported.toList.takeWhile (· ≠ '\x00'))

/-- The capabilities of a device that listed some extensions.  Update templates belong to every
version from 1.1 on, pushing to the extension of that name. -/
def PhysicalDevice.capabilities (p : PhysicalDevice) (listed : List String) : Capabilities where
  pushDescriptor := listed.any fun e => nameOf e = pushDescriptorExtension
  descriptorUpdateTemplate :=
    decide (1 < majorVersion p.apiVersion) || decide (1 ≤ minorVersion p.apiVersion)
  multiDrawIndirect := p.multiDrawIndirect = 1

/-- The report of what was found. -/
def found (c : Capabilities) : Message :=
  let { pushDescriptor, descriptorUpdateTemplate, multiDrawIndirect } := c
  .debug (s!"Device capabilities: DeviceCaps \x7b push_descriptor: {pushDescriptor}, " ++
    s!"descriptor_update_template: {descriptorUpdateTemplate}, " ++
    s!"multi_draw_indirect: {multiDrawIndirect} \x7d")

/-- Query a device.  Listing the extensions is the one step that can fail. -/
def query (p : PhysicalDevice) (listing : Returned (List String)) :
    Except DeviceError Capabilities × List Message :=
  match listing.toExcept with
  | .ok listed => (.ok (p.capabilities listed), [found (p.capabilities listed)])
  | .error code => (.error (.api code), [])

example : (majorVersion 4198400, minorVersion 4198400) = (1, 1) := by decide

end GpuRecorder.Vulkan
