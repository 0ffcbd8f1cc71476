import GpuRecorder.Ar.Background
import GpuRecorder.Ar.Plane
import GpuRecorder.Ar.Shaders
import GpuRecorder.Document.Ron.TextRoundTrip
import GpuRecorder.Document.Toml.TextRoundTrip
import GpuRecorder.Proofs.Device.Lending
import GpuRecorder.Proofs.Device.PoolCursor
import GpuRecorder.Proofs.Session.PassPlacement
import GpuRecorder.Report.Call
import GpuRecorder.Report.Object
import GpuRecorder.Report.Settings
import GpuRecorder.Report.Vulkan
import GpuRecorder.Session
import GpuRecorder.Vulkan.Query
import GpuRecorder.Vulkan.Simulator
import GpuRecorder.Proofs.Session.BoundLayout
import GpuRecorder.Proofs.Device.TracePools
import GpuRecorder.Proofs.Resource.CurrentData
import GpuRecorder.Proofs.Recording.Deliveries
import GpuRecorder.Proofs.Session.Tiers
import GpuRecorder.Proofs.Device.Asking
import GpuRecorder.Proofs.Device.Ledger
import GpuRecorder.Proofs.Recording.Observed
import GpuRecorder.Proofs.Session.Conservation
import GpuRecorder.Proofs.Session.SetLifetimes
import GpuRecorder.Proofs.Session.FreshHandles
import GpuRecorder.Proofs.Recording.Replay
import GpuRecorder.Proofs.Session.Elision
import GpuRecorder.Proofs.Recording.Supply
import GpuRecorder.Proofs.Session.SuppliedContents
import GpuRecorder.Proofs.Device.PoolGrowth
import GpuRecorder.Proofs.Session.PassBrackets
import GpuRecorder.Proofs.Session.NextFit
import GpuRecorder.Proofs.Session.RecordingContract
import GpuRecorder.Proofs.Session.GrantedSets
import GpuRecorder.Proofs.Session.RememberedLayout
import GpuRecorder.Proofs.Session.Interleaving
import GpuRecorder.Proofs.Recording.Counting
import GpuRecorder.Proofs.Session.CapabilityGates
import GpuRecorder.Proofs.Session.Misuse
import GpuRecorder.Proofs.Session.Totals
import GpuRecorder.Proofs.Device.Mirror
import GpuRecorder.Proofs.Native.Journal
import GpuRecorder.Proofs.Recording.Named
import GpuRecorder.Proofs.Session.Bench
import GpuRecorder.Proofs.Session.Journals
import GpuRecorder.Proofs.Session.Templated
import GpuRecorder.Proofs.Session.TwoDrivers
import GpuRecorder.Proofs.Session.Watched
import GpuRecorder.Proofs.Device.KeptPools
import GpuRecorder.Proofs.Session.DeviceInvariant
import GpuRecorder.Proofs.Session.PoolPairs
import GpuRecorder.Proofs.Vulkan.TemplateWrites
import GpuRecorder.Proofs.Recording.Topics
import GpuRecorder.Proofs.Session.AfterExecute
import GpuRecorder.Proofs.Session.RetainedObjects
import GpuRecorder.Proofs.Ar.Heard
import GpuRecorder.Proofs.Ar.Frames
import GpuRecorder.Proofs.Ar.LifeCycle
import GpuRecorder.Proofs.Recording.BufferUpdates
import GpuRecorder.Proofs.Recording.CopyLayouts
import GpuRecorder.Proofs.Recording.IndirectRecords
import GpuRecorder.Proofs.Session.BoundAssembler
import GpuRecorder.Proofs.Device.GrowthLoop
import GpuRecorder.Proofs.Device.Recycling
import GpuRecorder.Proofs.Session.FailedBinding
import GpuRecorder.Proofs.Ar.StaticData
import GpuRecorder.Proofs.Session.UpdateOffsets
import GpuRecorder.Proofs.Ar.Answers
import GpuRecorder.Proofs.Session.RefreshedLayouts
import GpuRecorder.Proofs.Settings.RoundTrip
import GpuRecorder.Proofs.Ar.KeptArrays
import GpuRecorder.Proofs.Session.OpenedPass
import GpuRecorder.Proofs.Session.AddressedSlots
import GpuRecorder.Proofs.Resource.VertexStreams
import GpuRecorder.Proofs.Ar.PlaneRecords
