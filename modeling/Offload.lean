import Offload.Archive.Sequence
import Offload.Archive.Text
import Offload.Archive.Window
import Offload.Bytes
import Offload.Dispatch.Board
import Offload.Dispatch.Dispatcher
import Offload.Dispatch.Engine
import Offload.Dispatch.Firmware
import Offload.Dispatch.Link
import Offload.Dispatch.Runtime
import Offload.Dispatch.Runtime.Accelerator
import Offload.Dispatch.Runtime.Any
import Offload.Dispatch.Runtime.Host
import Offload.Dispatch.Runtime.Scripted
import Offload.Dispatch.Runtime.Vector
import Offload.Dispatch.Transport
import Offload.Dispatch.Upcase
import Offload.Domain
import Offload.Duration
import Offload.Error
import Offload.Files
import Offload.Job
import Offload.Job.Batch
import Offload.Job.Binding
import Offload.Job.RequestId
import Offload.Machine
import Offload.Machine.Channels
import Offload.Machine.Engines
import Offload.Memory.Allocator
import Offload.Memory.Backing
import Offload.Memory.Buffer
import Offload.Memory.Device
import Offload.Memory.FaultPlan
import Offload.Memory.Flags
import Offload.Memory.Handle
import Offload.Memory.IdCache
import Offload.Memory.Platform
import Offload.Memory.Pool
import Offload.Memory.Region
import Offload.Memory.Registry
import Offload.Memory.View
import Offload.Metadata
import Offload.Metadata.Codec
import Offload.Metadata.Frame
import Offload.Op
import Offload.Proofs.Archive.Contents
import Offload.Proofs.Archive.Lists
import Offload.Proofs.Archive.Sizes
import Offload.Proofs.Archive.Texts
import Offload.Proofs.Archive.Visited
import Offload.Proofs.Dispatch.Answers
import Offload.Proofs.Dispatch.BatchPlans
import Offload.Proofs.Dispatch.BoardBalance
import Offload.Proofs.Dispatch.BoardSlots
import Offload.Proofs.Dispatch.Completions
import Offload.Proofs.Dispatch.CopyCustody
import Offload.Proofs.Dispatch.CopyJobs
import Offload.Proofs.Dispatch.Delivery
import Offload.Proofs.Dispatch.DispatcherMoves
import Offload.Proofs.Dispatch.EngineRuntimes
import Offload.Proofs.Dispatch.FailedInits
import Offload.Proofs.Dispatch.FirmwareAnswers
import Offload.Proofs.Dispatch.FirmwareHistory
import Offload.Proofs.Dispatch.JobAccounts
import Offload.Proofs.Dispatch.JobCalls
import Offload.Proofs.Dispatch.JobMeters
import Offload.Proofs.Dispatch.LateCompletion
import Offload.Proofs.Dispatch.Lifecycle
import Offload.Proofs.Dispatch.PlanShapes
import Offload.Proofs.Dispatch.QuietCalls
import Offload.Proofs.Dispatch.RunCopies
import Offload.Proofs.Dispatch.RuntimeMoves
import Offload.Proofs.Dispatch.SampleCopies
import Offload.Proofs.Dispatch.Sending
import Offload.Proofs.Dispatch.SharedBoard
import Offload.Proofs.Dispatch.SharedLink
import Offload.Proofs.Dispatch.VectorRequests
import Offload.Proofs.Job.Bindings
import Offload.Proofs.Job.RequestIds
import Offload.Proofs.Machine.Background
import Offload.Proofs.Machine.BoardClients
import Offload.Proofs.Machine.BoardPosts
import Offload.Proofs.Machine.Calls
import Offload.Proofs.Machine.Custody
import Offload.Proofs.Machine.EngineMoves
import Offload.Proofs.Machine.Estate
import Offload.Proofs.Machine.EstateRuns
import Offload.Proofs.Machine.Exchanges
import Offload.Proofs.Machine.QuietTransports
import Offload.Proofs.Machine.RestingCalls
import Offload.Proofs.Machine.ServiceMoves
import Offload.Proofs.Machine.Serving
import Offload.Proofs.Memory.Accounts
import Offload.Proofs.Memory.Allocations
import Offload.Proofs.Memory.BackedPool
import Offload.Proofs.Memory.Budgets
import Offload.Proofs.Memory.Buffers
import Offload.Proofs.Memory.CacheCustody
import Offload.Proofs.Memory.CacheLaw
import Offload.Proofs.Memory.CacheLeases
import Offload.Proofs.Memory.CacheLookups
import Offload.Proofs.Memory.Cursors
import Offload.Proofs.Memory.Custody
import Offload.Proofs.Memory.FailedGrowth
import Offload.Proofs.Memory.FileLayout
import Offload.Proofs.Memory.FlatMemory
import Offload.Proofs.Memory.Handles
import Offload.Proofs.Memory.Holders
import Offload.Proofs.Memory.Holdings
import Offload.Proofs.Memory.Loans
import Offload.Proofs.Memory.MappedPages
import Offload.Proofs.Memory.Placement
import Offload.Proofs.Memory.PlatformCalls
import Offload.Proofs.Memory.PlatformMoves
import Offload.Proofs.Memory.PoolBound
import Offload.Proofs.Memory.PoolGauge
import Offload.Proofs.Memory.PoolCustody
import Offload.Proofs.Memory.PoolLife
import Offload.Proofs.Memory.PoolOperations
import Offload.Proofs.Memory.Regions
import Offload.Proofs.Memory.SharedCache
import Offload.Proofs.Memory.SharedPool
import Offload.Proofs.Memory.SlotScans
import Offload.Proofs.Memory.SlotTable
import Offload.Proofs.Memory.Turns
import Offload.Proofs.Memory.ViewCalls
import Offload.Proofs.Memory.ViewedBuffer
import Offload.Proofs.Memory.Visits
import Offload.Proofs.Memory.WaitedPool
import Offload.Proofs.Memory.Wakeups
import Offload.Proofs.Metadata.Frames
import Offload.Proofs.Metadata.RoundTrip
import Offload.Proofs.Op
import Offload.Proofs.Run
import Offload.Proofs.Stage.Dumps
import Offload.Proofs.Stage.IdleResources
import Offload.Proofs.Stage.JobSizes
import Offload.Proofs.Stage.Layouts
import Offload.Proofs.Stage.ResourceMoves
import Offload.Proofs.Table
import Offload.Proofs.Telemetry
import Offload.Proofs.Wire.Enclosed
import Offload.Proofs.Wire.Frames
import Offload.Proofs.Wire.RoundTrip
import Offload.Report
import Offload.Report.Reference
import Offload.Session
import Offload.Session.Dispatchers
import Offload.Session.Engines
import Offload.Session.Firmware
import Offload.Session.Jobs
import Offload.Session.Memory
import Offload.Session.Observe
import Offload.Session.Pools
import Offload.Session.Transcript
import Offload.Stage.Config
import Offload.Stage.Resources
import Offload.Table
import Offload.Telemetry
import Offload.Telemetry.Event
import Offload.Telemetry.Meter
import Offload.Text.Description
import Offload.Text.Hex
import Offload.Text.Markless
import Offload.Text.Quoted
import Offload.Text.Utf8
import Offload.Wire.Message
import Offload.Wire.Param
import Offload.Word
