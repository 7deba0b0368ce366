import Offload.Metadata.Codec
import Offload.Metadata.Frame
import Offload.Report

/-
  Questions that need no state: names, limits, codecs and
  plans.

  Key definitions include:
    * `Reference.constants`
    * `Reference.meters`
    * `Reference.flags`
    * `Reference.config`
    * `Reference.plan`
-/

namespace Offload

namespace Reference

open Report

------------------------------------------------------------
-- Constants
------------------------------------------------------------

/- A memory target. -/
def targetEntry
    (t : MemoryTarget) : Report :=
  .items
    [.text t.name, .text t.name, nat t.index,
     Report.flags (MemoryFlags.ofTarget t)]

/- A cache policy. -/
def policyEntry
    (p : CachePolicy) : Report :=
  .items
    [.text p.name, .text p.name, .flag p.isCached,
     Report.flags (MemoryFlags.ofCache p)]

/- A compute domain. -/
def domainEntry
    (d : ComputeDomain) : Report :=
  .items
    [.text d.name, .text d.name, .text d.memoryTarget.name]

/- The limits of buffers, pools, caches and queues. -/
def limits : List Nat :=
  [SegmentSpec.maxCount,
   StageConfig.leastBuffers,
   Slots.maxCapacity,
   Worker.defaultDepth,
   Board.defaultDepth,
   Device.defaultCapacity .generic,
   Device.defaultCapacity .onChip,
   Device.defaultCapacity .scratch0,
   Device.defaultCapacity .vector]

/- Everything that is fixed. -/
def constants : Report :=
  .record
    [("dispatch_errors",
      list statusEntry DispatchError.all),
     ("targets", list targetEntry MemoryTarget.all),
     ("policies", list policyEntry CachePolicy.all),
     ("domains", list domainEntry ComputeDomain.all),
     ("all_flag_bits", Report.flags MemoryFlags.known),
     ("allocators",
      texts [Registry.contiguousName, Registry.segmentName]),
     ("query",
      texts [PlacementHint.queryName,
        PlacementHint.targetField,
        PlacementHint.cacheField]),
     ("metadata_keys", texts FrameMeta.keys),
     ("config",
      texts [StageConfig.defaultInputName,
        StageConfig.defaultDumpDir]),
     ("limits", list nat limits),
     ("parent_segment", .text SegmentSpec.parentName),
     ("job_timeout", duration StageConfig.jobTimeout)]

/- What each meter counts. -/
def meters : Report :=
  .record (MeterInfo.all.map fun m =>
    (m.name, texts [m.kind, m.unit, m.about]))

------------------------------------------------------------
-- Placement
------------------------------------------------------------

/- What flags ask for. -/
def flags
    (f : MemoryFlags) : Report :=
  let shared := f.inter MemoryFlags.known
  .record
    [("known", .flag (shared == f)),
     ("truncated", Report.flags shared),
     ("target", .text f.target.name),
     ("cache", .text f.cache.name),
     ("is_cached", .flag f.cache.isCached),
     ("hint", hint (PlacementHint.ofFlags f))]

/- The flags for a target and a policy. -/
def flagsFor
    (t : MemoryTarget)
    (p : CachePolicy) : Report :=
  .record
    [("bits", Report.flags (MemoryFlags.of t p)),
     ("union", Report.flags
       ((MemoryFlags.ofTarget t).union
         (MemoryFlags.ofCache p))),
     ("hint", hint ⟨t, p⟩)]

/- The domain with a name, or the refusal. -/
def domainNamed
    (name : String) : Except Error ComputeDomain :=
  match ComputeDomain.ofName? name with
  | some d => .ok d
  | none =>
    .error (.invalidArgument
      ("unknown compute domain '" ++ name ++ "'"))

/- What a name stands for. -/
def names
    (name : String) : Report :=
  .record
    [("target", optional (fun t => .text t.name)
       (MemoryTarget.ofName? name)),
     ("policy", optional (fun p => .text p.name)
       (CachePolicy.ofName? name)),
     ("domain", orError (fun d => .text d.name)
       (domainNamed name))]

/- The hint in a pair of fields. -/
def hintIn
    (targetText cacheText : String) : Report :=
  .record
    [("hint",
      hint (PlacementHint.ofFields targetText cacheText)),
     ("warnings", list logEvent
       (PlacementHint.warnings targetText cacheText))]

------------------------------------------------------------
-- Requests and Jobs
------------------------------------------------------------

/- A request id and its parts. -/
def requestId
    (id : RequestId) : Report :=
  .record
    [("id", long id.raw),
     ("text", Report.requestId id),
     ("frame", nat id.frame.toNat),
     ("stage_hash", nat id.stageHash.toNat)]

/- The runs of a batch. -/
def plan
    (s : BatchSpec) : Report :=
  .record
    [("input_bytes", optional nat s.inputBytes),
     ("output_bytes", optional nat s.outputBytes),
     ("plan", orDispatchError (list modelRun) s.plan)]

/- A configuration and what follows from it. -/
def config
    (c : StageConfig) : Report :=
  .record
    [("config", Report.config c),
     ("valid", orError (fun _ => done) c.validate),
     ("output_buffer_count", nat c.outputBufferCount),
     ("output_target", .text c.outputTarget.name),
     ("total_size", nat c.output.totalSize),
     ("segmented", .flag c.output.isSegmented),
     ("payload", payload (Payload.ofConfig c)),
     ("job", job (Job.ofConfig c ⟨7⟩)),
     ("warnings", list logEvent c.bufferWarning.toList)]

------------------------------------------------------------
-- Codecs
------------------------------------------------------------

/- An archive that cannot be made or read. -/
def archiveFault : Report :=
  .record [("error", .text "Archive")]

/- The archive of a record. -/
def encodeMetadata
    (m : Metadata) : Report :=
  match m.encode? with
  | some bs => bytes bs
  | none => archiveFault

/- The record in an archive. -/
def decodeMetadata
    (bs : Bytes) : Report :=
  match Metadata.decode? bs with
  | some m => list metadataField m.fields
  | none => archiveFault

end Reference

end Offload
