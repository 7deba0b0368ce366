import Offload.Dispatch.Dispatcher
import Offload.Metadata.Frame

/-
  Values as they are shown to a caller.

  Key definitions include:
    * `Report`
    * `Report.error`
    * `Report.buffer`
    * `Report.job`
    * `Report.config`
-/

namespace Offload

/- A tree of named values. -/
inductive Report where
  | absent
  | flag (b : Bool)
  | number (n : Int)
  | text (s : String)
  | items (rs : List Report)
  | record (fs : List (String × Report))

namespace Report

------------------------------------------------------------
-- Plain Values
------------------------------------------------------------

/- Nothing to say. -/
def done : Report :=
  .text "ok"

/- A count, size or address. -/
def nat
    (n : Nat) : Report :=
  .number n

/- A 64-bit number. -/
def long
    (n : UInt64) : Report :=
  .number n.toNat

/- A status code. -/
def status
    (s : Status) : Report :=
  .number s.toInt

/- A value that may be missing. -/
def optional
    {α : Type}
    (show_ : α → Report)
    (a : Option α) : Report :=
  match a with
  | some x => show_ x
  | none => .absent

/- Values in order. -/
def list
    {α : Type}
    (show_ : α → Report)
    (xs : List α) : Report :=
  .items (xs.map show_)

/- Texts in order. -/
def texts
    (xs : List String) : Report :=
  list .text xs

/- Bytes as digits. -/
def bytes
    (bs : Bytes) : Report :=
  .text (Hex.ofBytes bs)

/- A time span. -/
def duration
    (d : Duration) : Report :=
  if d = Duration.max then .text "max"
  else .record [("ns", nat d.nanos)]

------------------------------------------------------------
-- Failures
------------------------------------------------------------

/- An error. -/
def error
    (e : Error) : Report :=
  .record
    ([("error", .text e.kind), ("message", .text e.message)]
      ++ match e.dispatch? with
         | some cause => [("dispatch", .text cause.label)]
         | none => [])

/- A failure of a domain. -/
def dispatchError
    (e : DispatchError) : Report :=
  .record
    [("error", .text "DispatchError"),
     ("dispatch", .text e.label),
     ("message", .text e.message)]

/- A failure of a domain with its code. -/
def statusEntry
    (e : DispatchError) : Report :=
  .record
    [("kind", .text e.label),
     ("errno", status e.status),
     ("message", .text e.message)]

/- A value or the error in its place. -/
def orError
    {α : Type}
    (show_ : α → Report)
    (r : Except Error α) : Report :=
  match r with
  | .ok a => show_ a
  | .error e => error e

/- A value or the failure in its place. -/
def orDispatchError
    {α : Type}
    (show_ : α → Report)
    (r : Except DispatchError α) : Report :=
  match r with
  | .ok a => show_ a
  | .error e => dispatchError e

------------------------------------------------------------
-- Placement
------------------------------------------------------------

/- The bits of flags. -/
def flags
    (f : MemoryFlags) : Report :=
  nat f.bits.toNat

/- A placement hint. -/
def hint
    (h : PlacementHint) : Report :=
  .record
    [("target", .text h.target.name),
     ("cache", .text h.cache.name),
     ("memory_type", .text h.targetText),
     ("memory_flag", .text h.cacheText),
     ("bits", flags h.flags)]

------------------------------------------------------------
-- Memory
------------------------------------------------------------

/- A region. -/
def region
    (r : Region) : Report :=
  .record
    [("addr", nat r.addr),
     ("size", nat r.size),
     ("target", .text r.target.name),
     ("cache", .text r.cache.name)]

/- A mapping. -/
def mapping
    (m : Mapping) : Report :=
  .record
    [("len", nat m.length),
     ("offset", nat m.offset),
     ("empty", .flag m.isEmpty)]

/- A handle. -/
def handle
    (h : Handle) : Report :=
  .record
    [("addr", nat h.addr),
     ("id", nat h.addr),
     ("size", nat h.size),
     ("target", .text h.region.target.name),
     ("cache", .text h.region.cache.name),
     ("attached", .flag h.isAttached),
     ("mapped", .flag h.isMapped),
     ("vaddr", .flag h.isMapped)]

/- A segment of a buffer. -/
def segment
    (s : Segment) : Report :=
  .record
    [("name", .text s.name),
     ("addr", nat s.addr),
     ("size", nat s.size),
     ("mapped", .flag s.handle.isMapped)]

/- A buffer. -/
def buffer
    (b : Buffer) : Report :=
  .record
    [("addr", nat b.addr),
     ("size", nat b.size),
     ("flags", flags b.flags),
     ("target", .text b.target.name),
     ("cache", .text b.cache.name),
     ("vaddr", .flag b.parent.handle.isMapped),
     ("parent", .text b.parent.name),
     ("names", texts b.names),
     ("segments", list segment b.segments)]

/- Where a buffer is. -/
def placeOf
    (b : Buffer) : Report :=
  .record [("addr", nat b.addr), ("size", nat b.size)]

/- A name with a size. -/
def spec
    (s : SegmentSpec) : Report :=
  .items [.text s.name, nat s.size]

/- The statistics of a pool. -/
def pool
    (p : Pool) : Report :=
  let s := p.stats
  .record
    [("min", nat s.least),
     ("max", nat s.most),
     ("allocated", nat s.allocated),
     ("available", nat s.available),
     ("in_use", nat s.inUse),
     ("acquisitions", nat s.acquisitions),
     ("waits", nat s.waits),
     ("active", .flag p.active),
     ("idle", nat p.available)]

/- A pool that was just made. -/
def freshPool
    (p : Pool) : Report :=
  .record
    [("name", .text p.plan.name),
     ("buffer_size", nat p.plan.bufferSize),
     ("layout", list spec p.plan.layout),
     ("flags", flags p.plan.flags),
     ("stats", pool p)]

/- The statistics of an id cache. -/
def cache
    (c : IdCache) : Report :=
  .record
    [("hits", nat c.hits),
     ("misses", nat c.misses),
     ("bypasses", nat c.bypasses),
     ("len", nat c.slots.count),
     ("empty", .flag (c.slots.count == 0)),
     ("capacity", nat c.slots.capacity)]

/- A resolved id with the handle it leads to. -/
def resolved
    (h : Handle)
    (isCached : Bool) : Report :=
  .record
    [("addr", nat h.addr),
     ("size", nat h.size),
     ("cached", .flag isCached),
     ("handle", handle h)]

/- The counters of a device. -/
def device
    (d : Device) : Report :=
  let c := d.counters
  .record
    [("allocs", nat c.allocs),
     ("frees", nat c.frees),
     ("attaches", nat c.attaches),
     ("detaches", nat c.detaches),
     ("maps", nat c.maps),
     ("unmaps", nat c.unmaps),
     ("invalidates", nat c.invalidates),
     ("flushes", nat c.flushes),
     ("live", nat d.liveCount)]

------------------------------------------------------------
-- Stages and Jobs
------------------------------------------------------------

/- An output layout. -/
def output
    (o : OutputLayout) : Report :=
  match o with
  | .single size => .record [("single", nat size)]
  | .segments specs =>
    .record [("segments", list spec specs)]

/- The sizes of a batch. -/
def batch
    (b : BatchShape) : List (String × Report) :=
  [("batch_size", nat b.batchSize),
   ("batch_model", nat b.batchModel),
   ("in_tensor_size", nat b.inSize),
   ("out_tensor_size", nat b.outSize)]

/- A configuration. -/
def config
    (c : StageConfig) : Report :=
  .record
    ([("name", .text c.node),
      ("domain", .text c.domain.name),
      ("next_domain", .text c.nextDomain.name),
      ("num_output_buffers", nat c.outputBuffers),
      ("output", output c.output),
      ("output_cache", .text c.outputCache.name),
      ("input_name", .text c.inputName),
      ("model_path", optional .text c.modelPath),
      ("graph_id", nat c.graph),
      ("timeout", duration c.timeout),
      ("debug_input", optional .text c.debugInput),
      ("dump_data", .flag c.dumps),
      ("dump_dir", .text c.dumpDir)]
      ++ batch c.batch)

/- A payload. -/
def payload
    (p : Payload) : Report :=
  match p with
  | .host => .record [("kind", .text "host")]
  | .vector graph requestType =>
    .record
      [("kind", .text "vector"),
       ("graph_id", nat graph),
       ("request_type", nat requestType)]
  | .accelerator model shape =>
    .record
      ([("kind", .text "accelerator"),
        ("model", optional long model)] ++ batch shape)

/- A binding. -/
def binding
    (b : Binding) : Report :=
  .record
    [("addr", nat b.addr),
     ("size", nat b.size),
     ("direction", .text b.direction.name)]

/- A binding with its name. -/
def namedBinding
    (b : NamedBinding) : Report :=
  .record
    [("name", .text b.name),
     ("addr", nat b.binding.addr),
     ("size", nat b.binding.size),
     ("direction", .text b.binding.direction.name)]

/- The id of a request. -/
def requestId
    (id : RequestId) : Report :=
  .text id.text

/- The name of a binding. -/
def bindingName
    (b : NamedBinding) : Report :=
  .text b.name

/- A job. -/
def job
    (j : Job) : Report :=
  .record
    [("domain", .text j.domain.name),
     ("request_id", requestId j.id),
     ("bindings", list namedBinding j.bindings),
     ("timeout", duration j.timeout),
     ("payload", payload j.payload),
     ("payload_domain", .text j.payload.domain.name),
     ("inputs", list bindingName j.inputs),
     ("outputs", list bindingName j.outputs),
     ("primary_input", optional bindingName j.primaryInput?),
     ("primary_output",
      optional bindingName j.primaryOutput?)]

/- What a job has under a name. -/
def lookup
    (j : Job)
    (name : String) : Report :=
  .record
    [("input", optional binding (j.input? name)),
     ("output", optional binding (j.output? name)),
     ("require_input",
      orError binding (j.require name .input)),
     ("require_output",
      orError binding (j.require name .output))]

/- A run of a model, as planned. -/
def modelRun
    (r : ModelRun) : Report :=
  .record
    [("kind", .text r.kind.name),
     ("samples", nat r.samples),
     ("inputs", list nat r.inputs),
     ("outputs", list nat r.outputs)]

------------------------------------------------------------
-- Messages
------------------------------------------------------------

/- An argument of a message. -/
def param
    (p : Param) : Report :=
  match p with
  | .word n => .record [("u32", nat n.toNat)]
  | .long n => .record [("u64", long n)]
  | .bytes b => .record [("bytes", bytes b)]
  | .addrs as => .record [("addrs", list long as)]

/- What an argument is taken as. -/
def paramViews
    (p : Param) : Report :=
  .record
    [("as_u32", optional (fun n => nat n.toNat) p.word?),
     ("as_u64", optional long p.long?),
     ("as_bytes", optional bytes p.bytes?),
     ("as_addr_list", optional (list long) p.addrs?)]

/- The fields of a request. -/
def requestFields
    (r : Request) : List (String × Report) :=
  [("seq", long r.seq),
   ("domain", .text r.domain.name),
   ("opcode", .text r.opcode.name),
   ("params", list param r.params)]

/- A request. -/
def request
    (r : Request) : Report :=
  .record (requestFields r)

/- A request with the time its client would wait. -/
def asked
    (a : Asked) : Report :=
  .record
    (requestFields a.request
      ++ [("timeout", duration a.timeout)])

/- A response. -/
def response
    (r : Response) : Report :=
  .record
    [("seq", long r.seq),
     ("status", status r.status),
     ("outputs", list param r.outputs)]

/- A run of a model, as made. -/
def runRecord
    (r : RunRecord) : Report :=
  .record
    [("opcode", .text r.opcode.name),
     ("model", long r.model),
     ("samples", nat r.samples),
     ("inputs", list long r.inputs),
     ("outputs", list long r.outputs)]

/- The runs that firmware made. -/
def runs
    (f : Firmware) : Report :=
  .record
    [("len", nat f.log.length),
     ("empty", .flag f.log.isEmpty),
     ("runs", list runRecord f.log.reverse)]

/- A request to an engine. -/
def engineRequest
    (r : EngineRequest) : Report :=
  match r with
  | .host h =>
    .record [("host", .record
      [("request_id", requestId h.id),
       ("node", .text h.node),
       ("bindings", list namedBinding h.bindings)])]
  | .vector v =>
    .record [("vector", .record
      [("request_id", requestId v.id),
       ("graph_id", nat v.graph),
       ("input", binding v.input),
       ("output", binding v.output),
       ("aux", list namedBinding v.aux),
       ("request_type", nat v.requestType)])]

------------------------------------------------------------
-- Metadata
------------------------------------------------------------

/- A value of a record. -/
def metadataValue
    (v : MetadataValue) : Report :=
  match v with
  | .string s => .record [("string", .text s)]
  | .int n => .record [("int", .number n.toInt)]
  | .uint n => .record [("uint", long n)]
  | .bool b => .record [("bool", .flag b)]

/- A field of a record. -/
def metadataField
    (f : MetadataField) : Report :=
  .items [.text f.key, metadataValue f.value]

/- A frame, with the id of a stage's job on it. -/
def frame
    (f : FrameMeta)
    (node : Option String) : Report :=
  .record
    ([("buffer_id", .number f.bufferId.toInt),
      ("buffer_name", .text f.bufferName),
      ("buffer_offset", .number f.bufferOffset.toInt),
      ("frame_id", .number f.frameId.toInt),
      ("stream_id", .text f.streamId),
      ("timestamp", long f.timestamp),
      ("pcie_buffer_id",
       optional (fun n => .number n.toInt) f.pcieBufferId),
      ("buffer_id_unsigned", long f.bufferAddress)]
      ++ match node with
         | some n =>
           [("request_id", requestId (f.requestId n))]
         | none => [])

------------------------------------------------------------
-- Telemetry
------------------------------------------------------------

/- Named texts. -/
def fieldTexts
    (fs : List (String × String)) : Report :=
  .record (fs.map fun f => (f.1, .text f.2))

/- A log event. -/
def logEvent
    (e : LogEvent) : Report :=
  .record
    [("level", .text e.level.name),
     ("message", .text e.message),
     ("fields", fieldTexts e.fields)]

/- A span. -/
def span
    (s : Span) : Report :=
  .record
    [("span", .text s.name),
     ("level", .text s.level.name),
     ("fields", fieldTexts s.fields)]

/- Recorded values by meter. -/
def metrics
    (m : Metrics) : Report :=
  .record (m.entries.map fun e => (e.1.key, nat e.2))

end Report

end Offload
