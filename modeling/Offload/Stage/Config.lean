import Offload.Duration
import Offload.Memory.Allocator
import Offload.Telemetry.Event

/-
  What a stage is told to do.

  Key definitions include:
    * `OutputLayout`
    * `BatchShape`
    * `StageConfig`
    * `StageConfig.fault`
    * `StageConfig.validate`
    * `StageConfig.outputBufferCount`
-/

namespace Offload

------------------------------------------------------------
-- Output Layouts
------------------------------------------------------------

/- The shape of each output buffer. -/
inductive OutputLayout where
  | single (size : Nat)
  | segments (specs : List SegmentSpec)
deriving DecidableEq

namespace OutputLayout

/- The bytes of one output buffer. -/
def totalSize : OutputLayout → Nat
  | .single size => size
  | .segments specs =>
    Word.saturatingSum (specs.map SegmentSpec.size)

/- Whether the segments are named. -/
def isSegmented : OutputLayout → Bool
  | .single _ => false
  | .segments _ => true

/- The sizes of the segments. -/
def sizes : OutputLayout → List Nat
  | .single size => [size]
  | .segments specs => specs.map SegmentSpec.size

/- The names of the segments, none for a single region. -/
def names : OutputLayout → List String
  | .single _ => []
  | .segments specs => specs.map SegmentSpec.name

end OutputLayout

------------------------------------------------------------
-- Configuration
------------------------------------------------------------

/-
  How many samples a job and one run of the model take, and
  the bytes of one sample.
-/
structure BatchShape where
  batchSize : Nat
  batchModel : Nat
  inSize : Nat
  outSize : Nat
deriving DecidableEq

/- The configuration of one stage. -/
structure StageConfig where
  node : String
  domain : ComputeDomain
  nextDomain : ComputeDomain
  outputBuffers : Nat
  output : OutputLayout
  outputCache : CachePolicy
  inputName : String
  modelPath : Option String
  batch : BatchShape
  graph : Nat
  timeout : Duration
  debugInput : Option String
  dumps : Bool
  dumpDir : String
deriving DecidableEq

namespace StageConfig

/- The least number of output buffers. -/
def leastBuffers : Nat :=
  2

/- The time a job may take unless told otherwise. -/
def jobTimeout : Duration :=
  Duration.ofSeconds 60

/- The binding that a vector stage reads by default. -/
def defaultInputName : String :=
  "ifm0"

/- The directory of dumps by default. -/
def defaultDumpDir : String :=
  "/tmp"

/- A configuration with nothing but a name and a domain. -/
def of
    (node : String)
    (domain : ComputeDomain) : StageConfig where
  node := node
  domain := domain
  nextDomain := .host
  outputBuffers := leastBuffers
  output := .single 0
  outputCache := .uncached
  inputName := defaultInputName
  modelPath := none
  batch := ⟨1, 1, 0, 0⟩
  graph := 0
  timeout := jobTimeout
  debugInput := none
  dumps := false
  dumpDir := defaultDumpDir

/- The number of buffers the output pool has. -/
def outputBufferCount
    (c : StageConfig) : Nat :=
  if c.outputBuffers < leastBuffers then leastBuffers
  else c.outputBuffers

/- The warning about too few output buffers, if it is due. -/
def bufferWarning
    (c : StageConfig) : Option LogEvent :=
  if c.outputBuffers < leastBuffers then
    some ⟨.warn, "too few output buffers requested",
      [("node", c.node),
       ("requested", toString c.outputBuffers),
       ("using", toString leastBuffers)]⟩
  else
    none

/- The target that output buffers live on. -/
def outputTarget
    (c : StageConfig) : MemoryTarget :=
  c.nextDomain.memoryTarget

/- The flags that output buffers are allocated with. -/
def outputFlags
    (c : StageConfig) : MemoryFlags :=
  MemoryFlags.of c.outputTarget c.outputCache

------------------------------------------------------------
-- Validation
------------------------------------------------------------

/- The stage as it is named in messages. -/
def subject
    (c : StageConfig) : String :=
  "stage '" ++ c.node ++ "'"

/-
  The first segment that is empty, has no name or the name
  of one before it.
-/
def badSegment? :
    List String → List SegmentSpec → Option SegmentSpec
  | _, [] => none
  | seen, spec :: rest =>
    if spec.size = 0 ∨ spec.name = ""
        ∨ seen.contains spec.name then
      some spec
    else
      badSegment? (spec.name :: seen) rest

/- What is wrong with the output layout. -/
def outputFault
    (c : StageConfig) : Option Error :=
  match c.output with
  | .single size =>
    if size = 0 then
      some (.invalidArgument
        (c.subject ++ " has a zero-sized output"))
    else
      none
  | .segments specs =>
    if specs.isEmpty then
      some (.invalidArgument
        (c.subject ++ " has an empty segment layout"))
    else
      match badSegment? [] specs with
      | some spec =>
        some (.invalidArgument
          (c.subject ++ " has an invalid output segment '"
            ++ spec.name ++ "'"))
      | none =>
        match Word.sum? (specs.map SegmentSpec.size) with
        | none =>
          some (.invalidArgument
            (c.subject ++ " output segments overflow"))
        | some _ => none

/- What is wrong with the batch sizes. -/
def batchFault
    (c : StageConfig) : Option Error :=
  if c.batch.batchSize = 0 ∨ c.batch.batchModel = 0 then
    some (.invalidArgument
      (c.subject ++ " has batch size "
        ++ toString c.batch.batchSize
        ++ " and model batch "
        ++ toString c.batch.batchModel))
  else
    none

/- What is wrong with the timeout. -/
def timeoutFault
    (c : StageConfig) : Option Error :=
  if c.timeout.isZero then
    some (.invalidArgument
      (c.subject ++ " has a zero timeout"))
  else
    none

/- What is wrong with an accelerator stage. -/
def acceleratorFault
    (c : StageConfig) : Option Error :=
  if c.domain ≠ .accelerator then
    none
  else if c.modelPath.isNone then
    some (.configMismatch
      ("accelerator " ++ c.subject ++ " has no model"))
  else
    match Word.mul? c.batch.batchSize c.batch.outSize with
    | none =>
      some (.invalidArgument
        (c.subject ++ " batch output size overflows"))
    | some needed =>
      if needed > c.output.totalSize then
        some (.configMismatch
          (c.subject ++ " outputs " ++ toString needed
            ++ " bytes per job into "
            ++ toString c.output.totalSize
            ++ "-byte buffers"))
      else
        none

/- What is wrong with a vector stage. -/
def vectorFault
    (c : StageConfig) : Option Error :=
  if c.domain = .vector ∧ c.inputName = "" then
    some (.configMismatch
      ("vector " ++ c.subject ++ " has no input name"))
  else
    none

/- The first thing that is wrong with a configuration. -/
def fault
    (c : StageConfig) : Option Error :=
  if c.node = "" then
    some (.invalidArgument "stage has no name")
  else
    c.outputFault
      <|> c.batchFault
      <|> c.timeoutFault
      <|> c.acceleratorFault
      <|> c.vectorFault

/- Refuse a configuration with something wrong. -/
def validate
    (c : StageConfig) : Except Error Unit :=
  match c.fault with
  | some e => .error e
  | none => .ok ()

end StageConfig

end Offload
