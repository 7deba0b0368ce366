import Offload.Dispatch.Runtime
import Offload.Job.Batch

/-
  The accelerator domain: a job is cut into runs of a model,
  which are made one after the other over a transport. The
  last run is left for `complete` to wait for.

  Key definitions include:
    * `AcceleratorRuntime`
    * `AcceleratorRuntime.plan`
    * `AcceleratorRuntime.invoke`
-/

namespace Offload

/- A transport and the handles of driver and model. -/
structure AcceleratorRuntime where
  transport : Nat
  driver : Option UInt64
  model : Option UInt64
  timeout : Duration

namespace AcceleratorRuntime

/- A runtime that is not open. -/
def create
    (transport : Nat) : AcceleratorRuntime :=
  ⟨transport, none, none, StageConfig.jobTimeout⟩

/- Call the firmware. -/
def call
    (r : AcceleratorRuntime)
    (opcode : Opcode)
    (params : List Param)
    (timeout : Duration) :
    Op Error Machine (List Param) :=
  DomainRuntime.dispatched
    (Machine.call r.transport opcode params timeout)

/- The handle that outputs begin with. -/
def handleOf
    (outputs : List Param) : Except Error UInt64 :=
  match outputs.head?.bind Param.long? with
  | some h => .ok h
  | none => .error (.dispatch .messageLost)

------------------------------------------------------------
-- Opening and Closing
------------------------------------------------------------

/- Load a model and say so when that fails. -/
def loadModel
    (r : AcceleratorRuntime)
    (driver : UInt64)
    (path : String)
    (timeout : Duration) : Op Error Machine UInt64 := do
  match ← (Machine.call r.transport .loadModel
    [.long driver, .bytes (Utf8.encode path)]
    timeout).attempt
  with
  | .ok outputs => Op.ofExcept (handleOf outputs)
  | .error cause =>
    Machine.log .warn "loading model failed"
      [("path", path), ("error", cause.message)]
    Op.fail (.dispatch cause)

/- Open the driver and load the model of a stage. -/
def init
    (c : StageConfig) :
    Op Error (AcceleratorRuntime × Machine) Unit := do
  DomainRuntime.change fun r : AcceleratorRuntime =>
    { r with timeout := c.timeout }
  let path ← Op.ofOption
    (.configMismatch (c.subject ++ " has no model"))
    c.modelPath
  let (r, _) ← Op.get
  let outputs ← DomainRuntime.onMachine
    (r.call .getHandle [] c.timeout)
  let driver ← Op.ofExcept (handleOf outputs)
  let model ← DomainRuntime.onMachine
    (r.loadModel driver path c.timeout)
  DomainRuntime.change fun r : AcceleratorRuntime =>
    { r with driver := some driver, model := some model }
  DomainRuntime.onMachine
    (Machine.log .debug "model loaded"
      [("driver", toString driver.toNat),
       ("model", toString model.toNat),
       ("path", path)])

/- Forget the handles of driver and model. -/
def fini :
    Op Error (AcceleratorRuntime × Machine) Unit := do
  let (r, _) ← Op.get
  match r.driver, r.model with
  | some driver, some model =>
    DomainRuntime.change fun r : AcceleratorRuntime =>
      { r with driver := none, model := none }
    DomainRuntime.onMachine
      (Machine.log .debug "accelerator closed"
        [("driver", toString driver.toNat),
         ("model", toString model.toNat)])
  | _, _ =>
    DomainRuntime.change fun r : AcceleratorRuntime =>
      { r with driver := none, model := none }

/- Ask the driver for its status. -/
def status
    (r : AcceleratorRuntime) : Op Error Machine UInt32 := do
  if r.driver.isNone then
    Op.fail (.dispatch .driverHandle)
  else
    let outputs ← r.call .getStatus [] r.timeout
    Op.ofOption (.dispatch .messageLost)
      (outputs.head?.bind Param.word?)

------------------------------------------------------------
-- Planning
------------------------------------------------------------

/- A job that cannot be planned, and the entry about it. -/
structure Refusal where
  cause : DispatchError
  event : Option LogEvent

/- A job refused as malformed, with an entry. -/
def malformed
    (message : String)
    (fields : List (String × String)) : Refusal :=
  ⟨.malformedJob, some ⟨.debug, message, fields⟩⟩

/- The runs of a batch between two bindings. -/
def planBatch
    (shape : BatchShape)
    (input output : Binding) :
    Except Refusal (List ModelRun) :=
  let spec : BatchSpec := ⟨shape, input.addr, output.addr⟩
  match spec.inputBytes, spec.outputBytes with
  | some needIn, some needOut =>
    if input.size < needIn ∨ output.size < needOut then
      .error (malformed
        "accelerator buffers smaller than the batch"
        [("input", toString input.size),
         ("needed_input", toString needIn),
         ("output", toString output.size),
         ("needed_output", toString needOut)])
    else
      match spec.plan with
      | .ok runs => .ok runs
      | .error cause => .error ⟨cause, none⟩
  | _, _ =>
    .error (malformed "accelerator batch size overflows"
      [("batch_size", toString shape.batchSize),
       ("in_tensor_size", toString shape.inSize),
       ("out_tensor_size", toString shape.outSize)])

/- The model of a job and the runs it takes. -/
def plan
    (r : AcceleratorRuntime)
    (job : Job) :
    Except Refusal (UInt64 × List ModelRun) :=
  match job.payload with
  | .accelerator model shape =>
    match model <|> r.model with
    | none => .error ⟨.driverHandle, none⟩
    | some model =>
      match job.primaryInput?, job.primaryOutput? with
      | some input, some output =>
        (planBatch shape input.binding output.binding).map
          fun runs => (model, runs)
      | _, _ =>
        .error (malformed
          "accelerator job needs an input and an output" [])
  | _ => .error ⟨.malformedJob, none⟩

------------------------------------------------------------
-- Running
------------------------------------------------------------

/- The request for a run of a model. -/
def runRequest
    (model : UInt64)
    (run : ModelRun) :
    Except DispatchError (Opcode × List Param) :=
  let ins := Param.addrs (run.inputs.map UInt64.ofNat)
  let outs := Param.addrs (run.outputs.map UInt64.ofNat)
  match run.kind with
  | .single => .ok (.runModel, [.long model, ins, outs])
  | .native =>
    if run.samples < 0x1_0000_0000 then
      .ok (.runBatchModel,
        [.long model, .word (UInt32.ofNat run.samples),
         ins, outs])
    else
      .error .invalidArgument

/- Start a run of a model. -/
def invoke
    (r : AcceleratorRuntime)
    (model : UInt64)
    (timeout : Duration)
    (run : ModelRun) : Op Error Machine Unit := do
  match runRequest model run with
  | .error cause => Op.fail (.dispatch cause)
  | .ok (opcode, params) =>
    Machine.log .trace "running model"
      [("opcode", opcode.name),
       ("samples", toString run.samples)]
    let _ ← r.call opcode params timeout
    return ()

/- Wait for the run that was started last. -/
def await
    (r : AcceleratorRuntime)
    (timeout : Duration) : Op Error Machine Unit := do
  let _ ← r.call .waitDone [] timeout
  return ()

/- Make runs in order; the last one is not waited for. -/
def invokeAll
    (r : AcceleratorRuntime)
    (model : UInt64)
    (timeout : Duration) :
    List ModelRun → Op Error Machine Unit
  | [] => Op.fail (.dispatch .malformedJob)
  | [last] => r.invoke model timeout last
  | run :: rest => do
    r.invoke model timeout run
    r.await timeout
    invokeAll r model timeout rest

/- Make the runs of a job. -/
def submit
    (job : Job) :
    Op Error (AcceleratorRuntime × Machine) Unit := do
  let (r, _) ← Op.get
  match r.plan job with
  | .error refusal =>
    DomainRuntime.onMachine (Machine.logMaybe refusal.event)
    Op.fail (.dispatch refusal.cause)
  | .ok (model, runs) =>
    DomainRuntime.onMachine
      (r.invokeAll model job.timeout runs)

/- Wait for the last run of a job. -/
def complete
    (job : Job) :
    Op Error (AcceleratorRuntime × Machine) Unit := do
  let (r, _) ← Op.get
  DomainRuntime.onMachine (r.await job.timeout)

instance : DomainRuntime AcceleratorRuntime where
  domain := fun _ => .accelerator
  init := init
  submit := submit
  complete := complete
  fini := fini

/- A handle in one line. -/
def describeHandle
    (h : UInt64) : String :=
  toString h.toNat

/- The runtime in one line. -/
def describe
    (r : AcceleratorRuntime) : String :=
  Description.openRecord "AcceleratorRuntime"
    [("driver", Description.option describeHandle r.driver),
     ("model", Description.option describeHandle r.model)]

end AcceleratorRuntime

end Offload
