import Offload.Session.Jobs

/-
  Steps on dispatchers, on runtimes without one, and on the
  resources of stages.

  Key definitions include:
    * `Session.BackendRef`
    * `Session.createDispatcher`
    * `Session.scriptDispatcher`
    * `Session.onDispatcher`
    * `Session.createRuntime`
    * `Session.prepareStage`
-/

namespace Offload

namespace Session

variable {α : Type}

------------------------------------------------------------
-- Creating
------------------------------------------------------------

/- A backend by the name of its engine or transport. -/
inductive BackendRef where
  | host (engine : String)
  | vector (engine : String)
  | accelerator (transport : String)

/- The backend that is meant. -/
def backend : BackendRef → Act Backend
  | .host name => do
    let key ← find Kind.engine name
    return .host key
  | .vector name => do
    let key ← find Kind.engine name
    return .vector key
  | .accelerator name => do
    let key ← find Kind.transport name
    return .accelerator key

/- Make a dispatcher over a backend. -/
def createDispatcher
    (name : String)
    (c : StageConfig)
    (ref : BackendRef) : Act Report := do
  let b ← backend ref
  let d ← act (Dispatcher.overBackend c b)
  store name (.dispatcher .overBackend d)
  return .record [("backend", .text b.describe)]

/- Make a dispatcher over a transport. -/
def createOverTransport
    (name : String)
    (c : StageConfig)
    (transport : String) : Act Report := do
  let key ← find Kind.transport transport
  let d ← act (Dispatcher.create c
    (AnyRuntime.accelerator (AcceleratorRuntime.create key)))
  store name (.dispatcher .overTransport d)
  return .done

/- Make a dispatcher over a script. -/
def scriptDispatcher
    (name : String)
    (c : StageConfig)
    (domain : ComputeDomain)
    (script : RuntimeScript) : Act Report := do
  let d ← act (Dispatcher.create c
    (AnyRuntime.scripted
      (ScriptedRuntime.create domain script)))
  store name (.dispatcher .overScript d)
  return .done

------------------------------------------------------------
-- Running
------------------------------------------------------------

/- Run on a dispatcher. -/
def onDispatcher
    (dispatcher : String)
    (x : Op Error (Dispatcher AnyRuntime × Machine) α) :
    Act α :=
  edit Kind.dispatcher dispatcher (failing x)

/- Initialize a dispatcher. -/
def initDispatcher
    (dispatcher : String) : Act Report := do
  onDispatcher dispatcher Dispatcher.init
  return .done

/- Finalize a dispatcher. -/
def finishDispatcher
    (dispatcher : String) : Act Report := do
  onDispatcher dispatcher Dispatcher.fini
  return .done

/- Post a job. -/
def postJob
    (dispatcher job : String) : Act Report := do
  let j ← find Kind.job job
  let id ← onDispatcher dispatcher (Dispatcher.post j)
  return .requestId id

/- Wait for the job that was posted. -/
def waitForJob
    (dispatcher : String)
    (id : RequestId) : Act Report := do
  let id ← onDispatcher dispatcher (Dispatcher.waitDone id)
  return .requestId id

/- Post a job and wait for it. -/
def runJob
    (dispatcher job : String) : Act Report := do
  let j ← find Kind.job job
  let id ← onDispatcher dispatcher (Dispatcher.run j)
  return .requestId id

------------------------------------------------------------
-- Looking
------------------------------------------------------------

/- The statistics of a pool that may be missing. -/
def poolIn
    (m : Machine)
    (key : Option Nat) : Report :=
  .optional .pool (key.bind m.pools.get?)

/- What a dispatcher says of itself. -/
def showDispatcher
    (dispatcher : String) : Act Report := do
  let d ← find Kind.dispatcher dispatcher
  let s ← Op.get
  return .record
    [("node", .text d.config.node),
     ("domain", .text d.runtime.domain.name),
     ("state", .text d.state.name),
     ("config", .config d.config),
     ("pool", poolIn s.machine d.pool?),
     ("debug_input", .optional .buffer d.debugInput?)]

/- Make a job as the stage of a dispatcher runs it. -/
def createDispatcherJob
    (name dispatcher : String)
    (id : RequestId) : Act Report := do
  let d ← find Kind.dispatcher dispatcher
  storeJob name (d.makeJob id)

/- The status of the driver behind a dispatcher. -/
def driverStatus
    (dispatcher : String) : Act Report := do
  let r ← find Kind.accelerator dispatcher
  let status ← onMachine r.status.attempt
  return .record
    [("status", .orError (fun n => .nat n.toNat) status),
     ("model", .optional .long r.model),
     ("debug", .text r.describe)]

/- The calls that a scripted dispatcher made. -/
def runtimeCalls
    (dispatcher : String) : Act Report := do
  let r ← find Kind.scripted dispatcher
  return .list
    (fun c => .items
      [.text c.method, .optional .requestId c.id])
    r.calls

/- Put a loaded input in the place of the one before. -/
def setDebugInput
    (b : Buffer)
    (d : Dispatcher AnyRuntime) : Dispatcher AnyRuntime :=
  { d with resources := d.resources.map fun r =>
      { r with debugInput := some b } }

/- Map a loaded input and read it. -/
def readDebugInput
    (b : Buffer) :
    Op Error (Dispatcher AnyRuntime × Machine) Bytes := do
  let (result, b) ← Dispatcher.onMachine
    (Machine.onPlatform (Op.beside b Buffer.map))
  Dispatcher.change (setDebugInput b)
  Op.ofExcept result
  Dispatcher.onMachine
    (Machine.onPlatform (b.parent.handle.read 0 b.size))

/- What a loaded input says of itself, and its bytes. -/
def showDebugInput
    (dispatcher : String) : Act Report := do
  let d ← find Kind.dispatcher dispatcher
  match d.debugInput? with
  | none => return .absent
  | some b =>
    let bs ← onDispatcher dispatcher (readDebugInput b)
    return .record
      [("info", .buffer b), ("bytes", .bytes bs)]

/- Bind a loaded input to a job, if there is one. -/
def bindDebugInput
    (dispatcher job name : String) : Act Report := do
  let d ← find Kind.dispatcher dispatcher
  match d.debugInput? with
  | none => return .absent
  | some b =>
    changeJob job fun j =>
      j.bindInput name (.ofSegment b.parent .input)

------------------------------------------------------------
-- Runtimes
------------------------------------------------------------

/- Make a runtime without a dispatcher. -/
def createRuntime
    (name : String)
    (ref : BackendRef) : Act Report := do
  let b ← backend ref
  let r ← act b.runtime
  store name (.bare r)
  return .text r.domain.name

/- Run on a runtime without a dispatcher. -/
def onRuntime
    (runtime : String)
    (x : Op Error (AnyRuntime × Machine) Unit) :
    Act Report := do
  edit Kind.bare runtime (failing x)
  return .done

/- Open a runtime for a stage. -/
def initRuntime
    (runtime : String)
    (c : StageConfig) : Act Report :=
  onRuntime runtime (DomainRuntime.init c)

/- Start a job on a runtime. -/
def submitToRuntime
    (runtime job : String) : Act Report := do
  let j ← find Kind.job job
  onRuntime runtime (DomainRuntime.submit j)

/- Wait for a job on a runtime. -/
def completeOnRuntime
    (runtime job : String) : Act Report := do
  let j ← find Kind.job job
  onRuntime runtime (DomainRuntime.complete j)

/- Close a runtime. -/
def finishRuntime
    (runtime : String) : Act Report :=
  onRuntime runtime DomainRuntime.fini

------------------------------------------------------------
-- Stages
------------------------------------------------------------

/- Make the resources of a stage. -/
def prepareStage
    (name : String)
    (c : StageConfig) : Act Report := do
  let r ← act (StageResources.prepare c)
  store name (.stage r)
  let s ← Op.get
  return .record [("pool", poolIn s.machine r.pool)]

/- Run on the resources of a stage. -/
def onStage
    (stage : String)
    (x : Op Error (StageResources × Machine) α) : Act α :=
  edit Kind.stage stage (failing x)

/- Load the input of a stage and activate its pool. -/
def activateStage
    (stage : String) : Act Report := do
  onStage stage StageResources.activate
  return .done

/- Release the resources of a stage. -/
def releaseStage
    (stage : String) : Act Report := do
  onStage stage StageResources.release
  return .done

/- What the resources of a stage say of themselves. -/
def showStage
    (stage : String) : Act Report := do
  let r ← find Kind.stage stage
  let s ← Op.get
  return .record
    [("pool", poolIn s.machine r.pool),
     ("debug_input", .optional .buffer r.debugInput)]

/- Acquire an output buffer of a stage. -/
def acquireFromStage
    (name stage : String) : Act Report := do
  let r ← find Kind.stage stage
  let key ← Op.ofOption (.noObject (some stage)) r.pool
  let b ← onPool key Pool.tryAcquire
  keepGranted name key b

/- Dump the output of a job. -/
def dumpOutput
    (stage job : String) : Act Report := do
  let j ← find Kind.job job
  let r ← find Kind.stage stage
  let result ← onMachine (r.dump j).attempt
  return .record
    [("path", .optional .text (r.dumpPath? j)),
     ("result", .orError (fun _ => .done) result)]

end Session

end Offload
