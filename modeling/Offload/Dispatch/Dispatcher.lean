import Offload.Dispatch.Runtime.Any

/-
  The dispatcher of a stage.

  A dispatcher is initialized once, then takes one job at a
  time, which is waited for before the next one, and is
  finalized once. It holds the stage's resources from its
  initialization to its end.

  Key definitions include:
    * `DispatcherState`
    * `Dispatcher`
    * `Dispatcher.create`
    * `Dispatcher.init`
    * `Dispatcher.post`
    * `Dispatcher.waitDone`
    * `Dispatcher.fini`
    * `Dispatcher.overBackend`
-/

namespace Offload

------------------------------------------------------------
-- State
------------------------------------------------------------

/- Where a dispatcher is in its life. -/
inductive DispatcherState where
  | uninitialized
  | ready
  | posting
  | waiting
  | finalized
deriving DecidableEq

/- The name of a state. -/
def DispatcherState.name : DispatcherState → String
  | .uninitialized => "Uninitialized"
  | .ready => "Ready"
  | .posting => "Posting"
  | .waiting => "Waiting"
  | .finalized => "Finalized"

/-
  A dispatcher over a runtime `ρ`, with the job that was
  posted and not waited for yet.
-/
structure Dispatcher (ρ : Type) where
  config : StageConfig
  runtime : ρ
  resources : Option StageResources
  state : DispatcherState
  inFlight : Option Job

namespace Dispatcher

variable {ε ρ α : Type}

------------------------------------------------------------
-- Parts
------------------------------------------------------------

/- Change a dispatcher. -/
def change
    (f : Dispatcher ρ → Dispatcher ρ) :
    Op ε (Dispatcher ρ × Machine) Unit :=
  Op.within Lens.fst (Op.modify f)

/- Run on the machine of a dispatcher. -/
def onMachine
    (x : Op ε Machine α) :
    Op ε (Dispatcher ρ × Machine) α :=
  Op.within Lens.snd x

/- Run on the runtime of a dispatcher and the machine. -/
def onRuntime
    (x : Op ε (ρ × Machine) α) :
    Op ε (Dispatcher ρ × Machine) α :=
  Op.within
    ⟨fun s => (s.1.runtime, s.2),
     fun q s => ({ s.1 with runtime := q.1 }, q.2)⟩ x

/- The refusal of a call in the wrong state. -/
def invalid
    (d : Dispatcher ρ)
    (call : String) : Error :=
  .invalidState
    (call ++ " on " ++ d.config.subject ++ " in state "
      ++ d.state.name)

/- Record a span. -/
def span
    (s : Span) : Op ε Machine Unit :=
  Machine.onPlatform (Platform.record fun t => t.span s)

/- The span of the work for one job. -/
def jobSpan
    (node : String)
    (id : RequestId) : Span :=
  ⟨"job", .debug, [("node", node), ("request_id", id.text)]⟩

/- The span of the work of a stage. -/
def stageSpan
    (c : StageConfig) : Span :=
  ⟨"stage", .info,
    [("node", c.node), ("domain", c.domain.name)]⟩

/- Count a failure that a domain caused. -/
def noteFailure
    (e : Error) : Op ε (Dispatcher ρ × Machine) Unit := do
  let (d, _) ← Op.get
  match e.dispatch? with
  | none => Op.pure ()
  | some cause =>
    onMachine (Machine.count
      (.jobFailures d.config.domain d.config.node cause))

------------------------------------------------------------
-- Looking
------------------------------------------------------------

/- The output pool, while the dispatcher has one. -/
def pool?
    (d : Dispatcher ρ) : Option Nat :=
  d.resources.bind StageResources.pool

/- The loaded input, if there is one. -/
def debugInput?
    (d : Dispatcher ρ) : Option Buffer :=
  d.resources.bind StageResources.debugInput

/- A job as the stage runs it. -/
def makeJob
    (d : Dispatcher ρ)
    (id : RequestId) : Job :=
  Job.ofConfig d.config id

/- The dispatcher in one line. -/
def describe
    (d : Dispatcher ρ) : String :=
  Description.record "StageDispatcher"
    [("node", Quoted.encode d.config.node),
     ("domain", d.config.domain.describe),
     ("state", d.state.name)]

/- Whether a job is for the domain of a dispatcher. -/
def serves
    (d : Dispatcher ρ)
    (job : Job) : Bool :=
  job.domain == d.config.domain
    && job.payload.domain == d.config.domain

/- The refusal to wait for another job than the posted one. -/
def notInFlight
    (d : Dispatcher ρ)
    (id : RequestId) : Error :=
  .invalidState
    ("request " ++ id.text ++ " is not in flight on "
      ++ d.config.subject)

------------------------------------------------------------
-- Resources
------------------------------------------------------------

/- Dump the output of a job, if the stage dumps. -/
def dump
    (job : Job) : Op ε (Dispatcher ρ × Machine) Unit := do
  let (d, _) ← Op.get
  match d.resources with
  | none => Op.pure ()
  | some r =>
    (onMachine (r.dump job)).orElse fun e =>
      onMachine
        (Machine.log .warn "dumping output failed"
          [("error", e.message)])

/- Release the resources. -/
def releaseResources :
    Op ε (Dispatcher ρ × Machine) Unit := do
  let (d, _) ← Op.get
  change fun d => { d with resources := none }
  match d.resources with
  | none => Op.pure ()
  | some r => onMachine r.drop

/- End a dispatcher whose runtime is closed. -/
def finalize : Op ε (Dispatcher ρ × Machine) Unit := do
  releaseResources
  change fun d => { d with state := .finalized }
  onMachine (Machine.log .debug "dispatcher finalized" [])

variable [DomainRuntime ρ]

------------------------------------------------------------
-- Creating
------------------------------------------------------------

/-
  A dispatcher over a runtime, which must serve the domain
  of the configuration.
-/
def create
    (c : StageConfig)
    (runtime : ρ) : Op Error Machine (Dispatcher ρ) :=
  if DomainRuntime.domain runtime ≠ c.domain then
    Op.fail (.configMismatch
      (c.subject ++ " is configured for " ++ c.domain.name
        ++ " but its runtime serves "
        ++ (DomainRuntime.domain runtime).name))
  else do
    span (stageSpan c)
    return ⟨c, runtime, none, .uninitialized, none⟩

/-
  A dispatcher over a backend, which must lead to the domain
  of the configuration.
-/
def overBackend
    (c : StageConfig)
    (b : Backend) :
    Op Error Machine (Dispatcher AnyRuntime) :=
  if b.domain ≠ c.domain then
    Op.fail (.configMismatch
      (c.subject ++ " is configured for " ++ c.domain.name
        ++ " but was given a " ++ b.domain.name
        ++ " backend"))
  else do
    let runtime ← b.runtime
    create c runtime

------------------------------------------------------------
-- Initializing
------------------------------------------------------------

/-
  Activate the resources of a stage whose runtime is open.
  If that fails the runtime is closed again.
-/
def activate
    (r : StageResources) :
    Op Error (Dispatcher ρ × Machine) StageResources := do
  match ← onMachine (Op.beside r StageResources.activate) with
  | (.ok _, r) => return r
  | (.error e, r) =>
    (onRuntime DomainRuntime.fini).orElse fun close =>
      onMachine
        (Machine.log .warn "closing domain after failed init"
          [("error", close.message)])
    onMachine r.drop
    Op.fail e

/-
  Open the runtime and activate the resources. Resources
  that are not used in the end are released.
-/
def openDomain
    (r : StageResources) :
    Op Error (Dispatcher ρ × Machine) StageResources := do
  let (d, _) ← Op.get
  match ← (onRuntime
    (DomainRuntime.init d.config)).attempt
  with
  | .ok _ => activate r
  | .error e =>
    onMachine r.drop
    Op.fail e

/- Initialize a dispatcher. -/
def init : Op Error (Dispatcher ρ × Machine) Unit := do
  let (d, _) ← Op.get
  if d.state ≠ .uninitialized then
    Op.fail (d.invalid "init")
  else
    Op.ofExcept d.config.validate
    let r ← onMachine (StageResources.prepare d.config)
    let r ← openDomain r
    change fun d =>
      { d with resources := some r, state := .ready }
    onMachine (Machine.log .debug "dispatcher ready" [])

------------------------------------------------------------
-- Posting
------------------------------------------------------------

/- Submit a job to the runtime. -/
def submit
    (job : Job) :
    Op Error (Dispatcher ρ × Machine) RequestId := do
  let (d, _) ← Op.get
  onMachine (span (jobSpan d.config.node job.id))
  change fun d => { d with state := .posting }
  match ← (onRuntime (DomainRuntime.submit job)).attempt with
  | .error e =>
    change fun d => { d with state := .ready }
    onMachine
      (Machine.log .debug "post failed"
        [("error", e.message)])
    noteFailure e
    Op.fail e
  | .ok _ =>
    change fun d =>
      { d with inFlight := some job, state := .waiting }
    onMachine (Machine.count
      (.jobsDispatched d.config.domain d.config.node))
    return job.id

/- Post a job. -/
def post
    (job : Job) :
    Op Error (Dispatcher ρ × Machine) RequestId := do
  let (d, _) ← Op.get
  if d.state ≠ .ready then
    Op.fail (d.invalid "post")
  else if !d.serves job then
    noteFailure (.dispatch .malformedJob)
    Op.fail (.dispatch .malformedJob)
  else
    submit job

------------------------------------------------------------
-- Waiting
------------------------------------------------------------

/- Wait for the job that was posted. -/
def complete
    (job : Job) :
    Op Error (Dispatcher ρ × Machine) Unit := do
  let (d, _) ← Op.get
  change fun d => { d with inFlight := none }
  onMachine (span (jobSpan d.config.node job.id))
  let result ← (onRuntime
    (DomainRuntime.complete job)).attempt
  change fun d => { d with state := .ready }
  match result with
  | .error e =>
    onMachine
      (Machine.log .debug "job failed"
        [("error", e.message)])
    noteFailure e
    Op.fail e
  | .ok _ =>
    onMachine (Machine.count
      (.jobDuration d.config.domain d.config.node))
    dump job

/- Wait for the job with an id, which must be the posted one. -/
def waitDone
    (id : RequestId) :
    Op Error (Dispatcher ρ × Machine) RequestId := do
  let (d, _) ← Op.get
  if d.state ≠ .waiting then
    Op.fail (d.invalid "wait_done")
  else
    match d.inFlight with
    | none => Op.fail (d.notInFlight id)
    | some job =>
      if job.id ≠ id then
        Op.fail (d.notInFlight id)
      else
        complete job
        return id

/- Post a job and wait for it. -/
def run
    (job : Job) :
    Op Error (Dispatcher ρ × Machine) RequestId := do
  let id ← post job
  waitDone id

------------------------------------------------------------
-- Finalizing
------------------------------------------------------------

/- Close the runtime and end the dispatcher. -/
def fini : Op Error (Dispatcher ρ × Machine) Unit := do
  let (d, _) ← Op.get
  match d.state with
  | .uninitialized => finalize
  | .ready =>
    onRuntime DomainRuntime.fini
    finalize
  | _ => Op.fail (d.invalid "fini")

end Dispatcher

end Offload
