import Offload.Session.Dispatchers

/-
  Steps on files, on what was recorded, and the description
  of objects in one line.

  Key definitions include:
    * `Session.saveFile`
    * `Session.takeLogs`
    * `Session.recordStage`
    * `Session.describe`
-/

namespace Offload

namespace Session

------------------------------------------------------------
-- Files
------------------------------------------------------------

/-
  Change the files. A change that is refused says that the
  path is of no use.
-/
def changeFiles
    (f : FileTree → Except FileFault FileTree) :
    Act Report := do
  let s ← Op.get
  let files ← Op.ofExcept
    ((f s.machine.files).mapError fun _ =>
      Fault.badInput "path")
  onMachine (Op.modify fun m => { m with files := files })
  return .done

/- Give a file a content. -/
def saveFile
    (path : String)
    (bytes : Bytes) : Act Report :=
  changeFiles fun t => t.write path bytes

/- Make a directory. -/
def makeDirectory
    (path : String) : Act Report :=
  changeFiles fun t => t.makeDirectory path

/- The content of a file, if it can be read. -/
def showFile
    (path : String) : Act Report :=
  Op.gets fun s =>
    .optional .bytes (s.machine.files.read path).toOption

------------------------------------------------------------
-- Telemetry
------------------------------------------------------------

/- All that was recorded. -/
def telemetry : Lens Session Telemetry :=
  ⟨fun s => s.machine.platform.telemetry,
   fun t s =>
     { s with machine := { s.machine with
         platform := { s.machine.platform with
           telemetry := t } } }⟩

/- The recorded metrics. -/
def showMetrics : Act Report :=
  Op.within telemetry
    (Op.gets fun t => .metrics t.metrics)

/- Take the log events, or of them those that alarm. -/
def takeLogs
    (everything : Bool) : Act Report := do
  let es ← Op.within telemetry (Op.update Telemetry.takeEvents)
  return .list .logEvent
    (es.filter fun e => everything || e.level.isAlarming)

/- Take the spans. -/
def takeSpans : Act Report := do
  let ss ← Op.within telemetry (Op.update Telemetry.takeSpans)
  return .list .span ss

/- The metrics of a stage in one line. -/
def describeStageMetrics
    (node : String)
    (domain : ComputeDomain) : String :=
  Description.record "StageMetrics"
    [("node", Quoted.encode node),
     ("domain", domain.describe)]

/-
  Count a job of a stage that was posted, one that was
  completed and one that failed.
-/
def recordStage
    (node : String)
    (domain : ComputeDomain)
    (cause : DispatchError) : Act Report := do
  onMachine (do
    Machine.count (.jobsDispatched domain node)
    Machine.count (.jobDuration domain node)
    Machine.count (.jobFailures domain node cause))
  return .record
    [("node", .text node),
     ("debug", .text (describeStageMetrics node domain))]

------------------------------------------------------------
-- Descriptions
------------------------------------------------------------

/- An engine in one line, if it has a worker. -/
def describeEngine : Engine → Option String
  | .worker w => some w.describe
  | .manual _ => none

/- A transport in one line, if it is a channel. -/
def describeTransport : Transport → Option String
  | .channel _ => some Channel.describe
  | .scripted _ => none

/- A buffer of a pool in one line. -/
def describePooled
    (m : Machine)
    (pool : Nat)
    (b : Buffer) : Option String :=
  (m.pools.get? pool).map fun p => p.describeBuffer b

/- An object in one line, if it can be described. -/
def describeObject
    (m : Machine) : Object → Option String
  | .handle h => some h.describe
  | .buffer b => some b.describe
  | .pooled pool b => describePooled m pool b
  | .pool key => (m.pools.get? key).map Pool.describe
  | .cache key => (m.caches.get? key).map IdCache.describe
  | .board key => (m.boards.get? key).map Board.describe
  | .ticket t => some t.describe
  | .engine key =>
    (m.engines.get? key).bind describeEngine
  | .firmware f => some f.describe
  | .transport key =>
    (m.transports.get? key).bind describeTransport
  | .dispatcher .overTransport d => some d.describe
  | .dispatcher .overScript d => some d.describe
  | .stage r => some (StageResources.describe m r)
  | _ => none

/- A named object in one line. -/
def describe
    (name : String) : Act Report := do
  let o ← find Kind.any name
  let s ← Op.get
  let text ← Op.ofOption (.noObject (some name))
    (describeObject s.machine o)
  return .text text

end Session

end Offload
