import Offload.Session.Firmware

/-
  Steps on jobs and on metadata.

  Key definitions include:
    * `Session.createJob`
    * `Session.bindPlace`
    * `Session.lookUp`
    * `Session.applyFrame`
    * `Session.showFrame`
-/

namespace Offload

namespace Session

------------------------------------------------------------
-- Jobs
------------------------------------------------------------

/- Store a job and show it. -/
def storeJob
    (name : String)
    (j : Job) : Act Report := do
  store name (.job j)
  return .job j

/- Make a job without bindings. -/
def createJob
    (name : String)
    (domain : ComputeDomain)
    (id : RequestId) : Act Report :=
  storeJob name (Job.of domain id)

/- Make a job for a stage. -/
def createStageJob
    (name : String)
    (c : StageConfig)
    (id : RequestId) : Act Report :=
  storeJob name (Job.ofConfig c id)

/- Change a job and show it. -/
def changeJob
    (job : String)
    (f : Job → Job) : Act Report := do
  let j ← find Kind.job job
  Op.modify (replace job (.job (f j)))
  return .job (f j)

/-
  Bind a place under a name. The direction asked for wins
  over the one of the binding itself.
-/
def bindPlace
    (job name : String)
    (place : Place)
    (size : Nat)
    (direction own : Direction) : Act Report := do
  let _ ← find Kind.job job
  let addr ← address place
  changeJob job fun j =>
    j.bind name ⟨addr, size, own⟩ direction

/- Bind the segments of a buffer as outputs. -/
def bindBuffer
    (job buffer : String) : Act Report := do
  let _ ← find Kind.job job
  let b ← find Kind.buffer buffer
  changeJob job fun j => j.bindOutputs b

/- Give a job another timeout. -/
def setJobTimeout
    (job : String)
    (timeout : Duration) : Act Report :=
  changeJob job fun j => { j with timeout := timeout }

/- Give a job another payload. -/
def setJobPayload
    (job : String)
    (payload : Payload) : Act Report :=
  changeJob job fun j => { j with payload := payload }

/- What a job has under a name. -/
def lookUp
    (job name : String) : Act Report := do
  let j ← find Kind.job job
  return .lookup j name

------------------------------------------------------------
-- Metadata
------------------------------------------------------------

/- Make a record without fields. -/
def createMetadata
    (name : String) : Act Report := do
  store name (.metadata Metadata.empty)
  return .done

/- Change a record. -/
def changeMetadata
    (record : String)
    (f : Metadata → Metadata) : Act Unit := do
  let m ← find Kind.metadata record
  Op.modify (replace record (.metadata (f m)))

/- Give a key of a record a value. -/
def setField
    (record key : String)
    (value : MetadataValue) : Act Report := do
  changeMetadata record fun m => m.set key value
  return .done

/- The value of a key of a record. -/
def getField
    (record key : String) : Act Report := do
  let m ← find Kind.metadata record
  return .optional .metadataValue (m.get? key)

/- Remove a key of a record and show its value. -/
def removeField
    (record key : String) : Act Report := do
  let shown ← getField record key
  changeMetadata record fun m => m.remove key
  return shown

/- The fields of a record in order. -/
def listFields
    (record : String) : Act Report := do
  let m ← find Kind.metadata record
  return .list .metadataField m.fields

/-
  Write a frame into a record. A place gives the frame
  another buffer.
-/
def applyFrame
    (record : String)
    (f : FrameMeta)
    (place : Option Place) : Act Report := do
  let f ← match place with
    | none => Op.pure f
    | some p => do
      let addr ← address p
      Op.pure
        { f with bufferId := (UInt64.ofNat addr).toInt64 }
  changeMetadata record fun m => f.applyTo m
  return .done

/- Read a frame from a record. -/
def showFrame
    (record : String)
    (node : Option String) : Act Report := do
  let m ← find Kind.metadata record
  let f ← failing (Op.ofExcept (FrameMeta.ofMetadata m))
  return .frame f node

end Session

end Offload
