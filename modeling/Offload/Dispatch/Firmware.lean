import Offload.Duration
import Offload.Files
import Offload.Memory.Handle
import Offload.Text.Utf8
import Offload.Wire.Message

/-
  A simulated accelerator.

  The firmware hands out driver and model handles and keeps
  a log of the runs that succeeded. In copy mode a run
  copies each input sample to its output sample. The nth run
  can be made to fail; only requests that are well-formed
  count as runs.

  Key definitions include:
    * `RunRecord`
    * `Firmware`
    * `Firmware.consider`
    * `Firmware.execute`
    * `Firmware.handle`
-/

namespace Offload

------------------------------------------------------------
-- State
------------------------------------------------------------

/- A run of a model. -/
structure RunRecord where
  opcode : Opcode
  model : UInt64
  samples : Nat
  inputs : List UInt64
  outputs : List UInt64
deriving DecidableEq

/- The sizes of the samples that are copied. -/
structure CopyMode where
  inSize : Nat
  outSize : Nat
deriving DecidableEq

/- What is fixed about a simulated accelerator. -/
structure FirmwareSetup where
  copy : Option CopyMode
  failRun : Option (Nat × Status)
  delay : Option Duration

/-
  Handles given out, models by handle, the number of runs
  and the log of those that succeeded, newest first.
-/
structure Firmware where
  setup : FirmwareSetup
  nextHandle : Nat
  drivers : List UInt64
  models : List (UInt64 × String)
  runs : Nat
  log : List RunRecord

/-
  What a request comes to: an answer at once, or a run that
  is still to be made.
-/
inductive Decision where
  | answer (outputs : List Param)
  | run (record : RunRecord)

namespace Firmware

/- Firmware that was not asked for anything yet. -/
def fresh
    (setup : FirmwareSetup) : Firmware :=
  ⟨setup, 1, [], [], 0, []⟩

------------------------------------------------------------
-- Status Codes
------------------------------------------------------------

/- The parameters do not have the shape of the request. -/
def badShape : Status :=
  DispatchError.malformedJob.status

/- The driver handle was never given out. -/
def badDriver : Status :=
  DispatchError.driverHandle.status

/- A value has no meaning. -/
def badValue : Status :=
  DispatchError.invalidArgument.status

/- The model file does not exist. -/
def noFile : Status :=
  DispatchError.missingArtifact.status

------------------------------------------------------------
-- Decisions
------------------------------------------------------------

/- The handle to give out next. -/
def upcoming
    (f : Firmware) : UInt64 :=
  UInt64.ofNat f.nextHandle

/- Open the driver. -/
def openDriver
    (f : Firmware) : UInt64 × Firmware :=
  (f.upcoming,
   { f with
     nextHandle := f.nextHandle + 1
     drivers := f.upcoming :: f.drivers })

/- Enter a model. -/
def enterModel
    (path : String)
    (f : Firmware) : UInt64 × Firmware :=
  (f.upcoming,
   { f with
     nextHandle := f.nextHandle + 1
     models := (f.upcoming, path) :: f.models })

/- Whether a model has a handle. -/
def hasModel
    (f : Firmware)
    (model : UInt64) : Bool :=
  f.models.any fun m => m.1 == model

/- Load the model that the parameters of a request name. -/
def loadModel
    (files : FileTree)
    (params : List Param) :
    Op Status (Firmware × Platform) Decision := do
  let (f, _) ← Op.get
  match params with
  | [.long driver, .bytes bytes] =>
    if !f.drivers.contains driver then
      Op.fail badDriver
    else
      match Utf8.decode? bytes with
      | none => Op.fail badValue
      | some path =>
        if files.isFile path then
          let model ← Op.within Lens.fst
            (Op.update (enterModel path))
          return .answer [.long model]
        else
          Op.within Lens.snd
            (Platform.log .warn "model file not found"
              [("path", path)])
          Op.fail noFile
  | _ => Op.fail badShape

/- The run that the parameters of a request describe. -/
def runOf
    (opcode : Opcode)
    (params : List Param) : Option RunRecord :=
  match opcode, params with
  | .runModel, [.long model, .addrs ins, .addrs outs] =>
    some ⟨opcode, model, 1, ins, outs⟩
  | .runBatchModel,
    [.long model, .word samples, .addrs ins, .addrs outs] =>
    some ⟨opcode, model, samples.toNat, ins, outs⟩
  | _, _ => none

/- Whether a run has as many addresses as samples. -/
def isComplete
    (r : RunRecord) : Bool :=
  r.inputs.length == r.samples
    && r.outputs.length == r.samples

/- Count a run, if the request for it is well-formed. -/
def countRun
    (opcode : Opcode)
    (params : List Param)
    (f : Firmware) : Except Status (RunRecord × Firmware) :=
  match runOf opcode params with
  | none => .error badShape
  | some r =>
    if !f.hasModel r.model then
      .error badValue
    else if !isComplete r then
      .error badShape
    else
      .ok (r, { f with runs := f.runs + 1 })

/- Take a request up to the point where a run begins. -/
def consider
    (files : FileTree)
    (r : Request) :
    Op Status (Firmware × Platform) Decision :=
  match r.opcode with
  | .getHandle => do
    let driver ← Op.within Lens.fst (Op.update openDriver)
    return .answer [.long driver]
  | .loadModel => loadModel files r.params
  | .waitDone => Op.pure (.answer [])
  | .getStatus => do
    let (f, _) ← Op.get
    return .answer [.word 0, .long (UInt64.ofNat f.runs)]
  | opcode => do
    let record ← Op.within Lens.fst
      (Op.change (countRun opcode r.params))
    return .run record

------------------------------------------------------------
-- Runs
------------------------------------------------------------

/- Fail with one status whatever the reason was. -/
def orBadValue
    {α : Type}
    (x : Op Error Platform α) : Op Status Platform α :=
  Op.mapError (fun _ => badValue) x

/- Attach to and map the region that holds an address. -/
def reach
    (addr : Nat) : Op Status Platform (Handle × Nat) := do
  let p ← Op.get
  match p.device.containing? addr with
  | none => Op.fail badValue
  | some base =>
    let h ← orBadValue (do
      let h ← Handle.attach base
      h.mapOrRelease)
    return (h, addr - base)

/- Copy bytes from one mapped region to another. -/
def transfer
    (count : Nat)
    (source target : Handle × Nat) :
    Op Status Platform Unit :=
  if source.2 + count ≤ source.1.size
      ∧ target.2 + count ≤ target.1.size then do
    orBadValue source.1.invalidate
    let bytes ← source.1.read source.2 count
    target.1.write target.2 bytes
    orBadValue target.1.flush
  else
    Op.fail badValue

/- Copy one sample. -/
def copySample
    (mode : CopyMode)
    (source target : UInt64) :
    Op Status Platform Unit := do
  let s ← reach source.toNat
  match ← (reach target.toNat).attempt with
  | .error e =>
    s.1.release
    Op.fail e
  | .ok t =>
    let result ← (transfer
      (min mode.inSize mode.outSize) s t).attempt
    t.1.release
    s.1.release
    Op.ofExcept result

/- Copy the samples of a run in order. -/
def copySamples
    (mode : CopyMode) :
    List (UInt64 × UInt64) → Op Status Platform Unit
  | [] => Op.pure ()
  | (source, target) :: rest => do
    copySample mode source target
    copySamples mode rest

/- Whether the current run is the one that fails. -/
def runFault
    (f : Firmware) : Option Status :=
  match f.setup.failRun with
  | some (nth, status) =>
    if nth = f.runs then some status else none
  | none => none

/- Make a run that was counted. -/
def execute
    (r : RunRecord) :
    Op Status (Firmware × Platform) (List Param) := do
  let (f, _) ← Op.get
  match f.runFault with
  | some status => Op.fail status
  | none =>
    match f.setup.copy with
    | none => Op.pure ()
    | some mode =>
      Op.within Lens.snd
        (Platform.direct
          (copySamples mode (r.inputs.zip r.outputs)))
    Op.within Lens.fst
      (Op.modify fun f => { f with log := r :: f.log })
    return []

/- Answer a request. -/
def handle
    (files : FileTree)
    (r : Request) :
    Op Status (Firmware × Platform) (List Param) := do
  match ← consider files r with
  | .answer outputs => return outputs
  | .run record => execute record

/- The firmware in one line. -/
def describe
    (f : Firmware) : String :=
  Description.record "SimulatedAccelerator"
    [("models", toString f.models.length),
     ("runs", toString f.runs)]

end Firmware

end Offload
