import Offload.Session.Engines

/-
  Steps on firmware and on the transports that lead to it.

  Key definitions include:
    * `Session.createFirmware`
    * `Session.callFirmware`
    * `Session.spawnChannel`
    * `Session.spawnEcho`
    * `Session.callTransport`
-/

namespace Offload

namespace Session

------------------------------------------------------------
-- Arguments
------------------------------------------------------------

/- The addresses of places. -/
def addresses : List Place → Act (List UInt64)
  | [] => Op.pure []
  | p :: rest => do
    let addr ← address p
    let more ← addresses rest
    return UInt64.ofNat addr :: more

/- Arguments that hold the addresses of places. -/
def addressParams : List (List Place) → Act (List Param)
  | [] => Op.pure []
  | ps :: rest => do
    let as ← addresses ps
    let more ← addressParams rest
    return .addrs as :: more

/-
  What a caller passes to firmware: arguments as they are,
  followed by lists of addresses.
-/
structure CallPlan where
  opcode : Opcode
  params : List Param
  places : List (List Place)

/- All arguments of a call. -/
def CallPlan.arguments
    (c : CallPlan) : Act (List Param) := do
  let more ← addressParams c.places
  return c.params ++ more

------------------------------------------------------------
-- Firmware
------------------------------------------------------------

/- Make firmware. -/
def createFirmware
    (name : String)
    (setup : FirmwareSetup) : Act Report := do
  store name (.firmware (Firmware.fresh setup))
  return .done

/- Run on firmware and keep a failure as a value. -/
def onFirmware
    {α : Type}
    (firmware : String)
    (x : Op Status (Firmware × Platform) α) :
    Act (Except Status α) :=
  editOnPlatform Kind.firmware firmware x.attempt

/- Make a run that was counted, after its delay. -/
def executeRun
    (firmware : String)
    (record : RunRecord) :
    Act (Except Status (List Param)) := do
  let f ← find Kind.firmware firmware
  match f.setup.delay with
  | some delay =>
    onMachine (Op.modify (Machine.advanceBy delay))
  | none => Op.pure ()
  onFirmware firmware (Firmware.execute record)

/- The answer of firmware to a request. -/
def answerOf
    (firmware : String)
    (r : Request) : Act (Except Status (List Param)) := do
  let s ← Op.get
  match ← onFirmware firmware
    (Firmware.consider s.machine.files r)
  with
  | .error status => return .error status
  | .ok (.answer outputs) => return .ok outputs
  | .ok (.run record) => executeRun firmware record

/- Outputs, or the status in their place. -/
def outputsOrStatus
    (r : Except Status (List Param)) : Report :=
  match r with
  | .ok outputs => .list .param outputs
  | .error status => .record [("errno", .status status)]

/- Call firmware without a transport. -/
def callFirmware
    (firmware : String)
    (call : CallPlan) : Act Report := do
  let params ← call.arguments
  let r ← answerOf firmware (Request.of call.opcode params)
  return outputsOrStatus r

/- The firmware of an object. -/
def firmwareOf
    (m : Machine) : Object → Option Firmware
  | .firmware f => some f
  | .transport key =>
    (m.transports.get? key).bind Transport.firmware?
  | _ => none

/- The runs that firmware made. -/
def firmwareRuns
    (name : String) : Act Report := do
  let o ← find Kind.any name
  let s ← Op.get
  let f ← Op.ofOption (.noObject (some name))
    (firmwareOf s.machine o)
  return .runs f

------------------------------------------------------------
-- Transports
------------------------------------------------------------

/- Store a new transport. -/
def storeTransport
    (name : String)
    (t : Transport) : Act Report := do
  let key ← act (Machine.add Machine.transportsPart t)
  store name (.transport key)
  return .done

/- Put firmware at the end of a channel. -/
def spawnChannel
    (name firmware : String) : Act Report := do
  let f ← take Kind.firmware firmware
  storeTransport name
    (.channel (Channel.toService (.accelerator f)))

/- Put an echo at the end of a channel. -/
def spawnEcho
    (name : String)
    (e : Echo) : Act Report :=
  storeTransport name (.channel (Channel.toService (.echo e)))

/- Make a transport with its answers laid down. -/
def scriptTransport
    (name : String)
    (answers : List (Except DispatchError Response)) :
    Act Report :=
  storeTransport name (.scripted ⟨answers, []⟩)

/- The requests that a scripted transport has seen. -/
def transportLog
    (transport : String) : Act Report := do
  let key ← find Kind.transport transport
  let s ← Op.get
  match s.machine.transports.get? key with
  | some (.scripted t) => return .list .asked t.seen.reverse
  | _ => Op.fail (.noObject (some transport))

/- Call firmware over a transport. -/
def callTransport
    (transport : String)
    (call : CallPlan)
    (seq : UInt64)
    (timeout : Duration) : Act Report := do
  let params ← call.arguments
  let key ← find Kind.transport transport
  let r ← dispatchOn (Machine.rpc key
    { Request.of call.opcode params with seq := seq } timeout)
  return .response r

end Session

end Offload
