import Offload.Memory.Device
import Offload.Memory.FaultPlan
import Offload.Telemetry

/-
  The device as the rest of the library sees it: behind a
  plan of failures and with telemetry at hand.

  Key definitions include:
    * `Platform`
    * `Platform.direct`
    * `Platform.allocate`
    * `Platform.attach`
    * `Platform.map`
    * `Platform.free`
    * `Platform.detach`
-/

namespace Offload

/- The device, its planned failures and what is recorded. -/
structure Platform where
  device : Device
  faults : FaultPlan
  telemetry : Telemetry

namespace Platform

variable {ε α : Type}

/- A platform with a fresh device. -/
def fresh
    (capacity : MemoryTarget → Nat) : Platform :=
  ⟨Device.fresh .usual capacity, FaultPlan.none,
    Telemetry.empty⟩

------------------------------------------------------------
-- Telemetry
------------------------------------------------------------

/- Change what is recorded. -/
def record
    (f : Telemetry → Telemetry) : Op ε Platform Unit :=
  Op.modify fun p => { p with telemetry := f p.telemetry }

/- Record a log event. -/
def log
    (level : Level)
    (message : String)
    (fields : List (String × String)) :
    Op ε Platform Unit :=
  record fun t => t.log ⟨level, message, fields⟩

/- Add one to a counter, or one sample to a histogram. -/
def count
    (m : Meter) : Op ε Platform Unit :=
  record fun t => t.count m

/- Set a gauge. -/
def gauge
    (m : Meter)
    (value : Nat) : Op ε Platform Unit :=
  record fun t => t.gauge m value

------------------------------------------------------------
-- Failures
------------------------------------------------------------

/- Whether a planned failure is due at a call. -/
def isStruck
    (call : DeviceCall) : Op ε Platform Bool :=
  Op.update fun p =>
    ((p.faults.strike call).1,
     { p with faults := (p.faults.strike call).2 })

/- The error of a planned failure. -/
def injected
    (call : DeviceCall) : Error :=
  .mappingFailed ("injected " ++ call.name ++ " fault")

/- Fail if a planned failure is due. -/
def pass
    (call : DeviceCall) : Op Error Platform Unit := do
  if ← isStruck call then
    Op.fail (injected call)

/- Run with the planned failures out of the way. -/
def direct
    (x : Op ε Platform α) : Op ε Platform α :=
  fun p =>
    match x { p with faults := FaultPlan.none } with
    | (r, p') => (r, { p' with faults := p.faults })

------------------------------------------------------------
-- Device Calls
------------------------------------------------------------

/- A device call that may be refused. -/
def call
    (f : Device → Except Error (α × Device)) :
    Op Error Platform α :=
  Op.change fun p =>
    match f p.device with
    | .ok (a, d) => .ok (a, { p with device := d })
    | .error e => .error e

/- A device call that always succeeds. -/
def act
    (f : Device → Device) : Op ε Platform Unit :=
  Op.modify fun p => { p with device := f p.device }

/- Allocate regions back to back. -/
def allocate
    (target : MemoryTarget)
    (cache : CachePolicy)
    (sizes : List Nat) :
    Op Error Platform (List Region) := do
  pass .alloc
  if ← isStruck .allocEmpty then
    return []
  call fun d => d.allocate target cache sizes

/- Allocate one region. -/
def allocateOne
    (target : MemoryTarget)
    (cache : CachePolicy)
    (size : Nat) : Op Error Platform Region := do
  let regions ← allocate target cache [size]
  Op.ofOption
    (.allocationFailed target size "device returned no region")
    regions.getLast?

/- Refer to a region by its address. -/
def attach
    (addr : Nat) : Op Error Platform Region := do
  pass .attach
  call fun d => d.attach addr

/- Map a region. -/
def map
    (region : Region) : Op Error Platform Mapping := do
  pass .map
  call fun d => d.map region

/- Remove a mapping. -/
def unmap : Op Error Platform Unit := do
  pass .unmap
  act Device.unmap

/- Discard cached bytes of a mapping. -/
def invalidate : Op Error Platform Unit := do
  pass .invalidate
  act Device.invalidate

/- Write back cached bytes of a mapping. -/
def flush : Op Error Platform Unit := do
  pass .flush
  act Device.flush

/- Give up ownership of a region. -/
def free
    (region : Region) : Op Error Platform Unit := do
  pass .free
  call fun d => d.free region

/- Give up an attachment of a region. -/
def detach
    (region : Region) : Op Error Platform Unit := do
  pass .detach
  call fun d => d.detach region

/- Read mapped bytes. -/
def read
    (m : Mapping)
    (start count : Nat) : Op ε Platform Bytes :=
  Op.gets fun p => p.device.read m start count

/- Write mapped bytes. -/
def write
    (m : Mapping)
    (start : Nat)
    (bytes : Bytes) : Op ε Platform Unit :=
  act fun d => d.write m start bytes

end Platform

end Offload
