/-
  Planned failures of device calls.

  Key definitions include:
    * `DeviceCall`
    * `FaultPlan`
    * `FaultPlan.arm`
    * `FaultPlan.strike`
-/

namespace Offload

/-
  The calls that can be made to fail. An allocation can fail
  or return no regions.
-/
inductive DeviceCall where
  | alloc
  | allocEmpty
  | attach
  | map
  | unmap
  | invalidate
  | flush
  | free
  | detach
deriving DecidableEq

namespace DeviceCall

/- All calls. -/
def all : List DeviceCall :=
  [.alloc, .allocEmpty, .attach, .map, .unmap, .invalidate,
   .flush, .free, .detach]

/- The name of a call. -/
def name : DeviceCall → String
  | .alloc => "alloc"
  | .allocEmpty => "alloc_empty"
  | .attach => "attach"
  | .map => "map"
  | .unmap => "unmap"
  | .invalidate => "invalidate"
  | .flush => "flush"
  | .free => "free"
  | .detach => "detach"

/- The call with a name. -/
def ofName?
    (s : String) : Option DeviceCall :=
  all.find? fun c => c.name == s

end DeviceCall

/-
  For each call, how many calls still pass before the next
  failure, then before the one after it, and so on.
-/
def FaultPlan : Type :=
  DeviceCall → List Nat

namespace FaultPlan

/- No failures. -/
def none : FaultPlan :=
  fun _ => []

/- Change the plan for one call. -/
def set
    (p : FaultPlan)
    (call : DeviceCall)
    (gaps : List Nat) : FaultPlan :=
  fun c => if c = call then gaps else p c

/- Let the `nth` next call fail, once. -/
def arm
    (p : FaultPlan)
    (call : DeviceCall)
    (nth : Nat) : FaultPlan :=
  p.set call [nth - 1]

/- Whether a call fails now, and the plan after it. -/
def strike
    (p : FaultPlan)
    (call : DeviceCall) : Bool × FaultPlan :=
  match (p call : List Nat) with
  | [] => (false, p)
  | 0 :: later => (true, p.set call later)
  | (n + 1) :: later => (false, p.set call (n :: later))

end FaultPlan

end Offload
