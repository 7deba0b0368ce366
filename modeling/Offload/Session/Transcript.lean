import Offload.Session.Observe

/-
  What a caller sees of a whole session.

  A step that fails is reported and the session goes on with
  the next one.

  Key definitions include:
    * `Session.reported`
    * `Session.traced`
    * `Session.reports`
    * `Session.transcript`
-/

namespace Offload

namespace Session

/- The report of a step, which is its fault if it fails. -/
def outcome : Except Fault Report → Report
  | .ok r => r
  | .error f => f.report

/- Take a step and report it. -/
def reported
    (x : Act Report)
    (s : Session) : Report × Session :=
  match x s with
  | (r, s) => (outcome r, s)

/- Take a step and report it with the device's counters. -/
def traced
    (x : Act Report)
    (s : Session) : Report × Session :=
  let (r, s) := s.reported x
  (.items [r, .device s.machine.platform.device], s)

/- Take steps in order and report each of them. -/
def reports
    (take : Act Report → Session → Report × Session) :
    List (Act Report) → Session → List Report
  | [], _ => []
  | x :: rest, s =>
    match take x s with
    | (r, s) => r :: reports take rest s

/- The reports of a session that starts without objects. -/
def transcript
    (isTraced : Bool)
    (capacity : MemoryTarget → Nat)
    (steps : List (Act Report)) : Report :=
  .items (reports (if isTraced then traced else reported)
    steps (fresh capacity))

end Session

end Offload
