import Offload.Dispatch.Firmware
import Offload.Dispatch.Link

/-
  Transports to firmware.

  A channel is a link with a service at its other end. A
  scripted transport answers from a list and keeps what it
  was asked.

  Key definitions include:
    * `Echo`
    * `Service`
    * `Channel`
    * `ScriptedTransport`
    * `Transport`
-/

namespace Offload

------------------------------------------------------------
-- Services
------------------------------------------------------------

/-
  A service that answers with the parameters it was given,
  save for opcodes it fails on.
-/
structure Echo where
  errors : List (Opcode × Status)
  panics : List Opcode
  gate : Option String

/- The answer to a request, none if the service gives up. -/
def Echo.handle
    (e : Echo)
    (r : Request) : Option (Except Status (List Param)) :=
  if e.panics.contains r.opcode then
    none
  else
    match e.errors.lookup r.opcode with
    | some status => some (.error status)
    | none => some (.ok r.params)

/- What serves the requests of a channel. -/
inductive Service where
  | accelerator (f : Firmware)
  | echo (e : Echo)

------------------------------------------------------------
-- Channels
------------------------------------------------------------

/- What keeps a service from going on with a request. -/
inductive Stall where
  | free
  | atGate (name : String)
  | asleep (wake : Nat) (record : RunRecord)

/- A link with the service at its end. -/
structure Channel where
  link : Link
  service : Service
  stall : Stall

namespace Channel

/- A channel to a service. -/
def toService
    (s : Service) : Channel :=
  ⟨Link.fresh, s, .free⟩

/- When the service wakes up, if it is asleep. -/
def wake?
    (c : Channel) : Option Nat :=
  match c.stall with
  | .asleep wake _ => some wake
  | _ => none

/- The channel in one line. -/
def describe : String :=
  "ChannelTransport \x7b .. \x7d"

end Channel

------------------------------------------------------------
-- Scripted Transports
------------------------------------------------------------

/- A request with the time its client would wait. -/
structure Asked where
  request : Request
  timeout : Duration

/-
  Answers still to be given, and requests seen, newest
  first.
-/
structure ScriptedTransport where
  answers : List (Except DispatchError Response)
  seen : List Asked

/- Answer a request; after the last answer all succeed. -/
def ScriptedTransport.rpc
    (r : Request)
    (timeout : Duration)
    (s : ScriptedTransport) :
    Except DispatchError Response × ScriptedTransport :=
  let seen := ⟨r, timeout⟩ :: s.seen
  match s.answers with
  | [] => (.ok ⟨r.seq, 0, []⟩, ⟨[], seen⟩)
  | a :: rest => (a, ⟨rest, seen⟩)

/- A way to reach firmware. -/
inductive Transport where
  | channel (c : Channel)
  | scripted (s : ScriptedTransport)

/- The firmware of a transport, if it has one. -/
def Transport.firmware? : Transport → Option Firmware
  | .channel c =>
    match c.service with
    | .accelerator f => some f
    | .echo _ => none
  | .scripted _ => none

end Offload
