import Offload.Telemetry.Event
import Offload.Wire.Message

/-
  The link between the library and the firmware.

  The client puts frames into a queue with room for one and
  takes frames from a queue without bound. The worker serves
  one request at a time. A client that stopped waiting
  leaves the answer behind; the number of the request tells
  later clients that it is not theirs.

  Key definitions include:
    * `Link`
    * `Link.number`
    * `Link.send`
    * `Link.receive`
    * `Link.judge`
    * `Link.take`
    * `Link.answer`
    * `Link.stop`
-/

namespace Offload

/- What the worker of a link does. -/
inductive LinkPhase where
  | idle
  | serving (request : Request)
  | ended
deriving DecidableEq

/-
  Both queues with the oldest frame in front, the worker,
  and the number of the next request.
-/
structure Link where
  nextSeq : UInt64
  requests : List Bytes
  responses : List Bytes
  phase : LinkPhase

/- What a frame means to the client waiting for an answer. -/
inductive Verdict where
  | answer (r : Response)
  | stale (seq : UInt64)
  | lost

namespace Link

/- A link that nothing was sent over. -/
def fresh : Link :=
  ⟨1, [], [], .idle⟩

/- The room for requests. -/
def capacity : Nat :=
  1

------------------------------------------------------------
-- The Client
------------------------------------------------------------

/- Draw the number of a request. -/
def number
    (l : Link) : UInt64 × Link :=
  (l.nextSeq, { l with nextSeq := l.nextSeq + 1 })

/- Whether a request can be sent without waiting. -/
def hasRoom
    (l : Link) : Bool :=
  l.requests.length < capacity

/- Whether the worker is gone. -/
def hasEnded
    (l : Link) : Bool :=
  l.phase == .ended

/- Send a frame. -/
def send
    (frame : Bytes)
    (l : Link) : Link :=
  { l with requests := l.requests ++ [frame] }

/- Receive the oldest frame. -/
def receive
    (l : Link) : Option Bytes × Link :=
  match l.responses with
  | [] => (none, l)
  | frame :: rest =>
    (some frame, { l with responses := rest })

/- What a frame means to the client of a request. -/
def judge
    (seq : UInt64)
    (frame : Bytes) : Verdict :=
  match Response.decode frame with
  | .error _ => .lost
  | .ok r =>
    if r.seq < seq then .stale r.seq
    else if r.seq = seq then .answer r
    else .lost

------------------------------------------------------------
-- The Worker
------------------------------------------------------------

/- Let an idle worker take the oldest request. -/
def take
    (l : Link) : Option (Option LogEvent × Link) :=
  match l.phase, l.requests with
  | .idle, frame :: rest =>
    match Request.decode frame with
    | .ok r =>
      some (none,
        { l with requests := rest, phase := .serving r })
    | .error _ =>
      some (some ⟨.warn,
          "dropping undecodable firmware request",
          [("len", toString frame.length)]⟩,
        { l with requests := rest })
  | _, _ => none

/- The response that an outcome makes. -/
def responseTo
    (seq : UInt64) :
    Except Status (List Param) → Response
  | .ok outputs => ⟨seq, 0, outputs⟩
  | .error status => ⟨seq, status, []⟩

/- Answer the request that is being served. -/
def answer
    (outcome : Except Status (List Param))
    (l : Link) : Option LogEvent × Link :=
  match l.phase with
  | .serving r =>
    match (responseTo r.seq outcome).encode with
    | .ok frame =>
      (none,
       { l with
         responses := l.responses ++ [frame]
         phase := .idle })
    | .error _ =>
      (some ⟨.warn,
          "dropping unencodable firmware response",
          [("seq", toString r.seq.toNat)]⟩,
       { l with phase := .idle })
  | _ => (none, l)

/- End the worker. Requests that wait are gone with it. -/
def stop
    (l : Link) : Link :=
  { l with requests := [], phase := .ended }

end Link

end Offload
