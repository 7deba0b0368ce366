import Offload.Error
import Offload.Job.RequestId
import Offload.Telemetry.Event
import Offload.Text.Description

/-
  Completion boards.

  A request is registered on a board before an engine gets
  it. Whoever finishes it posts a status, and whoever waits
  for it takes the status off the board. A wait that expires
  leaves the request abandoned, so that a late status is
  discarded.

  Key definitions include:
    * `Board`
    * `Board.register`
    * `Board.complete`
    * `Board.look`
    * `Board.abandon`
    * `Board.cancel`
    * `Ticket`
-/

namespace Offload

/-
  Requests that were not answered yet, answers that were not
  taken yet, and requests nobody waits for any more.
-/
structure Board where
  depth : Nat
  pending : List RequestId
  done : List (RequestId × Status)
  abandoned : List RequestId

/- The duty to complete one request of a board. -/
structure Ticket where
  board : Nat
  id : RequestId
deriving DecidableEq

/- What a waiting caller finds. -/
inductive Look where
  | done (status : Status)
  | pending
  | unknown
deriving DecidableEq

namespace Board

/- The most open requests of a board by default. -/
def defaultDepth : Nat :=
  64

/- An empty board. It takes at least one request. -/
def create
    (depth : Nat) : Board :=
  ⟨max depth 1, [], [], []⟩

/- A list without an id. -/
def without
    (id : RequestId)
    (ids : List RequestId) : List RequestId :=
  ids.filter fun i => i != id

/- Answers without the one for an id. -/
def withoutDone
    (id : RequestId)
    (done : List (RequestId × Status)) :
    List (RequestId × Status) :=
  done.filter fun d => d.1 != id

/- Expect a status for an id, if the board has room. -/
def register
    (id : RequestId)
    (b : Board) : Except DispatchError Board :=
  if b.pending.length + b.done.length ≥ b.depth then
    .error .queueFull
  else
    .ok { b with
      pending := id :: without id b.pending
      done := withoutDone id b.done
      abandoned := without id b.abandoned }

/- The entry about a status that nobody waits for. -/
def stray
    (message : String)
    (id : RequestId)
    (status : Status) : LogEvent :=
  ⟨.debug, message,
    [("request_id", id.text),
     ("status", toString status.toInt)]⟩

/- Post a status for an id. -/
def complete
    (id : RequestId)
    (status : Status)
    (b : Board) : Option LogEvent × Board :=
  if b.abandoned.contains id then
    (some (stray "discarding late completion" id status),
     { b with abandoned := without id b.abandoned })
  else if b.pending.contains id then
    (none,
     { b with
       pending := without id b.pending
       done := (id, status) :: b.done })
  else
    (some (stray "completion for unknown request" id status),
     b)

/- Take the status of an id off the board, if it is there. -/
def look
    (id : RequestId)
    (b : Board) : Look × Board :=
  match b.done.lookup id with
  | some status =>
    (.done status,
     { b with done := withoutDone id b.done })
  | none =>
    if b.pending.contains id then (.pending, b)
    else (.unknown, b)

/- Stop waiting for an id whose status may still come. -/
def abandon
    (id : RequestId)
    (b : Board) : Board :=
  { b with
    pending := without id b.pending
    abandoned := id :: without id b.abandoned }

/- Forget an id whose status will not come. -/
def cancel
    (id : RequestId)
    (b : Board) : Board :=
  { b with
    pending := without id b.pending
    done := withoutDone id b.done }

/- The board in one line. -/
def describe
    (b : Board) : String :=
  Description.record "CompletionBoard"
    [("pending", toString b.pending.length),
     ("done", toString b.done.length),
     ("abandoned", toString b.abandoned.length)]

end Board

namespace Ticket

/- The status of a request whose ticket was thrown away. -/
def lostStatus : Status :=
  DispatchError.messageLost.status

/- The ticket in one line. -/
def describe
    (t : Ticket) : String :=
  Description.record "CompletionHandle"
    [("request_id", t.id.describe), ("completed", "false")]

end Ticket

end Offload
