import Offload.Dispatch.Board
import Offload.Job

/-
  Engines of the host and vector domains.

  An engine accepts requests with their tickets and
  completes them later. A worker engine runs its kernel on
  one request after the other, from a queue of bounded
  length. A manual engine keeps what it is given until
  somebody finishes it by hand.

  Key definitions include:
    * `EngineRequest`
    * `Kernel`
    * `Worker`
    * `Worker.accept`
    * `Worker.next`
    * `ManualEngine`
    * `Engine`
-/

namespace Offload

------------------------------------------------------------
-- Requests
------------------------------------------------------------

/- What the host domain is asked to do. -/
structure HostRequest where
  id : RequestId
  node : String
  bindings : List NamedBinding
deriving DecidableEq

/- What the vector domain is asked to do. -/
structure VectorRequest where
  id : RequestId
  graph : Nat
  input : Binding
  output : Binding
  aux : List NamedBinding
  requestType : Nat
deriving DecidableEq

/- A request to an engine. -/
inductive EngineRequest where
  | host (r : HostRequest)
  | vector (r : VectorRequest)
deriving DecidableEq

/- The id of a request. -/
def EngineRequest.id : EngineRequest → RequestId
  | .host r => r.id
  | .vector r => r.id

/- A request with the ticket for it. -/
structure Submission where
  request : EngineRequest
  ticket : Ticket
deriving DecidableEq

------------------------------------------------------------
-- Gates
------------------------------------------------------------

/-
  A gate that holds up workers. `entered` counts who came to
  the gate, `permits` how many may pass.
-/
structure Gate where
  entered : Nat
  permits : Nat

namespace Gate

/- A closed gate. -/
def closed : Gate :=
  ⟨0, 0⟩

/- Come to the gate. -/
def enter
    (g : Gate) : Gate :=
  { g with entered := g.entered + 1 }

/- Let some more pass. -/
def permit
    (count : Nat)
    (g : Gate) : Gate :=
  { g with permits := g.permits + count }

/- Pass the gate with one of the permits, if any is left. -/
def pass?
    (g : Gate) : Option Gate :=
  if g.permits = 0 then none
  else some { g with permits := g.permits - 1 }

end Gate

------------------------------------------------------------
-- Kernels
------------------------------------------------------------

/-
  What a worker engine does with a request. `panics` and
  `statuses` go by the frame of the request, and of several
  statuses for a frame the last counts; a kernel with a
  cache runs vector requests on memory.
-/
structure Kernel where
  status : Status
  statuses : List (Nat × Status)
  panics : List Nat
  cache : Option Nat
  gate : Option String

namespace Kernel

/- Whether the kernel gives up on a request. -/
def panicsOn
    (k : Kernel)
    (r : EngineRequest) : Bool :=
  k.panics.contains r.id.frame.toNat

/- The status that a request ends with. -/
def statusOf
    (k : Kernel)
    (r : EngineRequest) : Status :=
  (k.statuses.reverse.lookup r.id.frame.toNat).getD k.status

end Kernel

------------------------------------------------------------
-- Worker Engines
------------------------------------------------------------

/-
  An engine with a worker. `current` is the submission that
  the worker holds at a gate; `log` has the requests whose
  run began, newest first.
-/
structure Worker where
  name : String
  depth : Nat
  kernel : Kernel
  queue : List Submission
  current : Option Submission
  log : List EngineRequest

namespace Worker

/- The length of the queue unless told otherwise. -/
def defaultDepth : Nat :=
  8

/- A worker without work. -/
def start
    (name : String)
    (depth : Nat)
    (kernel : Kernel) : Worker :=
  ⟨name, max depth 1, kernel, [], none, []⟩

/- Queue a submission, if there is room. -/
def accept
    (s : Submission)
    (w : Worker) : Except DispatchError Worker :=
  if w.queue.length < w.depth then
    .ok { w with queue := w.queue ++ [s] }
  else
    .error .queueFull

/- Let an idle worker take the next submission. -/
def next
    (w : Worker) : Option (Submission × Worker) :=
  match w.current, w.queue with
  | none, s :: rest =>
    some (s, { w with queue := rest, current := some s })
  | _, _ => none

/- Note that the run of the current submission begins. -/
def begin
    (w : Worker) : Worker :=
  match w.current with
  | some s => { w with log := s.request :: w.log }
  | none => w

/- Be idle again. -/
def finish
    (w : Worker) : Worker :=
  { w with current := none }

/- The engine in one line. -/
def describe
    (w : Worker) : String :=
  Description.record "ThreadEngine"
    [("name", Quoted.encode w.name),
     ("queued", toString w.queue.length)]

end Worker

------------------------------------------------------------
-- Engines
------------------------------------------------------------

/-
  An engine worked by hand. `kept` has the oldest submission
  in front.
-/
structure ManualEngine where
  kept : List Submission
  refusal : Option DispatchError

namespace ManualEngine

/- The name of every such engine. -/
def name : String :=
  "manual"

/- An engine that keeps whatever it is given. -/
def fresh : ManualEngine :=
  ⟨[], none⟩

/- Keep a submission, unless told to refuse. -/
def accept
    (s : Submission)
    (e : ManualEngine) : Except DispatchError ManualEngine :=
  match e.refusal with
  | some cause => .error cause
  | none => .ok { e with kept := e.kept ++ [s] }

/- The oldest submission. -/
def next
    (e : ManualEngine) :
    Option (Submission × ManualEngine) :=
  match e.kept with
  | [] => none
  | s :: rest => some (s, { e with kept := rest })

end ManualEngine

/- An engine of the host or vector domain. -/
inductive Engine where
  | worker (w : Worker)
  | manual (m : ManualEngine)

namespace Engine

/- The name of an engine. -/
def name : Engine → String
  | .worker w => w.name
  | .manual _ => ManualEngine.name

/- Take a submission, or say why not. -/
def accept
    (s : Submission) : Engine → Except DispatchError Engine
  | .worker w => (w.accept s).map .worker
  | .manual m => (m.accept s).map .manual

/- The requests an engine has to show, oldest first. -/
def log : Engine → List EngineRequest
  | .worker w => w.log.reverse
  | .manual m => m.kept.map Submission.request

end Engine

end Offload
