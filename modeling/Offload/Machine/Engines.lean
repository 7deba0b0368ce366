import Offload.Machine

/-
  Engines at work.

  A worker runs on as long as it can: it stops when its
  queue is empty or when a gate holds it up.

  Key definitions include:
    * `Machine.completeTicket`
    * `Machine.dropTicket`
    * `Machine.runKernel`
    * `Machine.workerStep`
    * `Machine.settleEngines`
    * `Machine.submit`
-/

namespace Offload

namespace Machine

variable {ε : Type}

------------------------------------------------------------
-- Tickets
------------------------------------------------------------

/- Post the status of a request on its board. -/
def completeTicket
    (t : Ticket)
    (status : Status)
    (m : Machine) : Machine :=
  match m.boards.get? t.board with
  | none => m
  | some b =>
    let (event, b) := b.complete t.id status
    { m with boards := m.boards.set t.board b }.logged event

/- Throw a ticket away. Its request counts as lost. -/
def dropTicket
    (t : Ticket)
    (m : Machine) : Machine :=
  m.completeTicket t Ticket.lostStatus

/- Throw the tickets of submissions away in order. -/
def dropSubmissions
    (ss : List Submission)
    (m : Machine) : Machine :=
  ss.foldl (fun m s => m.dropTicket s.ticket) m

------------------------------------------------------------
-- Kernels
------------------------------------------------------------

/- Run a vector request on memory. -/
def runOnMemory
    (cache : Nat)
    (r : VectorRequest)
    (m : Machine) : Status × Machine :=
  let x := onRow cachesPart cache (.error Upcase.unresolved)
    (Upcase.run r)
  match x m with
  | (.ok _, m) => (0, m)
  | (.error status, m) => (status, m)

/- Run a kernel on a request. -/
def runKernel
    (k : Kernel)
    (r : EngineRequest)
    (m : Machine) : Status × Machine :=
  if k.panicsOn r then
    (DispatchError.operatorException.status,
     m.logged (some ⟨.error, "kernel panicked",
       [("request_id", r.id.text)]⟩))
  else
    match k.cache, r with
    | some cache, .vector v => m.runOnMemory cache v
    | _, _ => (k.statusOf r, m)

------------------------------------------------------------
-- Workers
------------------------------------------------------------

/- Run the submission that a worker holds and complete it. -/
def runSubmission
    (w : Worker)
    (s : Submission)
    (m : Machine) : Worker × Machine :=
  let w := w.begin
  let (status, m) := m.runKernel w.kernel s.request
  (w.finish, m.completeTicket s.ticket status)

/-
  What a worker does next: pass the gate it waits at, or
  take a submission and run it or bring it to the gate.
-/
def workerStep
    (w : Worker)
    (m : Machine) : Option (Worker × Machine) :=
  match w.current with
  | some s =>
    match w.kernel.gate with
    | none => some (m.runSubmission w s)
    | some g =>
      (m.passGate? g).map fun m => m.runSubmission w s
  | none =>
    match w.next with
    | none => none
    | some (s, w) =>
      match w.kernel.gate with
      | none => some (m.runSubmission w s)
      | some g =>
        some (w, m.setGate g (m.gate g).enter)

/- Let a worker run on for at most so many steps. -/
def runWorker :
    Nat → Worker → Machine → Worker × Machine
  | 0, w, m => (w, m)
  | fuel + 1, w, m =>
    match m.workerStep w with
    | none => (w, m)
    | some (w, m) => runWorker fuel w m

/- Let one engine run on. Two steps serve a submission. -/
def settleEngine
    (m : Machine)
    (key : Nat) : Machine :=
  match m.engines.get? key with
  | some (.worker w) =>
    let (w, m) := runWorker (2 * w.queue.length + 2) w m
    { m with engines := m.engines.set key (.worker w) }
  | _ => m

/- Let all engines run on. -/
def settleEngines
    (m : Machine) : Machine :=
  m.engines.keys.foldl settleEngine m

------------------------------------------------------------
-- Submitting
------------------------------------------------------------

/-
  Hand a request to an engine. A worker that is held up
  leaves the request in the queue. The ticket of a refused
  request is thrown away.
-/
def submit
    (engine : Nat)
    (s : Submission) : Op DispatchError Machine Unit :=
  fun m =>
    match m.engines.get? engine with
    | none => (.error .messageLost, m.dropTicket s.ticket)
    | some e =>
      match e.accept s with
      | .error cause =>
        (.error cause, m.dropTicket s.ticket)
      | .ok e =>
        let m := { m with engines := m.engines.set engine e }
        (.ok (), m.settleEngine engine)

/- Expect a status on a board and draw the ticket for it. -/
def registerTicket
    (board : Nat)
    (id : RequestId) : Op DispatchError Machine Ticket :=
  fun m =>
    match m.boards.get? board with
    | none => (.error .messageLost, m)
    | some b =>
      match b.register id with
      | .error cause => (.error cause, m)
      | .ok b =>
        (.ok ⟨board, id⟩,
         { m with boards := m.boards.set board b })

/- Forget a request of a board. -/
def cancelTicket
    (board : Nat)
    (id : RequestId) : Op ε Machine Unit :=
  Op.modify fun m =>
    match m.boards.get? board with
    | none => m
    | some b =>
      { m with boards := m.boards.set board (b.cancel id) }

/-
  Register a request and hand it to an engine. A refused
  request leaves nothing on the board.
-/
def submitRegistered
    (engine board : Nat)
    (r : EngineRequest) : Op DispatchError Machine Unit := do
  let ticket ← registerTicket board r.id
  match ← (submit engine ⟨r, ticket⟩).attempt with
  | .ok _ => return ()
  | .error cause =>
    cancelTicket board r.id
    Op.fail cause

------------------------------------------------------------
-- Retiring
------------------------------------------------------------

/-
  Remove an engine that nobody refers to any more. What a
  manual engine still keeps is lost; a worker that runs on
  memory empties its cache.
-/
def retireEngine
    (key : Nat)
    (m : Machine) : Machine :=
  match m.engines.get? key with
  | none => m
  | some e =>
    let m := { m with engines := m.engines.erase key }
    match e with
    | .manual e => m.dropSubmissions e.kept
    | .worker w =>
      match w.kernel.cache with
      | none => m
      | some cache =>
        Op.exec
          (onCacheSilently cache
            (IdCache.clear : Op Error _ Unit)) m

end Machine

end Offload
