import Offload.Session.Pools

/-
  Steps on completion boards, gates and engines.

  Key definitions include:
    * `Session.registerRequest`
    * `Session.waitOnBoard`
    * `Session.WorkerPlan`
    * `Session.startWorker`
    * `Session.submitRequest`
    * `Session.finishByHand`
-/

namespace Offload

namespace Session

variable {α : Type}

/- Run a domain operation on the machine. -/
def dispatchOn
    (x : Op DispatchError Machine α) : Act α :=
  onMachine (dispatching x)

------------------------------------------------------------
-- Boards
------------------------------------------------------------

/- Make a completion board. -/
def createBoard
    (name : String)
    (depth : Option Nat) : Act Report := do
  let key ← act (Machine.add Machine.boardsPart
    (Board.create (depth.getD Board.defaultDepth)))
  store name (.board key)
  return .done

/- Expect a status and keep the ticket for it. -/
def registerRequest
    (name board : String)
    (id : RequestId) : Act Report := do
  let key ← find Kind.board board
  let t ← dispatchOn (Machine.registerTicket key id)
  store name (.ticket t)
  return .requestId id

/- Complete a request with its ticket. -/
def completeRequest
    (ticket : String)
    (status : Status) : Act Report := do
  let t ← take Kind.ticket ticket
  onMachine (Op.modify (Machine.completeTicket t status))
  return .done

/- Post a status on a board without a ticket. -/
def postOnBoard
    (board : String)
    (id : RequestId)
    (status : Status) : Act Report := do
  let key ← find Kind.board board
  onMachine (Op.modify
    (Machine.completeTicket ⟨key, id⟩ status))
  return .done

/- Wait for the status of a request. -/
def waitOnBoard
    (board : String)
    (id : RequestId)
    (timeout : Duration) : Act Report := do
  let key ← find Kind.board board
  let status ← dispatchOn (Machine.waitFor key id timeout)
  return .status status

/-
  How long after the start of a wait somebody else completes
  the request.
-/
def completionDelay : Duration :=
  Duration.ofMillis 20

/-
  Wait for the status of a request that somebody completes
  during the wait. A wait that ends before is on its own, and
  the completion comes too late.
-/
def waitWhileCompleted
    (board ticket : String)
    (status : Status)
    (timeout : Duration) : Act Report := do
  let key ← find Kind.board board
  let t ← take Kind.ticket ticket
  let complete : Act Unit :=
    onMachine (Op.modify (Machine.completeTicket t status))
  let wait : Act Status :=
    dispatchOn (Machine.waitFor key t.id timeout)
  if timeout.nanos < completionDelay.nanos then
    let result ← wait.attempt
    complete
    let status ← Op.ofExcept result
    return .status status
  else
    complete
    let status ← wait
    return .status status

/- Forget a request of a board. -/
def cancelOnBoard
    (board : String)
    (id : RequestId) : Act Report := do
  let key ← find Kind.board board
  onMachine (Machine.cancelTicket key id)
  return .done

/- The numbers of pending and of abandoned requests. -/
def boardCounts
    (board : String) : Act Report := do
  let key ← find Kind.board board
  let s ← Op.get
  return .optional
    (fun b => .list .nat
      [b.pending.length, b.abandoned.length])
    (s.machine.boards.get? key)

/- Let all work that can go on come to its end. -/
def settleBoard
    (board : String) : Act Report := do
  let _ ← find Kind.board board
  onMachine (Op.modify Machine.settle)
  return .flag true

------------------------------------------------------------
-- Gates
------------------------------------------------------------

/- Whether so many came to a gate. -/
def enteredGate
    (gate : String)
    (count : Nat) : Act Report := do
  onMachine (Op.modify Machine.settle)
  let s ← Op.get
  return .flag
    (decide (count ≤ (s.machine.gate gate).entered))

/- Let some more pass a gate. -/
def permitGate
    (gate : String)
    (count : Nat) : Act Report := do
  onMachine (Op.modify fun m =>
    (m.setGate gate ((m.gate gate).permit count)).settle)
  return .done

------------------------------------------------------------
-- Engines
------------------------------------------------------------

/- How a worker engine is to be started. -/
structure WorkerPlan where
  name : String
  depth : Option Nat
  status : Status
  statuses : List (Nat × Status)
  panics : List Nat
  onMemory : Bool
  gate : Option String

/- The row of an engine. -/
def engineAt
    (engine : String) : Act (Nat × Engine) := do
  let key ← find Kind.engine engine
  let s ← Op.get
  let e ← Op.ofOption (.noObject (some engine))
    (s.machine.engines.get? key)
  return (key, e)

/- The row of a worker engine. -/
def workerAt
    (engine : String) : Act (Nat × Worker) := do
  match ← engineAt engine with
  | (key, .worker w) => return (key, w)
  | _ => Op.fail (.noObject (some engine))

/- The row of a manual engine. -/
def manualAt
    (engine : String) : Act (Nat × ManualEngine) := do
  match ← engineAt engine with
  | (key, .manual e) => return (key, e)
  | _ => Op.fail (.noObject (some engine))

/- Replace an engine. -/
def setEngine
    (key : Nat)
    (e : Engine) : Act Unit :=
  onMachine (Op.modify fun m =>
    { m with engines := m.engines.set key e })

/- What a worker engine says of itself. -/
def workerReport
    (w : Worker) : Report :=
  .record
    [("name", .text w.name),
     ("depth", .nat w.depth),
     ("queued", .nat w.queue.length)]

/- The cache of a kernel, if it runs on memory. -/
def kernelCache
    (onMemory : Bool) : Act (Option Nat) :=
  if onMemory then do
    let key ← act
      (Machine.add Machine.cachesPart IdCache.fresh)
    return some key
  else
    Op.pure none

/- Start a worker engine. -/
def startWorker
    (name : String)
    (plan : WorkerPlan) : Act Report := do
  let cache ← kernelCache plan.onMemory
  let depth := plan.depth.getD Worker.defaultDepth
  let w := Worker.start plan.name depth
    ⟨plan.status, plan.statuses, plan.panics, cache,
     plan.gate⟩
  onMachine (Machine.log .debug "engine started"
    [("engine", plan.name), ("depth", toString depth)])
  let key ← act (Machine.add Machine.enginesPart (.worker w))
  store name (.engine key)
  return workerReport w

/-
  Hand a request without bindings to an engine. The request
  is registered first, so without an engine its ticket is
  lost.
-/
def submitRequest
    (engine board : String)
    (id : RequestId)
    (node : String) : Act Report := do
  let boardKey ← find Kind.board board
  let ticket ← dispatchOn (Machine.registerTicket boardKey id)
  match ← (engineAt engine).attempt with
  | .error fault =>
    onMachine (Op.modify fun m => m.dropTicket ticket)
    Op.fail fault
  | .ok (engineKey, _) =>
    dispatchOn
      (Machine.submit engineKey
        ⟨.host ⟨id, node, []⟩, ticket⟩)
    return .done

/- What a named worker engine says of itself. -/
def showWorker
    (engine : String) : Act Report := do
  let (_, w) ← workerAt engine
  return workerReport w

/- The requests that an engine has to show. -/
def engineLog
    (engine : String) : Act Report := do
  let (_, e) ← engineAt engine
  return .list .engineRequest e.log

/- Make an engine that is worked by hand. -/
def createManual
    (name : String) : Act Report := do
  let key ← act (Machine.add Machine.enginesPart
    (.manual ManualEngine.fresh))
  store name (.engine key)
  return .done

/- Tell a manual engine to refuse, or not to any more. -/
def refuseByHand
    (engine : String)
    (refusal : Option DispatchError) : Act Report := do
  let (key, e) ← manualAt engine
  setEngine key (.manual { e with refusal := refusal })
  return .done

/-
  Finish the oldest submission of a manual engine. Without a
  status its ticket is thrown away.
-/
def finishByHand
    (engine : String)
    (status : Option Status) : Act Report := do
  let (key, e) ← manualAt engine
  match e.next with
  | none => return .absent
  | some (s, e) =>
    setEngine key (.manual e)
    onMachine (Op.modify (Machine.completeTicket s.ticket
      (status.getD Ticket.lostStatus)))
    return .requestId s.request.id

end Session

end Offload
