import Offload.Dispatch.Runtime

/-
  The host domain: jobs run on an engine as they are.

  Key definitions include:
    * `HostRuntime`
-/

namespace Offload

/- An engine, the board for its answers, and the stage. -/
structure HostRuntime where
  engine : Nat
  board : Nat
  node : String

namespace HostRuntime

variable {ε : Type}

/- A runtime over an engine, with a board of its own. -/
def create
    (engine : Nat) : Op ε Machine HostRuntime := do
  let board ← Machine.add Machine.boardsPart
    (Board.create Board.defaultDepth)
  return ⟨engine, board, ""⟩

/- The name of an engine. -/
def engineName
    (m : Machine)
    (engine : Nat) : String :=
  ((m.engines.get? engine).map Engine.name).getD ""

/- Take the name of the stage. -/
def init
    (c : StageConfig) :
    Op Error (HostRuntime × Machine) Unit := do
  DomainRuntime.change fun r : HostRuntime =>
    { r with node := c.node }
  let (r, m) ← Op.get
  DomainRuntime.onMachine
    (Machine.log .debug "host runtime attached"
      [("engine", engineName m r.engine)])

/- The request for a job. -/
def request
    (r : HostRuntime)
    (job : Job) : HostRequest :=
  ⟨job.id, r.node, job.bindings⟩

/- Hand a job to the engine. -/
def submit
    (job : Job) :
    Op Error (HostRuntime × Machine) Unit := do
  let (r, _) ← Op.get
  DomainRuntime.onMachine
    (DomainRuntime.dispatched
      (Machine.submitRegistered r.engine r.board
        (.host (r.request job))))

/- Wait for a job. -/
def complete
    (job : Job) :
    Op Error (HostRuntime × Machine) Unit := do
  let (r, _) ← Op.get
  DomainRuntime.onMachine
    (DomainRuntime.awaitJob r.board job)

instance : DomainRuntime HostRuntime where
  domain := fun _ => .host
  init := init
  submit := submit
  complete := complete
  fini := Op.pure ()

end HostRuntime

end Offload
