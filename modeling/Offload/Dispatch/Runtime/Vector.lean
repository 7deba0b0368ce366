import Offload.Dispatch.Runtime.Host

/-
  The vector domain: a job runs a graph on one input and one
  output; its other bindings go along as auxiliary ones.

  Key definitions include:
    * `VectorRuntime`
    * `VectorRuntime.request`
-/

namespace Offload

/- An engine, the board for its answers, and the input. -/
structure VectorRuntime where
  engine : Nat
  board : Nat
  inputName : String

namespace VectorRuntime

variable {ε : Type}

/- A runtime over an engine, with a board of its own. -/
def create
    (engine : Nat) : Op ε Machine VectorRuntime := do
  let board ← Machine.add Machine.boardsPart
    (Board.create Board.defaultDepth)
  return ⟨engine, board, StageConfig.defaultInputName⟩

/- Take the name of the input. -/
def init
    (c : StageConfig) :
    Op Error (VectorRuntime × Machine) Unit := do
  DomainRuntime.change fun r : VectorRuntime =>
    { r with inputName := c.inputName }
  let (r, m) ← Op.get
  DomainRuntime.onMachine
    (Machine.log .debug "vector runtime attached"
      [("engine", HostRuntime.engineName m r.engine),
       ("graph_id", toString c.graph),
       ("input", r.inputName)])

/- Whether a binding is neither the input nor the output. -/
def isAuxiliary
    (input output : String)
    (b : NamedBinding) : Bool :=
  b.name != input && b.name != output

/- The request for a job. -/
def request
    (r : VectorRuntime)
    (job : Job) : Except Error VectorRequest :=
  match job.payload with
  | .vector graph requestType => do
    let input ← job.require r.inputName .input
    match job.primaryOutput? with
    | none =>
      .error (.configMismatch "vector job has no output")
    | some output =>
      .ok {
        id := job.id
        graph := graph
        input := input
        output := output.binding
        aux := job.bindings.filter
          (isAuxiliary r.inputName output.name)
        requestType := requestType }
  | _ => .error (.dispatch .malformedJob)

/- Hand a job to the engine. -/
def submit
    (job : Job) :
    Op Error (VectorRuntime × Machine) Unit := do
  let (r, _) ← Op.get
  let request ← Op.ofExcept (r.request job)
  DomainRuntime.onMachine
    (DomainRuntime.dispatched
      (Machine.submitRegistered r.engine r.board
        (.vector request)))

/- Wait for a job. -/
def complete
    (job : Job) :
    Op Error (VectorRuntime × Machine) Unit := do
  let (r, _) ← Op.get
  DomainRuntime.onMachine
    (DomainRuntime.awaitJob r.board job)

instance : DomainRuntime VectorRuntime where
  domain := fun _ => .vector
  init := init
  submit := submit
  complete := complete
  fini := Op.pure ()

end VectorRuntime

end Offload
