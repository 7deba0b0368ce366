import Offload.Job.Binding
import Offload.Job.RequestId
import Offload.Stage.Config

/-
  Jobs for a compute domain.

  A job carries named bindings, each name at most once: to
  bind a name again replaces its region and direction and
  leaves its place.

  Key definitions include:
    * `Payload`
    * `Job`
    * `Job.bind`
    * `Job.bindOutputs`
    * `Job.require`
-/

namespace Offload

------------------------------------------------------------
-- Payloads
------------------------------------------------------------

/-
  What a domain needs beside the bindings. An accelerator
  job without a model runs the one its stage has loaded.
-/
inductive Payload where
  | host
  | vector (graph requestType : Nat)
  | accelerator
      (model : Option UInt64)
      (batch : BatchShape)
deriving DecidableEq

namespace Payload

/- The payload of a domain without a configuration. -/
def plain : ComputeDomain → Payload
  | .host => .host
  | .vector => .vector 0 0
  | .accelerator => .accelerator none ⟨1, 1, 0, 0⟩

/- The payload of a configured stage. -/
def ofConfig
    (c : StageConfig) : Payload :=
  match c.domain with
  | .host => .host
  | .vector => .vector c.graph 0
  | .accelerator => .accelerator none c.batch

/- The domain a payload is for. -/
def domain : Payload → ComputeDomain
  | .host => .host
  | .vector .. => .vector
  | .accelerator .. => .accelerator

end Payload

------------------------------------------------------------
-- Jobs
------------------------------------------------------------

/- One unit of work, its bindings in the order first named. -/
structure Job where
  domain : ComputeDomain
  id : RequestId
  bindings : List NamedBinding
  timeout : Duration
  payload : Payload
deriving DecidableEq

namespace Job

/- A job without bindings. -/
def of
    (domain : ComputeDomain)
    (id : RequestId) : Job where
  domain := domain
  id := id
  bindings := []
  timeout := StageConfig.jobTimeout
  payload := Payload.plain domain

/- A job with the payload and timeout of a stage. -/
def ofConfig
    (c : StageConfig)
    (id : RequestId) : Job :=
  { of c.domain id with
    timeout := c.timeout
    payload := Payload.ofConfig c }

------------------------------------------------------------
-- Binding
------------------------------------------------------------

/-
  Put a binding in place of the first one of its name, or
  after all others.
-/
def place
    (b : NamedBinding) :
    List NamedBinding → List NamedBinding
  | [] => [b]
  | x :: rest =>
    if x.name = b.name then
      { x with binding := b.binding } :: rest
    else
      x :: place b rest

/-
  Bind a region under a name. The direction is the one asked
  for, whatever the binding says.
-/
def bind
    (job : Job)
    (name : String)
    (b : Binding)
    (direction : Direction) : Job :=
  { job with
    bindings := place
      ⟨name, { b with direction := direction }⟩
      job.bindings }

/- Bind a region to read. -/
def bindInput
    (job : Job)
    (name : String)
    (b : Binding) : Job :=
  job.bind name b .input

/- Bind a region to write. -/
def bindOutput
    (job : Job)
    (name : String)
    (b : Binding) : Job :=
  job.bind name b .output

/- Bind every segment of a buffer to write, by its name. -/
def bindOutputs
    (job : Job)
    (buffer : Buffer) : Job :=
  buffer.segments.foldl
    (fun j s => j.bindOutput s.name (.ofSegment s .output))
    job

------------------------------------------------------------
-- Looking Up
------------------------------------------------------------

/- Whether a binding has a direction. -/
def isBoundAs
    (direction : Direction)
    (b : NamedBinding) : Bool :=
  b.binding.direction == direction

/- The bindings to read, in order. -/
def inputs
    (job : Job) : List NamedBinding :=
  job.bindings.filter (isBoundAs .input)

/- The bindings to write, in order. -/
def outputs
    (job : Job) : List NamedBinding :=
  job.bindings.filter (isBoundAs .output)

/- The first binding of a name in a list. -/
def named?
    (name : String)
    (bs : List NamedBinding) : Option Binding :=
  (bs.find? fun b => b.name == name).map
    NamedBinding.binding

/- The binding to read with a name. -/
def input?
    (job : Job)
    (name : String) : Option Binding :=
  named? name job.inputs

/- The binding to write with a name. -/
def output?
    (job : Job)
    (name : String) : Option Binding :=
  named? name job.outputs

/- The first binding to read. -/
def primaryInput?
    (job : Job) : Option NamedBinding :=
  job.inputs.head?

/- The first binding to write. -/
def primaryOutput?
    (job : Job) : Option NamedBinding :=
  job.outputs.head?

/- The binding with a name, which must have a direction. -/
def require
    (job : Job)
    (name : String)
    (direction : Direction) : Except Error Binding :=
  match named? name job.bindings with
  | none =>
    .error (.configMismatch
      ("job has no binding '" ++ name ++ "'"))
  | some b =>
    if b.direction = direction then
      .ok b
    else
      .error (.configMismatch
        ("binding '" ++ name ++ "' is "
          ++ b.direction.name ++ ", expected "
          ++ direction.name))

end Job

end Offload
