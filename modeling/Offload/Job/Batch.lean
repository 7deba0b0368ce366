import Offload.Stage.Config

/-
  Cutting a batch of samples into runs of a model.

  A model takes a fixed number of samples per run. A batch
  becomes full runs and one run for what is left over.

  Key definitions include:
    * `BatchSpec`
    * `RunKind`
    * `ModelRun`
    * `BatchSpec.plan`
-/

namespace Offload

/- The shape of a batch and where its samples are. -/
structure BatchSpec where
  shape : BatchShape
  inputBase : Nat
  outputBase : Nat
deriving DecidableEq

/- A plain run takes one sample, a batched run any number. -/
inductive RunKind where
  | single
  | native
deriving DecidableEq

/- The name of a kind of run. -/
def RunKind.name : RunKind → String
  | .single => "Single"
  | .native => "Native"

/- One run of a model with the address of each sample. -/
structure ModelRun where
  kind : RunKind
  samples : Nat
  inputs : List Nat
  outputs : List Nat
deriving DecidableEq

namespace BatchSpec

/- The bytes the whole batch reads, if they fit. -/
def inputBytes
    (s : BatchSpec) : Option Nat :=
  Word.mul? s.shape.batchSize s.shape.inSize

/- The bytes the whole batch writes, if they fit. -/
def outputBytes
    (s : BatchSpec) : Option Nat :=
  Word.mul? s.shape.batchSize s.shape.outSize

/- The end of a range, if it can be addressed. -/
def rangeEnd
    (base : Nat)
    (bytes : Option Nat) : Option Nat :=
  bytes.bind fun n => Word.add? base n

/- Whether both ranges of the batch can be addressed. -/
def isAddressable
    (s : BatchSpec) : Bool :=
  (rangeEnd s.inputBase s.inputBytes).isSome
    && (rangeEnd s.outputBase s.outputBytes).isSome

/- The addresses of `count` samples from `first` on. -/
def addresses
    (base stride first count : Nat) : List Nat :=
  (List.range' first count).map fun i => base + i * stride

/- The run of `count` samples from `first` on. -/
def nativeRun
    (s : BatchSpec)
    (first count : Nat) : ModelRun where
  kind := .native
  samples := count
  inputs :=
    addresses s.inputBase s.shape.inSize first count
  outputs :=
    addresses s.outputBase s.shape.outSize first count

/- Runs of equal size, one after the other. -/
def fullRuns
    (s : BatchSpec)
    (count : Nat) : List ModelRun :=
  (List.range count).map fun k =>
    s.nativeRun (k * s.shape.batchModel) s.shape.batchModel

/- The run for what full runs leave over, if there is any. -/
def lastRun
    (s : BatchSpec) : List ModelRun :=
  let full := s.shape.batchSize / s.shape.batchModel
  let rest := s.shape.batchSize % s.shape.batchModel
  if rest > 0 then
    [s.nativeRun (full * s.shape.batchModel) rest]
  else
    []

/- Cut a batch into runs, in the order they are made. -/
def plan
    (s : BatchSpec) :
    Except DispatchError (List ModelRun) :=
  if s.shape.batchSize = 0 ∨ s.shape.batchModel = 0 then
    .error .invalidArgument
  else if !s.isAddressable then
    .error .malformedJob
  else if s.shape.batchSize = 1 then
    .ok [⟨.single, 1, [s.inputBase], [s.outputBase]⟩]
  else if s.shape.batchSize ≤ s.shape.batchModel then
    .ok [s.nativeRun 0 s.shape.batchSize]
  else
    .ok (s.fullRuns
        (s.shape.batchSize / s.shape.batchModel)
      ++ s.lastRun)

end BatchSpec

end Offload
