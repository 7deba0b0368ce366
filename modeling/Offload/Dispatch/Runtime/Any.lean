import Offload.Dispatch.Runtime.Accelerator
import Offload.Dispatch.Runtime.Scripted
import Offload.Dispatch.Runtime.Vector

/-
  A runtime of any domain.

  Key definitions include:
    * `AnyRuntime`
    * `Backend`
-/

namespace Offload

/- A runtime of one of the kinds there are. -/
inductive AnyRuntime where
  | host (r : HostRuntime)
  | vector (r : VectorRuntime)
  | accelerator (r : AcceleratorRuntime)
  | scripted (r : ScriptedRuntime)

namespace AnyRuntime

variable {ε : Type}

/- Run on a runtime of one kind and wrap it again. -/
def lift
    {ρ : Type}
    (wrap : ρ → AnyRuntime)
    (r : ρ)
    (x : Op ε (ρ × Machine) Unit) :
    Op ε (AnyRuntime × Machine) Unit :=
  fun s =>
    match x (r, s.2) with
    | (result, (r, m)) => (result, (wrap r, m))

/- Run an operation that runtimes of all kinds have. -/
def each
    (x : {ρ : Type} → [DomainRuntime ρ] →
      Op Error (ρ × Machine) Unit) :
    Op Error (AnyRuntime × Machine) Unit :=
  fun s =>
    match s.1 with
    | .host r => lift .host r x s
    | .vector r => lift .vector r x s
    | .accelerator r => lift .accelerator r x s
    | .scripted r => lift .scripted r x s

/- The domain of a runtime. -/
def domain : AnyRuntime → ComputeDomain
  | .host _ => .host
  | .vector _ => .vector
  | .accelerator _ => .accelerator
  | .scripted r => r.domain

instance : DomainRuntime AnyRuntime where
  domain := domain
  init := fun c => each (DomainRuntime.init c)
  submit := fun job => each (DomainRuntime.submit job)
  complete := fun job => each (DomainRuntime.complete job)
  fini := each DomainRuntime.fini

/- The engine that a runtime refers to. -/
def engine? : AnyRuntime → Option Nat
  | .host r => some r.engine
  | .vector r => some r.engine
  | _ => none

/- The transport that a runtime refers to. -/
def transport? : AnyRuntime → Option Nat
  | .accelerator r => some r.transport
  | _ => none

end AnyRuntime

------------------------------------------------------------
-- Backends
------------------------------------------------------------

/- What a dispatcher reaches its domain through. -/
inductive Backend where
  | host (engine : Nat)
  | vector (engine : Nat)
  | accelerator (transport : Nat)
deriving DecidableEq

namespace Backend

variable {ε : Type}

/- The domain a backend leads to. -/
def domain : Backend → ComputeDomain
  | .host _ => .host
  | .vector _ => .vector
  | .accelerator _ => .accelerator

/- A runtime over a backend. -/
def runtime : Backend → Op ε Machine AnyRuntime
  | .host engine => do
    let r ← HostRuntime.create engine
    return .host r
  | .vector engine => do
    let r ← VectorRuntime.create engine
    return .vector r
  | .accelerator transport =>
    Op.pure (.accelerator
      (AcceleratorRuntime.create transport))

/- The backend in one line. -/
def describe
    (b : Backend) : String :=
  Description.around "Backend" b.domain.describe

end Backend

end Offload
