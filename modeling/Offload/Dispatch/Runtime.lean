import Offload.Machine.Channels
import Offload.Stage.Resources

/-
  What a dispatcher needs from a compute domain.

  Key definitions include:
    * `DomainRuntime`
-/

namespace Offload

/-
  A runtime `ρ` of a domain: `init` opens it for a stage,
  `submit` starts a job, `complete` waits for the job to be
  done and `fini` closes it.
-/
class DomainRuntime (ρ : Type) where
  domain : ρ → ComputeDomain
  init : StageConfig → Op Error (ρ × Machine) Unit
  submit : Job → Op Error (ρ × Machine) Unit
  complete : Job → Op Error (ρ × Machine) Unit
  fini : Op Error (ρ × Machine) Unit

namespace DomainRuntime

variable {ε ρ α : Type}

/- Change a runtime. -/
def change
    (f : ρ → ρ) : Op ε (ρ × Machine) Unit :=
  Op.within Lens.fst (Op.modify f)

/- Run on the machine of a runtime. -/
def onMachine
    (x : Op ε Machine α) : Op ε (ρ × Machine) α :=
  Op.within Lens.snd x

/- Run an operation of a domain on the machine. -/
def dispatched
    (x : Op DispatchError Machine α) :
    Op Error Machine α :=
  Op.mapError Error.dispatch x

/- Succeed on a status of zero. -/
def checkStatus
    (status : Status) : Op Error Machine Unit :=
  if status = 0 then Op.pure ()
  else Op.fail (.dispatch (.ofStatus status))

/- Wait for the status of a job on a board. -/
def awaitJob
    (board : Nat)
    (job : Job) : Op Error Machine Unit := do
  let status ← dispatched
    (Machine.waitFor board job.id job.timeout)
  checkStatus status

end DomainRuntime

end Offload
