import Offload.Dispatch.Engine
import Offload.Memory.IdCache

/-
  A vector graph that copies text in capitals.

  Key definitions include:
    * `Upcase.letter`
    * `Upcase.run`
-/

namespace Offload

namespace Upcase

/- An ASCII letter in its capital form. -/
def letter
    (b : UInt8) : UInt8 :=
  if 97 ≤ b ∧ b ≤ 122 then b - 32 else b

/- The status when an address cannot be resolved. -/
def unresolved : Status :=
  DispatchError.missingArtifact.status

/- The status when cache maintenance fails. -/
def unmaintained : Status :=
  DispatchError.unknown.status

/- Fail with one status whatever the reason was. -/
def failWith
    {σ α : Type}
    (status : Status)
    (x : Op Error σ α) : Op Status σ α :=
  Op.mapError (fun _ => status) x

/- Copy between two mapped regions. -/
def copy
    (r : VectorRequest)
    (source target : Handle) : Op Status Platform Unit := do
  failWith unmaintained source.invalidate
  let count :=
    min (min r.input.size r.output.size)
      (min source.size target.size)
  let bytes ← source.read 0 count
  target.write 0 (bytes.map letter)
  failWith unmaintained target.flush

/- Copy between two resolved addresses. -/
def copyResolved
    (r : VectorRequest)
    (source target : Resolved) :
    Op Status (IdCache × Platform) Unit := do
  let (c, _) ← Op.get
  match c.handle? source, c.handle? target with
  | some s, some t => Op.within Lens.snd (copy r s t)
  | _, _ => Op.fail unresolved

/-
  Run a request on the memory that its input and output
  addresses resolve to. Both are looked up even if there is
  no input.
-/
def run
    (r : VectorRequest) :
    Op Status (IdCache × Platform) Unit := do
  let source ← (failWith unresolved
    (IdCache.resolve r.input.addr)).attempt
  let target ← (failWith unresolved
    (IdCache.resolve r.output.addr)).attempt
  match source, target with
  | .ok source, .ok target =>
    let result ← (copyResolved r source target).attempt
    IdCache.letGo target.lease
    IdCache.letGo source.lease
    Op.ofExcept result
  | .ok source, .error status =>
    IdCache.letGo source.lease
    Op.fail status
  | .error status, .ok target =>
    IdCache.letGo target.lease
    Op.fail status
  | .error status, .error _ => Op.fail status

end Upcase

end Offload
