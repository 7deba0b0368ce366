import Offload.Dispatch.Runtime

/-
  A runtime whose results are laid down in advance.

  Key definitions include:
    * `RuntimeScript`
    * `ScriptedRuntime`
-/

namespace Offload

/- The results of one method; after the last all succeed. -/
abbrev Outcomes := List (Option DispatchError)

/- The results of all methods. -/
structure RuntimeScript where
  init : Outcomes
  submit : Outcomes
  complete : Outcomes
  fini : Outcomes

/- A method call that was made, with the id of its job. -/
structure RuntimeCall where
  method : String
  id : Option RequestId

/- A domain, the results to come, and the calls made. -/
structure ScriptedRuntime where
  domain : ComputeDomain
  script : RuntimeScript
  calls : List RuntimeCall

namespace ScriptedRuntime

/- A runtime that was not called yet. -/
def create
    (domain : ComputeDomain)
    (script : RuntimeScript) : ScriptedRuntime :=
  ⟨domain, script, []⟩

/- Note a call and answer with the next of its results. -/
def answer
    (call : RuntimeCall)
    (part : Lens RuntimeScript Outcomes) :
    Op Error (ScriptedRuntime × Machine) Unit := do
  let (r, _) ← Op.get
  let outcomes := part.get r.script
  DomainRuntime.change fun r : ScriptedRuntime =>
    { r with
      script := part.set outcomes.tail r.script
      calls := r.calls ++ [call] }
  match outcomes with
  | some cause :: _ => Op.fail (.dispatch cause)
  | _ => return ()

/- The results of `init`. -/
def initPart : Lens RuntimeScript Outcomes :=
  ⟨RuntimeScript.init, fun o s => { s with init := o }⟩

/- The results of `submit`. -/
def submitPart : Lens RuntimeScript Outcomes :=
  ⟨RuntimeScript.submit, fun o s => { s with submit := o }⟩

/- The results of `complete`. -/
def completePart : Lens RuntimeScript Outcomes :=
  ⟨RuntimeScript.complete,
   fun o s => { s with complete := o }⟩

/- The results of `fini`. -/
def finiPart : Lens RuntimeScript Outcomes :=
  ⟨RuntimeScript.fini, fun o s => { s with fini := o }⟩

instance : DomainRuntime ScriptedRuntime where
  domain := ScriptedRuntime.domain
  init := fun _ => answer ⟨"init", none⟩ initPart
  submit := fun job =>
    answer ⟨"submit", some job.id⟩ submitPart
  complete := fun job =>
    answer ⟨"complete", some job.id⟩ completePart
  fini := answer ⟨"fini", none⟩ finiPart

end ScriptedRuntime

end Offload
