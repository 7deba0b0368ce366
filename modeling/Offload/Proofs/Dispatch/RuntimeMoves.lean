import Offload.Dispatch.Runtime.Accelerator
import Offload.Proofs.Machine.ServiceMoves

/-
  What the runtime of the accelerator does.

  All it does is to call firmware and to leave entries in the
  log. A relation that allows what services do allows all of
  its methods, wherever they fail.

  Main results:
    * `AcceleratorRuntime.init_moves`
    * `AcceleratorRuntime.submit_moves`
    * `AcceleratorRuntime.complete_moves`
    * `AcceleratorRuntime.fini_moves`
-/

namespace Offload

namespace AcceleratorRuntime

variable {R : Machine → Machine → Prop}
variable [Machine.Services R]

------------------------------------------------------------
-- Opening and Closing
------------------------------------------------------------

theorem call_moves
    (r : AcceleratorRuntime)
    (opcode : Opcode)
    (params : List Param)
    (timeout : Duration) :
    Op.Moves R (r.call opcode params timeout) :=
  (Machine.call_moves _ _ _ _).mapError _

theorem loadModel_moves
    (r : AcceleratorRuntime)
    (driver : UInt64)
    (path : String)
    (timeout : Duration) :
    Op.Moves R (r.loadModel driver path timeout) := by
  refine (Machine.call_moves _ _ _ _).attempt.bind ?_
  rintro (cause | outputs)
  · refine (Machine.log_moves _ _ _).bind ?_
    exact fun _ => Op.Moves.fail _
  · exact Op.Moves.ofExcept _

theorem init_moves
    (c : StageConfig) : Op.Moves (Op.Second R) (init c) := by
  refine Op.Moves.bind (Op.Moves.within_fst _) ?_
  intro _
  refine Op.Moves.bind (R := Op.Second R) ?_ ?_
  · unfold Op.ofOption
    cases c.modelPath with
    | none => exact Op.Moves.fail _
    | some path => exact Op.Moves.pure path
  · intro path
    apply Op.Moves.seeing
    rintro ⟨r, m⟩
    refine (r.call_moves _ _ _).within_snd.bind ?_
    intro outputs
    refine Op.Moves.bind (Op.Moves.ofExcept _) ?_
    intro driver
    refine (r.loadModel_moves driver path _).within_snd.bind ?_
    intro model
    refine Op.Moves.bind (Op.Moves.within_fst _) ?_
    exact fun _ => (Machine.log_moves _ _ _).within_snd

theorem fini_moves : Op.Moves (Op.Second R) fini := by
  apply Op.Moves.seeing
  rintro ⟨r, m⟩
  dsimp only
  split
  · refine Op.Moves.bind (Op.Moves.within_fst _) ?_
    exact fun _ => (Machine.log_moves _ _ _).within_snd
  · exact Op.Moves.within_fst _

------------------------------------------------------------
-- Running
------------------------------------------------------------

theorem invoke_moves
    (r : AcceleratorRuntime)
    (model : UInt64)
    (timeout : Duration)
    (run : ModelRun) :
    Op.Moves R (r.invoke model timeout run) := by
  unfold invoke
  split
  · exact Op.Moves.fail _
  · refine (Machine.log_moves _ _ _).bind ?_
    intro _
    refine (r.call_moves _ _ _).bind ?_
    exact fun _ => Op.Moves.pure ()

theorem await_moves
    (r : AcceleratorRuntime)
    (timeout : Duration) : Op.Moves R (r.await timeout) :=
  (r.call_moves _ _ _).bind fun _ => Op.Moves.pure ()

theorem invokeAll_moves
    (r : AcceleratorRuntime)
    (model : UInt64)
    (timeout : Duration)
    (runs : List ModelRun) :
    Op.Moves R (r.invokeAll model timeout runs) := by
  induction runs with
  | nil => exact Op.Moves.fail _
  | cons run rest ih =>
      cases rest with
      | nil => exact r.invoke_moves model timeout run
      | cons next rest =>
          refine (r.invoke_moves model timeout run).bind ?_
          intro _
          exact (r.await_moves timeout).bind fun _ => ih

theorem submit_moves
    (job : Job) : Op.Moves (Op.Second R) (submit job) := by
  apply Op.Moves.seeing
  rintro ⟨r, m⟩
  dsimp only
  cases r.plan job with
  | error refusal =>
      refine
        Op.Moves.bind
          (fun s => Machine.logged_moves refusal.event s.2) ?_
      exact fun _ => Op.Moves.fail _
  | ok planned =>
      exact (r.invokeAll_moves _ _ _).within_snd

theorem complete_moves
    (job : Job) : Op.Moves (Op.Second R) (complete job) := by
  apply Op.Moves.seeing
  rintro ⟨r, m⟩
  exact (r.await_moves job.timeout).within_snd

end AcceleratorRuntime

end Offload
