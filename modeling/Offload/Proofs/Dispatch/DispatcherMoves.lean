import Offload.Dispatch.Dispatcher
import Offload.Proofs.Stage.ResourceMoves

/-
  What a dispatcher does beside its jobs.

  To initialize and to finalize a dispatcher its runtime is
  opened or closed, and its resources are made or released;
  after a job its output is dumped. A relation that allows
  what stages do, and what the runtime does, allows all of
  this. What is counted of jobs is not among it.

  Main results:
    * `Dispatcher.init_moves`
    * `Dispatcher.fini_moves`
    * `Dispatcher.dump_moves`
-/

namespace Offload

namespace Dispatcher

open Machine

variable {ε ρ α : Type}
variable {R : Machine → Machine → Prop}

------------------------------------------------------------
-- Parts
------------------------------------------------------------

theorem onMachine_moves
    {x : Op ε Machine α}
    (hx : Op.Moves R x) :
    Op.Moves (Op.Second R)
      (onMachine x : Op ε (Dispatcher ρ × Machine) α) :=
  hx.within_snd

theorem onRuntime_moves
    {x : Op ε (ρ × Machine) α}
    (hx : Op.Moves (Op.Second R) x) :
    Op.Moves (Op.Second R)
      (onRuntime x : Op ε (Dispatcher ρ × Machine) α) :=
  fun s => hx (s.1.runtime, s.2)

theorem change_moves
    [Std.Refl R]
    (f : Dispatcher ρ → Dispatcher ρ) :
    Op.Moves (Op.Second R)
      (change f : Op ε (Dispatcher ρ × Machine) Unit) :=
  Op.Moves.within_fst _

variable [Stages R]

theorem span_moves
    (s : Span) :
    Op.Moves R (span s : Op ε Machine Unit) :=
  onPlatform_moves fun p =>
    Platform.Frame.recorded _ p fun _ _ => rfl

theorem logged_moves
    (level : Level)
    (message : String)
    (fields : List (String × String)) :
    Op.Moves (Op.Second R)
      (onMachine (Machine.log level message fields) :
        Op ε (Dispatcher ρ × Machine) Unit) :=
  onMachine_moves (record_moves level message fields)

------------------------------------------------------------
-- Resources
------------------------------------------------------------

theorem dump_moves
    (job : Job) :
    Op.Moves (Op.Second R)
      (dump job : Op ε (Dispatcher ρ × Machine) Unit) := by
  apply Op.Moves.seeing
  rintro ⟨d, m⟩
  dsimp only
  cases d.resources with
  | none => exact Op.Moves.pure ()
  | some r =>
      exact
        (onMachine_moves (r.dump_moves job)).orElse
          fun _ => logged_moves _ _ _

theorem finalize_moves :
    Op.Moves (Op.Second R)
      (finalize : Op ε (Dispatcher ρ × Machine) Unit) := by
  have hRelease :
      Op.Moves (Op.Second R)
        (releaseResources :
          Op ε (Dispatcher ρ × Machine) Unit) := by
    apply Op.Moves.seeing
    rintro ⟨d, m⟩
    dsimp only
    refine (change_moves _).bind ?_
    intro _
    cases d.resources with
    | none => exact Op.Moves.pure ()
    | some r => exact onMachine_moves r.drop_moves
  refine hRelease.bind ?_
  intro _
  refine (change_moves _).bind ?_
  exact fun _ => logged_moves _ _ _

------------------------------------------------------------
-- Initializing and Finalizing
------------------------------------------------------------

variable [DomainRuntime ρ]

theorem activate_moves
    (hFini :
      Op.Moves (Op.Second R)
        (DomainRuntime.fini : Op Error (ρ × Machine) Unit))
    (r : StageResources) :
    Op.Moves (Op.Second R)
      (activate r :
        Op Error (Dispatcher ρ × Machine)
          StageResources) := by
  refine
    (onMachine_moves
      (StageResources.activate_moves.beside r)).bind ?_
  rintro ⟨_ | _, r'⟩
  · refine
      ((onRuntime_moves hFini).orElse
        fun _ => logged_moves _ _ _).bind ?_
    intro _
    refine (onMachine_moves r'.drop_moves).bind ?_
    exact fun _ => Op.Moves.fail _
  · exact Op.Moves.pure _

theorem init_moves
    (hInit :
      ∀ c : StageConfig,
        Op.Moves (Op.Second R)
          (DomainRuntime.init c :
            Op Error (ρ × Machine) Unit))
    (hFini :
      Op.Moves (Op.Second R)
        (DomainRuntime.fini :
          Op Error (ρ × Machine) Unit)) :
    Op.Moves (Op.Second R)
      (init : Op Error (Dispatcher ρ × Machine) Unit) := by
  have hOpen :
      ∀ r : StageResources,
        Op.Moves (Op.Second R)
          (openDomain r :
            Op Error (Dispatcher ρ × Machine)
              StageResources) := by
    intro r
    apply Op.Moves.seeing
    rintro ⟨d, m⟩
    refine (onRuntime_moves (hInit _)).attempt.bind ?_
    rintro (e | _)
    · refine (onMachine_moves r.drop_moves).bind ?_
      exact fun _ => Op.Moves.fail _
    · exact activate_moves hFini r
  apply Op.Moves.seeing
  rintro ⟨d, m⟩
  dsimp only
  split
  · exact Op.Moves.fail _
  · refine Op.Moves.bind (Op.Moves.ofExcept _) ?_
    intro _
    refine
      (onMachine_moves
        (StageResources.prepare_moves _)).bind ?_
    intro r
    refine (hOpen r).bind ?_
    intro r'
    refine (change_moves _).bind ?_
    exact fun _ => logged_moves _ _ _

theorem fini_moves
    (hFini :
      Op.Moves (Op.Second R)
        (DomainRuntime.fini :
          Op Error (ρ × Machine) Unit)) :
    Op.Moves (Op.Second R)
      (fini : Op Error (Dispatcher ρ × Machine) Unit) := by
  apply Op.Moves.seeing
  rintro ⟨d, m⟩
  dsimp only
  cases d.state with
  | uninitialized => exact finalize_moves
  | ready =>
      exact
        (onRuntime_moves hFini).bind fun _ => finalize_moves
  | posting => exact Op.Moves.fail _
  | waiting => exact Op.Moves.fail _
  | finalized => exact Op.Moves.fail _

end Dispatcher

end Offload
