import Offload.Proofs.Dispatch.DispatcherMoves
import Offload.Proofs.Dispatch.EngineRuntimes

/-
  What a dispatcher does that changes no board.

  All but posting a job and waiting for it has nothing to do
  with a board: initializing and finalizing, what follows the
  answer of the runtime, and the dumps.

  Main results:
    * `Dispatcher.init_posts`
    * `Dispatcher.fini_posts`
    * `Dispatcher.settle_posts`
    * `Dispatcher.conclude_posts`
    * `Engaged.board_of_ran`
-/

namespace Offload

open Machine

------------------------------------------------------------
-- Runtimes
------------------------------------------------------------

namespace Engaged

variable {ρ : Type}
variable {key : Nat}
variable [EngineRuntime ρ]

theorem init_posts
    (c : StageConfig) :
    Op.Moves (Op.Second (OnlyPosts key))
      (DomainRuntime.init c :
        Op Error (Engaged ρ key × Machine) Unit) := by
  rintro ⟨e, m⟩
  rcases EngineRuntime.init_run c e.runtime m with
    ⟨r', m', hInit, _, _, hSame⟩
  change
    OnlyPosts key m
      (onRuntime (DomainRuntime.init c) (e, m)).2.2
  simp only [onRuntime, Op.within, hInit]
  exact .of_same hSame

theorem fini_posts :
    Op.Moves (Op.Second (OnlyPosts key))
      (DomainRuntime.fini :
        Op Error (Engaged ρ key × Machine) Unit) := by
  intro s
  change OnlyPosts key s.2 (onRuntime DomainRuntime.fini s).2.2
  rw [EngineRuntime.fini_eq]
  exact .of_same rfl

theorem submit_keeps
    (job : Job)
    (e : Engaged ρ key)
    (m : Machine) : (submit job (e, m)).2.1 = e := by
  cases hRequest : EngineRuntime.request e.runtime job with
  | error cause => rw [submit_failed hRequest]
  | ok q => rw [submit_run hRequest]

theorem complete_keeps
    (job : Job)
    (e : Engaged ρ key)
    (m : Machine) : (complete job (e, m)).2.1 = e :=
  rfl

/- A runtime stays at its board. -/
theorem board_of_ran
    {c : StageConfig}
    {ms : List RuntimeMethod}
    {e e' : Engaged ρ key}
    (hRan : RuntimeMethod.Ran c ms e e') :
    EngineRuntime.board e'.runtime =
      EngineRuntime.board e.runtime := by
  induction hRan with
  | nothing e => rfl
  | single method e m =>
      cases method with
      | init =>
          rcases EngineRuntime.init_run c e.runtime m with
            ⟨r', m', hInit, _, hBoard, _⟩
          change
            EngineRuntime.board
                (onRuntime (DomainRuntime.init c)
                  (e, m)).2.1.runtime =
              _
          simp only [onRuntime, Op.within, hInit]
          exact hBoard
      | submit job =>
          change
            EngineRuntime.board
                (submit job (e, m)).2.1.runtime = _
          rw [submit_keeps]
      | complete job =>
          change
            EngineRuntime.board
                (complete job (e, m)).2.1.runtime = _
          rw [complete_keeps]
      | fini =>
          change
            EngineRuntime.board
                (onRuntime DomainRuntime.fini
                  (e, m)).2.1.runtime =
              _
          rw [EngineRuntime.fini_eq]
          rfl
  | both _ _ ihFirst ihSecond =>
      exact ihSecond.trans ihFirst

end Engaged

namespace Dispatcher

variable {ε ρ σ α : Type}
variable {key : Nat}

------------------------------------------------------------
-- What Leaves the Board Alone
------------------------------------------------------------

/- Resources of a stage have nothing to do with boards. -/
instance : Stages (OnlyPosts key) where
  frame := inferInstance
  shelved _ _ _ _ := .of_same rfl

/- Records of the machine are no matter of a board. -/
theorem record_posts
    (x : Op ε Platform α) :
    Op.Moves (Op.Second (OnlyPosts key))
      (onMachine (onPlatform x) :
        Op ε (Dispatcher σ × Machine) α) :=
  fun _ => .of_same rfl

theorem noteFailure_posts
    (e : Error) :
    Op.Moves (Op.Second (OnlyPosts key))
      (noteFailure e :
        Op ε (Dispatcher σ × Machine) Unit) := by
  apply Op.Moves.get_bind
  rintro ⟨d, m⟩
  cases e.dispatch? with
  | none => exact .of_same rfl
  | some cause => exact record_posts _ (d, m)

theorem settle_posts
    (c : StageConfig)
    (job : Job)
    (answer : Except Error Unit) :
    Op.Moves (Op.Second (OnlyPosts key))
      (settle c job answer :
        Op Error (Dispatcher σ × Machine) RequestId) := by
  cases answer with
  | error e =>
      apply Op.Moves.bind (change_moves _)
      intro _
      apply Op.Moves.bind (record_posts _)
      intro _
      apply Op.Moves.bind (noteFailure_posts e)
      exact fun _ => Op.Moves.fail e
  | ok _ =>
      apply Op.Moves.bind (change_moves _)
      intro _
      apply Op.Moves.bind (record_posts _)
      exact fun _ => Op.Moves.pure _

theorem conclude_posts
    (c : StageConfig)
    (job : Job)
    (answer : Except Error Unit) :
    Op.Moves (Op.Second (OnlyPosts key))
      (conclude c job answer :
        Op Error (Dispatcher σ × Machine) Unit) := by
  cases answer with
  | error e =>
      apply Op.Moves.bind (record_posts _)
      intro _
      apply Op.Moves.bind (noteFailure_posts e)
      exact fun _ => Op.Moves.fail e
  | ok _ =>
      apply Op.Moves.bind (record_posts _)
      exact fun _ => dump_moves job

variable [EngineRuntime ρ]

theorem init_posts :
    Op.Moves (Op.Second (OnlyPosts key))
      (init :
        Op Error (Dispatcher (Engaged ρ key) × Machine)
          Unit) :=
  init_moves Engaged.init_posts Engaged.fini_posts

theorem fini_posts :
    Op.Moves (Op.Second (OnlyPosts key))
      (fini :
        Op Error (Dispatcher (Engaged ρ key) × Machine)
          Unit) :=
  fini_moves Engaged.fini_posts

end Dispatcher

end Offload
