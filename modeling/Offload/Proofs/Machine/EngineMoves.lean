import Offload.Machine.Engines
import Offload.Proofs.Machine.ServiceMoves

/-
  What goes on while engines run.

  Besides what services do, engines run kernels on memory and
  finish tickets. A relation that allows the steps of these
  allows a submission, whatever becomes of it and of those
  that were submitted before.

  Key definitions include:
    * `Machine.Engines`

  Main results:
    * `Upcase.run_moves`
    * `Machine.runKernel_moves`
    * `Machine.submit_moves`
-/

namespace Offload

------------------------------------------------------------
-- Kernels on Memory
------------------------------------------------------------

namespace Upcase

variable {P : Platform → Platform → Prop}
variable [Platform.Frame P]

theorem copy_moves
    (r : VectorRequest)
    (source target : Handle) :
    Op.Moves P (copy r source target) := by
  refine (source.invalidate_moves.mapError _).bind ?_
  intro _
  refine (source.read_moves 0 _).bind ?_
  intro bytes
  refine (target.write_moves 0 _).bind ?_
  intro _
  exact target.flush_moves.mapError _

theorem copyResolved_moves
    (r : VectorRequest)
    (source target : Resolved) :
    Op.Moves (Op.Second P) (copyResolved r source target) := by
  apply Op.Moves.seeing
  rintro ⟨c, m⟩
  dsimp only
  split
  · exact (copy_moves r _ _).within_snd
  · exact Op.Moves.fail unresolved

/- A request is run, and what was resolved is let go. -/
theorem run_moves
    (r : VectorRequest) :
    Op.Moves (Op.Second P) (run r) := by
  refine
    ((IdCache.resolve_moves _).mapError _).attempt.bind ?_
  intro source
  refine
    ((IdCache.resolve_moves _).mapError _).attempt.bind ?_
  intro target
  rcases source with status | source
  · rcases target with status' | target
    · exact Op.Moves.fail status
    · exact
        (IdCache.letGo_moves _).bind fun _ =>
          Op.Moves.fail status
  · rcases target with status | target
    · exact
        (IdCache.letGo_moves _).bind fun _ =>
          Op.Moves.fail status
    · refine
        (copyResolved_moves r source target).attempt.bind ?_
      intro result
      refine (IdCache.letGo_moves _).bind ?_
      intro _
      refine (IdCache.letGo_moves _).bind ?_
      exact fun _ => Op.Moves.ofExcept result

end Upcase

------------------------------------------------------------
-- Engines
------------------------------------------------------------

namespace Machine

/-
  A preorder that allows what engines do besides: what is
  done on a platform, to change caches and engines, and to
  finish tickets.
-/
class Engines (R : Machine → Machine → Prop) : Prop
    extends Services R where
  frame : Platform.Frame (Through R)
  beside : ∀ (m : Machine) (caches : Table IdCache)
      (engines : Table Engine),
    R m { m with caches := caches, engines := engines }
  ticketed : ∀ (t : Ticket) (status : Status) (m : Machine),
    R m (m.completeTicket t status)

attribute [instance] Engines.frame

section Engines

variable {R : Machine → Machine → Prop}
variable [Engines R]
variable {m : Machine}

theorem engines_moves
    (engines : Table Engine)
    (m : Machine) : R m { m with engines := engines } :=
  Engines.beside m m.caches engines

theorem runOnMemory_moves
    (cache : Nat)
    (r : VectorRequest)
    (m : Machine) : R m (m.runOnMemory cache r).2 := by
  have hRow :
      R m
        (onRow cachesPart cache (.error Upcase.unresolved)
          (Upcase.run r) m).2 :=
    onRow_moves
      (fun caches m => Engines.beside m caches m.engines)
      (Upcase.run_moves r) cache _ m
  unfold runOnMemory
  dsimp only
  split
  · rename_i hRun
    rwa [hRun] at hRow
  · rename_i hRun
    rwa [hRun] at hRow

theorem runKernel_moves
    (k : Kernel)
    (r : EngineRequest)
    (m : Machine) : R m (m.runKernel k r).2 := by
  unfold runKernel
  split
  · dsimp only
    exact logged_moves _ m
  · split
    · exact runOnMemory_moves _ _ m
    · exact Std.Refl.refl m

theorem runSubmission_moves
    (w : Worker)
    (s : Submission)
    (m : Machine) : R m (m.runSubmission w s).2 :=
  IsTrans.trans _ _ _
    (runKernel_moves w.begin.kernel s.request m)
    (Engines.ticketed _ _ _)

theorem workerStep_moves
    {w : Worker}
    {next : Worker × Machine}
    (h : m.workerStep w = some next) : R m next.2 := by
  have hAt :
      ∀ (s : Submission) (g : String),
        (m.passGate? g).map (fun m => m.runSubmission w s) =
            some next →
          R m next.2 := by
    intro s g hPass
    rcases Option.map_eq_some_iff.mp hPass with
      ⟨m', hPassed, rfl⟩
    exact
      IsTrans.trans _ _ _ (passGate?_moves hPassed)
        (runSubmission_moves w s m')
  unfold workerStep at h
  split at h
  · split at h
    · cases h
      exact runSubmission_moves w _ m
    · exact hAt _ _ h
  · split at h
    · cases h
    · split at h
      · cases h
        exact runSubmission_moves _ _ m
      · cases h
        exact setGate_moves _ _ m

theorem runWorker_moves
    (fuel : Nat)
    (w : Worker)
    (m : Machine) : R m (runWorker fuel w m).2 := by
  induction fuel generalizing w m with
  | zero => exact Std.Refl.refl m
  | succ fuel ih =>
      unfold runWorker
      cases hStep : m.workerStep w with
      | none => exact Std.Refl.refl m
      | some next =>
          exact
            IsTrans.trans _ _ _ (workerStep_moves hStep)
              (ih next.1 next.2)

theorem settleEngine_moves
    (m : Machine)
    (engine : Nat) : R m (m.settleEngine engine) := by
  unfold settleEngine
  split
  · rename_i w _
    have hMove :
        R m (runWorker (2 * w.queue.length + 2) w m).2 :=
      runWorker_moves _ w m
    rcases hRun : runWorker (2 * w.queue.length + 2) w m with
      ⟨w', m'⟩
    rw [hRun] at hMove
    exact IsTrans.trans _ _ _ hMove (engines_moves _ m')
  · exact Std.Refl.refl m

/- An engine of the machine, whether it takes a request. -/
theorem submit_moves
    (engine : Nat)
    (s : Submission) : Op.Moves R (submit engine s) := by
  intro m
  unfold submit
  cases m.engines.get? engine with
  | none => exact Engines.ticketed _ _ m
  | some e =>
      cases hAccept : e.accept s with
      | error cause =>
          simp only [hAccept]
          exact Engines.ticketed _ _ m
      | ok e' =>
          simp only [hAccept]
          exact
            IsTrans.trans _ _ _ (engines_moves _ m)
              (settleEngine_moves _ engine)

end Engines

end Machine

end Offload
