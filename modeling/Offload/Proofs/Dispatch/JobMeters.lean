import Offload.Dispatch.Runtime.Any
import Offload.Proofs.Dispatch.EngineRuntimes
import Offload.Proofs.Dispatch.RuntimeMoves
import Offload.Proofs.Machine.EngineMoves
import Offload.Proofs.Stage.ResourceMoves

/-
  Who counts the jobs of a stage.

  The jobs of a stage are counted by its dispatcher alone:
  whatever engines, services and runtimes do, the meters
  about its jobs keep their values. And no runtime ever says
  that a job it is asked to complete is not awaited.

  Key definitions include:
    * `Meter.IsOf`
    * `Machine.SameJobs`
    * `Machine.Aside`
    * `Op.Unrefused`
    * `DomainRuntime.Discreet`

  Main results:
    * `AnyRuntime.discreet`
-/

namespace Offload

------------------------------------------------------------
-- Meters of a Stage
------------------------------------------------------------

/- A meter is one of those about the jobs of a stage. -/
def Meter.IsOf
    (c : StageConfig) : Meter → Prop
  | .jobsDispatched domain node =>
    domain = c.domain ∧ node = c.node
  | .jobFailures domain node _ =>
    domain = c.domain ∧ node = c.node
  | .jobDuration domain node =>
    domain = c.domain ∧ node = c.node
  | _ => False

theorem Meter.IsOf.isJob
    {c : StageConfig}
    {meter : Meter}
    (h : meter.IsOf c) : meter.isJob = true := by
  cases meter <;> first | rfl | exact h.elim

namespace Machine

/- The value of a meter on a machine. -/
def metered
    (m : Machine)
    (meter : Meter) : Nat :=
  m.platform.telemetry.metrics.read meter

/- The meters about the jobs of a stage keep their values. -/
def SameJobs
    (c : StageConfig)
    (m m' : Machine) : Prop :=
  ∀ meter : Meter,
    meter.IsOf c → m'.metered meter = m.metered meter

variable {c : StageConfig}
variable {m m' m'' : Machine}

/- Nothing is recorded while the platform stays the same. -/
theorem SameJobs.of_platform
    (h : m'.platform = m.platform) : SameJobs c m m' := by
  intro meter _
  unfold metered
  rw [h]

theorem SameJobs.trans
    (hFirst : SameJobs c m m')
    (hNext : SameJobs c m' m'') : SameJobs c m m'' :=
  fun meter hOf =>
    (hNext meter hOf).trans (hFirst meter hOf)

instance : Std.Refl (SameJobs c) where
  refl _ := .of_platform rfl

instance : IsTrans Machine (SameJobs c) where
  trans _ _ _ := SameJobs.trans

instance : Platform.Frame (Through (SameJobs c)) where
  struck _ _ _ _ _ := rfl
  acted _ _ _ _ _ := rfl
  recorded _ _ hSame _ meter hOf := hSame meter hOf.isJob
  direct hRun m meter hOf := hRun m meter hOf

instance : Services (SameJobs c) where
  serving := inferInstance
  aside _ _ _ _ := .of_platform rfl

instance : Engines (SameJobs c) where
  frame := inferInstance
  beside _ _ _ := .of_platform rfl
  ticketed t status m := by
    unfold completeTicket
    cases m.boards.get? t.board with
    | none => exact .of_platform rfl
    | some b =>
        -- the board is another one, and an entry is made
        have hBoards :
            SameJobs c m
              { m with
                boards :=
                  m.boards.set t.board
                    (b.complete t.id status).2 } :=
          .of_platform rfl
        exact hBoards.trans (logged_moves _ _)

instance : Stages (SameJobs c) where
  frame := inferInstance
  shelved _ _ _ _ := .of_platform rfl

------------------------------------------------------------
-- Boards
------------------------------------------------------------

/- What happens on boards is not recorded. -/
theorem boards_sameJobs
    (boards : Table Board)
    (m : Machine) :
    SameJobs c m { m with boards := boards } :=
  .of_platform rfl

theorem submitRegistered_sameJobs
    (engine board : Nat)
    (r : EngineRequest) :
    Op.Moves (SameJobs c)
      (submitRegistered engine board r) := by
  have hRegister :
      Op.Moves (SameJobs c) (registerTicket board r.id) := by
    intro m
    unfold registerTicket
    cases m.boards.get? board with
    | none => exact .of_platform rfl
    | some b =>
        dsimp only
        cases b.register r.id with
        | error cause => exact .of_platform rfl
        | ok b' => exact boards_sameJobs _ m
  have hCancel :
      Op.Moves (SameJobs c)
        (cancelTicket board r.id :
          Op DispatchError Machine Unit) := by
    intro m
    simp only [cancelTicket, Op.modify]
    cases m.boards.get? board with
    | none => exact .of_platform rfl
    | some b => exact boards_sameJobs _ m
  refine hRegister.bind ?_
  intro ticket
  refine (submit_moves engine _).attempt.bind ?_
  rintro (cause | _)
  · exact hCancel.bind fun _ => Op.Moves.fail cause
  · exact Op.Moves.pure ()

theorem waitFor_sameJobs
    (board : Nat)
    (id : RequestId)
    (timeout : Duration) :
    Op.Moves (SameJobs c) (waitFor board id timeout) := by
  have hLook :
      Op.Moves (SameJobs c)
        (lookOnBoard board id :
          Op DispatchError Machine Look) := by
    intro m
    simp only [lookOnBoard, Op.update]
    cases m.boards.get? board with
    | none => exact .of_platform rfl
    | some b => exact boards_sameJobs _ m
  have hAbandon :
      Op.Moves (SameJobs c)
        (abandon board id :
          Op DispatchError Machine Unit) := by
    intro m
    simp only [abandon, Op.modify]
    cases m.boards.get? board with
    | none => exact .of_platform rfl
    | some b => exact boards_sameJobs _ m
  refine hLook.bind ?_
  rintro (status | _ | _)
  · exact Op.Moves.pure status
  · refine Op.Moves.bind (fun m => advanceBy_moves timeout m) ?_
    intro _
    refine hLook.bind ?_
    rintro (status | _ | _)
    · exact Op.Moves.pure status
    · exact hAbandon.bind fun _ => Op.Moves.fail _
    · exact hAbandon.bind fun _ => Op.Moves.fail _
  · exact Op.Moves.fail _

------------------------------------------------------------
-- Others
------------------------------------------------------------

/-
  What others do to a machine, such as to finish tickets that
  they keep, is not recorded as a job of the stage.
-/
structure Aside (c : StageConfig) where
  act : Machine → Machine
  same : ∀ m : Machine, SameJobs c m (act m)

end Machine

------------------------------------------------------------
-- Runtimes
------------------------------------------------------------

section Unrefused

variable {σ α β : Type}

/- An operation that never fails for the state it finds. -/
def Op.Unrefused
    (x : Op Error σ α) : Prop :=
  ∀ s text, (x s).1 ≠ .error (.invalidState text)

theorem Op.Unrefused.bind
    {x : Op Error σ α}
    {f : α → Op Error σ β}
    (hx : x.Unrefused)
    (hf : ∀ a, (f a).Unrefused) : (x >>= f).Unrefused := by
  intro s text
  have hFirst := hx s text
  change (Op.bind x f s).1 ≠ _
  unfold Op.bind
  rcases hRun : x s with ⟨e | a, t⟩
  · rw [hRun] at hFirst
    exact fun h => hFirst (congrArg _ (Except.error.inj h))
  · exact hf a t text

theorem Op.Unrefused.pure
    (a : α) : (Op.pure a : Op Error σ α).Unrefused :=
  fun _ _ => nofun

/- What a domain answers is put in terms of the domain. -/
theorem DomainRuntime.dispatched_unrefused
    (x : Op DispatchError Machine α) :
    (dispatched x).Unrefused := by
  intro m text
  rw [dispatched, Op.mapError_run]
  cases (x m).1 <;> simp [Except.mapError]

end Unrefused

/-
  A runtime that leaves the counting of jobs to others, and
  never says that a job is not awaited.
-/
class DomainRuntime.Discreet
    (ρ : Type)
    [DomainRuntime ρ] : Prop where
  init : ∀ c c' : StageConfig,
    Op.Moves (Op.Second (Machine.SameJobs c))
      (DomainRuntime.init c' : Op Error (ρ × Machine) Unit)
  submit : ∀ (c : StageConfig) (job : Job),
    Op.Moves (Op.Second (Machine.SameJobs c))
      (DomainRuntime.submit job :
        Op Error (ρ × Machine) Unit)
  complete : ∀ (c : StageConfig) (job : Job),
    Op.Moves (Op.Second (Machine.SameJobs c))
      (DomainRuntime.complete job :
        Op Error (ρ × Machine) Unit)
  fini : ∀ c : StageConfig,
    Op.Moves (Op.Second (Machine.SameJobs c))
      (DomainRuntime.fini : Op Error (ρ × Machine) Unit)
  awaits : ∀ job : Job,
    Op.Unrefused
      (DomainRuntime.complete job :
        Op Error (ρ × Machine) Unit)

namespace DomainRuntime

open Machine

variable {c : StageConfig}

theorem awaitJob_sameJobs
    (board : Nat)
    (job : Job) :
    Op.Moves (SameJobs c) (awaitJob board job) := by
  refine
    ((waitFor_sameJobs board job.id _).mapError _).bind ?_
  intro status
  unfold checkStatus
  split
  · exact Op.Moves.pure ()
  · exact Op.Moves.fail _

theorem awaitJob_unrefused
    (board : Nat)
    (job : Job) : (awaitJob board job).Unrefused := by
  apply (dispatched_unrefused _).bind
  intro status m text
  unfold checkStatus
  split
  · exact nofun
  · exact fun h => nomatch h

end DomainRuntime

namespace EngineRuntime

open Machine

variable {ρ : Type}
variable {c : StageConfig}
variable [EngineRuntime ρ]

theorem submit_sameJobs
    (job : Job) :
    Op.Moves (Op.Second (SameJobs c))
      (DomainRuntime.submit job :
        Op Error (ρ × Machine) Unit) := by
  rw [submit_eq]
  apply Op.Moves.seeing
  rintro ⟨r, m⟩
  refine Op.Moves.bind (Op.Moves.ofExcept _) ?_
  intro q
  exact
    ((submitRegistered_sameJobs _ _ q).mapError _).within_snd

theorem complete_sameJobs
    (job : Job) :
    Op.Moves (Op.Second (SameJobs c))
      (DomainRuntime.complete job :
        Op Error (ρ × Machine) Unit) := by
  rw [complete_eq]
  apply Op.Moves.seeing
  rintro ⟨r, m⟩
  exact (DomainRuntime.awaitJob_sameJobs _ job).within_snd

theorem complete_unrefused
    (job : Job) :
    Op.Unrefused
      (DomainRuntime.complete job :
        Op Error (ρ × Machine) Unit) := by
  rw [complete_eq]
  intro s text
  exact
    DomainRuntime.awaitJob_unrefused (board s.1) job s.2 text

/- All but how it is opened is the same for all of them. -/
theorem discreet
    (hInit :
      ∀ c c' : StageConfig,
        Op.Moves (Op.Second (SameJobs c))
          (DomainRuntime.init c' :
            Op Error (ρ × Machine) Unit)) :
    DomainRuntime.Discreet ρ where
  init := hInit
  submit _ job := submit_sameJobs job
  complete _ job := complete_sameJobs job
  fini _ := by
    rw [fini_eq]
    exact Op.Moves.pure ()
  awaits := complete_unrefused

end EngineRuntime

open Machine

/- A runtime notes something, and that it is attached. -/
theorem DomainRuntime.attached_sameJobs
    {c : StageConfig}
    {ρ : Type}
    (note : ρ → ρ)
    (message : String)
    (fields : ρ × Machine → List (String × String)) :
    Op.Moves (Op.Second (SameJobs c))
      (do
        DomainRuntime.change note
        let s ← Op.get
        DomainRuntime.onMachine
          (Machine.log .debug message (fields s)) :
        Op Error (ρ × Machine) Unit) := by
  refine Op.Moves.bind (Op.Moves.within_fst _) ?_
  intro _
  apply Op.Moves.seeing
  exact fun _ => (Machine.log_moves _ _ _).within_snd

instance : DomainRuntime.Discreet HostRuntime :=
  EngineRuntime.discreet fun _ _ =>
    DomainRuntime.attached_sameJobs _ "host runtime attached" _

instance : DomainRuntime.Discreet VectorRuntime :=
  EngineRuntime.discreet fun _ _ =>
    DomainRuntime.attached_sameJobs _ "vector runtime attached" _

instance : DomainRuntime.Discreet AcceleratorRuntime where
  init _ c' := AcceleratorRuntime.init_moves c'
  submit _ job := AcceleratorRuntime.submit_moves job
  complete _ job := AcceleratorRuntime.complete_moves job
  fini _ := AcceleratorRuntime.fini_moves
  awaits _ s text :=
    (DomainRuntime.dispatched_unrefused _).bind
      (fun _ => Op.Unrefused.pure ()) s.2 text

namespace ScriptedRuntime

variable {c : StageConfig}

theorem answer_sameJobs
    (call : RuntimeCall)
    (part : Lens RuntimeScript Outcomes) :
    Op.Moves (Op.Second (SameJobs c)) (answer call part) := by
  apply Op.Moves.seeing
  rintro ⟨r, m⟩
  refine Op.Moves.bind (Op.Moves.within_fst _) ?_
  intro _
  split
  · exact Op.Moves.fail _
  · exact Op.Moves.pure ()

theorem answer_unrefused
    (call : RuntimeCall)
    (part : Lens RuntimeScript Outcomes) :
    (answer call part).Unrefused := by
  intro s text
  have hAnswer :
      (answer call part s).1 = .ok () ∨
        ∃ cause,
          (answer call part s).1 =
            .error (.dispatch cause) := by
    simp only [answer, bind, Op.bind, Op.get]
    rcases part.get s.1.script with _ | ⟨_ | cause, rest⟩
    · exact Or.inl rfl
    · exact Or.inl rfl
    · exact Or.inr ⟨cause, rfl⟩
  rcases hAnswer with hAnswer | ⟨cause, hAnswer⟩ <;>
    simp [hAnswer]

end ScriptedRuntime

instance : DomainRuntime.Discreet ScriptedRuntime where
  init _ _ := ScriptedRuntime.answer_sameJobs _ _
  submit _ _ := ScriptedRuntime.answer_sameJobs _ _
  complete _ _ := ScriptedRuntime.answer_sameJobs _ _
  fini _ := ScriptedRuntime.answer_sameJobs _ _
  awaits _ := ScriptedRuntime.answer_unrefused _ _

namespace AnyRuntime

variable {c : StageConfig}

theorem lift_sameJobs
    {ρ : Type}
    {x : Op Error (ρ × Machine) Unit}
    (hx : Op.Moves (Op.Second (SameJobs c)) x)
    (wrap : ρ → AnyRuntime)
    (r : ρ)
    (s : AnyRuntime × Machine) :
    SameJobs c s.2 (lift wrap r x s).2.2 :=
  hx (r, s.2)

/- What runtimes of all kinds leave alone stays as it is. -/
theorem each_sameJobs
    {x : {ρ : Type} → [DomainRuntime ρ] →
      Op Error (ρ × Machine) Unit}
    (hx :
      ∀ (ρ : Type) [DomainRuntime ρ]
        [DomainRuntime.Discreet ρ],
        Op.Moves (Op.Second (SameJobs c))
          (x : Op Error (ρ × Machine) Unit)) :
    Op.Moves (Op.Second (SameJobs c)) (each x) := by
  rintro ⟨r, m⟩
  cases r with
  | host r => exact lift_sameJobs (hx HostRuntime) _ r _
  | vector r => exact lift_sameJobs (hx VectorRuntime) _ r _
  | accelerator r =>
      exact lift_sameJobs (hx AcceleratorRuntime) _ r _
  | scripted r =>
      exact lift_sameJobs (hx ScriptedRuntime) _ r _

end AnyRuntime

/- The runtime of a backend, of whatever kind. -/
instance AnyRuntime.discreet :
    DomainRuntime.Discreet AnyRuntime where
  init c c' :=
    each_sameJobs fun _ _ _ => DomainRuntime.Discreet.init c c'
  submit c job :=
    each_sameJobs fun _ _ _ =>
      DomainRuntime.Discreet.submit c job
  complete c job :=
    each_sameJobs fun _ _ _ =>
      DomainRuntime.Discreet.complete c job
  fini c :=
    each_sameJobs fun _ _ _ => DomainRuntime.Discreet.fini c
  awaits job s text := by
    rcases s with ⟨r | r | r | r, m⟩
    · exact DomainRuntime.Discreet.awaits job (r, m) text
    · exact DomainRuntime.Discreet.awaits job (r, m) text
    · exact DomainRuntime.Discreet.awaits job (r, m) text
    · exact DomainRuntime.Discreet.awaits job (r, m) text

end Offload
