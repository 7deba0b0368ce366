import Offload.Dispatch.Runtime.Vector
import Offload.Proofs.Dispatch.Completions
import Offload.Proofs.Machine.BoardClients

/-
  Runtimes that hand their jobs to an engine.

  The runtimes of the host and of the vector domain differ
  in the request they make of a job only. With an engine of
  any kind in place of the one of the machine they do the
  same, and over the engine of the machine nothing else than
  they do.

  Key definitions include:
    * `EngineRuntime`
    * `Engaged`
    * `Engaged.own`

  Main results:
    * `Engaged.submit_run`
    * `Engaged.complete_run`
    * `Engaged.own_imitates`
-/

namespace Offload

------------------------------------------------------------
-- Runtimes
------------------------------------------------------------

/-
  A runtime with an engine of the machine and a board of its
  own: it makes a request of each job, registers it on the
  board, hands it to the engine and waits on the board.
-/
class EngineRuntime (ρ : Type) extends DomainRuntime ρ where
  create : Nat → Op Error Machine ρ
  engine : ρ → Nat
  board : ρ → Nat
  request : ρ → Job → Except Error EngineRequest
  create_run : ∀ (n : Nat) (m : Machine),
    ∃ r,
      create n m =
          (.ok r,
            { m with
              boards :=
                (m.boards.insert
                  (Board.create Board.defaultDepth)).2 }) ∧
        board r = m.boards.next
  request_id : ∀ {r : ρ} {job : Job} {q : EngineRequest},
    request r job = .ok q → q.id = job.id
  init_run : ∀ (c : StageConfig) (r : ρ) (m : Machine),
    ∃ r' m',
      init c (r, m) = (.ok (), (r', m')) ∧
        engine r' = engine r ∧ board r' = board r ∧
          m'.boards = m.boards
  submit_eq : ∀ job : Job,
    submit job = do
      let (r, _) ← Op.get
      let q ← Op.ofExcept (request r job)
      DomainRuntime.onMachine
        (DomainRuntime.dispatched
          (Machine.submitRegistered (engine r) (board r) q))
  complete_eq : ∀ job : Job,
    complete job = do
      let (r, _) ← Op.get
      DomainRuntime.onMachine
        (DomainRuntime.awaitJob (board r) job)
  fini_eq : fini = Op.pure ()

instance : EngineRuntime HostRuntime where
  toDomainRuntime := inferInstance
  create := HostRuntime.create
  engine := HostRuntime.engine
  board := HostRuntime.board
  request := fun r job => .ok (.host (r.request job))
  create_run := fun _ _ => ⟨_, rfl, rfl⟩
  request_id := by
    intro r job q h
    cases h
    rfl
  init_run := fun _ _ _ => ⟨_, _, rfl, rfl, rfl, rfl⟩
  submit_eq := fun _ => rfl
  complete_eq := fun _ => rfl
  fini_eq := rfl

theorem VectorRuntime.request_id
    {r : VectorRuntime}
    {job : Job}
    {q : VectorRequest}
    (h : r.request job = .ok q) : q.id = job.id := by
  unfold VectorRuntime.request at h
  split at h
  · cases hInput : job.require r.inputName .input with
    | error e =>
        rw [hInput] at h
        cases h
    | ok input =>
        rw [hInput] at h
        cases hOutput : job.primaryOutput? with
        | none =>
            simp only [hOutput] at h
            cases h
        | some output =>
            simp only [hOutput] at h
            cases h
            rfl
  · cases h

instance : EngineRuntime VectorRuntime where
  toDomainRuntime := inferInstance
  create := VectorRuntime.create
  engine := VectorRuntime.engine
  board := VectorRuntime.board
  request := fun r job => (r.request job).map .vector
  create_run := fun _ _ => ⟨_, rfl, rfl⟩
  request_id := by
    intro r job q h
    cases hRequest : r.request job with
    | error e =>
        rw [hRequest] at h
        cases h
    | ok v =>
        rw [hRequest] at h
        cases h
        exact VectorRuntime.request_id hRequest
  init_run := fun _ _ _ => ⟨_, _, rfl, rfl, rfl, rfl⟩
  submit_eq := by
    intro job
    funext s
    change VectorRuntime.submit job s = _
    simp only [VectorRuntime.submit, bind, Op.bind, Op.get]
    cases s.1.request job <;> rfl
  complete_eq := fun _ => rfl
  fini_eq := rfl

------------------------------------------------------------
-- Engaged Engines
------------------------------------------------------------

/- A runtime with an engine of any kind in place of its own. -/
structure Engaged (ρ : Type) (key : Nat) where
  runtime : ρ
  engine : FreeEngine key

namespace Engaged

open Machine (WaitEnd)

variable {ρ α : Type}
variable {key : Nat}

/- Run on the runtime and the machine. -/
def onRuntime
    (x : Op Error (ρ × Machine) α) :
    Op Error (Engaged ρ key × Machine) α :=
  Op.within
    ⟨fun s => (s.1.runtime, s.2),
     fun q s => ({ s.1 with runtime := q.1 }, q.2)⟩ x

variable [EngineRuntime ρ]

/- Hand a job to the engine. -/
def submit
    (job : Job) :
    Op Error (Engaged ρ key × Machine) Unit := do
  let (e, _) ← Op.get
  let q ← Op.ofExcept (EngineRuntime.request e.runtime job)
  DomainRuntime.onMachine
    (DomainRuntime.dispatched
      (Machine.submitThrough e.engine.take
        (EngineRuntime.board e.runtime) q))

/- Wait for a job, amid what the engine does. -/
def complete
    (job : Job) :
    Op Error (Engaged ρ key × Machine) Unit := do
  let (e, _) ← Op.get
  DomainRuntime.onMachine (do
    let status ← DomainRuntime.dispatched
      (Machine.waitAmid (EngineRuntime.board e.runtime)
        job.id (e.engine.meanwhile job.timeout))
    DomainRuntime.checkStatus status)

instance : DomainRuntime (Engaged ρ key) where
  domain := fun e => DomainRuntime.domain e.runtime
  init := fun c => onRuntime (DomainRuntime.init c)
  submit := submit
  complete := complete
  fini := onRuntime DomainRuntime.fini

/- A runtime with the engine of the machine that it names. -/
def own
    (r : ρ) : Engaged ρ key :=
  ⟨r, .ofMachine (EngineRuntime.engine r) key⟩

/- A submission, unless the job has no request. -/
theorem submit_run
    {e : Engaged ρ key}
    {job : Job}
    {q : EngineRequest}
    (hRequest :
      EngineRuntime.request e.runtime job = .ok q)
    (m : Machine) :
    submit job (e, m) =
      ((Machine.submitThrough e.engine.take
            (EngineRuntime.board e.runtime) q
            m).1.mapError Error.dispatch,
        (e,
          (Machine.submitThrough e.engine.take
            (EngineRuntime.board e.runtime) q m).2)) := by
  simp only [submit, bind, Op.bind, Op.get, hRequest,
    Op.ofExcept, DomainRuntime.onMachine, Op.within,
    DomainRuntime.dispatched, Op.mapError_run, Lens.snd]

theorem submit_failed
    {e : Engaged ρ key}
    {job : Job}
    {cause : Error}
    (hRequest :
      EngineRuntime.request e.runtime job = .error cause)
    (m : Machine) :
    submit job (e, m) = (.error cause, (e, m)) := by
  simp only [submit, bind, Op.bind, Op.get, hRequest,
    Op.ofExcept]

/- What a job ends with if its wait ends so. -/
def outcome : WaitEnd → Except Error Unit
  | .answered status =>
    if status = 0 then .ok ()
    else .error (.dispatch (.ofStatus status))
  | .expired => .error (.dispatch .timeout)
  | .unknown => .error (.dispatch .messageLost)

theorem complete_run
    {e : Engaged ρ key}
    {job : Job}
    {w : WaitEnd}
    {m t : Machine}
    (hLooks :
      Machine.lookAmid (EngineRuntime.board e.runtime) job.id
        (e.engine.meanwhile job.timeout) m = (.ok w, t)) :
    complete job (e, m) = (outcome w, (e, t)) := by
  simp only [complete, Machine.waitAmid, bind, Op.bind,
    Op.get, DomainRuntime.onMachine, Op.within,
    DomainRuntime.dispatched, Op.mapError_run, Lens.snd,
    hLooks]
  cases w with
  | answered status =>
      simp only [WaitEnd.answer, Op.ofExcept, Except.mapError,
        outcome, DomainRuntime.checkStatus]
      split <;> rfl
  | expired => rfl
  | unknown => rfl

/- A runtime does what it does with its own engine. -/
theorem own_imitates :
    Imitates (own : ρ → Engaged ρ key) where
  init := by
    rintro c ⟨r, m⟩
    rcases EngineRuntime.init_run c r m with
      ⟨r', m', hInit, hEngine, _⟩
    change onRuntime (DomainRuntime.init c) (own r, m) = _
    simp only [onRuntime, Op.within, own, hInit, Prod.map,
      hEngine, id]
  submit := by
    rintro job ⟨r, m⟩
    simp only [EngineRuntime.submit_eq,
      ← Machine.submitThrough_submit]
    change submit job (own r, m) = _
    simp only [submit, bind, Op.bind, Op.get, own]
    cases EngineRuntime.request r job <;> rfl
  complete := by
    rintro job ⟨r, m⟩
    rw [EngineRuntime.complete_eq]
    change complete job (own r, m) = _
    simp only [complete, bind, Op.bind, Op.get, own]
    rw [← Machine.waitFor_eq]
    rfl
  fini := by
    intro s
    rw [EngineRuntime.fini_eq]
    change onRuntime DomainRuntime.fini (own s.1, s.2) = _
    rw [EngineRuntime.fini_eq]
    rfl

end Engaged

end Offload
