import Mathlib.Data.List.Basic
import Offload.Dispatch.Dispatcher
import Offload.Proofs.Op
import Offload.Proofs.Run

/-
  The life of a dispatcher, whatever its runtime does.

  Every call has few ways to end, and of these only the
  allowed `waitDone` has the runtime complete a job. That is
  all the rest needs: what a dispatcher holds is told by its
  state, and a job that was posted is completed once before
  the next one is posted.

  Key definitions include:
    * `Dispatcher.Call`
    * `Dispatcher.Allows`
    * `RuntimeMethod.Ran`
    * `Dispatcher.Effect`
    * `Dispatcher.Settled`

  Main results:
    * `Dispatcher.hasEffect`
    * `Dispatcher.settled_step`
    * `Dispatcher.Effect.leads`
    * `Dispatcher.Effect.of_ok`
-/

namespace Offload

------------------------------------------------------------
-- Methods of a Runtime
------------------------------------------------------------

/- A method of a runtime, with the job it is for. -/
inductive RuntimeMethod where
  | init
  | submit (job : Job)
  | complete (job : Job)
  | fini

namespace RuntimeMethod

variable {ρ : Type}
variable [DomainRuntime ρ]

/- The method as an operation. -/
def run
    (c : StageConfig) :
    RuntimeMethod → Op Error (ρ × Machine) Unit
  | .init => DomainRuntime.init c
  | .submit job => DomainRuntime.submit job
  | .complete job => DomainRuntime.complete job
  | .fini => DomainRuntime.fini

/- The job that a method completes. -/
def completed? : RuntimeMethod → Option Job
  | .complete job => some job
  | _ => none

/- The jobs that some methods complete, in order. -/
def completed
    (ms : List RuntimeMethod) : List Job :=
  ms.filterMap completed?

/-
  Methods, run in order on machines of any kind, lead from
  one runtime to another.
-/
inductive Ran
    (c : StageConfig) : List RuntimeMethod → ρ → ρ → Prop
  where
  | nothing (q : ρ) : Ran c [] q q
  | single (method : RuntimeMethod) (q : ρ) (m : Machine) :
      Ran c [method] q (method.run c (q, m)).2.1
  | both {ms ns : List RuntimeMethod} {q r s : ρ} :
      Ran c ms q r → Ran c ns r s → Ran c (ms ++ ns) q s

end RuntimeMethod

namespace Dispatcher

variable {ε ρ α : Type}

------------------------------------------------------------
-- Calls
------------------------------------------------------------

/- The calls that a dispatcher takes. -/
inductive Call where
  | init
  | post (job : Job)
  | waitDone (id : RequestId)
  | fini

/- Whether a dispatcher is in a state that allows a call. -/
def Allows
    (d : Dispatcher ρ) : Call → Prop
  | .init => d.state = .uninitialized
  | .post _ => d.state = .ready
  | .waitDone id =>
    d.state = .waiting ∧ ∃ job, d.inFlight = some job ∧
      job.id = id
  | .fini => d.state = .uninitialized ∨ d.state = .ready

/- A call as an operation, its answer left out. -/
def Call.run
    [DomainRuntime ρ] :
    Call → Op Error (Dispatcher ρ × Machine) Unit
  | .init => Dispatcher.init
  | .post job => discard (Dispatcher.post job)
  | .waitDone id => discard (Dispatcher.waitDone id)
  | .fini => Dispatcher.fini

/- The state of a dispatcher and its machine after a call. -/
def step
    [DomainRuntime ρ]
    (call : Call)
    (s : Dispatcher ρ × Machine) : Dispatcher ρ × Machine :=
  (call.run s).2

/- Whether a call succeeds. -/
def Succeeds
    [DomainRuntime ρ]
    (call : Call)
    (s : Dispatcher ρ × Machine) : Prop :=
  (call.run s).1 = .ok ()

------------------------------------------------------------
-- Changes
------------------------------------------------------------

/- Nothing but the runtime may be another one. -/
structure Kept
    (d d' : Dispatcher ρ) : Prop where
  config : d'.config = d.config
  state : d'.state = d.state
  inFlight : d'.inFlight = d.inFlight
  resources : d'.resources = d.resources

theorem Kept.refl
    (d : Dispatcher ρ) : Kept d d :=
  ⟨rfl, rfl, rfl, rfl⟩

theorem Kept.trans
    {d e f : Dispatcher ρ}
    (hde : Kept d e)
    (hef : Kept e f) : Kept d f :=
  ⟨hef.config.trans hde.config, hef.state.trans hde.state,
    hef.inFlight.trans hde.inFlight,
    hef.resources.trans hde.resources⟩

/- The dispatcher stays as it is. -/
def Quiet
    (s t : Dispatcher ρ × Machine) : Prop :=
  t.1 = s.1

instance : IsTrans (Dispatcher ρ × Machine) Quiet where
  trans _ _ _ hst htu := Eq.trans htu hst

theorem onMachine_quiet
    (x : Op ε Machine α) :
    Op.Moves Quiet
      (onMachine x : Op ε (Dispatcher ρ × Machine) α) :=
  fun _ => rfl

theorem noteFailure_quiet
    (e : Error) :
    Op.Moves Quiet
      (noteFailure e :
        Op ε (Dispatcher ρ × Machine) Unit) := by
  intro s
  simp only [noteFailure, bind, Op.bind, Op.get]
  cases e.dispatch? <;> rfl

theorem dump_quiet
    (job : Job) :
    Op.Moves Quiet
      (dump job : Op ε (Dispatcher ρ × Machine) Unit) := by
  intro s
  simp only [dump, bind, Op.bind, Op.get]
  cases s.1.resources with
  | none => rfl
  | some r =>
      have hDump :
          Op.Moves Quiet
            (onMachine (r.dump job) :
              Op Error (Dispatcher ρ × Machine) Unit) :=
        onMachine_quiet _
      exact
        Op.Moves.orElse hDump
          (fun e => onMachine_quiet _) s

variable [DomainRuntime ρ]

/-
  Nothing but the runtime is another one, and it came there
  by methods that complete no job.
-/
def Calm
    (s t : Dispatcher ρ × Machine) : Prop :=
  Kept s.1 t.1 ∧
    ∃ ms,
      RuntimeMethod.completed ms = [] ∧
        RuntimeMethod.Ran s.1.config ms s.1.runtime
          t.1.runtime

theorem Calm.of_quiet
    {s t : Dispatcher ρ × Machine}
    (h : Quiet s t) : Calm s t := by
  unfold Quiet at h
  rw [Calm, h]
  exact ⟨Kept.refl _, [], rfl, .nothing _⟩

theorem Calm.trans
    {s t u : Dispatcher ρ × Machine}
    (hst : Calm s t)
    (htu : Calm t u) : Calm s u := by
  rcases hst with ⟨hKept, ms, hms, hFirst⟩
  rcases htu with ⟨hKept', ns, hns, hSecond⟩
  rw [hKept.config] at hSecond
  refine ⟨hKept.trans hKept', ms ++ ns, ?_, .both hFirst hSecond⟩
  rw [RuntimeMethod.completed] at hms hns ⊢
  rw [List.filterMap_append, hms, hns, List.append_nil]

instance : Std.Refl (Calm (ρ := ρ)) where
  refl _ := .of_quiet rfl

instance : IsTrans (Dispatcher ρ × Machine) Calm where
  trans _ _ _ := Calm.trans

theorem onMachine_calm
    (x : Op ε Machine α) :
    Op.Moves Calm
      (onMachine x : Op ε (Dispatcher ρ × Machine) α) :=
  fun _ => .of_quiet rfl

/- A method that completes no job is run on the runtime. -/
theorem onRuntime_calm
    (method : RuntimeMethod)
    (hOther : method.completed? = none)
    (s : Dispatcher ρ × Machine) :
    Calm s (onRuntime (method.run s.1.config) s).2 := by
  refine ⟨⟨rfl, rfl, rfl, rfl⟩, [method], ?_, ?_⟩
  · simp [RuntimeMethod.completed, hOther]
  · exact .single method s.1.runtime s.2

theorem closing_calm :
    Op.Moves Calm
      (onRuntime DomainRuntime.fini :
        Op Error (Dispatcher ρ × Machine) Unit) :=
  fun s => onRuntime_calm .fini rfl s

------------------------------------------------------------
-- Ends of Calls
------------------------------------------------------------

/-
  All that a call can do to a dispatcher: the methods of the
  runtime it runs, its result, and what it leaves.
-/
inductive Effect
    (d : Dispatcher ρ) :
    Call → List RuntimeMethod → Except Error Unit →
      Dispatcher ρ → Prop
  where
  | refused {call : Call} {text : String} :
      ¬ d.Allows call →
        Effect d call [] (.error (.invalidState text)) d
  | failed {call : Call} {ms : List RuntimeMethod}
      {e : Error} {d' : Dispatcher ρ} :
      d.Allows call →
        (∀ id, call ≠ .waitDone id) →
          RuntimeMethod.completed ms = [] →
            Kept d d' → Effect d call ms (.error e) d'
  | initialized {ms : List RuntimeMethod}
      {r : StageResources} {d' : Dispatcher ρ} :
      d.state = .uninitialized →
        RuntimeMethod.completed ms = [] →
          d'.config = d.config →
            d'.state = .ready →
              d'.inFlight = d.inFlight →
                d'.resources = some r →
                  Effect d .init ms (.ok ()) d'
  | posted {job : Job} {d' : Dispatcher ρ} :
      d.state = .ready →
        d'.config = d.config →
          d'.state = .waiting →
            d'.inFlight = some job →
              d'.resources = d.resources →
                Effect d (.post job) [.submit job] (.ok ())
                  d'
  | completed {job : Job} {result : Except Error Unit}
      {d' : Dispatcher ρ} :
      d.state = .waiting →
        d.inFlight = some job →
          d'.config = d.config →
            d'.state = .ready →
              d'.inFlight = none →
                d'.resources = d.resources →
                  Effect d (.waitDone job.id)
                    [.complete job] result d'
  | finalized {ms : List RuntimeMethod}
      {d' : Dispatcher ρ} :
      d.state = .uninitialized ∨ d.state = .ready →
        RuntimeMethod.completed ms = [] →
          d'.config = d.config →
            d'.state = .finalized →
              d'.inFlight = d.inFlight →
                d'.resources = none →
                  Effect d .fini ms (.ok ()) d'

/- A call with its effect and what became of the runtime. -/
def HasEffect
    (call : Call)
    (s : Dispatcher ρ × Machine) : Prop :=
  ∃ ms,
    Effect s.1 call ms (call.run s).1 (step call s).1 ∧
      RuntimeMethod.Ran s.1.config ms s.1.runtime
        (step call s).1.runtime

------------------------------------------------------------
-- Initializing
------------------------------------------------------------

theorem activate_calm
    (r : StageResources) :
    Op.Moves Calm
      (activate r :
        Op Error (Dispatcher ρ × Machine)
          StageResources) := by
  unfold activate
  apply Op.Moves.bind (onMachine_calm _)
  rintro ⟨answer, r'⟩
  cases answer with
  | ok _ => exact Op.Moves.pure r'
  | error e =>
      apply Op.Moves.bind
      · exact
          Op.Moves.orElse closing_calm
            fun _ => onMachine_calm _
      · intro _
        apply Op.Moves.bind (onMachine_calm _)
        intro _
        exact Op.Moves.fail e

theorem openDomain_calm
    (r : StageResources) :
    Op.Moves Calm
      (openDomain r :
        Op Error (Dispatcher ρ × Machine)
          StageResources) := by
  intro s
  have hInit :
      Calm s
        (onRuntime (DomainRuntime.init s.1.config) s).2 :=
    onRuntime_calm .init rfl s
  simp only [openDomain, bind, Op.bind, Op.get, Op.attempt]
  cases hRun :
      onRuntime (DomainRuntime.init s.1.config) s with
  | mk answer t =>
      rw [hRun] at hInit
      cases answer with
      | ok _ => exact hInit.trans (activate_calm r t)
      | error e => exact hInit.trans (.of_quiet rfl)

/- All of an initialization but its end. -/
def prepared
    (c : StageConfig) :
    Op Error (Dispatcher ρ × Machine) StageResources := do
  Op.ofExcept c.validate
  let r ← onMachine (StageResources.prepare c)
  openDomain r

theorem prepared_calm
    (c : StageConfig) :
    Op.Moves Calm
      (prepared c :
        Op Error (Dispatcher ρ × Machine)
          StageResources) := by
  apply Op.Moves.bind
  · exact Op.Moves.ofExcept _
  · intro _
    exact Op.Moves.bind (onMachine_calm _) openDomain_calm

theorem init_of_uninitialized
    {s : Dispatcher ρ × Machine}
    (hState : s.1.state = .uninitialized) :
    init s =
      (prepared s.1.config >>= fun r => do
        change fun d =>
          { d with resources := some r, state := .ready }
        onMachine
          (Machine.log .debug "dispatcher ready" [])) s := by
  simp only [init, prepared, bind_assoc]
  change
    (if s.1.state ≠ .uninitialized then _ else _ :
      Op Error (Dispatcher ρ × Machine) Unit) s = _
  rw [if_neg (by simpa using hState)]

/- A call that is not allowed only reports that. -/
theorem HasEffect.of_refused
    {call : Call}
    {s : Dispatcher ρ × Machine}
    {text : String}
    (hNot : ¬ s.1.Allows call)
    (hRun : call.run s = (.error (.invalidState text), s)) :
    HasEffect call s := by
  refine ⟨[], ?_, ?_⟩
  · simp only [step, hRun]
    exact .refused hNot
  · simp only [step, hRun]
    exact .nothing _

theorem init_hasEffect
    (s : Dispatcher ρ × Machine) : HasEffect .init s := by
  by_cases hState : s.1.state = .uninitialized
  · have hCalm := prepared_calm s.1.config s
    have hInit := init_of_uninitialized hState
    simp only [bind, Op.bind] at hInit
    unfold HasEffect step
    simp only [Call.run, hInit]
    rcases hRun :
        (prepared s.1.config :
          Op Error (Dispatcher ρ × Machine)
            StageResources) s with ⟨answer, t⟩
    rw [hRun] at hCalm
    rcases hCalm with ⟨hKept, ms, hms, hRan⟩
    cases answer with
    | error e =>
        have hOther : ∀ id, Call.init ≠ .waitDone id := by
          intro _ hCall
          cases hCall
        exact ⟨ms, .failed hState hOther hms hKept, hRan⟩
    | ok r =>
        exact
          ⟨ms,
            .initialized hState hms hKept.config rfl
              hKept.inFlight rfl,
            hRan⟩
  · have hNot : ¬ s.1.Allows .init := hState
    exact
      HasEffect.of_refused hNot (congrFun (if_pos hState) s)

------------------------------------------------------------
-- Posting
------------------------------------------------------------

/-
  A machine has the device, the planned failures, the boards
  and the transports that it had.
-/
structure SameDevice
    (m m' : Machine) : Prop where
  device : m'.platform.device = m.platform.device
  faults : m'.platform.faults = m.platform.faults
  transports : m'.transports = m.transports
  boards : m'.boards = m.boards

/- The machine when the work for a job was recorded. -/
def begun
    (d : Dispatcher ρ)
    (job : Job)
    (m : Machine) : Machine :=
  Op.exec
    (span (jobSpan d.config.node job.id) :
      Op Error Machine Unit) m

omit [DomainRuntime ρ] in
theorem begun_sameDevice
    (d : Dispatcher ρ)
    (job : Job)
    (m : Machine) : SameDevice m (begun d job m) :=
  ⟨rfl, rfl, rfl, rfl⟩

/- What follows the answer of a runtime to `submit`. -/
def settle
    (c : StageConfig)
    (job : Job)
    (answer : Except Error Unit) :
    Op Error (Dispatcher ρ × Machine) RequestId := do
  match answer with
  | .error e =>
    change fun d => { d with state := .ready }
    onMachine
      (Machine.log .debug "post failed"
        [("error", e.message)])
    noteFailure e
    Op.fail e
  | .ok _ =>
    change fun d =>
      { d with inFlight := some job, state := .waiting }
    onMachine (Machine.count
      (.jobsDispatched c.domain c.node))
    return job.id

theorem submit_begun
    (job : Job)
    (s : Dispatcher ρ × Machine) :
    submit job s =
      settle s.1.config job
        (DomainRuntime.submit job
          (s.1.runtime, begun s.1 job s.2)).1
        ({ s.1 with
            runtime :=
              (DomainRuntime.submit job
                (s.1.runtime, begun s.1 job s.2)).2.1
            state := .posting },
          (DomainRuntime.submit job
            (s.1.runtime, begun s.1 job s.2)).2.2) :=
  rfl

theorem submit_run
    (job : Job)
    (s : Dispatcher ρ × Machine) :
    ∃ m : Machine,
      SameDevice s.2 m ∧
        submit job s =
          settle s.1.config job
            (DomainRuntime.submit job (s.1.runtime, m)).1
            ({ s.1 with
                runtime :=
                  (DomainRuntime.submit job
                    (s.1.runtime, m)).2.1
                state := .posting },
              (DomainRuntime.submit job
                (s.1.runtime, m)).2.2) :=
  ⟨_, begun_sameDevice s.1 job s.2, submit_begun job s⟩

/- A refused submission leaves the dispatcher ready. -/
omit [DomainRuntime ρ] in
theorem settle_error
    (c : StageConfig)
    (job : Job)
    (e : Error)
    (t : Dispatcher ρ × Machine) :
    (settle c job (.error e) t).1 = .error e ∧
      (settle c job (.error e) t).2.1 =
        { t.1 with state := .ready } := by
  simp only [settle, noteFailure, bind, Op.bind, Op.get]
  cases e.dispatch? <;> exact ⟨rfl, rfl⟩

theorem submit_hasEffect
    {job : Job}
    {s : Dispatcher ρ × Machine}
    (hState : s.1.state = .ready)
    (hPost : post job s = submit job s) :
    HasEffect (.post job) s := by
  rcases submit_run job s with ⟨m, _, hRun⟩
  have hRan :
      RuntimeMethod.Ran s.1.config [.submit job]
        s.1.runtime
        (DomainRuntime.submit job (s.1.runtime, m)).2.1 :=
    .single (.submit job) s.1.runtime m
  unfold HasEffect step
  simp only [Call.run, Op.discard_run, hPost, hRun]
  cases (DomainRuntime.submit job (s.1.runtime, m)).1 with
  | error e =>
      rw [(settle_error _ _ _ _).1, (settle_error _ _ _ _).2]
      exact
        ⟨_,
          .failed hState nofun rfl
            ⟨rfl, hState.symm, rfl, rfl⟩,
          hRan⟩
  | ok _ =>
      exact ⟨_, .posted hState rfl rfl rfl rfl, hRan⟩

/- A job of its domain is submitted by a ready dispatcher. -/
theorem post_of_ready
    {job : Job}
    {s : Dispatcher ρ × Machine}
    (hState : s.1.state = .ready)
    (hServes : s.1.serves job = true) :
    post job s = submit job s := by
  refine (congrFun (if_neg (not_not.mpr hState)) s).trans ?_
  rw [hServes]
  rfl

/- Any other job is malformed. -/
theorem post_of_foreign
    {job : Job}
    {s : Dispatcher ρ × Machine}
    (hState : s.1.state = .ready)
    (hServes : s.1.serves job = false) :
    post job s =
      (do
        noteFailure (.dispatch .malformedJob)
        Op.fail (.dispatch .malformedJob) :
        Op Error (Dispatcher ρ × Machine) RequestId) s := by
  refine (congrFun (if_neg (not_not.mpr hState)) s).trans ?_
  rw [hServes]
  rfl

/- A dispatcher that is not ready refuses every job. -/
theorem post_refused
    {s : Dispatcher ρ × Machine}
    (hState : s.1.state ≠ .ready)
    (job : Job) :
    post job s = (.error (s.1.invalid "post"), s) :=
  congrFun (if_pos hState) s

theorem post_hasEffect
    (job : Job)
    (s : Dispatcher ρ × Machine) :
    HasEffect (.post job) s := by
  by_cases hState : s.1.state = .ready
  · cases hServes : s.1.serves job with
    | true =>
        exact
          submit_hasEffect hState
            (post_of_ready hState hServes)
    | false =>
        refine ⟨[], ?_, ?_⟩
        · simp only [step, Call.run, Op.discard_run,
            post_of_foreign hState hServes]
          exact
            .failed hState nofun rfl ⟨rfl, rfl, rfl, rfl⟩
        · simp only [step, Call.run, Op.discard_run,
            post_of_foreign hState hServes]
          exact .nothing _
  · have hNot : ¬ s.1.Allows (.post job) := hState
    apply HasEffect.of_refused hNot
    simp only [Call.run, Op.discard_run,
      post_refused hState job]
    rfl

------------------------------------------------------------
-- Waiting
------------------------------------------------------------

/- What follows the answer of a runtime to `complete`. -/
def conclude
    (c : StageConfig)
    (job : Job)
    (answer : Except Error Unit) :
    Op Error (Dispatcher ρ × Machine) Unit := do
  match answer with
  | .error e =>
    onMachine
      (Machine.log .debug "job failed"
        [("error", e.message)])
    noteFailure e
    Op.fail e
  | .ok _ =>
    onMachine (Machine.count
      (.jobDuration c.domain c.node))
    dump job

omit [DomainRuntime ρ] in
theorem conclude_quiet
    (c : StageConfig)
    (job : Job)
    (answer : Except Error Unit) :
    Op.Moves Quiet
      (conclude c job answer :
        Op Error (Dispatcher ρ × Machine) Unit) := by
  cases answer with
  | error e =>
      apply Op.Moves.bind (onMachine_quiet _)
      intro _
      apply Op.Moves.bind (noteFailure_quiet e)
      intro _
      exact fun _ => rfl
  | ok _ =>
      apply Op.Moves.bind (onMachine_quiet _)
      intro _
      exact dump_quiet job

theorem complete_begun
    (job : Job)
    (s : Dispatcher ρ × Machine) :
    complete job s =
      conclude s.1.config job
        (DomainRuntime.complete job
          (s.1.runtime, begun s.1 job s.2)).1
        ({ s.1 with
            runtime :=
              (DomainRuntime.complete job
                (s.1.runtime, begun s.1 job s.2)).2.1
            state := .ready
            inFlight := none },
          (DomainRuntime.complete job
            (s.1.runtime, begun s.1 job s.2)).2.2) :=
  rfl

theorem complete_run
    (job : Job)
    (s : Dispatcher ρ × Machine) :
    ∃ m : Machine,
      SameDevice s.2 m ∧
        complete job s =
          conclude s.1.config job
            (DomainRuntime.complete job (s.1.runtime, m)).1
            ({ s.1 with
                runtime :=
                  (DomainRuntime.complete job
                    (s.1.runtime, m)).2.1
                state := .ready
                inFlight := none },
              (DomainRuntime.complete job
                (s.1.runtime, m)).2.2) :=
  ⟨_, begun_sameDevice s.1 job s.2, complete_begun job s⟩

theorem waitDone_allowed
    {job : Job}
    {s : Dispatcher ρ × Machine}
    (hState : s.1.state = .waiting)
    (hJob : s.1.inFlight = some job) :
    waitDone job.id s =
      (complete job >>= fun _ => pure job.id) s := by
  unfold waitDone
  simp only [bind, Op.bind, Op.get]
  rw [if_neg (not_not.mpr hState), hJob]
  exact congrFun (if_neg (not_not.mpr rfl)) s

/- The call then ends as completing the job does. -/
theorem waitDone_run
    {job : Job}
    {s : Dispatcher ρ × Machine}
    (hState : s.1.state = .waiting)
    (hJob : s.1.inFlight = some job) :
    (Call.waitDone job.id).run s = complete job s := by
  simp only [Call.run, Op.discard_run,
    waitDone_allowed hState hJob, bind, Op.bind]
  rcases complete job s with ⟨_ | _, t⟩ <;> rfl

theorem complete_hasEffect
    {job : Job}
    {s : Dispatcher ρ × Machine}
    (hState : s.1.state = .waiting)
    (hJob : s.1.inFlight = some job) :
    HasEffect (.waitDone job.id) s := by
  rcases complete_run job s with ⟨m, _, hRun⟩
  have hQuiet :=
    conclude_quiet s.1.config job
      (DomainRuntime.complete job (s.1.runtime, m)).1
      ({ s.1 with
          runtime :=
            (DomainRuntime.complete job
              (s.1.runtime, m)).2.1
          state := .ready
          inFlight := none },
        (DomainRuntime.complete job (s.1.runtime, m)).2.2)
  rw [← hRun] at hQuiet
  unfold Quiet at hQuiet
  refine ⟨[.complete job], ?_, ?_⟩
  · rw [step, waitDone_run hState hJob, hQuiet]
    exact .completed hState hJob rfl rfl rfl rfl
  · rw [step, waitDone_run hState hJob, hQuiet]
    exact .single (.complete job) s.1.runtime m

/- Waiting for another job than the posted one is refused. -/
theorem waitDone_refused
    {id : RequestId}
    {s : Dispatcher ρ × Machine}
    (hNot : ¬ s.1.Allows (.waitDone id)) :
    ∃ text,
      waitDone id s = (.error (.invalidState text), s) := by
  unfold waitDone
  simp only [bind, Op.bind, Op.get]
  by_cases hState : s.1.state = .waiting
  · rw [if_neg (not_not.mpr hState)]
    cases hJob : s.1.inFlight with
    | none => exact ⟨_, rfl⟩
    | some job =>
        have hOther : job.id ≠ id := by
          intro hId
          exact hNot ⟨hState, job, hJob, hId⟩
        exact ⟨_, congrFun (if_pos hOther) s⟩
  · rw [if_pos hState]
    exact ⟨_, rfl⟩

theorem waitDone_hasEffect
    (id : RequestId)
    (s : Dispatcher ρ × Machine) :
    HasEffect (.waitDone id) s := by
  by_cases hAllowed : s.1.Allows (.waitDone id)
  · rcases hAllowed with ⟨hState, job, hJob, rfl⟩
    exact complete_hasEffect hState hJob
  · rcases waitDone_refused hAllowed with ⟨text, hRefused⟩
    apply HasEffect.of_refused hAllowed
    simp only [Call.run, Op.discard_run, hRefused]
    rfl

------------------------------------------------------------
-- Finalizing
------------------------------------------------------------

omit [DomainRuntime ρ] in
theorem finalize_run
    (s : Dispatcher ρ × Machine) :
    ∃ m : Machine,
      (finalize : Op Error (Dispatcher ρ × Machine) Unit) s =
        (.ok (),
          ({ s.1 with
              resources := none
              state := .finalized }, m)) := by
  simp only [finalize, releaseResources, bind, Op.bind,
    Op.get]
  cases s.1.resources <;> exact ⟨_, rfl⟩

theorem fini_refused
    {s : Dispatcher ρ × Machine}
    (hNot : ¬ s.1.Allows .fini) :
    ∃ text,
      fini s = (.error (.invalidState text), s) := by
  simp only [Allows, not_or] at hNot
  simp only [fini, bind, Op.bind, Op.get]
  cases hState : s.1.state with
  | uninitialized => exact absurd hState hNot.1
  | ready => exact absurd hState hNot.2
  | posting => exact ⟨_, rfl⟩
  | waiting => exact ⟨_, rfl⟩
  | finalized => exact ⟨_, rfl⟩

theorem fini_hasEffect
    (s : Dispatcher ρ × Machine) : HasEffect .fini s := by
  by_cases hAllowed : s.1.Allows .fini
  · rcases hAllowed with hState | hState
    · have hFini : fini s = finalize s := by
        simp only [fini, bind, Op.bind, Op.get, hState]
      rcases finalize_run s with ⟨m, hEnd⟩
      refine ⟨[], ?_, ?_⟩
      · simp only [step, Call.run, hFini, hEnd]
        exact
          .finalized (.inl hState) rfl rfl rfl rfl rfl
      · simp only [step, Call.run, hFini, hEnd]
        exact .nothing _
    · have hFini :
          fini s =
            (onRuntime DomainRuntime.fini >>= fun _ =>
              finalize) s := by
        simp only [fini, bind, Op.bind, Op.get, hState]
      have hCalm := closing_calm s
      unfold HasEffect step
      simp only [Call.run, hFini, bind, Op.bind]
      rcases hRun :
          (onRuntime DomainRuntime.fini :
            Op Error (Dispatcher ρ × Machine) Unit) s with
        ⟨answer, t⟩
      rw [hRun] at hCalm
      rcases hCalm with ⟨hKept, ms, hms, hRan⟩
      cases answer with
      | error e =>
          have hOther : ∀ id, Call.fini ≠ .waitDone id := by
            intro _ hCall
            cases hCall
          exact
            ⟨ms, .failed (.inr hState) hOther hms hKept,
              hRan⟩
      | ok _ =>
          rcases finalize_run t with ⟨m, hEnd⟩
          simp only [hEnd]
          exact
            ⟨ms,
              .finalized (.inr hState) hms hKept.config rfl
                hKept.inFlight rfl,
              hRan⟩
  · rcases fini_refused hAllowed with ⟨text, hRefused⟩
    exact HasEffect.of_refused hAllowed hRefused

/- Every call ends in one of the ways there are. -/
theorem hasEffect
    (call : Call)
    (s : Dispatcher ρ × Machine) : HasEffect call s := by
  cases call with
  | init => exact init_hasEffect s
  | post job => exact post_hasEffect job s
  | waitDone id => exact waitDone_hasEffect id s
  | fini => exact fini_hasEffect s

------------------------------------------------------------
-- What a State Tells
------------------------------------------------------------

end Dispatcher

/- The ways from one state to the next. -/
inductive DispatcherState.Leads :
    DispatcherState → DispatcherState → Prop
  where
  | init : Leads .uninitialized .ready
  | post : Leads .ready .waiting
  | done : Leads .waiting .ready
  | fini : Leads .ready .finalized
  | give_up : Leads .uninitialized .finalized

namespace Dispatcher

variable {ρ : Type}

/-
  Between calls no job is being posted; a job is in flight
  exactly while it is waited for, and resources are held
  exactly from the initialization to the end.
-/
structure Settled
    (d : Dispatcher ρ) : Prop where
  not_posting : d.state ≠ .posting
  in_flight_iff :
    d.inFlight.isSome ↔ d.state = .waiting
  resources_iff :
    d.resources.isSome ↔
      d.state = .ready ∨ d.state = .waiting

/- The state that a call leads to if it succeeds. -/
def Call.target : Call → DispatcherState
  | .init => .ready
  | .post _ => .waiting
  | .waitDone _ => .ready
  | .fini => .finalized

theorem Kept.settled
    {d d' : Dispatcher ρ}
    (hKept : Kept d d')
    (h : d.Settled) : d'.Settled := by
  constructor
  · rw [hKept.state]
    exact h.not_posting
  · rw [hKept.state, hKept.inFlight]
    exact h.in_flight_iff
  · rw [hKept.state, hKept.resources]
    exact h.resources_iff

namespace Effect

variable {d d' : Dispatcher ρ}
variable {call : Call}
variable {ms : List RuntimeMethod}
variable {result : Except Error Unit}

theorem settled
    (hEffect : Effect d call ms result d')
    (h : d.Settled) : d'.Settled := by
  cases hEffect with
  | refused _ => exact h
  | failed _ _ _ hKept => exact hKept.settled h
  | initialized hState _ _ hReady hJob hHeld =>
      have hNone := h.in_flight_iff
      constructor <;> simp_all
  | posted hState _ hWaiting hJob hHeld =>
      have hSome := h.resources_iff
      constructor <;> simp_all
  | completed hState _ _ hReady hJob hHeld =>
      have hSome := h.resources_iff
      constructor <;> simp_all
  | finalized hState _ _ hEnd hJob hHeld =>
      have hNone := h.in_flight_iff
      rcases hState with hState | hState
      · constructor <;> simp_all
      · constructor <;> simp_all

theorem config
    (hEffect : Effect d call ms result d') :
    d'.config = d.config := by
  cases hEffect with
  | refused _ => rfl
  | failed _ _ _ hKept => exact hKept.config
  | initialized _ _ hConfig _ _ _ => exact hConfig
  | posted _ hConfig _ _ _ => exact hConfig
  | completed _ _ hConfig _ _ _ => exact hConfig
  | finalized _ _ hConfig _ _ _ => exact hConfig

theorem leads
    (hEffect : Effect d call ms result d') :
    d'.state = d.state ∨ d.state.Leads d'.state := by
  cases hEffect with
  | refused _ => exact Or.inl rfl
  | failed _ _ _ hKept => exact Or.inl hKept.state
  | initialized hState _ _ hReady _ _ =>
      rw [hState, hReady]
      exact Or.inr .init
  | posted hState _ hWaiting _ _ =>
      rw [hState, hWaiting]
      exact Or.inr .post
  | completed hState _ _ hReady _ _ =>
      rw [hState, hReady]
      exact Or.inr .done
  | finalized hState _ _ hEnd _ _ =>
      rw [hEnd]
      rcases hState with hState | hState
      · rw [hState]
        exact Or.inr .give_up
      · rw [hState]
        exact Or.inr .fini

theorem of_ok
    (hEffect : Effect d call ms (.ok ()) d') :
    d.Allows call ∧ d'.state = call.target := by
  cases hEffect with
  | initialized hState _ _ hReady _ _ =>
      exact ⟨hState, hReady⟩
  | posted hState _ hWaiting _ _ => exact ⟨hState, hWaiting⟩
  | completed hState hJob _ hReady _ _ =>
      exact ⟨⟨hState, _, hJob, rfl⟩, hReady⟩
  | finalized hState _ _ hEnd _ _ => exact ⟨hState, hEnd⟩

/- A call that is not allowed does nothing. -/
theorem of_not_allowed
    (hEffect : Effect d call ms result d')
    (hNot : ¬ d.Allows call) :
    d' = d ∧ ∃ text, result = .error (.invalidState text) := by
  cases hEffect with
  | refused _ => exact ⟨rfl, _, rfl⟩
  | failed hAllows _ _ _ => exact absurd hAllows hNot
  | initialized hState _ _ _ _ _ => exact absurd hState hNot
  | posted hState _ _ _ _ => exact absurd hState hNot
  | completed hState hJob _ _ _ _ =>
      exact absurd ⟨hState, _, hJob, rfl⟩ hNot
  | finalized hState _ _ _ _ _ => exact absurd hState hNot

/- A posted job is in flight. -/
theorem of_posted
    {job : Job}
    (hEffect : Effect d (.post job) ms (.ok ()) d') :
    d'.state = .waiting ∧ d'.inFlight = some job := by
  cases hEffect with
  | posted _ _ hWaiting hJob _ => exact ⟨hWaiting, hJob⟩

end Effect

/- No call unsettles a dispatcher. -/
theorem settled_step
    [DomainRuntime ρ]
    (s : Dispatcher ρ × Machine)
    (call : Call)
    (h : s.1.Settled) : (step call s).1.Settled := by
  rcases hasEffect call s with ⟨_, hEffect, _⟩
  exact hEffect.settled h

/- The effect of a call that succeeds. -/
theorem effect_of_succeeds
    [DomainRuntime ρ]
    {s : Dispatcher ρ × Machine}
    {call : Call}
    (hOk : Succeeds call s) :
    ∃ ms, Effect s.1 call ms (.ok ()) (step call s).1 := by
  rcases hasEffect call s with ⟨ms, hEffect, _⟩
  rw [hOk] at hEffect
  exact ⟨ms, hEffect⟩

------------------------------------------------------------
-- Creating
------------------------------------------------------------

section Creating

variable {c : StageConfig}
variable {m m' : Machine}

/- A dispatcher that is created has not been called yet. -/
theorem create_eq
    [DomainRuntime ρ]
    {runtime : ρ}
    {d : Dispatcher ρ}
    (hCreate : create c runtime m = (.ok d, m')) :
    d = ⟨c, runtime, none, .uninitialized, none⟩ := by
  unfold create at hCreate
  by_cases hDomain : DomainRuntime.domain runtime ≠ c.domain
  · rw [if_pos hDomain] at hCreate
    cases hCreate
  · rw [if_neg hDomain] at hCreate
    cases hCreate
    rfl

/- A backend leads to a runtime, and that to a dispatcher. -/
theorem create_of_backend
    {b : Backend}
    {d : Dispatcher AnyRuntime}
    (hCreate : overBackend c b m = (.ok d, m')) :
    ∃ r n,
      (b.runtime : Op Error Machine AnyRuntime) m =
          (.ok r, n) ∧
        create c r n = (.ok d, m') := by
  unfold overBackend at hCreate
  by_cases hDomain : b.domain ≠ c.domain
  · rw [if_pos hDomain] at hCreate
    cases hCreate
  · rw [if_neg hDomain] at hCreate
    cases b <;> exact ⟨_, _, rfl, hCreate⟩

end Creating

end Dispatcher

end Offload
