import Offload.Proofs.Dispatch.DispatcherMoves
import Offload.Proofs.Dispatch.JobCalls
import Offload.Proofs.Dispatch.JobMeters

/-
  What the meters of a stage say of the calls made to it.

  Every call of a dispatcher adds one to one meter of its
  stage, or nothing at all, and which it is can be told from
  the call and its result. So the meters count what was
  posted, what was waited for, and what failed with each
  error of a domain. A job that was posted is waited for
  now, was completed, or was lost in a wait that failed, so
  that the meters of all these add up at any time.

  Key definitions include:
    * `Dispatcher.Entry`
    * `Dispatcher.Event`
    * `Dispatcher.history`
    * `Dispatcher.Booked`
    * `Dispatcher.Accounted`

  Main results:
    * `Dispatcher.step_counts`
    * `Dispatcher.step_balance`
    * `Dispatcher.Booked.after`
    * `Dispatcher.accounted_of_backend`
-/

namespace Offload

------------------------------------------------------------
-- Errors of Domains
------------------------------------------------------------

namespace DispatchError

/- Every error of a domain is in the list, once. -/
theorem count_all
    (cause : DispatchError) : all.count cause = 1 := by
  cases cause <;> rfl

theorem ofLabel?_label
    (cause : DispatchError) :
    ofLabel? cause.label = some cause := by
  cases cause <;> decide

/- Errors are told apart by their labels. -/
theorem label_injective : Function.Injective label := by
  intro cause other hLabel
  have hSame := congrArg ofLabel? hLabel
  rw [ofLabel?_label, ofLabel?_label] at hSame
  exact Option.some.inj hSame

end DispatchError

------------------------------------------------------------
-- Counting
------------------------------------------------------------

namespace Machine

/- One is added to a meter of a stage, or nothing at all. -/
def Counts
    (c : StageConfig)
    (x : Option Meter)
    (m m' : Machine) : Prop :=
  ∀ meter : Meter,
    meter.IsOf c →
      m'.metered meter =
        m.metered meter + if x = some meter then 1 else 0

variable {c : StageConfig}
variable {x : Option Meter}
variable {m m' m'' : Machine}

theorem Counts.of_same
    (h : SameJobs c m m') : Counts c none m m' :=
  fun meter hOf => h meter hOf

theorem Counts.of_count
    {ε : Type}
    (meter : Meter)
    (m : Machine) :
    Counts c (some meter) m
      ((count meter : Op ε Machine Unit) m).2 := by
  intro other _
  refine (Metrics.read_add meter other _).trans ?_
  simp only [Option.some.injEq, eq_comm]
  rfl

theorem Counts.after_same
    (hSame : SameJobs c m m')
    (h : Counts c x m' m'') : Counts c x m m'' := by
  intro meter hOf
  rw [h meter hOf, hSame meter hOf]

theorem Counts.before_same
    (h : Counts c x m m')
    (hSame : SameJobs c m' m'') : Counts c x m m'' := by
  intro meter hOf
  rw [hSame meter hOf, h meter hOf]

end Machine

------------------------------------------------------------
-- Calls and Their Results
------------------------------------------------------------

namespace Dispatcher

open Machine

/- A call that was made to a dispatcher, and its result. -/
structure Entry where
  call : Call
  result : Except Error Unit

namespace Entry

/- A job was posted. -/
def posted : Entry → Bool
  | ⟨.post _, .ok _⟩ => true
  | _ => false

/- A job was waited for until it was done. -/
def done : Entry → Bool
  | ⟨.waitDone _, .ok _⟩ => true
  | _ => false

/- What a domain said when it failed to run a job. -/
def failure? : Entry → Option DispatchError
  | ⟨.post _, .error e⟩ => e.dispatch?
  | ⟨.waitDone _, .error e⟩ => e.dispatch?
  | _ => none

/- The wait for a job failed, not for the state it found. -/
def lost : Entry → Bool
  | ⟨.waitDone _, .error (.invalidState _)⟩ => false
  | ⟨.waitDone _, .error _⟩ => true
  | _ => false

/- The meter that a call adds to. -/
def meter?
    (c : StageConfig)
    (x : Entry) : Option Meter :=
  if x.posted then
    some (.jobsDispatched c.domain c.node)
  else if x.done then
    some (.jobDuration c.domain c.node)
  else
    x.failure?.map (.jobFailures c.domain c.node)

section Meters

variable {c : StageConfig}

theorem meter?_eq_dispatched
    (x : Entry) :
    x.meter? c = some (.jobsDispatched c.domain c.node) ↔
      x.posted = true := by
  rcases x with ⟨_ | _ | _ | _, e | _⟩ <;>
    simp [meter?, posted, done, failure?]

theorem meter?_eq_duration
    (x : Entry) :
    x.meter? c = some (.jobDuration c.domain c.node) ↔
      x.done = true := by
  rcases x with ⟨_ | _ | _ | _, e | _⟩ <;>
    simp [meter?, posted, done, failure?]

theorem meter?_eq_failures
    (x : Entry)
    (cause : DispatchError) :
    x.meter? c =
        some (.jobFailures c.domain c.node cause) ↔
      x.failure? = some cause := by
  rcases x with ⟨_ | _ | _ | _, e | _⟩ <;>
    simp [meter?, posted, done, failure?]

end Meters

end Entry

------------------------------------------------------------
-- Failures
------------------------------------------------------------

section Calls

variable {ε ρ : Type}
variable {c : StageConfig}

/- The meter that a failure adds to. -/
def meterOf
    (c : StageConfig)
    (e : Error) : Option Meter :=
  e.dispatch?.map (.jobFailures c.domain c.node)

/- A failure is logged and counted, and is the result. -/
theorem failing_counts
    {α : Type}
    (message : String)
    (e : Error)
    (d : Dispatcher ρ)
    (m : Machine) :
    ∃ m',
      (do
        onMachine
          (Machine.log .debug message [("error", e.message)])
        noteFailure e
        Op.fail e :
          Op Error (Dispatcher ρ × Machine) α) (d, m) =
          (.error e, (d, m')) ∧
        Counts d.config (meterOf d.config e) m m' := by
  have hLogged :
      SameJobs d.config m
        ((Machine.log .debug message [("error", e.message)] :
          Op Error Machine Unit) m).2 :=
    Machine.log_moves _ _ _ m
  unfold meterOf
  simp only [noteFailure, bind, Op.bind, Op.get]
  cases e.dispatch? with
  | none => exact ⟨_, rfl, .of_same hLogged⟩
  | some cause =>
      exact
        ⟨_, rfl,
          (Counts.of_count (ε := Error) _ _).after_same
            hLogged⟩

/- What is settled is the answer of the runtime. -/
theorem settle_counts
    (job : Job)
    (answer : Except Error Unit)
    {d : Dispatcher ρ}
    (hConfig : d.config = c)
    (m : Machine) :
    ((settle c job answer (d, m)).1.map fun _ => ()) =
        answer ∧
      Counts c (Entry.meter? c ⟨.post job, answer⟩) m
        (settle c job answer (d, m)).2.2 := by
  subst hConfig
  cases answer with
  | ok _ => exact ⟨rfl, .of_count (ε := Error) _ m⟩
  | error e =>
      rcases failing_counts (α := RequestId) "post failed" e
          { d with state := .ready } m with
        ⟨m', hRun, hCounts⟩
      have hSettle :
          settle d.config job (.error e) (d, m) =
            (.error e, ({ d with state := .ready }, m')) :=
        hRun
      rw [hSettle]
      exact ⟨rfl, hCounts⟩

/- A job ends as the wait for it did. -/
theorem conclude_counts
    (job : Job)
    (answer : Except Error Unit)
    {d : Dispatcher ρ}
    (hConfig : d.config = c)
    (m : Machine) :
    (conclude c job answer (d, m)).1 = answer ∧
      Counts c (Entry.meter? c ⟨.waitDone job.id, answer⟩) m
        (conclude c job answer (d, m)).2.2 := by
  subst hConfig
  cases answer with
  | ok _ =>
      have hDumped :
          Op.Moves (Op.Second (SameJobs d.config))
            (dump job :
              Op Error (Dispatcher ρ × Machine) Unit) :=
        dump_moves job
      rcases conclude_ends d.config job (.ok ()) d m with
        ⟨m', hRun, _⟩
      refine ⟨by rw [hRun], ?_⟩
      exact
        (Counts.of_count (ε := Error) _ m).before_same
          (hDumped (d, _))
  | error e =>
      rcases failing_counts (α := Unit) "job failed" e d m with
        ⟨m', hRun, hCounts⟩
      have hConclude :
          conclude d.config job (.error e) (d, m) =
            (.error e, (d, m')) :=
        hRun
      rw [hConclude]
      exact ⟨rfl, hCounts⟩

end Calls

------------------------------------------------------------
-- One Call
------------------------------------------------------------

section Steps

variable {ρ : Type}
variable {c : StageConfig}
variable {s : Dispatcher ρ × Machine}
variable [DomainRuntime ρ]
variable [DomainRuntime.Discreet ρ]

omit [DomainRuntime ρ] [DomainRuntime.Discreet ρ] in
theorem begun_sameJobs
    (d : Dispatcher ρ)
    (job : Job)
    (m : Machine) : SameJobs c m (begun d job m) :=
  span_moves (ε := Error) _ m

theorem post_counts
    (hConfig : s.1.config = c)
    (job : Job) :
    Counts c
      (Entry.meter? c
        ⟨.post job, (post job s).1.map fun _ => ()⟩)
      s.2 (post job s).2.2 := by
  by_cases hState : s.1.state = .ready
  · cases hServes : s.1.serves job with
    | true =>
        have hSubmit :
            SameJobs c (begun s.1 job s.2) _ :=
          DomainRuntime.Discreet.submit c job
            (s.1.runtime, begun s.1 job s.2)
        rw [post_of_ready hState hServes, submit_begun,
          hConfig]
        rcases settle_counts job
            (DomainRuntime.submit job
              (s.1.runtime, begun s.1 job s.2)).1
            (d := { s.1 with
              runtime :=
                (DomainRuntime.submit job
                  (s.1.runtime, begun s.1 job s.2)).2.1
              state := .posting }) hConfig
            (DomainRuntime.submit job
              (s.1.runtime, begun s.1 job s.2)).2.2 with
          ⟨hAnswer, hCounts⟩
        rw [hAnswer]
        exact
          hCounts.after_same
            ((begun_sameJobs s.1 job s.2).trans hSubmit)
    | false =>
        rw [post_of_foreign hState hServes]
        subst hConfig
        exact Counts.of_count (ε := Error) _ s.2
  · rw [post_refused hState job]
    exact Counts.of_same (Std.Refl.refl _)

/-
  What an allowed wait answers is the answer of the runtime,
  which never says that the job is not awaited.
-/
theorem complete_counts
    (hConfig : s.1.config = c)
    (job : Job) :
    Counts c
        (Entry.meter? c
          ⟨.waitDone job.id, (complete job s).1⟩)
        s.2 (complete job s).2.2 ∧
      ∀ text,
        (complete job s).1 ≠ .error (.invalidState text) := by
  have hComplete :
      SameJobs c (begun s.1 job s.2) _ :=
    DomainRuntime.Discreet.complete c job
      (s.1.runtime, begun s.1 job s.2)
  have hAwaited :=
    DomainRuntime.Discreet.awaits (ρ := ρ) job
      (s.1.runtime, begun s.1 job s.2)
  rw [complete_begun, hConfig]
  rcases conclude_counts job
      (DomainRuntime.complete job
        (s.1.runtime, begun s.1 job s.2)).1
      (d := { s.1 with
        runtime :=
          (DomainRuntime.complete job
            (s.1.runtime, begun s.1 job s.2)).2.1
        state := .ready
        inFlight := none }) hConfig
      (DomainRuntime.complete job
        (s.1.runtime, begun s.1 job s.2)).2.2 with
    ⟨hAnswer, hCounts⟩
  rw [hAnswer]
  refine ⟨?_, hAwaited⟩
  exact
    hCounts.after_same
      ((begun_sameJobs s.1 job s.2).trans hComplete)

/- A call adds one to the meter of its entry, if any. -/
theorem step_counts
    (hConfig : s.1.config = c)
    (call : Call) :
    Counts c (Entry.meter? c ⟨call, (call.run s).1⟩) s.2
      (step call s).2 := by
  cases call with
  | init =>
      exact
        .of_same
          (init_moves (DomainRuntime.Discreet.init c)
            (DomainRuntime.Discreet.fini c) s)
  | post job =>
      simp only [step, Call.run, Op.discard_run]
      exact post_counts hConfig job
  | waitDone id =>
      by_cases hAllowed : s.1.Allows (.waitDone id)
      · rcases hAllowed with ⟨hState, job, hJob, rfl⟩
        rw [step, waitDone_run hState hJob]
        exact (complete_counts hConfig job).1
      · rcases waitDone_refused hAllowed with
          ⟨text, hRefused⟩
        simp only [step, Call.run, Op.discard_run, hRefused]
        exact .of_same (Std.Refl.refl _)
  | fini =>
      exact
        .of_same
          (fini_moves (DomainRuntime.Discreet.fini c) s)

/- A wait that was allowed fails only with the runtime. -/
theorem waitDone_awaited
    {id : RequestId}
    (hAllowed : s.1.Allows (.waitDone id))
    (text : String) :
    ((Call.waitDone id).run s).1 ≠
      .error (.invalidState text) := by
  rcases hAllowed with ⟨hState, job, hJob, rfl⟩
  rw [waitDone_run hState hJob]
  exact (complete_counts rfl job).2 text

end Steps

------------------------------------------------------------
-- Jobs That Are Waited For
------------------------------------------------------------

section Balance

variable {ρ : Type}

/- How many jobs are posted and not waited for yet. -/
def awaited
    (d : Dispatcher ρ) : Nat :=
  if d.state = .waiting then 1 else 0

/-
  A job that is posted is awaited from then on, until it is
  done or lost.
-/
theorem Effect.balance
    {d d' : Dispatcher ρ}
    {call : Call}
    {ms : List RuntimeMethod}
    {result : Except Error Unit}
    (hEffect : Effect d call ms result d')
    (hAwaited :
      ∀ id text,
        call = .waitDone id →
          d.Allows call →
            result ≠ .error (.invalidState text)) :
    [Entry.mk call result].countP Entry.posted + d.awaited =
      [Entry.mk call result].countP Entry.done +
        [Entry.mk call result].countP Entry.lost +
          d'.awaited := by
  cases hEffect with
  | refused _ =>
      cases call <;>
        simp [Entry.posted, Entry.done, Entry.lost]
  | failed _ hOther _ hKept =>
      cases call with
      | waitDone id => exact absurd rfl (hOther id)
      | _ =>
          simp [Entry.posted, Entry.done, Entry.lost,
            awaited, hKept.state]
  | initialized hState _ _ hReady _ _ =>
      simp [Entry.posted, Entry.done, Entry.lost, awaited,
        hState, hReady]
  | posted hState _ hWaiting _ _ =>
      simp [Entry.posted, Entry.done, Entry.lost, awaited,
        hState, hWaiting]
  | completed hState hJob _ hReady _ _ =>
      have hAnswer :=
        fun text => hAwaited _ text rfl ⟨hState, _, hJob, rfl⟩
      rcases result with e | _
      · cases e <;>
          simp_all [Entry.posted, Entry.done, Entry.lost,
            awaited]
      · simp [Entry.posted, Entry.done, Entry.lost, awaited,
          hState, hReady]
  | finalized hState _ _ hEnd _ _ =>
      rcases hState with hState | hState <;>
        simp [Entry.posted, Entry.done, Entry.lost, awaited,
          hState, hEnd]

theorem step_balance
    [DomainRuntime ρ]
    [DomainRuntime.Discreet ρ]
    (s : Dispatcher ρ × Machine)
    (call : Call) :
    [Entry.mk call (call.run s).1].countP Entry.posted +
        s.1.awaited =
      [Entry.mk call (call.run s).1].countP Entry.done +
        [Entry.mk call (call.run s).1].countP Entry.lost +
          (step call s).1.awaited := by
  rcases hasEffect call s with ⟨_, hEffect, _⟩
  apply hEffect.balance
  rintro id text rfl hAllowed
  exact waitDone_awaited hAllowed text

end Balance

------------------------------------------------------------
-- Accounts
------------------------------------------------------------

section Accounts

variable {ρ : Type}
variable {c : StageConfig}
variable {s : Dispatcher ρ × Machine}
variable {log : List Entry}

/-
  A dispatcher and its machine agree with the account of all
  calls made so far.
-/
structure Booked
    (c : StageConfig)
    (s : Dispatcher ρ × Machine)
    (log : List Entry) : Prop where
  config : s.1.config = c
  metered : ∀ meter : Meter,
    meter.IsOf c →
      s.2.metered meter =
        log.countP fun x => x.meter? c = some meter
  balance :
    log.countP Entry.posted =
      log.countP Entry.done + log.countP Entry.lost +
        s.1.awaited

/- What is not counted leaves an account as it is. -/
theorem Booked.aside
    (h : Booked c s log)
    {m : Machine}
    (hSame : SameJobs c s.2 m) : Booked c (s.1, m) log where
  config := h.config
  metered meter hOf :=
    (hSame meter hOf).trans (h.metered meter hOf)
  balance := h.balance

variable [DomainRuntime ρ]

/- The entries of calls that are made one after another. -/
def entries
    (calls : List Call)
    (s : Dispatcher ρ × Machine) : List Entry :=
  (Run.moves step calls s).map fun (t, call) =>
    ⟨call, (call.run t).1⟩

variable [DomainRuntime.Discreet ρ]

theorem Booked.step
    (h : Booked c s log)
    (call : Call) :
    Booked c (step call s)
      (log ++ [⟨call, (call.run s).1⟩]) where
  config := by
    rcases hasEffect call s with ⟨_, hEffect, _⟩
    exact hEffect.config.trans h.config
  metered meter hOf := by
    rw [step_counts h.config call meter hOf,
      h.metered meter hOf, List.countP_append,
      List.countP_singleton]
    simp only [decide_eq_true_eq]
  balance := by
    have hStep := step_balance s call
    have hLog := h.balance
    simp only [List.countP_append]
    omega

/- The same for calls that are made one after another. -/
theorem Booked.steps
    (h : Booked c s log)
    (calls : List Call) :
    Booked c (Run.after Dispatcher.step calls s)
      (log ++ entries calls s) := by
  induction calls generalizing s log with
  | nil =>
      rw [entries, Run.moves, List.map_nil, List.append_nil]
      exact h
  | cons call rest ih =>
      have hRest := ih (h.step call)
      rw [List.append_assoc] at hRest
      exact hRest

end Accounts

------------------------------------------------------------
-- Runs
------------------------------------------------------------

section Runs

variable {ρ : Type}
variable {c : StageConfig}
variable {s : Dispatcher ρ × Machine}
variable {log : List Entry}

/-
  What can happen: a call is made, a job is run, or others
  do something.
-/
inductive Event (c : StageConfig) where
  | call (call : Call)
  | run (job : Job)
  | aside (deed : Machine.Aside c)

variable [DomainRuntime ρ]

/- A dispatcher and its machine after something happened. -/
def occur :
    Event c → Dispatcher ρ × Machine → Dispatcher ρ × Machine
  | .call call, s => step call s
  | .run job, s => (Dispatcher.run job s).2
  | .aside deed, s => (s.1, deed.act s.2)

/-
  The calls that are made when something happens. A job that
  is run is waited for if it could be posted.
-/
def Event.calls
    (s : Dispatcher ρ × Machine) : Event c → List Call
  | .call made => [made]
  | .run job =>
    match (post job s).1 with
    | .ok id => [.post job, .waitDone id]
    | .error _ => [.post job]
  | .aside _ => []

/- The account of a run, in the order of the calls. -/
def history
    (es : List (Event c))
    (s : Dispatcher ρ × Machine) : List Entry :=
  (Run.moves occur es s).flatMap fun (t, e) =>
    entries (e.calls t) t

/- To run a job is to make the calls for it. -/
theorem run_steps
    (job : Job)
    (s : Dispatcher ρ × Machine) :
    (Dispatcher.run job s).2 =
      Run.after step ((Event.run (c := c) job).calls s) s := by
  have hPost :
      step (.post job) s = (post job s).2 := by
    rw [step, Call.run, Op.discard_run]
  simp only [Event.calls]
  rw [Dispatcher.run]
  change (Op.bind _ _ s).2 = _
  unfold Op.bind
  rcases hRun : post job s with ⟨e | id, t⟩
  · rw [hRun] at hPost
    exact hPost.symm
  · rw [hRun] at hPost
    change (waitDone id t).2 =
      step (.waitDone id) (step (.post job) s)
    rw [hPost, step, Call.run, Op.discard_run]

variable [DomainRuntime.Discreet ρ]

theorem Booked.occur
    (h : Booked c s log)
    (e : Event c) :
    Booked c (occur e s) (log ++ entries (e.calls s) s) := by
  cases e with
  | call call => exact h.steps [call]
  | run job =>
      have hSteps := h.steps ((Event.run (c := c) job).calls s)
      rw [← run_steps job s] at hSteps
      exact hSteps
  | aside deed =>
      rw [Event.calls, entries, Run.moves, List.map_nil,
        List.append_nil]
      exact h.aside (deed.same s.2)

theorem Booked.after
    (h : Booked c s log)
    (es : List (Event c)) :
    Booked c (Run.after Dispatcher.occur es s)
      (log ++ history es s) := by
  induction es generalizing s log with
  | nil =>
      rw [history, Run.moves, List.flatMap_nil,
        List.append_nil]
      exact h
  | cons e rest ih =>
      have hRest := ih (h.occur e)
      rw [List.append_assoc] at hRest
      exact hRest

end Runs

------------------------------------------------------------
-- What the Meters Say
------------------------------------------------------------

section Reading

variable {ρ : Type}
variable {c : StageConfig}
variable {s : Dispatcher ρ × Machine}
variable {log : List Entry}

/-
  The meters of a stage say what became of the calls, and
  they add up.
-/
structure Accounted
    (c : StageConfig)
    (s : Dispatcher ρ × Machine)
    (log : List Entry) : Prop where
  dispatched :
    s.2.metered (.jobsDispatched c.domain c.node) =
      log.countP Entry.posted
  samples :
    s.2.metered (.jobDuration c.domain c.node) =
      log.countP Entry.done
  failures : ∀ cause : DispatchError,
    s.2.metered (.jobFailures c.domain c.node cause) =
      log.countP fun x => x.failure? = some cause
  failed :
    (DispatchError.all.map fun cause =>
      s.2.metered
        (.jobFailures c.domain c.node cause)).sum =
      log.countP fun x => x.failure?.isSome
  balance :
    s.2.metered (.jobsDispatched c.domain c.node) =
      s.2.metered (.jobDuration c.domain c.node) +
        log.countP Entry.lost +
          if s.1.state = .waiting then 1 else 0

/- Every failure is one of a single error. -/
theorem sum_failures
    (log : List Entry) :
    (DispatchError.all.map fun cause =>
      log.countP fun x => x.failure? = some cause).sum =
      log.countP fun x => x.failure?.isSome := by
  induction log with
  | nil => rfl
  | cons x rest ih =>
      have hOne :
          (DispatchError.all.map fun cause =>
            if x.failure? = some cause then 1 else 0).sum =
            if x.failure?.isSome then 1 else 0 := by
        cases x.failure? with
        | none => rfl
        | some found =>
            rw [List.sum_map_eq_nsmul_single found,
              DispatchError.count_all]
            · simp
            · intro other hOther _
              exact if_neg fun h =>
                hOther (Option.some.inj h).symm
      simp only [List.countP_cons, List.sum_map_add, ih,
        decide_eq_true_eq, hOne]

theorem Booked.accounted
    (h : Booked c s log) : Accounted c s log := by
  have hDispatched :
      s.2.metered (.jobsDispatched c.domain c.node) =
        log.countP Entry.posted := by
    rw [h.metered (.jobsDispatched _ _) ⟨rfl, rfl⟩]
    apply List.countP_congr
    simp [Entry.meter?_eq_dispatched]
  have hSamples :
      s.2.metered (.jobDuration c.domain c.node) =
        log.countP Entry.done := by
    rw [h.metered (.jobDuration _ _) ⟨rfl, rfl⟩]
    apply List.countP_congr
    simp [Entry.meter?_eq_duration]
  have hFailures :
      ∀ cause : DispatchError,
        s.2.metered (.jobFailures c.domain c.node cause) =
          log.countP fun x => x.failure? = some cause := by
    intro cause
    rw [h.metered (.jobFailures _ _ cause) ⟨rfl, rfl⟩]
    apply List.countP_congr
    simp [Entry.meter?_eq_failures]
  refine ⟨hDispatched, hSamples, hFailures, ?_, ?_⟩
  · simp only [hFailures]
    exact sum_failures log
  · rw [hDispatched, hSamples]
    exact h.balance

------------------------------------------------------------
-- Dispatchers
------------------------------------------------------------

/- A dispatcher that was not called has nothing to account. -/
theorem booked_of_create
    [DomainRuntime ρ]
    {runtime : ρ}
    {m m' : Machine}
    {d : Dispatcher ρ}
    (hCreate : create c runtime m = (.ok d, m'))
    (hZero :
      ∀ meter : Meter,
        meter.IsOf c → m'.metered meter = 0) :
    Booked c (d, m') [] := by
  rw [create_eq hCreate]
  exact ⟨rfl, hZero, rfl⟩

/-
  The meters of a dispatcher over a backend, which start at
  zero, are an account of its calls whatever happens: one
  meter counts the posts that succeeded, one the waits, and
  one for each error of the domain the posts and waits that
  failed with it. What was posted and is not waited for now
  was either done or lost.
-/
theorem accounted_of_backend
    {b : Backend}
    {m m' : Machine}
    {d : Dispatcher AnyRuntime}
    (hCreate : overBackend c b m = (.ok d, m'))
    (hZero :
      ∀ meter : Meter,
        meter.IsOf c → m'.metered meter = 0)
    (es : List (Event c)) :
    Accounted c (Run.after occur es (d, m'))
        (history es (d, m')) ∧
      Function.Injective DispatchError.label := by
  rcases create_of_backend hCreate with
    ⟨r, n, _, hOver⟩
  have hStart : Booked c (d, m') [] :=
    booked_of_create hOver hZero
  exact
    ⟨(hStart.after es).accounted,
      DispatchError.label_injective⟩

/- A stage of the host. -/
def benchConfig : StageConfig :=
  { StageConfig.of "bench" .host with output := .single 16 }

/- A machine with an engine that is worked by hand. -/
def bench : Machine :=
  { Machine.fresh fun _ => 4096 with
    engines :=
      (Table.empty.insert (.manual ManualEngine.fresh)).2 }

/- The ticket of a request is finished by hand. -/
def finished
    (id : RequestId)
    (status : Status) : Machine.Aside benchConfig where
  act := Machine.completeTicket ⟨0, id⟩ status
  same := Machine.Engines.ticketed ⟨0, id⟩ status

/-
  One job is done, one fails, one is not finished in time,
  one is for another domain, and the last one is awaited.
-/
def benchEvents : List (Event benchConfig) :=
  [.call .init,
    .call (.post (Job.of .host ⟨1⟩)),
    .aside (finished ⟨1⟩ 0),
    .call (.waitDone ⟨2⟩),
    .call (.waitDone ⟨1⟩),
    .call (.post (Job.of .host ⟨2⟩)),
    .aside (finished ⟨2⟩ 125),
    .call (.waitDone ⟨2⟩),
    .run (Job.of .host ⟨3⟩),
    .call (.post (Job.of .vector ⟨4⟩)),
    .call (.post (Job.of .host ⟨5⟩))]

theorem bench_accounted :
    ∃ d m',
      overBackend benchConfig (.host 0) bench =
          (.ok d, m') ∧
        (∀ meter : Meter,
          meter.IsOf benchConfig → m'.metered meter = 0) ∧
        Accounted benchConfig
          (Run.after occur benchEvents (d, m'))
          (history benchEvents (d, m')) ∧
        [Meter.jobsDispatched .host "bench",
            .jobDuration .host "bench",
            .jobFailures .host "bench" .operatorException,
            .jobFailures .host "bench" .timeout,
            .jobFailures .host "bench" .malformedJob].map
            (Run.after occur benchEvents
              (d, m')).2.metered =
          [4, 1, 1, 1, 1] := by
  have hCreate :
      overBackend benchConfig (.host 0) bench =
        (.ok _, _) :=
    rfl
  have hZero :
      ∀ meter : Meter,
        meter.IsOf benchConfig →
          Machine.metered
            (overBackend benchConfig (.host 0) bench).2
            meter = 0 :=
    fun _ _ => rfl
  exact
    ⟨_, _, hCreate, hZero,
      (accounted_of_backend hCreate hZero benchEvents).1,
      by decide +kernel⟩

end Reading

end Dispatcher

end Offload
