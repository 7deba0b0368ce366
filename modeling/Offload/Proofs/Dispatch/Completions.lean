import Offload.Proofs.Dispatch.Lifecycle

/-
  Which jobs a dispatcher has its runtime complete.

  A watched runtime lists the methods run on it. A dispatcher
  cannot tell that its runtime is watched, and in the list a
  job that was posted is completed once, by the wait for it,
  before the next one is posted.

  Key definitions include:
    * `Watched`
    * `Dispatcher.Imitates`
    * `Dispatcher.completions`
    * `Dispatcher.Lifecycle`

  Main results:
    * `Dispatcher.call_follows`
    * `Dispatcher.completions_between`
    * `Dispatcher.lifecycle_of_create`
-/

namespace Offload

------------------------------------------------------------
-- Dispatchers over Alike Runtimes
------------------------------------------------------------

/- The methods of two kinds of runtimes do the same. -/
structure Imitates
    {ρ σ : Type}
    [DomainRuntime ρ]
    [DomainRuntime σ]
    (h : ρ → σ) : Prop where
  init : ∀ c : StageConfig,
    Op.Follows (Prod.map h id)
      (DomainRuntime.init c) (DomainRuntime.init c)
  submit : ∀ job : Job,
    Op.Follows (Prod.map h id)
      (DomainRuntime.submit job) (DomainRuntime.submit job)
  complete : ∀ job : Job,
    Op.Follows (Prod.map h id)
      (DomainRuntime.complete job)
      (DomainRuntime.complete job)
  fini :
    Op.Follows (Prod.map h id)
      DomainRuntime.fini DomainRuntime.fini

namespace Dispatcher

variable {ε ρ σ α : Type}

/- A dispatcher and its machine with a runtime of another kind. -/
def onto
    (h : ρ → σ)
    (s : Dispatcher ρ × Machine) :
    Dispatcher σ × Machine :=
  (⟨s.1.config, h s.1.runtime, s.1.resources, s.1.state,
    s.1.inFlight⟩, s.2)

variable {h : ρ → σ}

theorem onMachine_follows
    (x : Op ε Machine α) :
    Op.Follows (onto h) (onMachine x) (onMachine x) :=
  fun _ => rfl

theorem onRuntime_follows
    {x : Op ε (ρ × Machine) α}
    {y : Op ε (σ × Machine) α}
    (hxy : Op.Follows (Prod.map h id) x y) :
    Op.Follows (onto h) (onRuntime x) (onRuntime y) := by
  intro s
  have hRun := hxy (s.1.runtime, s.2)
  simp only [Prod.map_apply, id_eq] at hRun
  simp only [onRuntime, Op.within, onto, hRun, Prod.map_fst,
    Prod.map_snd, id_eq]

theorem noteFailure_follows
    (e : Error) :
    Op.Follows (ε := ε) (onto h)
      (noteFailure e) (noteFailure e) := by
  unfold noteFailure
  apply Op.Follows.get_bind
  rintro ⟨d, m⟩
  cases e.dispatch? with
  | none => exact Op.Follows.pure ()
  | some cause => exact onMachine_follows _

theorem dump_follows
    (job : Job) :
    Op.Follows (ε := ε) (onto h) (dump job) (dump job) := by
  apply Op.Follows.get_bind
  rintro ⟨⟨c, q, resources, state, inFlight⟩, m⟩
  cases resources with
  | none => exact Op.Follows.pure ()
  | some r =>
      exact
        Op.Follows.orElse (onMachine_follows _)
          fun _ => onMachine_follows _

theorem releaseResources_follows :
    Op.Follows (ε := ε) (onto h)
      releaseResources releaseResources := by
  apply Op.Follows.get_bind
  rintro ⟨⟨c, q, resources, state, inFlight⟩, m⟩
  apply Op.Follows.bind
  · exact fun _ => rfl
  · intro _
    cases resources with
    | none => exact Op.Follows.pure ()
    | some r => exact onMachine_follows _

theorem finalize_follows :
    Op.Follows (ε := ε) (onto h) finalize finalize := by
  apply Op.Follows.bind releaseResources_follows
  intro _
  apply Op.Follows.bind
  · exact fun _ => rfl
  · exact fun _ => onMachine_follows _

variable [DomainRuntime ρ] [DomainRuntime σ]

theorem activate_follows
    (hAlike : Imitates h)
    (r : StageResources) :
    Op.Follows (onto h) (activate r) (activate r) := by
  apply Op.Follows.bind (onMachine_follows _)
  rintro ⟨answer, r'⟩
  cases answer with
  | ok _ => exact Op.Follows.pure r'
  | error e =>
      apply Op.Follows.bind
      · apply Op.Follows.orElse
        · exact onRuntime_follows hAlike.fini
        · exact fun _ => onMachine_follows _
      · intro _
        apply Op.Follows.bind (onMachine_follows _)
        exact fun _ => Op.Follows.fail e

theorem openDomain_follows
    (hAlike : Imitates h)
    (r : StageResources) :
    Op.Follows (onto h) (openDomain r) (openDomain r) := by
  apply Op.Follows.get_bind
  rintro ⟨d, m⟩
  apply Op.Follows.bind
  · exact (onRuntime_follows (hAlike.init d.config)).attempt
  · rintro (e | _)
    · apply Op.Follows.bind (onMachine_follows _)
      exact fun _ => Op.Follows.fail e
    · exact activate_follows hAlike r

theorem init_follows
    (hAlike : Imitates h) :
    Op.Follows (onto h) init init := by
  apply Op.Follows.get_bind
  rintro ⟨d, m⟩
  apply Op.Follows.ite
  · exact fun _ => rfl
  · apply Op.Follows.bind
    · exact fun _ => rfl
    intro _
    apply Op.Follows.bind (onMachine_follows _)
    intro r
    apply Op.Follows.bind (openDomain_follows hAlike r)
    intro r'
    apply Op.Follows.bind
    · exact fun _ => rfl
    · exact fun _ => onMachine_follows _

theorem submit_follows
    (hAlike : Imitates h)
    (job : Job) :
    Op.Follows (onto h) (submit job) (submit job) := by
  apply Op.Follows.get_bind
  rintro ⟨d, m⟩
  apply Op.Follows.bind (onMachine_follows _)
  intro _
  apply Op.Follows.bind
  · exact fun _ => rfl
  intro _
  apply Op.Follows.bind
  · exact (onRuntime_follows (hAlike.submit job)).attempt
  rintro (e | _)
  · apply Op.Follows.bind
    · exact fun _ => rfl
    intro _
    apply Op.Follows.bind (onMachine_follows _)
    intro _
    apply Op.Follows.bind (noteFailure_follows e)
    exact fun _ => Op.Follows.fail e
  · apply Op.Follows.bind
    · exact fun _ => rfl
    intro _
    apply Op.Follows.bind (onMachine_follows _)
    exact fun _ => Op.Follows.pure _

theorem post_follows
    (hAlike : Imitates h)
    (job : Job) :
    Op.Follows (onto h) (post job) (post job) := by
  apply Op.Follows.get_bind
  rintro ⟨d, m⟩
  apply Op.Follows.ite
  · exact fun _ => rfl
  apply Op.Follows.ite
  · apply Op.Follows.bind (noteFailure_follows _)
    exact fun _ => Op.Follows.fail _
  · exact submit_follows hAlike job

theorem complete_follows
    (hAlike : Imitates h)
    (job : Job) :
    Op.Follows (onto h) (complete job) (complete job) := by
  apply Op.Follows.get_bind
  rintro ⟨d, m⟩
  apply Op.Follows.bind
  · exact fun _ => rfl
  intro _
  apply Op.Follows.bind (onMachine_follows _)
  intro _
  apply Op.Follows.bind
  · exact (onRuntime_follows (hAlike.complete job)).attempt
  intro answer
  apply Op.Follows.bind
  · exact fun _ => rfl
  intro _
  rcases answer with e | _
  · apply Op.Follows.bind (onMachine_follows _)
    intro _
    apply Op.Follows.bind (noteFailure_follows e)
    exact fun _ => Op.Follows.fail e
  · apply Op.Follows.bind (onMachine_follows _)
    exact fun _ => dump_follows job

theorem waitDone_follows
    (hAlike : Imitates h)
    (id : RequestId) :
    Op.Follows (onto h) (waitDone id) (waitDone id) := by
  apply Op.Follows.get_bind
  rintro ⟨⟨c, q, resources, state, inFlight⟩, m⟩
  apply Op.Follows.ite
  · exact fun _ => rfl
  cases inFlight with
  | none => exact Op.Follows.fail _
  | some job =>
      apply Op.Follows.ite
      · exact fun _ => rfl
      · apply Op.Follows.bind (complete_follows hAlike job)
        exact fun _ => Op.Follows.pure id

theorem fini_follows
    (hAlike : Imitates h) :
    Op.Follows (onto h) fini fini := by
  apply Op.Follows.get_bind
  rintro ⟨⟨c, q, resources, state, inFlight⟩, m⟩
  cases state with
  | uninitialized => exact finalize_follows
  | ready =>
      apply Op.Follows.bind (onRuntime_follows hAlike.fini)
      exact fun _ => finalize_follows
  | posting => exact Op.Follows.fail _
  | waiting => exact Op.Follows.fail _
  | finalized => exact Op.Follows.fail _

/-
  A dispatcher does the same over runtimes that do the same.
-/
theorem call_follows
    (hAlike : Imitates h)
    (call : Call) :
    Op.Follows (onto h) call.run call.run := by
  cases call with
  | init => exact init_follows hAlike
  | post job => exact (post_follows hAlike job).discard
  | waitDone id => exact (waitDone_follows hAlike id).discard
  | fini => exact fini_follows hAlike

end Dispatcher

------------------------------------------------------------
-- Watched Runtimes
------------------------------------------------------------

/- A runtime with the methods that were run on it, in order. -/
structure Watched (ρ : Type) where
  runtime : ρ
  calls : List RuntimeMethod

namespace Watched

variable {ρ : Type}

/- Run a method and note it. -/
def note
    (method : RuntimeMethod)
    (x : Op Error (ρ × Machine) Unit) :
    Op Error (Watched ρ × Machine) Unit :=
  fun s =>
    let r := x (s.1.runtime, s.2)
    (r.1, (⟨r.2.1, s.1.calls ++ [method]⟩, r.2.2))

variable [DomainRuntime ρ]

instance : DomainRuntime (Watched ρ) where
  domain := fun w => DomainRuntime.domain w.runtime
  init := fun c => note .init (DomainRuntime.init c)
  submit := fun job =>
    note (.submit job) (DomainRuntime.submit job)
  complete := fun job =>
    note (.complete job) (DomainRuntime.complete job)
  fini := note .fini DomainRuntime.fini

/- A watched runtime does what the runtime does. -/
theorem imitates : Imitates (runtime (ρ := ρ)) where
  init := fun _ _ => rfl
  submit := fun _ _ => rfl
  complete := fun _ _ => rfl
  fini := fun _ => rfl

/- Just the methods that are run are noted. -/
theorem calls_of_ran
    {c : StageConfig}
    {ms : List RuntimeMethod}
    {w w' : Watched ρ}
    (hRan : RuntimeMethod.Ran c ms w w') :
    w'.calls = w.calls ++ ms := by
  induction hRan with
  | nothing w => exact (List.append_nil _).symm
  | single method w m => cases method <;> rfl
  | both _ _ ihFirst ihSecond =>
      rw [ihSecond, ihFirst, List.append_assoc]

end Watched

namespace Dispatcher

variable {ρ : Type}

/- A dispatcher whose runtime is watched from now on. -/
def watch
    (d : Dispatcher ρ) : Dispatcher (Watched ρ) :=
  ⟨d.config, ⟨d.runtime, []⟩, d.resources, d.state,
    d.inFlight⟩

variable [DomainRuntime ρ]

/- The jobs that calls have the runtime complete, in order. -/
def completions
    (calls : List Call)
    (s : Dispatcher (Watched ρ) × Machine) : List Job :=
  RuntimeMethod.completed
    ((Run.after step calls s).1.runtime.calls.drop
      s.1.runtime.calls.length)

/- No call of some posts a job. -/
def NonePosts
    (calls : List Call)
    (s : Dispatcher ρ × Machine) : Prop :=
  ∀ t job,
    (t, Call.post job) ∈ Run.moves step calls s →
      ¬ Succeeds (.post job) t

/-
  The wait for a job is among some calls, and it alone has
  the runtime complete a job, which is that job.
-/
def CompletesOnce
    (job : Job)
    (calls : List Call)
    (s : Dispatcher (Watched ρ) × Machine) : Prop :=
  ∃ front back,
    calls = front ++ .waitDone job.id :: back ∧
      completions front s = [] ∧
        completions [.waitDone job.id]
            (Run.after step front s) = [job] ∧
          completions back
              (Run.after step (front ++ [.waitDone job.id])
                s) = []

------------------------------------------------------------
-- Completions of One Call
------------------------------------------------------------

section Completions

variable {s : Dispatcher (Watched ρ) × Machine}
variable {call : Call}
variable {calls : List Call}

/- Calls are only added to those that were noted. -/
theorem exists_noted
    (calls : List Call)
    (s : Dispatcher (Watched ρ) × Machine) :
    ∃ ms,
      (Run.after step calls s).1.runtime.calls =
        s.1.runtime.calls ++ ms := by
  induction calls generalizing s with
  | nil => exact ⟨[], (List.append_nil _).symm⟩
  | cons call rest ih =>
      rcases hasEffect call s with ⟨ms, _, hRan⟩
      rcases ih (step call s) with ⟨ns, hRest⟩
      refine ⟨ms ++ ns, ?_⟩
      rw [← List.append_assoc, ← Watched.calls_of_ran hRan]
      exact hRest

theorem completions_append
    (xs ys : List Call)
    (s : Dispatcher (Watched ρ) × Machine) :
    completions (xs ++ ys) s =
      completions xs s ++
        completions ys (Run.after step xs s) := by
  rcases exists_noted xs s with ⟨ms, hms⟩
  rcases exists_noted ys (Run.after step xs s) with
    ⟨ns, hns⟩
  have hAll :
      (Run.after step (xs ++ ys) s).1.runtime.calls =
        s.1.runtime.calls ++ (ms ++ ns) := by
    rw [Run.after, List.foldl_append, ← List.append_assoc,
      ← hms]
    exact hns
  simp only [completions, hAll, hns, hms,
    List.drop_left, RuntimeMethod.completed,
    List.filterMap_append]

/- What the runtime completes in one call. -/
theorem completions_single
    {ms : List RuntimeMethod}
    (hRan :
      RuntimeMethod.Ran s.1.config ms s.1.runtime
        (step call s).1.runtime) :
    completions [call] s = RuntimeMethod.completed ms := by
  change
    RuntimeMethod.completed
      ((step call s).1.runtime.calls.drop _) = _
  rw [Watched.calls_of_ran hRan, List.drop_left]

theorem completions_nil
    (s : Dispatcher (Watched ρ) × Machine) :
    completions [] s = [] := by
  change
    RuntimeMethod.completed
      (s.1.runtime.calls.drop s.1.runtime.calls.length) = []
  rw [List.drop_length]
  rfl

theorem completions_cons
    (call : Call)
    (calls : List Call)
    (s : Dispatcher (Watched ρ) × Machine) :
    completions (call :: calls) s =
      completions [call] s ++
        completions calls (step call s) :=
  completions_append [call] calls s

------------------------------------------------------------
-- Completions of a Run
------------------------------------------------------------

theorem NonePosts.rest
    {s : Dispatcher ρ × Machine}
    (hNone : NonePosts (call :: calls) s) :
    NonePosts calls (step call s) :=
  fun t job hMove =>
    hNone t job (List.mem_cons_of_mem _ hMove)

theorem NonePosts.first
    {s : Dispatcher ρ × Machine}
    {job : Job}
    (hNone : NonePosts (.post job :: calls) s) :
    ¬ Succeeds (.post job) s :=
  hNone s job List.mem_cons_self

/-
  While no job is in flight and none is posted, none is
  completed.
-/
theorem idle_step
    (hIdle : s.1.state ≠ .waiting)
    (hNone : NonePosts (call :: calls) s) :
    (step call s).1.state ≠ .waiting ∧
      completions [call] s = [] := by
  rcases hasEffect call s with ⟨ms, hEffect, hRan⟩
  rw [completions_single hRan]
  generalize hResult : (call.run s).1 = result at hEffect
  generalize (step call s).1 = d at hEffect ⊢
  cases hEffect with
  | refused _ => exact ⟨hIdle, rfl⟩
  | failed _ _ hms hKept =>
      rw [hKept.state]
      exact ⟨hIdle, hms⟩
  | initialized _ hms _ hReady _ _ =>
      rw [hReady]
      exact ⟨nofun, hms⟩
  | posted _ _ _ _ _ => exact absurd hResult hNone.first
  | completed hState _ _ _ _ _ => exact absurd hState hIdle
  | finalized _ hms _ hEnd _ _ =>
      rw [hEnd]
      exact ⟨nofun, hms⟩

theorem idle_run
    (hIdle : s.1.state ≠ .waiting)
    (hNone : NonePosts calls s) :
    completions calls s = [] := by
  induction calls generalizing s with
  | nil => exact completions_nil s
  | cons call rest ih =>
      rcases idle_step hIdle hNone with ⟨hNext, hFirst⟩
      rw [completions_cons, hFirst, ih hNext hNone.rest]
      rfl

/-
  A job in flight stays so, with none completed, until the
  wait for it, which completes it.
-/
theorem waiting_step
    {job : Job}
    (hState : s.1.state = .waiting)
    (hJob : s.1.inFlight = some job)
    (hNone : NonePosts (call :: calls) s) :
    ((step call s).1.state = .waiting ∧
        (step call s).1.inFlight = some job ∧
          completions [call] s = []) ∨
      (call = .waitDone job.id ∧
        (step call s).1.state ≠ .waiting ∧
          completions [call] s = [job]) := by
  rcases hasEffect call s with ⟨ms, hEffect, hRan⟩
  rw [completions_single hRan]
  generalize hResult : (call.run s).1 = result at hEffect
  generalize (step call s).1 = d at hEffect ⊢
  cases hEffect with
  | refused _ => exact Or.inl ⟨hState, hJob, rfl⟩
  | failed _ _ hms hKept =>
      rw [hKept.state, hKept.inFlight]
      exact Or.inl ⟨hState, hJob, hms⟩
  | initialized hOther _ _ _ _ _ =>
      rw [hState] at hOther
      cases hOther
  | posted _ _ _ _ _ => exact absurd hResult hNone.first
  | completed _ hSame _ hReady _ _ =>
      rw [hJob] at hSame
      cases hSame
      rw [hReady]
      exact Or.inr ⟨rfl, nofun, rfl⟩
  | finalized hOther _ _ _ _ _ =>
      rw [hState] at hOther
      rcases hOther with hOther | hOther
      · cases hOther
      · cases hOther

theorem waiting_run
    {job : Job}
    (hState : s.1.state = .waiting)
    (hJob : s.1.inFlight = some job)
    (hNone : NonePosts calls s)
    (hEnd : (Run.after step calls s).1.state ≠ .waiting) :
    CompletesOnce job calls s := by
  induction calls generalizing s with
  | nil => exact absurd hState hEnd
  | cons call rest ih =>
      have hStep := waiting_step hState hJob hNone
      rcases hStep with
        ⟨hState', hJob', hFirst⟩ | ⟨rfl, hIdle, hFirst⟩
      · rcases ih hState' hJob' hNone.rest hEnd with
          ⟨front, back, rfl, hFront, hWait, hBack⟩
        refine
          ⟨call :: front, back, rfl, ?_, hWait, hBack⟩
        rw [completions_cons, hFirst, hFront]
        rfl
      · exact
          ⟨[], rest, rfl, completions_nil s, hFirst,
            idle_run hIdle hNone.rest⟩

/-
  Between a successful post and the next one the runtime
  completes the job of the first, in the wait for it.
-/
theorem completions_between
    {first second : Job}
    (hFirst : Succeeds (.post first) s)
    (hNone : NonePosts calls (step (.post first) s))
    (hSecond :
      Succeeds (.post second)
        (Run.after step calls (step (.post first) s))) :
    CompletesOnce first calls (step (.post first) s) := by
  rcases effect_of_succeeds hFirst with ⟨_, hPost⟩
  rcases effect_of_succeeds hSecond with ⟨_, hNext⟩
  have hReady := hNext.of_ok.1
  apply waiting_run hPost.of_posted.1 hPost.of_posted.2 hNone
  intro hWaiting
  rw [Allows, hWaiting] at hReady
  cases hReady

end Completions

------------------------------------------------------------
-- Lifecycles
------------------------------------------------------------

/-
  What holds of a dispatcher, its machine and the calls made
  to it. That only the posted job is completed is told by
  the notes of a watched runtime, which changes no answer.
-/
structure Lifecycle
    (d : Dispatcher ρ)
    (m : Machine)
    (calls : List Call) : Prop where
  settled :
    ∀ s ∈ Run.states step calls (d, m), s.1.Settled
  leads :
    ∀ s call, (s, call) ∈ Run.moves step calls (d, m) →
      (step call s).1.state = s.1.state ∨
        s.1.state.Leads (step call s).1.state
  succeeds :
    ∀ s call, (s, call) ∈ Run.moves step calls (d, m) →
      Succeeds call s →
        s.1.Allows call ∧
          (step call s).1.state = call.target
  refuses :
    ∀ s call, (s, call) ∈ Run.moves step calls (d, m) →
      ¬ s.1.Allows call →
        (step call s).1 = s.1 ∧
          ∃ text,
            (call.run s).1 = .error (.invalidState text)
  unwatched :
    onto Watched.runtime (d.watch, m) = (d, m) ∧
      ∀ call : Call,
        Op.Follows (onto (Watched.runtime (ρ := ρ)))
          call.run call.run
  completes :
    ∀ front first between second back s,
      calls =
          front ++
            .post first :: between ++
              .post second :: back →
        s = Run.after step front (d.watch, m) →
          Succeeds (.post first) s →
            NonePosts between (step (.post first) s) →
              Succeeds (.post second)
                  (Run.after step between
                    (step (.post first) s)) →
                CompletesOnce first between
                  (step (.post first) s)

/- The life of every dispatcher that is created. -/
theorem lifecycle_of_create
    {c : StageConfig}
    {runtime : ρ}
    {m m' : Machine}
    {d : Dispatcher ρ}
    (hCreate : create c runtime m = (.ok d, m'))
    (calls : List Call) : Lifecycle d m' calls := by
  have hStart : d.Settled := by
    rw [create_eq hCreate]
    constructor
    · exact nofun
    · exact ⟨nofun, nofun⟩
    · exact ⟨nofun, nofun⟩
  constructor
  · exact
      Run.forall_states
        (P := fun s : Dispatcher ρ × Machine => s.1.Settled)
        settled_step calls hStart
  · intro s call _
    rcases hasEffect call s with ⟨_, hEffect, _⟩
    exact hEffect.leads
  · intro s call _ hOk
    rcases effect_of_succeeds hOk with ⟨_, hEffect⟩
    exact hEffect.of_ok
  · intro s call _ hNot
    rcases hasEffect call s with ⟨_, hEffect, _⟩
    exact hEffect.of_not_allowed hNot
  · exact ⟨rfl, call_follows Watched.imitates⟩
  · intro _ _ _ _ _ _ _ _ hFirst hNone hSecond
    exact completions_between hFirst hNone hSecond

/- A stage whose jobs all succeed. -/
def scripted : Op Error Machine (Dispatcher ScriptedRuntime) :=
  create
    { StageConfig.of "stage" .host with output := .single 16 }
    (ScriptedRuntime.create .host ⟨[], [], [], []⟩)

/- Two jobs are posted, the first of them is waited for. -/
def scriptedCalls : List Call :=
  [.init, .post (Job.of .host ⟨1⟩), .waitDone ⟨2⟩,
    .waitDone ⟨1⟩, .post (Job.of .host ⟨2⟩), .fini]

/- A scripted dispatcher completes the job it waits for. -/
theorem scripted_lifecycle :
    ∃ d m,
      scripted (Machine.fresh fun _ => 4096) = (.ok d, m) ∧
        Lifecycle d m scriptedCalls ∧
          completions scriptedCalls (d.watch, m) =
            [Job.of .host ⟨1⟩] := by
  have hCreate :
      scripted (Machine.fresh fun _ => 4096) = (.ok _, _) :=
    rfl
  exact
    ⟨_, _, hCreate,
      lifecycle_of_create hCreate scriptedCalls, by decide +kernel⟩

end Dispatcher

end Offload
