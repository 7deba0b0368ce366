import Offload.Proofs.Dispatch.JobCalls
import Offload.Proofs.Dispatch.QuietCalls

/-
  What is on the board of a dispatcher of an engine.

  Whatever the engine does, a dispatcher that is ready has
  nothing on its board, and one that waits just the job it
  posted. So the board has room for every job, and knows the
  job that is waited for: what a post answers is the answer
  of the engine, and what a wait answers is a status that was
  posted for the job, or that there was none in time.

  Key definitions include:
    * `Dispatcher.Balanced`
    * `Dispatcher.Happening`
    * `Dispatcher.Tended`

  Main results:
    * `Dispatcher.balanced_happen`
    * `Dispatcher.Balanced.tended`
    * `Dispatcher.tended_states`
-/

namespace Offload

open Machine

namespace Dispatcher

variable {ρ σ : Type}
variable {key : Nat}
variable [EngineRuntime ρ]

------------------------------------------------------------
-- Balance
------------------------------------------------------------

/- The id of the job that was posted and not waited for. -/
def posted
    (d : Dispatcher σ) : List RequestId :=
  (d.inFlight.map Job.id).toList

/-
  The board of a dispatcher is the one with a number, and it
  tracks just what the dispatcher posted.
-/
structure Balanced
    (s : Dispatcher (Engaged ρ key) × Machine) : Prop where
  settled : s.1.Settled
  board : EngineRuntime.board s.1.runtime.runtime = key
  tracks : s.2.Tracks key s.1.posted

variable {s t : Dispatcher (Engaged ρ key) × Machine}
variable {job : Job}
variable {q : EngineRequest}

/- There is one posted id at most, so that posts are fine. -/
theorem Balanced.tracks_of_posts
    (h : Balanced s)
    {m : Machine}
    (hPosts : OnlyPosts key s.2 m) :
    m.Tracks key s.1.posted := by
  apply h.tracks.posts _ hPosts
  unfold posted
  cases s.1.inFlight <;> simp

theorem Balanced.tracks_begun
    (h : Balanced s)
    (job : Job) :
    (begun s.1 job s.2).Tracks key s.1.posted :=
  h.tracks_of_posts
    (.of_same (begun_sameDevice s.1 job s.2).boards)

/- A dispatcher that does not wait has posted nothing. -/
theorem Settled.posted_eq_nil
    {d : Dispatcher σ}
    (h : d.Settled)
    (hState : d.state ≠ .waiting) : d.posted = [] := by
  have hNone : d.inFlight = none := by
    rw [← Option.not_isSome_iff_eq_none, h.in_flight_iff]
    exact hState
  rw [posted, hNone]
  rfl

------------------------------------------------------------
-- Posting
------------------------------------------------------------

/-
  The answer of the engine to a job is all that is settled,
  and the board tracks the job if the engine took it.
-/
theorem Balanced.submit_settles
    (h : Balanced s)
    (hReady : s.1.state = .ready)
    (hRequest :
      EngineRuntime.request s.1.runtime.runtime job =
        .ok q) :
    ∃ t u answer,
      registerTicket key job.id (begun s.1 job s.2) =
          (.ok ⟨key, job.id⟩, t) ∧
        (s.1.runtime.engine.take ⟨q, ⟨key, job.id⟩⟩ t).1 =
          answer ∧
        submit job s =
          settle s.1.config job
            (answer.mapError Error.dispatch)
            ({ s.1 with state := .posting }, u) ∧
        u.Tracks key (idsTaken job.id answer) := by
  have hNone := h.tracks_begun job
  rw [h.settled.posted_eq_nil (by rw [hReady]; decide)]
    at hNone
  have hId := EngineRuntime.request_id hRequest
  rcases submitThrough_tracks s.1.runtime.engine.posts hNone
      q with
    ⟨t, hRegister, hAnswer, hTracks⟩
  rw [hId] at hRegister hAnswer hTracks
  have hRun := submit_begun job s
  have hSubmit :=
    Engaged.submit_run hRequest (begun s.1 job s.2)
  rw [h.board] at hSubmit
  change
    (DomainRuntime.submit job (s.1.runtime, _) :
      Except Error Unit × Engaged ρ key × Machine) = _
    at hSubmit
  rw [hSubmit, hAnswer] at hRun
  exact ⟨t, _, _, hRegister, rfl, hRun, hTracks⟩

/- A job that is refused is not on the board. -/
theorem settle_error_tracks
    {d : Dispatcher σ}
    {m : Machine}
    (hPosted : d.posted = [])
    (hNone : m.Tracks key [])
    (c : StageConfig)
    (e : Error) :
    (settle c job (.error e) (d, m)).2.2.Tracks key
      (settle c job (.error e) (d, m)).2.1.posted := by
  rw [(settle_error c job e (d, m)).2]
  change Tracks key d.posted _
  rw [hPosted]
  apply hNone.posts (Nat.zero_le _)
  exact settle_posts c job (.error e) (d, m)

/- Settling an answer leaves the board as the engine did. -/
theorem settle_tracks
    {d : Dispatcher σ}
    {m : Machine}
    {answer : Except DispatchError Unit}
    (hPosted : d.posted = [])
    (hTracks : m.Tracks key (idsTaken job.id answer))
    (c : StageConfig) :
    (settle c job (answer.mapError Error.dispatch)
        (d, m)).2.2.Tracks key
      (settle c job (answer.mapError Error.dispatch)
        (d, m)).2.1.posted := by
  cases answer with
  | ok _ =>
      exact
        hTracks.posts Nat.le.refl
          (settle_posts c job (.ok ()) (d, m))
  | error cause =>
      exact
        settle_error_tracks hPosted hTracks c
          (.dispatch cause)

/- A post that submits nothing leaves all as it is. -/
theorem post_keeps
    (hNot : ¬(s.1.state = .ready ∧ s.1.serves job = true)) :
    (post job s).2.1 = s.1 ∧
      OnlyPosts key s.2 (post job s).2.2 := by
  by_cases hReady : s.1.state = .ready
  · have hForeign : s.1.serves job = false := by
      simpa [hReady] using hNot
    rw [post_of_foreign hReady hForeign]
    refine ⟨rfl, ?_⟩
    exact
      Op.Moves.bind (noteFailure_posts _)
        (fun _ => Op.Moves.fail _) s
  · rw [post_refused hReady job]
    exact ⟨rfl, .of_same rfl⟩

theorem Balanced.post_tracks
    (h : Balanced s)
    (job : Job) :
    (post job s).2.2.Tracks key
      (post job s).2.1.posted := by
  by_cases hSubmits :
      s.1.state = .ready ∧ s.1.serves job = true
  · rcases hSubmits with ⟨hReady, hServes⟩
    have hPosted : s.1.posted = [] :=
      h.settled.posted_eq_nil (by rw [hReady]; decide)
    rw [post_of_ready hReady hServes]
    cases hRequest :
        EngineRuntime.request s.1.runtime.runtime job with
    | ok q =>
        rcases h.submit_settles hReady hRequest with
          ⟨t, u, answer, _, _, hSubmit, hTracks⟩
        rw [hSubmit]
        exact
          settle_tracks (d := { s.1 with state := .posting })
            hPosted hTracks _
    | error cause =>
        have hRun := submit_begun job s
        have hSubmit :=
          Engaged.submit_failed hRequest (begun s.1 job s.2)
        change
          (DomainRuntime.submit job (s.1.runtime, _) :
            Except Error Unit × Engaged ρ key × Machine) = _
          at hSubmit
        rw [hSubmit] at hRun
        rw [hRun]
        refine
          settle_error_tracks
            (d := { s.1 with state := .posting }) hPosted ?_
            _ _
        rw [← hPosted]
        exact h.tracks_begun job
  · rcases post_keeps hSubmits with ⟨hKept, hPosts⟩
    rw [hKept]
    exact h.tracks_of_posts hPosts

------------------------------------------------------------
-- Waiting
------------------------------------------------------------

/-
  The board knows the posted job as long as it is waited for,
  and nothing is left on it then.
-/
theorem Balanced.complete_concludes
    (h : Balanced s)
    (hJob : s.1.inFlight = some job) :
    ∃ w t,
      lookAmid key job.id
          (s.1.runtime.engine.meanwhile job.timeout)
          (begun s.1 job s.2) =
          (.ok w, t) ∧
        w ≠ .unknown ∧
        t.Tracks key [] ∧
        complete job s =
          conclude s.1.config job (Engaged.outcome w)
            ({ s.1 with state := .ready, inFlight := none },
              t) := by
  have hOnly := h.tracks_begun job
  have hPosted : s.1.posted = [job.id] := by
    rw [posted, hJob]
    rfl
  rw [hPosted] at hOnly
  rcases lookAmid_tracks hOnly
      (s.1.runtime.engine.meanwhile job.timeout) with
    ⟨w, t, hLooks, hKnown, hNone⟩
  have hRun := complete_begun job s
  have hComplete :
      (DomainRuntime.complete job
          (s.1.runtime, begun s.1 job s.2) :
        Except Error Unit × Engaged ρ key × Machine) =
        (Engaged.outcome w, (s.1.runtime, t)) := by
    apply Engaged.complete_run
    rw [h.board]
    exact hLooks
  rw [hComplete] at hRun
  exact ⟨w, t, hLooks, hKnown, hNone, hRun⟩

/- What a wait answers, and that nothing is left. -/
theorem Balanced.wait_answers
    (h : Balanced s)
    (hWaiting : s.1.state = .waiting)
    (hJob : s.1.inFlight = some job) :
    ((Call.waitDone job.id).run s).2.2.Tracks key [] ∧
      ((Call.waitDone job.id).run s).2.1.inFlight = none ∧
      ∃ w t,
        lookAmid key job.id
            (s.1.runtime.engine.meanwhile job.timeout)
            (begun s.1 job s.2) =
            (.ok w, t) ∧
          w ≠ .unknown ∧
          ((Call.waitDone job.id).run s).1 =
            Engaged.outcome w := by
  rcases h.complete_concludes hJob with
    ⟨w, t, hLooks, hKnown, hNone, hRun⟩
  rcases conclude_ends s.1.config job (Engaged.outcome w)
      { s.1 with state := .ready, inFlight := none } t with
    ⟨t', hEnd, _⟩
  have hPosts :
      OnlyPosts key t
        (conclude s.1.config job (Engaged.outcome w)
          ({ s.1 with state := .ready, inFlight := none },
            t)).2.2 :=
    conclude_posts s.1.config job _ (_, t)
  rw [hEnd] at hPosts
  have hCall :
      (Call.waitDone job.id).run s =
        (Engaged.outcome w,
          ({ s.1 with state := .ready, inFlight := none },
            t')) := by
    rw [waitDone_run hWaiting hJob, hRun, hEnd]
  rw [hCall]
  exact
    ⟨hNone.posts (Nat.zero_le _) hPosts, rfl, w, t, hLooks,
      hKnown, rfl⟩

------------------------------------------------------------
-- Calls
------------------------------------------------------------

/- Other calls than these change nothing about the job. -/
theorem Effect.posted_eq
    {d d' : Dispatcher σ}
    [DomainRuntime σ]
    {call : Call}
    {ms : List RuntimeMethod}
    {result : Except Error Unit}
    (h : Effect d call ms result d')
    (hPost : ∀ job, call ≠ .post job)
    (hWait : ∀ id, call ≠ .waitDone id) :
    d'.posted = d.posted := by
  cases h with
  | refused _ => rfl
  | failed _ _ _ hKept =>
      unfold Dispatcher.posted
      rw [hKept.inFlight]
  | initialized _ _ _ _ hSame _ =>
      unfold Dispatcher.posted
      rw [hSame]
  | posted _ _ _ _ _ => exact absurd rfl (hPost _)
  | completed _ _ _ _ _ _ => exact absurd rfl (hWait _)
  | finalized _ _ _ _ hSame _ =>
      unfold Dispatcher.posted
      rw [hSame]

theorem Balanced.step_tracks
    (h : Balanced s)
    (call : Call) :
    (step call s).2.Tracks key (step call s).1.posted := by
  rcases hasEffect call s with ⟨_, hEffect, _⟩
  cases call with
  | init =>
      rw [hEffect.posted_eq nofun nofun]
      exact h.tracks_of_posts (init_posts s)
  | fini =>
      rw [hEffect.posted_eq nofun nofun]
      exact h.tracks_of_posts (fini_posts s)
  | post job =>
      simp only [step, Call.run, Op.discard_run]
      exact h.post_tracks job
  | waitDone id =>
      by_cases hAllowed : s.1.Allows (.waitDone id)
      · rcases hAllowed with ⟨hWaiting, job, hJob, rfl⟩
        rcases h.wait_answers hWaiting hJob with
          ⟨hNone, hFree, _⟩
        unfold step
        rw [posted, hFree]
        exact hNone
      · rcases waitDone_refused hAllowed with
          ⟨text, hRefused⟩
        simp only [step, Call.run, Op.discard_run, hRefused]
        exact h.tracks

theorem Balanced.step
    (h : Balanced s)
    (call : Call) : Balanced (step call s) where
  settled := settled_step s call h.settled
  board := by
    rcases hasEffect call s with ⟨_, _, hRan⟩
    exact (Engaged.board_of_ran hRan).trans h.board
  tracks := h.step_tracks call

------------------------------------------------------------
-- Runs
------------------------------------------------------------

/-
  What can happen: a call is made, the engine changes its
  ways, or others do something, such as to finish tickets
  that they kept.
-/
inductive Happening (key : Nat) where
  | call (call : Call)
  | turn (engine : FreeEngine key)
  | deed (deed : Deed key)

/- A dispatcher and its machine after something happened. -/
def happen :
    Happening key →
      Dispatcher (Engaged ρ key) × Machine →
        Dispatcher (Engaged ρ key) × Machine
  | .call call, s => Dispatcher.step call s
  | .turn engine, s =>
    ({ s.1 with
        runtime := { s.1.runtime with engine := engine } },
      s.2)
  | .deed deed, s => (s.1, deed.act s.2)

theorem balanced_happen
    (e : Happening key)
    (h : Balanced s) : Balanced (happen e s) := by
  cases e with
  | call call => exact h.step call
  | turn engine =>
      refine ⟨?_, h.board, h.tracks⟩
      exact
        ⟨h.settled.not_posting, h.settled.in_flight_iff,
          h.settled.resources_iff⟩
  | deed deed =>
      exact
        ⟨h.settled, h.board,
          h.tracks_of_posts (deed.posts s.2)⟩

/-
  A dispatcher and its board are in agreement: nothing is on
  the board, or just the posted job. A job that is posted
  finds room, and is answered by the engine; a job that is
  waited for is known.
-/
structure Tended
    (s : Dispatcher (Engaged ρ key) × Machine) : Prop where
  ready :
    s.1.state = .ready →
      ∃ b,
        s.2.boards.get? key = some b ∧
          b.pending = [] ∧ b.done = []
  waiting :
    s.1.state = .waiting →
      ∃ job b,
        s.1.inFlight = some job ∧
          s.2.boards.get? key = some b ∧
          b.pending ++ b.doneIds = [job.id]
  posts :
    ∀ job q,
      s.1.state = .ready →
        s.1.serves job = true →
          EngineRuntime.request s.1.runtime.runtime job =
              .ok q →
            ∃ t,
              registerTicket key job.id
                  (begun s.1 job s.2) =
                  (.ok ⟨key, job.id⟩, t) ∧
                ((Call.post job).run s).1 =
                  (s.1.runtime.engine.take
                    ⟨q, ⟨key, job.id⟩⟩ t).1.mapError
                    Error.dispatch
  waits :
    ∀ job,
      s.1.state = .waiting →
        s.1.inFlight = some job →
          ∃ w t,
            lookAmid key job.id
                (s.1.runtime.engine.meanwhile job.timeout)
                (begun s.1 job s.2) =
                (.ok w, t) ∧
              w ≠ .unknown ∧
              ((Call.waitDone job.id).run s).1 =
                Engaged.outcome w

theorem Balanced.tended
    (h : Balanced s) : Tended s where
  ready := by
    intro hReady
    rcases h.tracks with ⟨b, hBoard, _, hTracked⟩
    rw [h.settled.posted_eq_nil (by rw [hReady]; decide)]
      at hTracked
    exact ⟨b, hBoard, Board.tracked_eq_nil.mp hTracked⟩
  waiting := by
    intro hWaiting
    rcases h.tracks with ⟨b, hBoard, _, hTracked⟩
    rcases Option.isSome_iff_exists.mp
        (h.settled.in_flight_iff.mpr hWaiting) with
      ⟨job, hJob⟩
    rw [posted, hJob] at hTracked
    exact ⟨job, b, hJob, hBoard, hTracked⟩
  posts := by
    intro job q hReady hServes hRequest
    rcases h.submit_settles hReady hRequest with
      ⟨t, u, answer, hRegister, hTake, hSubmit, _⟩
    refine ⟨t, hRegister, ?_⟩
    simp only [Call.run, Op.discard_run,
      post_of_ready hReady hServes, hSubmit, hTake]
    cases answer with
    | ok _ => rfl
    | error cause =>
        exact
          congrArg (Except.map fun _ => ())
            (settle_error s.1.config job (.dispatch cause)
              (_, u)).1
  waits := by
    intro job hWaiting hJob
    exact (h.wait_answers hWaiting hJob).2.2

------------------------------------------------------------
-- Dispatchers
------------------------------------------------------------

/- The board of a new runtime tracks nothing. -/
theorem tracks_of_create
    {n : Nat}
    {m m' : Machine}
    {r : ρ}
    (hRuntime : EngineRuntime.create n m = (.ok r, m')) :
    m'.Tracks (EngineRuntime.board r) [] := by
  rcases EngineRuntime.create_run (ρ := ρ) n m with
    ⟨r', hCreate, hBoard⟩
  rw [hCreate] at hRuntime
  cases hRuntime
  rw [hBoard]
  exact
    ⟨_, Table.get?_insert_self _ _, by decide, rfl⟩

theorem create_posts
    [DomainRuntime σ]
    (c : StageConfig)
    (q : σ) : Op.Moves (OnlyPosts key) (create c q) := by
  intro m
  unfold create
  split <;> exact .of_same rfl

/-
  A dispatcher with a new runtime and an engine of any kind
  agrees with its board, whatever happens. With the engine of
  the machine it is the dispatcher that has just the runtime.
-/
theorem tended_states
    {c : StageConfig}
    {n : Nat}
    {m m' m'' : Machine}
    {r : ρ}
    (hRuntime : EngineRuntime.create n m = (.ok r, m'))
    {engine : FreeEngine (EngineRuntime.board r)}
    {d : Dispatcher (Engaged ρ (EngineRuntime.board r))}
    (hCreate : create c ⟨r, engine⟩ m' = (.ok d, m''))
    (es : List (Happening (EngineRuntime.board r))) :
    (∀ s ∈ Run.states happen es (d, m''), Tended s) ∧
      ∀ call : Call,
        Op.Follows
          (onto
            (Engaged.own :
              ρ → Engaged ρ (EngineRuntime.board r)))
          call.run call.run := by
  refine ⟨?_, call_follows Engaged.own_imitates⟩
  have hPosts :
      OnlyPosts (EngineRuntime.board r) m' m'' :=
    (create_posts c _).of_run hCreate
  have hStart : Balanced (d, m'') := by
    rw [create_eq hCreate]
    refine ⟨⟨nofun, ⟨nofun, nofun⟩, ⟨nofun, ?_⟩⟩, rfl, ?_⟩
    · rintro (hState | hState) <;> cases hState
    · exact
        (tracks_of_create hRuntime).posts (Nat.zero_le _)
          hPosts
  intro s hState
  exact
    (Run.forall_states (P := Balanced)
      (fun _ e h => balanced_happen e h) es hStart s
      hState).tended

/- An engine that takes requests and finishes none. -/
def idler
    (board : Nat) : FreeEngine board where
  take := fun _ => Op.pure ()
  meanwhile := fun _ => []
  posts := fun _ _ => .of_same rfl

/- An engine that finishes a request and refuses it then. -/
def hothead
    (board : Nat) : FreeEngine board where
  take := fun s m =>
    (.error .queueFull, m.completeTicket s.ticket 0)
  meanwhile := fun _ => []
  posts := fun _ _ => posts_completeTicket _ _ _

/- The ticket of a request is finished. -/
def finishing
    (board : Nat)
    (id : RequestId)
    (status : Status) : Deed board where
  act := Machine.completeTicket ⟨board, id⟩ status
  posts := posts_completeTicket _ _

/-
  A job is waited for in vain, and posted again. Its first
  ticket is finished then, and after the wait the second one.
  Another job is refused.
-/
def neglected : List (Happening 0) :=
  [.call .init,
    .call (.post (Job.of .host ⟨1⟩)),
    .call (.waitDone ⟨1⟩),
    .call (.post (Job.of .host ⟨1⟩)),
    .deed (finishing 0 ⟨1⟩ 5),
    .call (.waitDone ⟨1⟩),
    .deed (finishing 0 ⟨1⟩ 0),
    .turn (hothead 0),
    .call (.post (Job.of .host ⟨2⟩))]

/- The board agrees with a dispatcher whose engine idles. -/
theorem neglected_tended :
    ∃ r m',
      (EngineRuntime.create 7
          (Machine.fresh fun _ => 4096) :
        Except Error HostRuntime × Machine) =
          (.ok r, m') ∧
        ∃ d m'',
          create
              { StageConfig.of "stage" .host with
                output := .single 16 }
              (⟨r, idler 0⟩ : Engaged HostRuntime 0) m' =
              (.ok d, m'') ∧
            (∀ s ∈ Run.states happen neglected (d, m''),
              Tended s) ∧
            (Run.states happen neglected (d, m'')).map
                (fun s =>
                  (s.1.state,
                    (s.2.boards.get? 0).map fun b =>
                      (b.pending, b.doneIds,
                        b.abandoned))) =
              [(.uninitialized, some ([], [], [])),
                (.ready, some ([], [], [])),
                (.waiting, some ([⟨1⟩], [], [])),
                (.ready, some ([], [], [⟨1⟩])),
                (.waiting, some ([⟨1⟩], [], [])),
                (.waiting, some ([], [⟨1⟩], [])),
                (.ready, some ([], [], [])),
                (.ready, some ([], [], [])),
                (.ready, some ([], [], [])),
                (.ready, some ([], [], []))] := by
  have hRuntime :
      (EngineRuntime.create 7
          (Machine.fresh fun _ => 4096) :
        Except Error HostRuntime × Machine) =
        (.ok ⟨7, 0, ""⟩, _) :=
    rfl
  refine ⟨_, _, hRuntime, ?_⟩
  have hCreate :
      create
          { StageConfig.of "stage" .host with
            output := .single 16 }
          (⟨⟨7, 0, ""⟩, idler 0⟩ : Engaged HostRuntime 0)
          ((EngineRuntime.create 7
              (Machine.fresh fun _ => 4096) :
            Except Error HostRuntime × Machine).2) =
        (.ok _, _) :=
    rfl
  exact
    ⟨_, _, hCreate,
      (tended_states hRuntime hCreate neglected).1,
      by decide +kernel⟩

end Dispatcher

end Offload
