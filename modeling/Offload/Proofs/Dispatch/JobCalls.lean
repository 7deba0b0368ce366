import Offload.Proofs.Dispatch.CopyJobs
import Offload.Proofs.Machine.Exchanges
import Offload.Proofs.Stage.ResourceMoves

/-
  The calls that an accelerator job makes.

  A job is posted with a call for each of its runs and one
  to wait for each run but the last; the last one is waited
  for with the job. What firmware answers does not matter to
  the order: the first call that fails is the last one that
  is made. A job that is refused makes no call at all.

  Key definitions include:
    * `ModelRun.CarriedBy`
    * `AcceleratorRuntime.script`
    * `AcceleratorRuntime.Refuses`
    * `AcceleratorRuntime.Submits`

  Main results:
    * `BatchSpec.head_of_plan`
    * `AcceleratorRuntime.invokeAll_plays`
    * `AcceleratorRuntime.submit_submits`
    * `Dispatcher.post_then_wait`
-/

namespace Offload

------------------------------------------------------------
-- Runs of a Plan
------------------------------------------------------------

namespace BatchSpec

variable {s : BatchSpec}
variable {runs : List ModelRun}

/- No run of a plan has more samples than the first. -/
theorem head_of_plan
    (hPlan : s.plan = .ok runs) :
    ∃ first rest,
      runs = first :: rest ∧
        ∀ run ∈ runs, run.samples ≤ first.samples := by
  rcases plan_ok hPlan with ⟨_, hModel, _, hPlanned⟩
  cases hPlanned with
  | single _ =>
      exact
        ⟨_, [], rfl,
          List.forall_mem_singleton.mpr (Nat.le_refl _)⟩
  | native _ _ =>
      exact
        ⟨_, [], rfl,
          List.forall_mem_singleton.mpr (Nat.le_refl _)⟩
  | full hLarge =>
      have hSome :
          s.fullRuns
              (s.shape.batchSize / s.shape.batchModel) ≠ [] :=
        s.fullRuns_ne_nil
          (Nat.div_pos (Nat.le_of_lt hLarge)
            (Nat.pos_of_ne_zero hModel))
      rcases List.exists_cons_of_ne_nil hSome with
        ⟨first, rest, hFull⟩
      have hFirst :
          first.samples = s.shape.batchModel := by
        apply samples_fullRuns
        rw [hFull]
        exact List.mem_cons_self
      refine
        ⟨first, rest ++ s.lastRun, by rw [hFull]; rfl, ?_⟩
      intro run hMem
      rw [hFirst]
      rcases List.mem_append.mp hMem with hFullRun | hLast
      · exact Nat.le_of_eq (samples_fullRuns hFullRun)
      · exact (sized_lastRun hModel hLast).few

end BatchSpec

namespace ModelRun

/-
  A request tells firmware the model of a run, how many
  samples it has, and where each one is read and written.
-/
def CarriedBy
    (model : UInt64)
    (run : ModelRun)
    (q : Request) : Prop :=
  ∃ record,
    Firmware.runOf q.opcode q.params = some record ∧
      record.model = model ∧
        record.samples = run.samples ∧
          record.inputs.map UInt64.toNat = run.inputs ∧
            record.outputs.map UInt64.toNat = run.outputs

/- Words that are sent come through as they are. -/
theorem map_toNat_ofNat
    {places : List Nat}
    (hWords : ∀ a ∈ places, a < Word.limit) :
    (places.map UInt64.ofNat).map UInt64.toNat = places := by
  rw [List.map_map]
  refine (List.map_congr_left ?_).trans (List.map_id _)
  intro a ha
  exact UInt64.toNat_ofNat_of_lt' (hWords a ha)

end ModelRun

/- The places of the samples of a run are words. -/
theorem BatchSpec.CutInto.words_run
    {s : BatchSpec}
    {runs : List ModelRun}
    (hCut : s.CutInto runs)
    {run : ModelRun}
    (hMem : run ∈ runs) :
    (∀ a ∈ run.inputs, a < Word.limit) ∧
      ∀ a ∈ run.outputs, a < Word.limit := by
  have hSized := hCut.sized run hMem
  have hSame : run.inputs.length = run.outputs.length :=
    hSized.inputs.trans hSized.outputs.symm
  have hPair :
      ∀ p ∈ run.pairs, p.1 < Word.limit ∧ p.2 < Word.limit :=
    fun p hp =>
      hCut.words (List.mem_flatMap.mpr ⟨run, hMem, hp⟩)
  constructor
  · intro a ha
    rw [← List.map_fst_zip (Nat.le_of_eq hSame)] at ha
    rcases List.mem_map.mp ha with ⟨p, hp, rfl⟩
    exact (hPair p hp).1
  · intro a ha
    rw [← List.map_snd_zip (Nat.le_of_eq hSame.symm)] at ha
    rcases List.mem_map.mp ha with ⟨p, hp, rfl⟩
    exact (hPair p hp).2

------------------------------------------------------------
-- Scripts of Jobs
------------------------------------------------------------

namespace AcceleratorRuntime

/- The call for a run. -/
def askRun
    (model : UInt64)
    (timeout : Duration)
    (run : ModelRun) : Asked :=
  let ins := Param.addrs (run.inputs.map UInt64.ofNat)
  let outs := Param.addrs (run.outputs.map UInt64.ofNat)
  match run.kind with
  | .single =>
    ⟨.of .runModel [.long model, ins, outs], timeout⟩
  | .native =>
    ⟨.of .runBatchModel
        [.long model, .word (UInt32.ofNat run.samples), ins,
          outs],
      timeout⟩

/- The call to wait for a run. -/
def askWait
    (timeout : Duration) : Asked :=
  ⟨.of .waitDone [], timeout⟩

/- The calls for the runs of a job, up to the last run. -/
def script
    (model : UInt64)
    (timeout : Duration) : List ModelRun → List Asked
  | [] => []
  | [last] => [askRun model timeout last]
  | run :: rest =>
    askRun model timeout run :: askWait timeout ::
      script model timeout rest

/- How many samples a run must have to be refused. -/
def sampleLimit : Nat :=
  0x1_0000_0000

variable {r : AcceleratorRuntime}
variable {model : UInt64}
variable {run : ModelRun}
variable {runs : List ModelRun}

/- A run of few samples is asked for with its call. -/
theorem runRequest_of_few
    (hFew : run.samples < sampleLimit)
    (model : UInt64)
    (timeout : Duration) :
    ∃ opcode params,
      runRequest model run = .ok (opcode, params) ∧
        askRun model timeout run =
          ⟨.of opcode params, timeout⟩ := by
  cases hKind : run.kind with
  | single =>
      exact
        ⟨.runModel, _, by simp only [runRequest, hKind]; rfl,
          by simp only [askRun, hKind]⟩
  | native =>
      have hWord : run.samples < 0x1_0000_0000 := hFew
      exact
        ⟨.runBatchModel, _, by
            simp only [runRequest, hKind, if_pos hWord]
            rfl,
          by simp only [askRun, hKind]⟩

/- The call for a run of a plan carries the run. -/
theorem carriedBy_askRun
    {s : BatchSpec}
    (hCut : s.CutInto runs)
    (hMem : run ∈ runs)
    (hFew : run.samples < sampleLimit)
    (model : UInt64)
    (timeout : Duration) :
    run.CarriedBy model
      (askRun model timeout run).request := by
  have hSized := hCut.sized run hMem
  rcases hCut.words_run hMem with ⟨hIns, hOuts⟩
  cases hKind : run.kind with
  | single =>
      simp only [askRun, hKind]
      exact
        ⟨_, rfl, rfl, (hSized.single hKind).symm,
          ModelRun.map_toNat_ofNat hIns,
          ModelRun.map_toNat_ofNat hOuts⟩
  | native =>
      simp only [askRun, hKind]
      exact
        ⟨_, rfl, rfl, UInt32.toNat_ofNat_of_lt' hFew,
          ModelRun.map_toNat_ofNat hIns,
          ModelRun.map_toNat_ofNat hOuts⟩

------------------------------------------------------------
-- Calls
------------------------------------------------------------

/- A call is one call, and it has the result of the call. -/
theorem call_exchange
    (r : AcceleratorRuntime)
    (opcode : Opcode)
    (params : List Param)
    (timeout : Duration)
    (m : Machine) :
    ∃ x : Exchange,
      x.asked = ⟨.of opcode params, timeout⟩ ∧
        (r.call opcode params timeout m).1 =
            x.result.mapError Error.dispatch ∧
          m.Exchanges r.transport [x]
            (r.call opcode params timeout m).2 := by
  rcases hAsk :
      Machine.rpc r.transport (.of opcode params) timeout m
    with ⟨answer, m'⟩
  have hCall :
      r.call opcode params timeout m =
        ((answer >>= Response.result).mapError
          Error.dispatch, m') := by
    simp only [call, DomainRuntime.dispatched, Op.mapError,
      Machine.call, bind, Op.bind, hAsk, Op.ofExcept]
    cases answer with
    | error cause => rfl
    | ok a =>
        simp only [Except.bind]
        cases a.result <;> rfl
  refine ⟨⟨⟨.of opcode params, timeout⟩, answer⟩, rfl, ?_, ?_⟩
  · rw [hCall]
    rfl
  · rw [hCall]
    exact Machine.exchanges_single hAsk

/- The same for a call whose outputs are not looked at. -/
theorem discard_exchange
    (r : AcceleratorRuntime)
    (opcode : Opcode)
    (params : List Param)
    (timeout : Duration)
    (m : Machine) :
    ∃ x : Exchange,
      x.asked = ⟨.of opcode params, timeout⟩ ∧
        (discard (r.call opcode params timeout) m).1 =
            x.outcome.mapError Error.dispatch ∧
          m.Exchanges r.transport [x]
            (discard (r.call opcode params timeout) m).2 := by
  rcases r.call_exchange opcode params timeout m with
    ⟨x, hAsked, hResult, hExchanges⟩
  refine ⟨x, hAsked, ?_, ?_⟩
  · rw [Op.discard_run, hResult]
    unfold Exchange.outcome
    cases x.result <;> rfl
  · rw [Op.discard_run]
    exact hExchanges

theorem call_plays
    (r : AcceleratorRuntime)
    (opcode : Opcode)
    (params : List Param)
    (timeout : Duration) :
    Machine.Plays r.transport
      [⟨.of opcode params, timeout⟩]
      (discard (r.call opcode params timeout)) := by
  intro m
  rcases r.discard_exchange opcode params timeout m with
    ⟨x, hAsked, hResult, hExchanges⟩
  refine ⟨[x], x.outcome, hExchanges, hResult, ?_⟩
  rw [← hAsked]
  exact performs_single x

theorem await_asks
    (r : AcceleratorRuntime)
    (timeout : Duration)
    (m : Machine) :
    ∃ x : Exchange,
      x.asked = askWait timeout ∧
        (r.await timeout m).1 =
            x.outcome.mapError Error.dispatch ∧
          m.Exchanges r.transport [x]
            (r.await timeout m).2 :=
  r.discard_exchange .waitDone [] timeout m

theorem await_plays
    (r : AcceleratorRuntime)
    (timeout : Duration) :
    Machine.Plays r.transport [askWait timeout]
      (r.await timeout) :=
  r.call_plays .waitDone [] timeout

/- A run is noted and then asked for. -/
theorem invoke_plays
    (r : AcceleratorRuntime)
    (hFew : run.samples < sampleLimit)
    (model : UInt64)
    (timeout : Duration) :
    Machine.Plays r.transport [askRun model timeout run]
      (r.invoke model timeout run) := by
  rcases runRequest_of_few hFew model timeout with
    ⟨opcode, params, hRequest, hAsk⟩
  rw [hAsk]
  simp only [invoke, hRequest]
  apply Machine.Plays.after_quiet
  · exact fun _ => rfl
  · exact fun _ => rfl
  · exact r.call_plays opcode params timeout

/- A run of too many samples is not asked for. -/
theorem invoke_of_many
    (r : AcceleratorRuntime)
    (hMany : sampleLimit ≤ run.samples)
    (hKind : run.kind = .native)
    (model : UInt64)
    (timeout : Duration)
    (m : Machine) :
    r.invoke model timeout run m =
      (.error (.dispatch .invalidArgument), m) := by
  have hNot : ¬ run.samples < 0x1_0000_0000 :=
    Nat.not_lt.mpr hMany
  simp only [invoke, runRequest, hKind, if_neg hNot]
  rfl

/-
  Runs of few samples are asked for in order, each but the
  last one with a call to wait for it.
-/
theorem invokeAll_plays
    (r : AcceleratorRuntime)
    (hSome : runs ≠ [])
    (hFew : ∀ run ∈ runs, run.samples < sampleLimit)
    (model : UInt64)
    (timeout : Duration) :
    Machine.Plays r.transport (script model timeout runs)
      (r.invokeAll model timeout runs) := by
  induction runs with
  | nil => exact absurd rfl hSome
  | cons run rest ih =>
      rcases List.forall_mem_cons.mp hFew with
        ⟨hHead, hTail⟩
      have hInvoke := r.invoke_plays hHead model timeout
      cases rest with
      | nil => exact hInvoke
      | cons next rest =>
          have hRest := ih (List.cons_ne_nil _ _) hTail
          exact
            hInvoke.bind
              ((r.await_plays timeout).bind hRest)

/- If the first run has too many samples no call is made. -/
theorem invokeAll_of_many
    (r : AcceleratorRuntime)
    (hMany : sampleLimit ≤ run.samples)
    (hKind : run.kind = .native)
    (rest : List ModelRun)
    (model : UInt64)
    (timeout : Duration)
    (m : Machine) :
    r.invokeAll model timeout (run :: rest) m =
      (.error (.dispatch .invalidArgument), m) := by
  have hFirst := r.invoke_of_many hMany hKind model timeout m
  cases rest with
  | nil => exact hFirst
  | cons next rest =>
      simp only [invokeAll, bind, Op.bind, hFirst]

------------------------------------------------------------
-- Submitting
------------------------------------------------------------

/-
  A job cannot be planned, or a run of its plan has more
  samples than a call can tell.
-/
def Refuses
    (r : AcceleratorRuntime)
    (job : Job) : Prop :=
  (∃ refusal, r.plan job = .error refusal) ∨
    ∃ model runs,
      r.plan job = .ok (model, runs) ∧
        ∃ run ∈ runs, sampleLimit ≤ run.samples

/-
  What a job asks for and how that ends. Refused jobs make
  no call. The calls of other jobs carry the runs of the
  plan, and perform its script.
-/
structure Submits
    (r : AcceleratorRuntime)
    (job : Job)
    (xs : List Exchange)
    (result : Except DispatchError Unit) : Prop where
  refused :
    r.Refuses job →
      xs = [] ∧ ∃ cause, result = .error cause
  carried :
    ∀ model runs,
      r.plan job = .ok (model, runs) →
        ¬ r.Refuses job →
          ∀ run ∈ runs,
            run.CarriedBy model
              (askRun model job.timeout run).request
  performed :
    ∀ model runs,
      r.plan job = .ok (model, runs) →
        ¬ r.Refuses job →
          Performs (script model job.timeout runs) xs result

theorem few_of_not_refuses
    {job : Job}
    (hPlan : r.plan job = .ok (model, runs))
    (hNot : ¬ r.Refuses job) :
    ∀ run ∈ runs, run.samples < sampleLimit := by
  intro run hMem
  apply Nat.lt_of_not_le
  intro hMany
  exact
    hNot (Or.inr ⟨model, runs, hPlan, run, hMem, hMany⟩)

/- The runs of a job are those of a batch. -/
theorem plan_ok
    {job : Job}
    (hPlan : r.plan job = .ok (model, runs)) :
    ∃ s : BatchSpec, s.plan = .ok runs := by
  unfold plan at hPlan
  split at hPlan
  · split at hPlan
    · cases hPlan
    · split at hPlan
      · rename_i input output _ _
        cases hBatch :
            planBatch _ input.binding output.binding with
        | error refusal =>
            rw [hBatch] at hPlan
            cases hPlan
        | ok found =>
            rw [hBatch] at hPlan
            cases hPlan
            exact ⟨_, plan_of_planBatch hBatch⟩
      · cases hPlan
  · cases hPlan

/- A plan with a run of too many samples begins with one. -/
theorem many_of_plan
    {s : BatchSpec}
    (hPlan : s.plan = .ok runs)
    (hMem : run ∈ runs)
    (hMany : sampleLimit ≤ run.samples) :
    ∃ first rest,
      runs = first :: rest ∧ sampleLimit ≤ first.samples ∧
        first.kind = .native := by
  rcases BatchSpec.head_of_plan hPlan with
    ⟨first, rest, hRuns, hMost⟩
  have hFirst := hMany.trans (hMost run hMem)
  have hSized :=
    (BatchSpec.cutInto_of_plan hPlan).sized first
      (by rw [hRuns]; exact List.mem_cons_self)
  refine ⟨first, rest, hRuns, hFirst, ?_⟩
  cases hKind : first.kind with
  | native => rfl
  | single =>
      rw [hSized.single hKind] at hFirst
      exact absurd hFirst (by decide)

/-
  To submit a job is to perform its script, whatever
  firmware answers.
-/
theorem submit_submits
    (r : AcceleratorRuntime)
    (job : Job)
    (m : Machine) :
    ∃ xs result m',
      submit job (r, m) =
          (result.mapError Error.dispatch, (r, m')) ∧
        m.Exchanges r.transport xs m' ∧
          r.Submits job xs result := by
  cases hPlan : r.plan job with
  | error refusal =>
      refine
        ⟨[], .error refusal.cause, m.logged refusal.event, ?_,
          Machine.transports_logged _ _, ?_, ?_, ?_⟩
      · exact submit_of_refusal hPlan m
      · exact fun _ => ⟨rfl, _, rfl⟩
      · intro model runs hOk
        rw [hPlan] at hOk
        cases hOk
      · intro model runs hOk
        rw [hPlan] at hOk
        cases hOk
  | ok planned =>
      rcases planned with ⟨model, runs⟩
      have hSubmit := submit_of_plan hPlan m
      rcases plan_ok hPlan with ⟨s, hBatch⟩
      have hCut := BatchSpec.cutInto_of_plan hBatch
      by_cases hRefused : r.Refuses job
      · have hMany :
            ∃ run ∈ runs, sampleLimit ≤ run.samples := by
          rcases hRefused with
            ⟨refusal, hError⟩ | ⟨_, _, hOk, hRun⟩
          · rw [hPlan] at hError
            cases hError
          · rw [hPlan] at hOk
            cases hOk
            exact hRun
        rcases hMany with ⟨run, hMem, hMany⟩
        rcases many_of_plan hBatch hMem hMany with
          ⟨first, rest, hRuns, hFirst, hKind⟩
        rw [hRuns, r.invokeAll_of_many hFirst hKind] at hSubmit
        refine
          ⟨[], .error .invalidArgument, m, hSubmit, rfl,
            fun _ => ⟨rfl, _, rfl⟩, ?_, ?_⟩
        · exact fun _ _ _ hNot => absurd hRefused hNot
        · exact fun _ _ _ hNot => absurd hRefused hNot
      · have hFew := few_of_not_refuses hPlan hRefused
        rcases r.invokeAll_plays hCut.some_run hFew model
            job.timeout m with
          ⟨xs, result, hAsked, hResult, hPerforms⟩
        refine
          ⟨xs, result, _, ?_, hAsked,
            fun hYes => absurd hYes hRefused, ?_, ?_⟩
        · rw [hSubmit, hResult]
        · intro model' runs' hOk _ run hMem
          rw [hPlan] at hOk
          cases hOk
          exact
            carriedBy_askRun hCut hMem (hFew run hMem) _ _
        · intro model' runs' hOk _
          rw [hPlan] at hOk
          cases hOk
          exact hPerforms

end AcceleratorRuntime

------------------------------------------------------------
-- Dispatchers
------------------------------------------------------------

/- A stage has nothing to ask of a transport. -/
instance : Machine.Stages Machine.Unasked where
  frame := .of_all fun _ _ _ => rfl
  shelved _ _ _ _ := rfl

namespace Dispatcher

variable {ε ρ : Type}

/- A job that is refused leaves the dispatcher ready. -/
theorem settle_failed
    (c : StageConfig)
    (job : Job)
    (e : Error)
    (d : Dispatcher ρ)
    (m : Machine) :
    ∃ m',
      settle c job (.error e) (d, m) =
          (.error e, ({ d with state := .ready }, m')) ∧
        m.Unasked m' := by
  simp only [settle, noteFailure, bind, Op.bind, Op.get]
  cases e.dispatch? <;> exact ⟨_, rfl, rfl⟩

/- A job that is submitted is in flight. -/
theorem settle_posted
    (c : StageConfig)
    (job : Job)
    (d : Dispatcher ρ)
    (m : Machine) :
    ∃ m',
      settle c job (.ok ()) (d, m) =
          (.ok job.id,
            ({ d with
                inFlight := some job
                state := .waiting }, m')) ∧
        m.Unasked m' :=
  ⟨_, rfl, rfl⟩

/- A dump asks no transport, and is only reported. -/
theorem dump_ends
    (job : Job)
    (d : Dispatcher ρ)
    (m : Machine) :
    ∃ m',
      (dump job (d, m) :
          Except ε Unit × Dispatcher ρ × Machine) =
          (.ok (), (d, m')) ∧
        m.Unasked m' := by
  simp only [dump, bind, Op.bind, Op.get]
  cases d.resources with
  | none => exact ⟨m, rfl, rfl⟩
  | some r =>
      have hDump : m.Unasked _ := r.dump_moves job m
      simp only [Op.orElse, onMachine, Op.within, Lens.snd]
      rcases hRun : r.dump job m with ⟨result, m'⟩
      rw [hRun] at hDump
      cases result with
      | ok _ => exact ⟨m', rfl, hDump⟩
      | error e => exact ⟨_, rfl, hDump⟩

/- A job ends as the wait for it did. -/
theorem conclude_ends
    (c : StageConfig)
    (job : Job)
    (answer : Except Error Unit)
    (d : Dispatcher ρ)
    (m : Machine) :
    ∃ m',
      conclude c job answer (d, m) = (answer, (d, m')) ∧
        m.Unasked m' := by
  cases answer with
  | error e =>
      simp only [conclude, noteFailure, bind, Op.bind, Op.get]
      cases e.dispatch? <;> exact ⟨_, rfl, rfl⟩
  | ok _ =>
      rcases dump_ends (ε := Error) job d
          ((Machine.count (.jobDuration c.domain c.node) :
            Op Error Machine Unit) m).2 with
        ⟨m', hDump, hQuiet⟩
      exact ⟨m', hDump, hQuiet⟩

/- Ready, and without a job. -/
structure Free
    (d : Dispatcher ρ) : Prop where
  state : d.state = .ready
  inFlight : d.inFlight = none

variable {d : Dispatcher AnyRuntime}
variable {r : AcceleratorRuntime}
variable {job : Job}

/-
  What a job asks for, and how that ends. A job of another
  domain is refused like one that cannot be planned.
-/
structure Posts
    (d : Dispatcher AnyRuntime)
    (r : AcceleratorRuntime)
    (job : Job)
    (xs : List Exchange)
    (result : Except DispatchError Unit) : Prop where
  foreign :
    d.serves job = false →
      xs = [] ∧ ∃ cause, result = .error cause
  own : d.serves job = true → r.Submits job xs result

/- A job of another domain is refused, and nothing asked. -/
theorem post_foreign
    (hState : d.state = .ready)
    (hServes : d.serves job = false)
    (m : Machine) :
    ∃ m',
      post job (d, m) =
          (.error (.dispatch .malformedJob), (d, m')) ∧
        m.Unasked m' := by
  rw [post_of_foreign (s := (d, m)) hState hServes]
  exact ⟨_, rfl, rfl⟩

/- A job of the domain is submitted to the runtime. -/
theorem post_own
    (hRuntime : d.runtime = .accelerator r)
    (hState : d.state = .ready)
    (hServes : d.serves job = true)
    (m : Machine) :
    ∃ xs result n,
      r.Submits job xs result ∧
        m.Exchanges r.transport xs n ∧
          post job (d, m) =
            settle d.config job
              (result.mapError Error.dispatch)
              ({ d with
                  runtime := .accelerator r
                  state := .posting }, n) := by
  rcases submit_run job (d, m) with ⟨m', hSame, hRun⟩
  rcases r.submit_submits job m' with
    ⟨xs, result, n, hSubmit, hAsked, hSubmits⟩
  rw [hRuntime, submit_accelerator hSubmit] at hRun
  refine
    ⟨xs, result, n, hSubmits,
      hAsked.after_quiet hSame.transports, ?_⟩
  rw [post_of_ready (s := (d, m)) hState hServes, hRun]

/-
  A dispatcher with nothing to do has a job to wait for
  exactly if the job was posted.
-/
theorem post_posts
    (hRuntime : d.runtime = .accelerator r)
    (hFree : d.Free)
    (job : Job)
    (m : Machine) :
    ∃ xs result d' m',
      post job (d, m) =
          ((result.map fun _ => job.id).mapError
            Error.dispatch, (d', m')) ∧
        m.Exchanges r.transport xs m' ∧
          Posts d r job xs result ∧
            ((∃ cause, result = .error cause) → d'.Free) ∧
              (result = .ok () →
                d'.runtime = .accelerator r ∧
                  d'.state = .waiting ∧
                    d'.inFlight = some job) := by
  cases hServes : d.serves job with
  | false =>
      rcases post_foreign hFree.state hServes m with
        ⟨m', hPost, hQuiet⟩
      refine
        ⟨[], .error .malformedJob, d, m', hPost, hQuiet,
          ⟨fun _ => ⟨rfl, _, rfl⟩, ?_⟩, fun _ => hFree,
          nofun⟩
      intro hOwn
      exact absurd (hServes.symm.trans hOwn) (by decide)
  | true =>
      rcases post_own hRuntime hFree.state hServes m with
        ⟨xs, result, n, hSubmits, hAsked, hPost⟩
      have hPosts : Posts d r job xs result :=
        ⟨fun hForeign =>
            absurd (hServes.symm.trans hForeign) (by decide),
          fun _ => hSubmits⟩
      cases result with
      | error cause =>
          rcases settle_failed d.config job
              (.dispatch cause)
              { d with
                runtime := AnyRuntime.accelerator r
                state := .posting }
              n with
            ⟨m', hSettle, hQuiet⟩
          exact
            ⟨xs, .error cause, _, m', hPost.trans hSettle,
              hAsked.before_quiet hQuiet, hPosts,
              fun _ => ⟨rfl, hFree.inFlight⟩, nofun⟩
      | ok _ =>
          rcases settle_posted d.config job
              { d with
                runtime := AnyRuntime.accelerator r
                state := .posting }
              n with
            ⟨m', hSettle, hQuiet⟩
          exact
            ⟨xs, .ok (), _, m', hPost.trans hSettle,
              hAsked.before_quiet hQuiet, hPosts, nofun,
              fun _ => ⟨rfl, rfl, rfl⟩⟩

/- To wait for a posted job is to make one call. -/
theorem waitDone_asks
    (hRuntime : d.runtime = .accelerator r)
    (hState : d.state = .waiting)
    (hPosted : d.inFlight = some job)
    (m : Machine) :
    ∃ x d' m',
      waitDone job.id (d, m) =
          ((x.outcome.map fun _ => job.id).mapError
            Error.dispatch, (d', m')) ∧
        x.asked = AcceleratorRuntime.askWait job.timeout ∧
          m.Exchanges r.transport [x] m' ∧ d'.Free := by
  rcases complete_run job (d, m) with ⟨n, hSame, hRun⟩
  rcases r.await_asks job.timeout n with
    ⟨x, hAsked, hResult, hExchanges⟩
  rw [hRuntime, complete_accelerator, hResult] at hRun
  rcases conclude_ends d.config job
      (x.outcome.mapError Error.dispatch)
      { d with
        runtime := AnyRuntime.accelerator r
        state := .ready
        inFlight := none }
      (r.await job.timeout n).2 with
    ⟨m', hEnd, hQuiet⟩
  refine
    ⟨x,
      { d with
        runtime := .accelerator r
        state := .ready
        inFlight := none },
      m', ?_, hAsked,
      (hExchanges.after_quiet hSame.transports).before_quiet
        hQuiet,
      rfl, rfl⟩
  rw [waitDone_allowed (s := (d, m)) hState hPosted]
  simp only [bind, Op.bind, hRun.trans hEnd]
  cases x.outcome <;> rfl

/-
  The calls of a job that is posted to a dispatcher with
  nothing to do, and waited for on any later machine.

  A job that is refused makes no call. All others perform
  the script of their plan, in which every call carries its
  run, up to the first call that fails. The job is posted
  exactly if none does; otherwise the failure of the last
  call is that of the job. To wait for it takes one call. And
  a dispatcher whose job failed has nothing to do again.
-/
theorem post_then_wait
    (hRuntime : d.runtime = .accelerator r)
    (hFree : d.Free)
    (job : Job)
    (m : Machine) :
    ∃ xs result d' m',
      post job (d, m) =
          ((result.map fun _ => job.id).mapError
            Error.dispatch, (d', m')) ∧
        m.Exchanges r.transport xs m' ∧
          Posts d r job xs result ∧
            ((∃ cause, result = .error cause) → d'.Free) ∧
              (result = .ok () →
                ∀ later : Machine, ∃ x d'' last,
                  waitDone job.id (d', later) =
                      ((x.outcome.map fun _ =>
                        job.id).mapError Error.dispatch,
                        (d'', last)) ∧
                    x.asked =
                        AcceleratorRuntime.askWait
                          job.timeout ∧
                      later.Exchanges r.transport [x] last ∧
                        d''.Free) := by
  rcases post_posts hRuntime hFree job m with
    ⟨xs, result, d', m', hPost, hAsked, hPosts, hFailed,
      hPosted⟩
  refine
    ⟨xs, result, d', m', hPost, hAsked, hPosts, hFailed, ?_⟩
  intro hOk later
  rcases hPosted hOk with ⟨hRuntime', hState, hInFlight⟩
  exact waitDone_asks hRuntime' hState hInFlight later

/- A machine with a scripted transport. -/
def scriptedMachine
    (answers : List (Except DispatchError Response)) :
    Machine :=
  { Machine.fresh Device.defaultCapacity with
    transports :=
      (Table.empty.insert (.scripted ⟨answers, []⟩)).2 }

/- The first run is made, and the wait for it fails. -/
def failedWait : List (Except DispatchError Response) :=
  [.ok ⟨0, 0, []⟩, .ok ⟨0, 5, []⟩]

/- The second run of a job is not asked for after that. -/
theorem failed_wait_ends_job :
    ∃ xs result,
      (scriptedMachine failedWait).Exchanges 0 xs
          (post (copyJob 1 3 0 1 (.ofSeconds 2))
            (copyStage, scriptedMachine failedWait)).2.2 ∧
        Posts copyStage copyRuntime
            (copyJob 1 3 0 1 (.ofSeconds 2)) xs result ∧
          result ≠ .ok () ∧
            (post (copyJob 1 3 0 1 (.ofSeconds 2))
              (copyStage,
                scriptedMachine failedWait)).2.1.Free := by
  rcases post_then_wait (d := copyStage) (r := copyRuntime)
      rfl ⟨rfl, rfl⟩ (copyJob 1 3 0 1 (.ofSeconds 2))
      (scriptedMachine failedWait) with
    ⟨xs, result, d', m', hPost, hAsked, hPosts, hFailed, _⟩
  have hError :
      (post (copyJob 1 3 0 1 (.ofSeconds 2))
          (copyStage, scriptedMachine failedWait)).1 ≠
        .ok ⟨1⟩ := by
    decide +kernel
  rw [hPost] at hError ⊢
  cases result with
  | error cause =>
      exact
        ⟨xs, .error cause, hAsked, hPosts, nofun,
          hFailed ⟨cause, rfl⟩⟩
  | ok _ => exact absurd rfl hError

end Dispatcher

end Offload
