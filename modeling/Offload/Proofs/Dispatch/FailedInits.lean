import Offload.Proofs.Dispatch.Completions
import Offload.Proofs.Dispatch.RuntimeMoves
import Offload.Proofs.Stage.IdleResources

/-
  Initializing a dispatcher in vain.

  To initialize a dispatcher over a backend its resources
  are made, its runtime is opened and the resources are
  activated. Wherever that ends, what was done until then is
  undone: the dispatcher is as it was, but for what its
  runtime has noted of the configuration, which the next
  attempt notes again. The device is as it was if every
  region could be given back and none was allocated on top
  of another one.

  Key definitions include:
    * `AnyRuntime.IsClosed`
    * `AnyRuntime.noted`
    * `Dispatcher.InitsAs`
    * `Dispatcher.Lived`
    * `Dispatcher.Undone`

  Main results:
    * `AnyRuntime.init_ends`
    * `Dispatcher.init_failed`
    * `Dispatcher.initsAs_failed`
    * `Dispatcher.lived_of_backend`
    * `Dispatcher.failed_init_undone`
    * `Dispatcher.failed_init_frees_other_region`
-/

namespace Offload

------------------------------------------------------------
-- Runtimes
------------------------------------------------------------

namespace AcceleratorRuntime

/-
  A runtime that cannot be opened has noted the timeout; one
  that can has a driver and a model besides.
-/
theorem init_ends
    (c : StageConfig)
    (r : AcceleratorRuntime)
    (m : Machine) :
    ∃ m',
      m.Undisturbed m' ∧
        ((∃ e,
            init c (r, m) =
              (.error e,
                ({ r with timeout := c.timeout }, m'))) ∨
          ∃ driver model,
            init c (r, m) =
              (.ok (),
                ({ r with
                    timeout := c.timeout
                    driver := driver
                    model := model }, m'))) := by
  simp only [init, bind, Op.bind, DomainRuntime.change,
    DomainRuntime.onMachine, Op.within, Lens.fst, Lens.snd,
    Op.modify, Op.ofOption, Op.get, Op.ofExcept]
  cases c.modelPath with
  | none => exact ⟨m, Std.Refl.refl m, .inl ⟨_, rfl⟩⟩
  | some path =>
      have hCalled : m.Undisturbed _ :=
        call_moves { r with timeout := c.timeout }
          .getHandle [] c.timeout m
      rcases hCall :
          call { r with timeout := c.timeout } .getHandle []
            c.timeout m with ⟨e | outputs, m₁⟩
      · rw [hCall] at hCalled
        simp only [Op.pure, hCall]
        exact ⟨m₁, hCalled, .inl ⟨_, rfl⟩⟩
      rw [hCall] at hCalled
      simp only [Op.pure, hCall]
      cases handleOf outputs with
      | error e => exact ⟨m₁, hCalled, .inl ⟨_, rfl⟩⟩
      | ok driver =>
          have hLoaded : m₁.Undisturbed _ :=
            loadModel_moves { r with timeout := c.timeout }
              driver path c.timeout m₁
          rcases hLoad :
              loadModel { r with timeout := c.timeout } driver
                path c.timeout m₁ with ⟨e | model, m₂⟩
          · rw [hLoad] at hLoaded
            simp only [hLoad]
            exact
              ⟨m₂, hCalled.trans hLoaded, .inl ⟨_, rfl⟩⟩
          rw [hLoad] at hLoaded
          simp only [hLoad]
          refine ⟨_, ?_, .inr ⟨some driver, some model, rfl⟩⟩
          exact
            (hCalled.trans hLoaded).trans
              (Machine.log_moves _ _ _ m₂)

/- A runtime that is closed holds no driver and no model. -/
theorem fini_ends
    (r : AcceleratorRuntime)
    (m : Machine) :
    ∃ m',
      m.Undisturbed m' ∧
        fini (r, m) =
          (.ok (),
            ({ r with driver := none, model := none }, m')) := by
  simp only [fini, bind, Op.bind, Op.get]
  cases r.driver with
  | none => exact ⟨m, Std.Refl.refl m, rfl⟩
  | some driver =>
      cases r.model with
      | none => exact ⟨m, Std.Refl.refl m, rfl⟩
      | some model =>
          exact
            ⟨_, Machine.log_moves (ε := Error) _ _ _ m,
              rfl⟩

end AcceleratorRuntime

namespace AnyRuntime

/-
  A runtime over a backend that holds no driver and no model
  of an accelerator.
-/
def IsClosed : AnyRuntime → Prop
  | .host _ => True
  | .vector _ => True
  | .accelerator r => r.driver = none ∧ r.model = none
  | .scripted _ => False

/-
  The closed runtime that has noted what it needs to know of
  the configuration.
-/
def noted
    (c : StageConfig) : AnyRuntime → AnyRuntime
  | .host r => .host { r with node := c.node }
  | .vector r => .vector { r with inputName := c.inputName }
  | .accelerator r =>
    .accelerator ⟨r.transport, none, none, c.timeout⟩
  | .scripted r => .scripted r

/- What is run on an accelerator is run on its runtime. -/
theorem each_accelerator
    {x :
      {ρ : Type} → [DomainRuntime ρ] →
        Op Error (ρ × Machine) Unit}
    {r r' : AcceleratorRuntime}
    {m m' : Machine}
    {answer : Except Error Unit}
    (h : x (r, m) = (answer, (r', m'))) :
    each x (.accelerator r, m) =
      (answer, (.accelerator r', m')) := by
  simp only [each, lift, h]

section Closed

variable {r : AnyRuntime}

theorem IsClosed.noted
    (h : r.IsClosed)
    (c : StageConfig) : (r.noted c).IsClosed := by
  cases r with
  | host _ => trivial
  | vector _ => trivial
  | accelerator _ => exact ⟨rfl, rfl⟩
  | scripted _ => exact h

/-
  A closed runtime has noted the configuration once it could
  not be opened, and once it is closed again.
-/
theorem init_ends
    (h : r.IsClosed)
    (c : StageConfig)
    (m : Machine) :
    ∃ m',
      m.Undisturbed m' ∧
        ((∃ e,
            DomainRuntime.init c (r, m) =
              (.error e, (r.noted c, m'))) ∨
          ∃ q,
            DomainRuntime.init c (r, m) = (.ok (), (q, m')) ∧
              ∀ n : Machine,
                ∃ n',
                  n.Undisturbed n' ∧
                    DomainRuntime.fini (q, n) =
                      (.ok (), (r.noted c, n'))) := by
  cases r with
  | host r =>
      refine
        ⟨_, Machine.log_moves (ε := Error) _ _ _ m,
          .inr ⟨_, rfl, ?_⟩⟩
      exact fun n => ⟨n, Std.Refl.refl n, rfl⟩
  | vector r =>
      refine
        ⟨_, Machine.log_moves (ε := Error) _ _ _ m,
          .inr ⟨_, rfl, ?_⟩⟩
      exact fun n => ⟨n, Std.Refl.refl n, rfl⟩
  | accelerator r =>
      rcases r with ⟨transport, driver, model, timeout⟩
      rcases h with ⟨hDriver, hModel⟩
      cases hDriver
      cases hModel
      rcases AcceleratorRuntime.init_ends c
          ⟨transport, none, none, timeout⟩ m with
        ⟨m', hQuiet, ⟨e, hInit⟩ | ⟨driver, model, hInit⟩⟩
      · refine ⟨m', hQuiet, .inl ⟨e, ?_⟩⟩
        exact each_accelerator hInit
      · refine
          ⟨m', hQuiet, .inr ⟨_, each_accelerator hInit, ?_⟩⟩
        intro n
        rcases AcceleratorRuntime.fini_ends
            ⟨transport, driver, model, c.timeout⟩ n with
          ⟨n', hQuiet', hFini⟩
        exact ⟨n', hQuiet', each_accelerator hFini⟩
  | scripted r => exact h.elim

/- What was noted before is noted anew. -/
theorem init_noted
    (h : r.IsClosed)
    (c : StageConfig)
    (m : Machine) :
    DomainRuntime.init c (r.noted c, m) =
      DomainRuntime.init c (r, m) := by
  cases r with
  | host r => rfl
  | vector r => rfl
  | accelerator r =>
      rcases r with ⟨transport, driver, model, timeout⟩
      rcases h with ⟨hDriver, hModel⟩
      cases hDriver
      cases hModel
      rfl
  | scripted r => rfl

end Closed

end AnyRuntime

------------------------------------------------------------
-- Failing
------------------------------------------------------------

namespace Dispatcher

variable {o : Platform}
variable {d : Dispatcher AnyRuntime}
variable {m : Machine}
variable {r : StageResources}
variable {e : Error}
variable {s : Dispatcher AnyRuntime × Machine}

/-
  Resources that cannot be activated are thrown away, and
  the runtime is closed before that.
-/
theorem activate_run
    {q : AnyRuntime}
    {r' : StageResources}
    {m' n : Machine}
    (hStage :
      StageResources.activate (r, m) = (.error e, (r', m')))
    (hClose :
      DomainRuntime.fini (d.runtime, m') =
        (.ok (), (q, n))) :
    activate r (d, m) =
      (.error e,
        ({ d with runtime := q },
          (r'.drop n : Except Error Unit × Machine).2)) := by
  simp only [activate, bind, Op.bind, onMachine, Op.within,
    Lens.snd, Op.beside, hStage, Op.orElse, onRuntime, hClose]
  rfl

theorem activate_failed
    {q : AnyRuntime}
    (hIdle : r.Idle o m)
    (hFini :
      ∀ n : Machine,
        ∃ n',
          n.Undisturbed n' ∧
            DomainRuntime.fini (d.runtime, n) =
              (.ok (), (q, n')))
    (hRun : activate r (d, m) = (.error e, s)) :
    s.1 = { d with runtime := q } ∧
      o.Lends [] s.2.platform := by
  have hActivated :=
    StageResources.ensures_activate (r, m) hIdle
  rcases hStage : StageResources.activate (r, m) with
    ⟨e' | _, r', m'⟩
  · rw [hStage] at hActivated
    rcases hFini m' with ⟨n, hQuiet, hClose⟩
    rw [activate_run hStage hClose] at hRun
    cases hRun
    exact
      ⟨rfl,
        r'.ensures_drop n
          ((hActivated e rfl).undisturbed hQuiet)⟩
  · simp only [activate, bind, Op.bind, onMachine, Op.within,
      Lens.snd, Op.beside, hStage] at hRun
    cases hRun

/- A domain that is not opened in the end is closed. -/
theorem openDomain_failed
    (hClosed : d.runtime.IsClosed)
    (hIdle : r.Idle o m)
    (hRun : openDomain r (d, m) = (.error e, s)) :
    s.1 = { d with runtime := d.runtime.noted d.config } ∧
      o.Lends [] s.2.platform := by
  simp only [openDomain, bind, Op.bind, Op.get, Op.attempt,
    onRuntime, Op.within] at hRun
  rcases AnyRuntime.init_ends hClosed d.config m with
    ⟨m', hQuiet, ⟨e', hInit⟩ | ⟨q, hInit, hFini⟩⟩
  · rw [hInit] at hRun
    have hDropped :=
      r.ensures_drop (ε := Error) m' (hIdle.undisturbed hQuiet)
    cases hRun
    exact ⟨rfl, hDropped⟩
  · rw [hInit] at hRun
    exact
      activate_failed (d := { d with runtime := q })
        (hIdle.undisturbed hQuiet) hFini hRun

/-
  A dispatcher that could not be initialized is as it was,
  but for what its runtime may have noted.
-/
theorem init_failed
    (hState : d.state = .uninitialized)
    (hClosed : d.runtime.IsClosed)
    (hLends : o.Lends [] m.platform)
    (hRun : init (d, m) = (.error e, s)) :
    (s.1 = d ∨
        s.1 = { d with runtime := d.runtime.noted d.config }) ∧
      o.Lends [] s.2.platform := by
  have hPrepared :=
    StageResources.ensures_prepare d.config m hLends
  rw [init_of_uninitialized hState] at hRun
  simp only [prepared, bind, Op.bind, Op.ofExcept, onMachine,
    Op.within, Lens.snd] at hRun
  cases hValid : d.config.validate with
  | error e' =>
      simp only [hValid] at hRun
      cases hRun
      exact ⟨.inl rfl, hLends⟩
  | ok _ =>
      simp only [hValid] at hRun
      rcases hStage : StageResources.prepare d.config m with
        ⟨e' | r, m'⟩
      · rw [hStage] at hRun hPrepared
        cases hRun
        exact ⟨.inl rfl, hPrepared⟩
      · rw [hStage] at hRun hPrepared
        simp only at hRun
        rcases hOpen : openDomain r (d, m') with ⟨e' | r', t⟩
        · rcases openDomain_failed hClosed hPrepared hOpen with
            ⟨hSame, hLends'⟩
          rw [hOpen] at hRun
          cases hRun
          exact ⟨.inr hSame, hLends'⟩
        · rw [hOpen] at hRun
          cases hRun

------------------------------------------------------------
-- Trying Again
------------------------------------------------------------

/- A domain is opened as if nothing had been noted. -/
theorem openDomain_noted
    (hClosed : d.runtime.IsClosed)
    (r : StageResources)
    (n : Machine) :
    openDomain r
        ({ d with runtime := d.runtime.noted d.config }, n) =
      openDomain r (d, n) := by
  have hInit := AnyRuntime.init_noted hClosed d.config n
  simp only [openDomain, bind, Op.bind, Op.get, Op.attempt,
    onRuntime, Op.within, hInit]

/-
  To initialize one dispatcher is to initialize the other:
  the answer is the same and so is what becomes of the
  machine, and where it succeeds, of the dispatcher.
-/
structure InitsAs
    (d d' : Dispatcher AnyRuntime)
    (n : Machine) : Prop where
  answer : (init (d', n)).1 = (init (d, n)).1
  machine : (init (d', n)).2.2 = (init (d, n)).2.2
  dispatcher :
    (init (d, n)).1 = .ok () →
      (init (d', n)).2.1 = (init (d, n)).2.1

theorem InitsAs.refl
    (d : Dispatcher AnyRuntime)
    (n : Machine) : d.InitsAs d n :=
  ⟨rfl, rfl, fun _ => rfl⟩

/- Neither is initialized, and for the same reason. -/
theorem InitsAs.of_failed
    {d d' t t' : Dispatcher AnyRuntime}
    {n n' : Machine}
    (hRun : init (d, n) = (.error e, (t, n')))
    (hRun' : init (d', n) = (.error e, (t', n'))) :
    d.InitsAs d' n where
  answer := by rw [hRun, hRun']
  machine := by rw [hRun, hRun']
  dispatcher := by
    rw [hRun]
    exact nofun

theorem InitsAs.of_eq
    {d d' : Dispatcher AnyRuntime}
    {n : Machine}
    (h : init (d', n) = init (d, n)) : d.InitsAs d' n where
  answer := by rw [h]
  machine := by rw [h]
  dispatcher := fun _ => by rw [h]

/- What was noted in vain does not matter to a new attempt. -/
theorem initsAs_noted
    (hState : d.state = .uninitialized)
    (hClosed : d.runtime.IsClosed)
    (n : Machine) :
    d.InitsAs { d with runtime := d.runtime.noted d.config }
      n := by
  have hRun := init_of_uninitialized (s := (d, n)) hState
  have hRun' :=
    init_of_uninitialized
      (s :=
        ({ d with runtime := d.runtime.noted d.config }, n))
      hState
  simp only [prepared, bind, Op.bind, Op.ofExcept, onMachine,
    Op.within, Lens.snd] at hRun hRun'
  cases hValid : d.config.validate with
  | error e =>
      simp only [hValid] at hRun hRun'
      exact .of_failed hRun hRun'
  | ok _ =>
      simp only [hValid] at hRun hRun'
      rcases hStage : StageResources.prepare d.config n with
        ⟨e | r, n'⟩
      · rw [hStage] at hRun hRun'
        exact .of_failed hRun hRun'
      · rw [hStage] at hRun hRun'
        simp only [openDomain_noted hClosed] at hRun'
        exact .of_eq (hRun'.trans hRun.symm)

/-
  A dispatcher that could not be initialized has a closed
  runtime, and the next attempt goes as this one would have.
-/
theorem initsAs_failed
    (hState : d.state = .uninitialized)
    (hClosed : d.runtime.IsClosed)
    (hRun : init (d, m) = (.error e, s)) :
    ∃ q : AnyRuntime,
      s.1 = { d with runtime := q } ∧ q.IsClosed ∧
        ∀ n, d.InitsAs { d with runtime := q } n := by
  rcases (init_failed hState hClosed (.refl _) hRun).1 with
    hSame | hNoted
  · exact ⟨d.runtime, hSame, hClosed, .refl d⟩
  · exact
      ⟨_, hNoted, hClosed.noted _,
        initsAs_noted hState hClosed⟩

------------------------------------------------------------
-- Dispatchers That There Are
------------------------------------------------------------

/-
  A dispatcher that was created over a closed runtime, and
  called after that, each time on whatever machine.
-/
inductive Lived : Dispatcher AnyRuntime → Prop where
  | created {c : StageConfig} {r : AnyRuntime}
      {m m' : Machine} {d : Dispatcher AnyRuntime} :
      r.IsClosed → create c r m = (.ok d, m') → Lived d
  | called {d : Dispatcher AnyRuntime} (call : Call)
      (m : Machine) : Lived d → Lived (step call (d, m)).1

/- Backends lead to runtimes that are closed. -/
theorem lived_of_backend
    {c : StageConfig}
    {b : Backend}
    {m m' : Machine}
    {d : Dispatcher AnyRuntime}
    (hCreate : overBackend c b m = (.ok d, m')) : d.Lived := by
  rcases create_of_backend hCreate with
    ⟨r, n, hRuntime, hCreate⟩
  have hClosed : r.IsClosed := by
    cases b <;> cases hRuntime
    · trivial
    · trivial
    · exact ⟨rfl, rfl⟩
  exact .created hClosed hCreate

/- Nobody has called the dispatcher yet. -/
theorem lived_fresh
    {c : StageConfig}
    {r : AnyRuntime}
    (hClosed : r.IsClosed)
    (hDomain : r.domain = c.domain) :
    Lived ⟨c, r, none, .uninitialized, none⟩ := by
  have hCreate :
      create c r (Machine.fresh Device.defaultCapacity) =
        (.ok ⟨c, r, none, .uninitialized, none⟩,
          (span (ε := Error) (stageSpan c)
            (Machine.fresh Device.defaultCapacity)).2) :=
    congrFun (if_neg (not_not.mpr hDomain)) _
  exact .created hClosed hCreate

theorem Lived.settled
    (h : d.Lived) : d.Settled := by
  induction h with
  | created _ hCreate =>
      rw [create_eq hCreate]
      constructor <;> simp
  | called call m _ ih => exact settled_step (_, m) call ih

/- No state leads back to the first one. -/
theorem uninitialized_before
    (call : Call)
    (m : Machine)
    (h : (step call (d, m)).1.state = .uninitialized) :
    d.state = .uninitialized := by
  rcases hasEffect call (d, m) with ⟨_, hEffect, _⟩
  rcases hEffect.leads with hSame | hLeads
  · exact hSame.symm.trans h
  · rw [h] at hLeads
    generalize (d, m).1.state = before at hLeads
    cases hLeads

/- A runtime is closed until its dispatcher is initialized. -/
theorem Lived.closed
    (h : d.Lived)
    (hState : d.state = .uninitialized) :
    d.runtime.IsClosed := by
  induction h with
  | created hClosed hCreate =>
      rw [create_eq hCreate]
      exact hClosed
  | @called d call m _ ih =>
      have hBefore := uninitialized_before call m hState
      have hClosed := ih hBefore
      rcases hasEffect call (d, m) with ⟨_, hEffect, _⟩
      have hRefused :
          ¬ d.Allows call → (step call (d, m)).1 = d :=
        fun hNot => (hEffect.of_not_allowed hNot).1
      cases call with
      | init =>
          rcases hRun : init (d, m) with ⟨e | _, s⟩
          · rcases initsAs_failed hBefore hClosed hRun with
              ⟨q, hEnd, hClosed', _⟩
            rw [step, Call.run, hRun, hEnd]
            exact hClosed'
          · rw [Call.run, hRun] at hEffect
            rw [hEffect.of_ok.2] at hState
            cases hState
      | post job =>
          rw [hRefused (by simp [Allows, hBefore])]
          exact hClosed
      | waitDone id =>
          rw [hRefused (by simp [Allows, hBefore])]
          exact hClosed
      | fini =>
          have hFini : fini (d, m) = finalize (d, m) := by
            simp only [fini, bind, Op.bind, Op.get, hBefore]
          rcases finalize_run (d, m) with ⟨m', hEnd⟩
          rw [step, Call.run, hFini, hEnd] at hState
          cases hState

------------------------------------------------------------
-- Initializing in Vain
------------------------------------------------------------

/-
  What an initialization that failed has left behind. The
  next one goes as this one would have gone.
-/
structure Undone
    (d : Dispatcher AnyRuntime)
    (m : Machine)
    (d' : Dispatcher AnyRuntime)
    (m' : Machine) : Prop where
  state : d'.state = .uninitialized
  pool : d'.pool? = none
  input : d'.debugInput? = none
  closed : d'.runtime.IsClosed
  device :
    m.platform.Smooth m'.platform →
      m.platform.device.Recovered m'.platform.device
  again : ∀ n, d.InitsAs d' n

/-
  Initializing a dispatcher that is not initialized yet is
  undone where it fails, wherever that is; initializing any
  other one does nothing.
-/
theorem failed_init_undone
    {d d' : Dispatcher AnyRuntime}
    {m m' : Machine}
    {e : Error}
    (hLived : d.Lived)
    (hArises : m.platform.device.Arises)
    (hFailed : init (d, m) = (.error e, (d', m'))) :
    (d.state = .uninitialized → Undone d m d' m') ∧
      (d.state ≠ .uninitialized → d' = d ∧ m' = m) := by
  constructor
  · intro hState
    have hClosed := hLived.closed hState
    have hLends :=
      (init_failed hState hClosed (.refl m.platform) hFailed).2
    rcases initsAs_failed hState hClosed hFailed with
      ⟨q, rfl, hClosed', hAgain⟩
    have hResources : d.resources = none := by
      have hHeld := hLived.settled.resources_iff
      rw [hState] at hHeld
      simpa using hHeld
    constructor
    · exact hState
    · rw [pool?, hResources]
      rfl
    · rw [debugInput?, hResources]
      rfl
    · exact hClosed'
    · intro hSmooth
      have hArises' := hArises.reaches hLends.advances.acts
      exact
        (hLends.lent hArises hSmooth).recovered hArises.filed
          hArises'.filed
    · exact hAgain
  · intro hState
    have hRefused :
        init (d, m) = (.error (d.invalid "init"), (d, m)) :=
      congrFun (if_pos hState) (d, m)
    rw [hRefused] at hFailed
    cases hFailed
    exact ⟨rfl, rfl⟩

/- A stage with a model, and with two buffers for outputs. -/
def modelConfig : StageConfig :=
  { StageConfig.of "stage" .accelerator with
    output := .single 16
    modelPath := some "model"
    batch := ⟨1, 1, 4, 4⟩ }

/- The stage over the first transport of a machine. -/
def modelStage : Dispatcher AnyRuntime :=
  ⟨modelConfig, .accelerator (.create 0), none,
    .uninitialized, none⟩

/-
  Firmware opens driver and model as often as it is asked,
  and the second mapping is planned to fail.
-/
def modelMachine : Machine :=
  { Machine.fresh Device.defaultCapacity with
    platform :=
      { Platform.fresh Device.defaultCapacity with
        faults := FaultPlan.none.arm .map 2 }
    transports :=
      (Table.empty.insert
        (.scripted
          ⟨[.ok ⟨0, 0, [.long 7]⟩, .ok ⟨0, 0, [.long 8]⟩,
            .ok ⟨0, 0, [.long 7]⟩, .ok ⟨0, 0, [.long 8]⟩],
            []⟩)).2 }

/-
  The second buffer cannot be mapped once the firmware has
  opened driver and model and the first buffer is there. A
  new attempt on what that left succeeds.
-/
theorem second_init_succeeds :
    ∃ e d' m',
      init (modelStage, modelMachine) = (.error e, (d', m')) ∧
        Undone modelStage modelMachine d' m' ∧
        modelMachine.platform.device.Recovered
          m'.platform.device ∧
        (init (d', m')).1 = .ok () := by
  have hError :
      (init (modelStage, modelMachine)).1 =
        .error (.mappingFailed "injected map fault") := by
    decide +kernel
  have hFailed :
      init (modelStage, modelMachine) =
        (.error (.mappingFailed "injected map fault"),
          ((init (modelStage, modelMachine)).2.1,
            (init (modelStage, modelMachine)).2.2)) := by
    rw [← hError]
  have hUndone :=
    (failed_init_undone (d := modelStage)
      (lived_fresh (r := .accelerator (.create 0))
        ⟨rfl, rfl⟩ rfl)
      ⟨.usual, Device.defaultCapacity, .refl _⟩ hFailed).1 rfl
  have hSmooth :
      modelMachine.platform.Smooth
        (init (modelStage, modelMachine)).2.2.platform :=
    ⟨by decide +kernel, by decide +kernel, by decide +kernel⟩
  exact
    ⟨_, _, _, hFailed, hUndone, hUndone.device hSmooth,
      by decide +kernel⟩

------------------------------------------------------------
-- A Region of Somebody Else
------------------------------------------------------------

/- A stage that has nothing but its buffers for outputs. -/
def plainStage : Dispatcher AnyRuntime :=
  ⟨{ StageConfig.of "stage" .host with
      output := .single 4096 },
    .host ⟨0, 0, ""⟩, none, .uninitialized, none⟩

/-
  All of a window is used up once, and somebody allocates a
  region at the start of the next one.
-/
def sweepBeforeRegion : List Device.Act :=
  Device.sweep.map .call ++
    [.call (.allocate .onChip .uncached [4096])]

/- After that the first mapping is planned to fail. -/
def sweptMachine : Machine :=
  { Machine.fresh Device.defaultCapacity with
    platform :=
      { Platform.fresh Device.defaultCapacity with
        device :=
          Run.after Device.act sweepBeforeRegion
            (Device.fresh .usual Device.defaultCapacity)
        faults := FaultPlan.none.arm .map 1 } }

theorem arises_sweptMachine :
    sweptMachine.platform.device.Arises := by
  refine ⟨.usual, Device.defaultCapacity, sweepBeforeRegion, ?_⟩
  simp only [sweptMachine]

/-
  The buffer of a stage that is not initialized in the end
  takes the place of the region of somebody else, and is
  given back together with it.
-/
theorem failed_init_frees_other_region :
    plainStage.Lived ∧
      sweptMachine.platform.device.Arises ∧
      ∃ e d' m',
        init (plainStage, sweptMachine) =
            (.error e, (d', m')) ∧
          Platform.Unstruck .unmap sweptMachine.platform
            m'.platform ∧
          Platform.Unstruck .free sweptMachine.platform
            m'.platform ∧
          ¬ sweptMachine.platform.device.Recovered
            m'.platform.device := by
  have hError :
      (init (plainStage, sweptMachine)).1 =
        .error (.mappingFailed "injected map fault") := by
    decide +kernel
  have hBefore :
      sweptMachine.platform.device.regions.length = 1 := by
    decide +kernel
  have hAfter :
      (init (plainStage,
        sweptMachine)).2.2.platform.device.regions.length =
          0 := by
    decide +kernel
  refine
    ⟨lived_fresh trivial rfl,
      arises_sweptMachine,
      .mappingFailed "injected map fault",
      (init (plainStage, sweptMachine)).2.1,
      (init (plainStage, sweptMachine)).2.2, ?_,
      by decide +kernel, by decide +kernel, ?_⟩
  · rw [← hError]
  · intro hRecovered
    have hLength := hRecovered.regions.length_eq
    omega

end Dispatcher

end Offload
