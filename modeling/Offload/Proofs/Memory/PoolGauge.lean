import Offload.Proofs.Memory.Buffers
import Offload.Proofs.Memory.PlatformMoves
import Offload.Proofs.Memory.PoolBound

/-
  What the gauge of a pool shows.

  The gauge is set when a pool is activated and when it is
  deactivated, and at no other time. It stands at the least
  number of buffers while the pool is active, and at zero
  while it is not. Buffers that are handed out and come back
  meanwhile change the number of idle buffers and leave the
  gauge. It shows the idle buffers exactly as long as there
  are none to hand out and none come back.

  Key definitions include:
    * `MeteredPool`
    * `MeteredPool.Event`
    * `MeteredPool.step`
    * `MeteredPool.Stirs`

  Main results:
    * `MeteredPool.gauge_step`
    * `MeteredPool.shows_step_iff`
    * `MeteredPool.gauge_exact_iff`
    * `MeteredPool.gauge_stale_after_acquisition`
-/

namespace Offload

------------------------------------------------------------
-- What Operations Do to Gauges
------------------------------------------------------------

namespace Platform

/- The gauges of pools have the values that they had. -/
def SameGauges
    (m m' : Platform) : Prop :=
  m.telemetry.SameGauges m'.telemetry

/- Memory is allocated and released without any gauge. -/
instance : MemoryFrame SameGauges where
  refl m := .refl m.telemetry
  trans _ _ _ hFirst hNext :=
    Telemetry.SameGauges.trans hFirst hNext
  struck _ m := .refl m.telemetry
  acted _ m := .refl m.telemetry
  logged _ m := .refl m.telemetry
  counted _ m hMeter :=
    .count (Meter.isGauge_of_isAllocation hMeter) m.telemetry

end Platform

namespace Pool

open Platform

variable {ε : Type}

/- What the gauge of a pool stands at, if it was ever set. -/
def gauge
    (p : Pool)
    (m : Platform) : Option Nat :=
  m.telemetry.metrics.find? (.poolAvailable p.plan.name)

/- A pool with the same gauge among the same gauges. -/
theorem gauge_of_same
    {p q : Pool}
    {m m' : Platform}
    (hPlan : q.plan = p.plan)
    (hSame : m.SameGauges m') : q.gauge m' = p.gauge m := by
  unfold gauge
  rw [hPlan]
  exact hSame _ rfl

/-
  An activation sets the gauge to the idle buffers, unless
  it fails.
-/
theorem start_gauge
    (p : Pool)
    (m : Platform) :
    ((start (p, m)).2.1 = p ∧
        m.SameGauges (start (p, m)).2.2) ∨
      ∃ fresh : List Buffer,
        fresh.length = p.plan.least - p.available ∧
          (start (p, m)).2.1 = p.activate fresh ∧
          (p.activate fresh).gauge (start (p, m)).2.2 =
            some (p.activate fresh).available := by
  have hMoves :=
    p.plan.allocateMany_moves (R := SameGauges)
      (p.plan.least - p.available) [] m
  simp only [start, bind, Op.bind, Op.get, onPlatform,
    Op.within, Lens.snd]
  cases hMany :
      p.plan.allocateMany (p.plan.least - p.available) [] m
    with
  | mk result m' =>
      rw [hMany] at hMoves
      cases result with
      | error e => exact Or.inl ⟨rfl, hMoves⟩
      | ok fresh =>
          have hLength := PoolPlan.length_allocateMany hMany
          refine
            Or.inr ⟨fresh, by simpa using hLength, rfl, ?_⟩
          exact
            (Metrics.find?_put _ _ _ _).trans (if_pos rfl)

/- A deactivation sets the gauge to zero. -/
theorem stop_gauge
    (p : Pool)
    (m : Platform) :
    p.gauge ((stop : Op ε _ Unit) (p, m)).2.2 = some 0 := by
  simp only [stop, bind, Op.bind, Op.get, onPlatform,
    Op.within, Lens.snd, Lens.fst, Op.update]
  simp only [PoolPlan.releaseAll_ok]
  exact (Metrics.find?_put _ _ _ _).trans (if_pos rfl)

/-
  What an attempt to change whether a pool is active comes
  to: nothing, an activation or a deactivation.
-/
theorem setActive_cases
    (active : Bool)
    (p : Pool)
    (m : Platform) :
    ((setActive active (p, m)).2.1 = p ∧
        m.SameGauges (setActive active (p, m)).2.2) ∨
      (∃ fresh : List Buffer,
        p.active = false ∧
          fresh.length = p.plan.least - p.available ∧
          (setActive active (p, m)).2.1 = p.activate fresh ∧
          p.gauge (setActive active (p, m)).2.2 =
            some (p.activate fresh).available) ∨
      ((setActive active (p, m)).2.1 = p.deactivate.2 ∧
        p.gauge (setActive active (p, m)).2.2 = some 0) := by
  simp only [setActive, bind, Op.bind, Op.get]
  by_cases hSame : (p.active == active) = true
  · rw [if_pos hSame]
    exact Or.inl ⟨rfl, .refl _⟩
  · rw [if_neg hSame]
    cases active with
    | true =>
        have hActive : p.active = false := by
          simpa using hSame
        rw [if_pos rfl]
        rcases p.start_gauge m with
          hFailed | ⟨fresh, hLength, hPool, hGauge⟩
        · exact Or.inl hFailed
        · exact
            Or.inr
              (Or.inl
                ⟨fresh, hActive, hLength, hPool, hGauge⟩)
    | false =>
        rw [if_neg Bool.false_ne_true]
        exact Or.inr (Or.inr ⟨p.stop_pool m, p.stop_gauge m⟩)

/-
  An acquisition takes the first idle buffer of an active
  pool, if it has one. No gauge is set.
-/
structure Draws
    (p : Pool)
    (m : Platform)
    (y : Pool × Platform) : Prop where
  plan : y.1.plan = p.plan
  active : y.1.active = p.active
  idle : y.1.idle = if p.active then p.idle.tail else p.idle
  gauges : m.SameGauges y.2

theorem sameGauges_acquired
    (m : Platform)
    (plan : PoolPlan) : m.SameGauges (m.acquired plan) :=
  Telemetry.SameGauges.count rfl m.telemetry

theorem tryAcquire_draws
    (p : Pool)
    (m : Platform) : p.Draws m (tryAcquire (p, m)).2 := by
  rcases p.take_cases with
    ⟨hActive, hTake⟩ | ⟨b, rest, hActive, hIdle, hTake⟩ |
      ⟨hActive, hIdle, _, hTake⟩ | ⟨hActive, hIdle, _, hTake⟩
  · rw [tryAcquire_inactive hTake]
    exact ⟨rfl, rfl, by simp [hActive], .refl _⟩
  · rw [tryAcquire_of_ready hTake]
    exact
      ⟨rfl, rfl, by simp [noteAcquisition, hActive, hIdle],
        sameGauges_acquired m p.plan⟩
  · rw [tryAcquire_of_room hTake]
    have hMoves :=
      p.plan.allocate_moves (R := SameGauges) m
    dsimp only
    rcases hRun : p.plan.allocate m with ⟨e | b, m'⟩
    · rw [hRun] at hMoves
      exact
        ⟨rfl, rfl, by simp [cancelGrowth, hActive, hIdle],
          hMoves⟩
    · rw [hRun] at hMoves
      exact
        ⟨rfl, rfl, by simp [noteAcquisition, hActive, hIdle],
          hMoves.trans (sameGauges_acquired m' p.plan)⟩
  · rw [tryAcquire_full hTake]
    exact ⟨rfl, rfl, by simp [hActive, hIdle], .refl _⟩

/- To wait takes nothing and sets no gauge. -/
theorem Draws.wait
    {p : Pool}
    {m : Platform}
    {y : Pool × Platform}
    (h : p.Draws m y) :
    p.Draws m (Op.exec (Pool.wait : Op ε _ Unit) y) where
  plan := h.plan
  active := h.active
  idle := h.idle
  gauges :=
    h.gauges.trans
      (Telemetry.SameGauges.count rfl y.2.telemetry)

theorem acquireTimeout_draws
    (p : Pool)
    (m : Platform) : p.Draws m (acquireTimeout (p, m)).2 := by
  have hTry := p.tryAcquire_draws m
  simp only [acquireTimeout, bind, Op.bind]
  rcases hAnswer : tryAcquire (p, m) with ⟨e | (_ | b), y⟩
  · rw [hAnswer] at hTry
    exact hTry
  · rw [hAnswer] at hTry
    exact hTry.wait (ε := Error)
  · rw [hAnswer] at hTry
    exact hTry

theorem acquire_draws
    (p : Pool)
    (m : Platform) : p.Draws m (acquire (p, m)).2 := by
  have hTimeout := p.acquireTimeout_draws m
  simp only [acquire, bind, Op.bind]
  rcases hAnswer : acquireTimeout (p, m) with
    ⟨e | (_ | b), y⟩ <;>
    · rw [hAnswer] at hTimeout
      exact hTimeout

/- A buffer that comes back is idle in an active pool. -/
structure Returns
    (b : Buffer)
    (p : Pool)
    (m : Platform)
    (y : Pool × Platform) : Prop where
  plan : y.1.plan = p.plan
  active : y.1.active = p.active
  idle : y.1.idle = if p.active then b :: p.idle else p.idle
  gauges : m.SameGauges y.2

theorem release_returns
    (b : Buffer)
    (p : Pool)
    (m : Platform) :
    Returns b p m
      (Op.exec (release b : Op ε _ Unit) (p, m)) := by
  cases hActive : p.active with
  | true =>
      simp only [Op.exec, release, bind, Op.bind, Op.within,
        Op.update, Lens.fst, giveBack, hActive, if_true,
        pure, Op.pure]
      exact
        ⟨rfl, hActive.symm, by rw [if_pos hActive], .refl _⟩
  | false =>
      have hMoves :=
        b.release_moves (ε := ε) (R := SameGauges) m
      have hInactive : ¬ p.active = true := by simp [hActive]
      simp only [Op.exec, release, bind, Op.bind, Op.within,
        Op.update, Lens.fst, Lens.snd, giveBack, onPlatform,
        hActive, Bool.false_eq_true, if_false]
      exact
        ⟨rfl, hActive.symm, by rw [if_neg hInactive], hMoves⟩

end Pool

------------------------------------------------------------
-- States and Events
------------------------------------------------------------

/- A pool, the platform and the buffers handed out. -/
structure MeteredPool where
  pool : Pool
  platform : Platform
  out : List Buffer

namespace MeteredPool

/-
  Operations on a pool from their beginning to their end. A
  buffer that comes back is named by its place among those
  that are handed out; what its holder makes of it is `use`.
  `others` is what anyone else does to the platform. An
  acquisition that waits until a buffer comes back is one
  that finds nothing, and another one afterwards.
-/
inductive Event where
  | setActive (active : Bool)
  | tryAcquire
  | acquireTimeout
  | acquire
  | release (place : Nat)
  | use (place : Nat) (buffer : Buffer)
  | others (m : Platform)

/- A pool that nobody has used. -/
def of
    (p : Pool)
    (m : Platform) : MeteredPool :=
  ⟨p, m, []⟩

/- What the gauge stands at, if it was ever set. -/
def gauge
    (s : MeteredPool) : Option Nat :=
  s.pool.gauge s.platform

/- The pool as those who share it see it. -/
def shared
    (s : MeteredPool) : SharedPool :=
  ⟨s.pool, 0, s.out, []⟩

/-
  The state after an event. The pool is the only one of its
  name, so that others leave its gauge.
-/
def step
    (e : Event)
    (s : MeteredPool) : MeteredPool :=
  match e with
  | .setActive active =>
    let y :=
      Op.exec (Pool.setActive active) (s.pool, s.platform)
    ⟨y.1, y.2, s.out⟩
  | .tryAcquire =>
    let r := Pool.tryAcquire (s.pool, s.platform)
    ⟨r.2.1, r.2.2, SharedPool.handed r.1 s.out⟩
  | .acquireTimeout =>
    let r := Pool.acquireTimeout (s.pool, s.platform)
    ⟨r.2.1, r.2.2, SharedPool.handed r.1 s.out⟩
  | .acquire =>
    let r := Pool.acquire (s.pool, s.platform)
    ⟨r.2.1, r.2.2, SharedPool.handed (r.1.map some) s.out⟩
  | .release place =>
    match s.out[place]? with
    | none => s
    | some b =>
      let y := Op.exec (Pool.release b : Op Error _ Unit)
        (s.pool, s.platform)
      ⟨y.1, y.2, s.out.eraseIdx place⟩
  | .use place b => { s with out := s.out.set place b }
  | .others m =>
    if s.pool.gauge m = s.gauge then
      { s with platform := m }
    else
      s

/-
  Whether an event adds an idle buffer to an active pool or
  takes one away.
-/
def Stirs
    (s : MeteredPool) : Event → Prop
  | .tryAcquire => s.pool.active = true ∧ 0 < s.pool.available
  | .acquireTimeout =>
    s.pool.active = true ∧ 0 < s.pool.available
  | .acquire => s.pool.active = true ∧ 0 < s.pool.available
  | .release place =>
    s.pool.active = true ∧ place < s.out.length
  | _ => False

instance
    (s : MeteredPool)
    (e : Event) : Decidable (s.Stirs e) := by
  cases e <;> unfold Stirs <;> infer_instance

/-
  What the gauge of a pool that was activated stands at: the
  least number of buffers, or zero if it is not active.
-/
def stand
    (s : MeteredPool) : Nat :=
  if s.pool.active then s.pool.plan.least else 0

/- Whether the gauge shows the number of idle buffers. -/
def Shows
    (s : MeteredPool) : Prop :=
  s.gauge = some s.pool.available

instance
    (s : MeteredPool) : Decidable s.Shows := by
  unfold Shows
  infer_instance

------------------------------------------------------------
-- What Events Leave
------------------------------------------------------------

/- The gauge is left, and so is whether the pool is active. -/
structure Ungauged
    (s t : MeteredPool) : Prop where
  plan : t.pool.plan = s.pool.plan
  active : t.pool.active = s.pool.active
  gauge : t.gauge = s.gauge

/- The gauge is set, and shows the idle buffers. -/
structure Regauged
    (s t : MeteredPool) : Prop where
  plan : t.pool.plan = s.pool.plan
  gauge : t.gauge = some t.stand
  available : t.pool.available = t.stand

section Steps

variable {s : MeteredPool}
variable {e : Event}

/- Every event leaves a pool that is counted. -/
theorem counted_step
    (e : Event)
    (h : s.shared.Counted) : (step e s).shared.Counted := by
  have hKept :
      ∀ {t : SharedPool} {p : Pool} {out freed : List Buffer},
        Run.Reaches SharedPool.step t ⟨p, 0, out, freed⟩ →
          t.Counted → SharedPool.Counted ⟨p, 0, out, []⟩ := by
    intro t p out freed hReaches hCounted
    have hLast :=
      hReaches.keep SharedPool.counted_step hCounted
    exact ⟨hLast.balance, hLast.drained⟩
  cases e with
  | setActive active =>
      rcases SharedPool.reaches_setActive active s.pool
          s.platform 0 s.out [] with
        ⟨freed, hReaches⟩
      exact hKept hReaches h
  | tryAcquire =>
      exact
        hKept
          (SharedPool.reaches_tryAcquire s.pool s.platform 0
            s.out []) h
  | acquireTimeout =>
      exact
        hKept
          (SharedPool.reaches_acquireTimeout s.pool
            s.platform 0 s.out []) h
  | acquire =>
      exact
        hKept
          (SharedPool.reaches_acquire s.pool s.platform 0
            s.out []) h
  | release place =>
      cases hPlace : s.out[place]? with
      | none => simpa only [step, hPlace] using h
      | some b =>
          rcases SharedPool.reaches_release (ε := Error)
              s.pool s.platform 0 [] hPlace with
            ⟨freed, hReaches⟩
          simp only [step, hPlace]
          exact hKept hReaches h
  | use place b =>
      refine ⟨?_, h.drained⟩
      have hBalance := h.balance
      simpa [step, shared] using hBalance
  | others m =>
      by_cases hSame : s.pool.gauge m = s.gauge
      · simp only [step, if_pos hSame]
        exact ⟨h.balance, h.drained⟩
      · simp only [step, if_neg hSame]
        exact h

/- Whatever does not set the gauge leaves it. -/
theorem ungauged_of_same
    {p : Pool}
    {m : Platform}
    (hPlan : p.plan = s.pool.plan)
    (hActive : p.active = s.pool.active)
    (hGauges : s.platform.SameGauges m)
    (out : List Buffer) : Ungauged s ⟨p, m, out⟩ :=
  ⟨hPlan, hActive, Pool.gauge_of_same hPlan hGauges⟩

/- An acquisition leaves the gauge, but not what it takes. -/
theorem ungauged_of_draws
    {y : Pool × Platform}
    (h : s.pool.Draws s.platform y)
    (out : List Buffer) :
    Ungauged s ⟨y.1, y.2, out⟩ ∧
      (y.1.available ≠ s.pool.available ↔
        s.pool.active = true ∧ 0 < s.pool.available) := by
  refine ⟨ungauged_of_same h.plan h.active h.gauges out, ?_⟩
  unfold Pool.available
  rw [h.idle]
  cases hActive : s.pool.active with
  | false => simp
  | true =>
      cases s.pool.idle with
      | nil => simp
      | cons b rest => simp

/- A return leaves the gauge, but not what it brings. -/
theorem ungauged_of_returns
    {b : Buffer}
    {y : Pool × Platform}
    (h : Pool.Returns b s.pool s.platform y)
    (out : List Buffer) :
    Ungauged s ⟨y.1, y.2, out⟩ ∧
      (y.1.available ≠ s.pool.available ↔
        s.pool.active = true) := by
  refine ⟨ungauged_of_same h.plan h.active h.gauges out, ?_⟩
  unfold Pool.available
  rw [h.idle]
  cases s.pool.active with
  | false => simp
  | true => simp

/-
  An event sets the gauge to the number of idle buffers or
  leaves it. If it leaves it, the number changes exactly if
  the event stirs the idle buffers.
-/
theorem step_cases
    (h : s.shared.Counted)
    (e : Event) :
    (Ungauged s (step e s) ∧
        ((step e s).pool.available ≠ s.pool.available ↔
          s.Stirs e)) ∨
      (Regauged s (step e s) ∧ ¬ s.Stirs e) := by
  cases e with
  | setActive active =>
      have hCases :=
        Pool.setActive_cases active s.pool s.platform
      simp only [step, Op.exec]
      rcases hCases with
        ⟨hPool, hGauges⟩ |
          ⟨fresh, hActive, hLength, hPool, hGauge⟩ |
            ⟨hPool, hGauge⟩
      · rw [hPool]
        exact
          Or.inl
            ⟨ungauged_of_same rfl rfl hGauges s.out,
              by simp [Stirs]⟩
      · have hIdle : s.pool.idle = [] := h.drained hActive
        have hAvailable :
            (s.pool.activate fresh).available =
              s.pool.plan.least := by
          simp [Pool.activate, Pool.available, hIdle, hLength]
        rw [hAvailable] at hGauge
        rw [hPool]
        exact
          Or.inr
            ⟨⟨rfl, hGauge, hAvailable⟩, fun hStirs => hStirs⟩
      · rw [hPool]
        exact
          Or.inr ⟨⟨rfl, hGauge, rfl⟩, fun hStirs => hStirs⟩
  | tryAcquire =>
      exact
        Or.inl
          (ungauged_of_draws (Pool.tryAcquire_draws _ _) _)
  | acquireTimeout =>
      exact
        Or.inl
          (ungauged_of_draws
            (Pool.acquireTimeout_draws _ _) _)
  | acquire =>
      exact
        Or.inl (ungauged_of_draws (Pool.acquire_draws _ _) _)
  | release place =>
      apply Or.inl
      cases hPlace : s.out[place]? with
      | none =>
          have hFar : ¬ place < s.out.length :=
            Nat.not_lt.mpr
              (List.getElem?_eq_none_iff.mp hPlace)
          simp only [step, hPlace]
          exact
            ⟨⟨rfl, rfl, rfl⟩, by simp [Stirs, hFar]⟩
      | some b =>
          have hIn : place < s.out.length :=
            (List.getElem?_eq_some_iff.mp hPlace).1
          simp only [step, hPlace, Stirs, hIn, and_true]
          exact
            ungauged_of_returns (Pool.release_returns b _ _) _
  | use place b =>
      exact Or.inl ⟨⟨rfl, rfl, rfl⟩, by simp [step, Stirs]⟩
  | others m =>
      apply Or.inl
      by_cases hSame : s.pool.gauge m = s.gauge
      · simp only [step, if_pos hSame]
        exact ⟨⟨rfl, rfl, hSame⟩, by simp [Stirs]⟩
      · simp only [step, if_neg hSame]
        exact ⟨⟨rfl, rfl, rfl⟩, by simp [Stirs]⟩

theorem plan_step
    (h : s.shared.Counted)
    (e : Event) : (step e s).pool.plan = s.pool.plan := by
  rcases step_cases h e with ⟨hSame, _⟩ | ⟨hNew, _⟩
  · exact hSame.plan
  · exact hNew.plan

/- Whatever happens, the gauge is where it is to stand. -/
theorem gauge_step
    (h : s.shared.Counted)
    (hGauge : s.gauge = some s.stand)
    (e : Event) :
    (step e s).gauge = some (step e s).stand := by
  rcases step_cases h e with ⟨hSame, _⟩ | ⟨hNew, _⟩
  · rw [hSame.gauge, hGauge, stand, stand, hSame.plan,
      hSame.active]
  · exact hNew.gauge

/- A gauge that shows the idle buffers goes on to do so. -/
theorem shows_step_iff
    (h : s.shared.Counted)
    (hShows : s.Shows)
    (e : Event) : (step e s).Shows ↔ ¬ s.Stirs e := by
  rcases step_cases h e with ⟨hSame, hStirs⟩ | ⟨hNew, hStill⟩
  · rw [← hStirs, Shows, hSame.gauge, hShows, Option.some_inj]
    exact ⟨fun hSame hNe => hNe hSame.symm,
      fun hSame => (not_not.mp hSame).symm⟩
  · exact
      ⟨fun _ => hStill, fun _ => by
        rw [Shows, hNew.gauge, hNew.available]⟩

end Steps

------------------------------------------------------------
-- Whole Runs
------------------------------------------------------------

/- Until it is activated, a pool is counted as well. -/
theorem counted_after
    {p : Pool}
    (hIdle : p.idle = [])
    (hAllocated : p.allocated = 0)
    (m : Platform)
    (es : List Event) :
    (Run.after step es (of p m)).shared.Counted ∧
      (Run.after step es (of p m)).pool.plan = p.plan := by
  have hAll :
      ∀ s ∈ Run.states step es (of p m),
        s.shared.Counted ∧ s.pool.plan = p.plan := by
    apply Run.forall_states
    · intro s e h
      exact ⟨counted_step e h.1, (plan_step h.1 e).trans h.2⟩
    · exact ⟨SharedPool.counted_of hIdle hAllocated, rfl⟩
  exact hAll _ (Run.after_mem_states es _)

/-
  From an activation on, the gauge of a pool stands at the
  least number of buffers while the pool is active and at
  zero while it is not. It shows the idle buffers all along
  exactly if no acquisition finds an idle buffer and none
  comes back to an active pool.
-/
theorem gauge_exact_iff
    {allocator : Allocator}
    {least most : Nat}
    {flags : MemoryFlags}
    {sizes : List Nat}
    {names : List String}
    {p : Pool}
    (hCreate :
      Pool.create allocator least most flags sizes names =
        .ok p)
    (m : Platform)
    (front back : List Event)
    {idle started : MeteredPool}
    (hFront : Run.after step front (of p m) = idle)
    (hIdle : idle.pool.active = false)
    (hStart : step (.setActive true) idle = started)
    (hStarted : started.pool.active = true) :
    (∀ s ∈ Run.states step back started,
        s.gauge =
          some (if s.pool.active then least else 0)) ∧
      ((∀ s ∈ Run.states step back started,
          s.gauge = some s.pool.available) ↔
        ∀ s e, (s, e) ∈ Run.moves step back started →
          ¬ s.Stirs e) := by
  rcases Pool.create_ok hCreate with
    ⟨_, _, hLeast, _, _, hNone, hAllocated⟩
  rcases counted_after hNone hAllocated m front with
    ⟨hCounted, hPlan⟩
  rw [hFront] at hCounted hPlan
  have hFirst :
      started.shared.Counted ∧ started.pool.plan = p.plan ∧
        started.gauge = some started.stand ∧
          started.Shows := by
    rcases step_cases hCounted (.setActive true) with
      ⟨hSame, _⟩ | ⟨hNew, _⟩
    · rw [hStart] at hSame
      rw [hSame.active, hIdle] at hStarted
      cases hStarted
    · have hKept := counted_step (.setActive true) hCounted
      rw [hStart] at hNew hKept
      refine
        ⟨hKept, hNew.plan.trans hPlan, hNew.gauge, ?_⟩
      rw [Shows, hNew.gauge, hNew.available]
  have hAll :
      ∀ s ∈ Run.states step back started,
        s.shared.Counted ∧ s.pool.plan = p.plan ∧
          s.gauge = some s.stand := by
    apply Run.forall_states
    · intro s e h
      exact
        ⟨counted_step e h.1, (plan_step h.1 e).trans h.2.1,
          gauge_step h.1 h.2.2 e⟩
    · exact ⟨hFirst.1, hFirst.2.1, hFirst.2.2.1⟩
  constructor
  · intro s hMem
    have h := hAll s hMem
    rw [h.2.2, stand, h.2.1, hLeast]
  · constructor
    · intro hShows s e hMove
      have hStates := Run.mem_states_of_mem_moves hMove
      exact
        (shows_step_iff (hAll s hStates.1).1
          (hShows s hStates.1) e).mp (hShows _ hStates.2)
    · intro hStill
      apply Run.forall_states_of_moves hFirst.2.2.2
      intro s e hMove hShows
      have hStates := Run.mem_states_of_mem_moves hMove
      exact
        (shows_step_iff (hAll s hStates.1).1 hShows e).mpr
          (hStill s e hMove)

/-
  A pool that keeps no buffer makes one on demand and frees
  it after it was deactivated, twice over.
-/
def onDemand : List Event :=
  [.tryAcquire, .setActive false, .release 0,
    .setActive true, .acquire, .setActive false, .release 0]

/- Its gauge shows that there is never an idle buffer. -/
theorem onDemand_shown :
    ∃ p started,
      SharedPool.pagePool 0 1 = .ok p ∧
        step (.setActive true)
            (of p (Platform.fresh Device.defaultCapacity)) =
          started ∧
        p.active = false ∧ started.pool.active = true ∧
        (∀ s ∈ Run.states step onDemand started,
          s.gauge = some s.pool.available) ∧
        (Run.after step onDemand started).pool.acquisitions =
          2 := by
  have hCreate : SharedPool.pagePool 0 1 = .ok _ := rfl
  have hEach :
      ∀ {moves : List (MeteredPool × Event)},
        (∀ move ∈ moves, ¬ move.1.Stirs move.2) →
          ∀ s e, (s, e) ∈ moves → ¬ s.Stirs e :=
    fun hAll s e hMove => hAll (s, e) hMove
  refine ⟨_, _, hCreate, rfl, rfl, by decide +kernel, ?_, ?_⟩
  · apply
      (gauge_exact_iff hCreate _ [] onDemand rfl rfl rfl
        (by decide +kernel)).2.mpr
    exact hEach (by decide +kernel)
  · decide +kernel

/-
  A pool of one buffer has been activated and its buffer is
  handed out: the gauge still shows it.
-/
theorem gauge_stale_after_acquisition :
    ∃ p,
      SharedPool.pagePool 1 1 = .ok p ∧
        ¬ ∀ s ∈
            Run.states step [.tryAcquire]
              (step (.setActive true)
                (of p
                  (Platform.fresh Device.defaultCapacity))),
          s.gauge = some s.pool.available := by
  refine ⟨_, rfl, ?_⟩
  decide +kernel

end MeteredPool

end Offload
