import Mathlib.Data.List.Basic
import Offload.Memory.Pool
import Offload.Proofs.Run

/-
  A pool that threads share.

  What one thread does to a pool in one go is an event. Which
  buffers an allocation makes, and whether it fails, is left
  open: an event names the buffers it adds. Beside the pool
  the state has what threads hold: room claimed for buffers
  that are being allocated, buffers handed out, and buffers
  taken off the pool for good.

  Key definitions include:
    * `SharedPool`
    * `SharedPool.Event`
    * `SharedPool.step`
    * `SharedPool.Counted`

  Main results:
    * `SharedPool.counted_step`
    * `SharedPool.reaches_setActive`
    * `SharedPool.reaches_tryAcquire`
    * `SharedPool.reaches_acquireTimeout`
    * `SharedPool.reaches_acquire`
    * `SharedPool.reaches_release`
-/

namespace Offload

------------------------------------------------------------
-- What a Taker Finds
------------------------------------------------------------

/- All that a look for a buffer can come to. -/
theorem Pool.take_cases
    (p : Pool) :
    (p.active = false ∧ p.take = .error .poolInactive) ∨
    (∃ b rest,
      p.active = true ∧ p.idle = b :: rest ∧
        p.take = .ok (.ready b, { p with idle := rest })) ∨
    (p.active = true ∧ p.idle = [] ∧
      p.allocated < p.plan.most ∧
        p.take =
          .ok (.room,
            { p with allocated := p.allocated + 1 })) ∨
    (p.active = true ∧ p.idle = [] ∧
      p.plan.most ≤ p.allocated ∧
        p.take = .ok (.full, p)) := by
  unfold Pool.take
  split
  · rename_i hActive
    apply Or.inr
    split
    · rename_i b rest hIdle
      exact Or.inl ⟨b, rest, hActive, hIdle, rfl⟩
    · rename_i hIdle
      split
      · rename_i hRoom
        exact Or.inr (Or.inl ⟨hActive, hIdle, hRoom, rfl⟩)
      · rename_i hFull
        exact
          Or.inr
            (Or.inr
              ⟨hActive, hIdle, Nat.le_of_not_lt hFull, rfl⟩)
  · rename_i hActive
    exact Or.inl ⟨by simpa using hActive, rfl⟩

------------------------------------------------------------
-- States and Events
------------------------------------------------------------

/-
  A pool, the number of buffers that are being allocated for
  an acquisition, the buffers handed out, and those that are
  to be freed or were.
-/
structure SharedPool where
  pool : Pool
  growing : Nat
  out : List Buffer
  freed : List Buffer

namespace SharedPool

/-
  What a thread does to a pool in one go. An activation that
  fails does nothing to the pool and is no event; neither is
  an acquisition that an inactive pool refuses. A buffer
  that comes back is named by its place among those that are
  handed out.
-/
inductive Event where
  | activate (fresh : List Buffer)
  | deactivate
  | take
  | grow (buffer : Buffer)
  | giveUp
  | wait
  | giveBack (place : Nat)

/- A pool that nobody has used. -/
def of
    (p : Pool) : SharedPool :=
  ⟨p, 0, [], []⟩

/-
  Whether an activation can add these buffers: the pool is
  inactive, and as many are added as it lacks.
-/
def CanActivate
    (s : SharedPool)
    (fresh : List Buffer) : Prop :=
  s.pool.active = false ∧
    fresh.length = s.pool.plan.least - s.pool.available

instance
    (s : SharedPool)
    (fresh : List Buffer) :
    Decidable (s.CanActivate fresh) := by
  unfold CanActivate
  infer_instance

/- Look for a buffer, as an acquisition does. -/
def take
    (s : SharedPool) : SharedPool :=
  match s.pool.take with
  | .ok (.ready b, p) =>
    { s with pool := p.noteAcquisition, out := b :: s.out }
  | .ok (.room, p) =>
    { s with pool := p, growing := s.growing + 1 }
  | .ok (.full, p) => { s with pool := p }
  | .error _ => s

/- Take a buffer that was handed out back. -/
def giveBack
    (place : Nat)
    (s : SharedPool) : SharedPool :=
  match s.out[place]? with
  | none => s
  | some b =>
    match s.pool.giveBack b with
    | (kept, p) =>
      { s with
        pool := p
        out := s.out.eraseIdx place
        freed := if kept then s.freed else b :: s.freed }

/- The state after an event. -/
def step
    (e : Event)
    (s : SharedPool) : SharedPool :=
  match e with
  | .activate fresh =>
    if s.CanActivate fresh then
      { s with pool := s.pool.activate fresh }
    else
      s
  | .deactivate =>
    if s.pool.active then
      { s with
        pool := s.pool.deactivate.2
        freed := s.pool.deactivate.1 ++ s.freed }
    else
      s
  | .take => s.take
  | .grow b =>
    if 0 < s.growing then
      { s with
        pool := s.pool.noteAcquisition
        growing := s.growing - 1
        out := b :: s.out }
    else
      s
  | .giveUp =>
    if 0 < s.growing then
      { s with
        pool := s.pool.cancelGrowth
        growing := s.growing - 1 }
    else
      s
  | .wait => { s with pool := s.pool.noteWait }
  | .giveBack place => s.giveBack place

------------------------------------------------------------
-- Counting
------------------------------------------------------------

/-
  The counter of a pool counts the idle buffers, those that
  are handed out and those being allocated; an inactive pool
  has no idle ones.
-/
structure Counted
    (s : SharedPool) : Prop where
  balance :
    s.pool.allocated =
      s.pool.available + s.out.length + s.growing
  drained : s.pool.active = false → s.pool.idle = []

theorem counted_of
    {p : Pool}
    (hIdle : p.idle = [])
    (hAllocated : p.allocated = 0) : (of p).Counted where
  balance := by
    simp [of, Pool.available, hIdle, hAllocated]
  drained := fun _ => hIdle

theorem Counted.take
    {s : SharedPool}
    (h : s.Counted) : s.take.Counted := by
  have hBalance := h.balance
  unfold Pool.available at hBalance
  unfold SharedPool.take
  rcases s.pool.take_cases with
    ⟨_, hTake⟩ | ⟨b, rest, hActive, hIdle, hTake⟩ |
      ⟨_, hIdle, _, hTake⟩ | ⟨_, _, _, hTake⟩
  · rw [hTake]
    exact h
  · rw [hTake]
    rw [hIdle, List.length_cons] at hBalance
    constructor
    · simp [Pool.noteAcquisition, Pool.available]
      omega
    · simp [Pool.noteAcquisition, hActive]
  · rw [hTake]
    constructor
    · simp [Pool.available]
      omega
    · exact h.drained
  · rw [hTake]
    exact h

theorem Counted.giveBack
    {s : SharedPool}
    (h : s.Counted)
    (place : Nat) : (s.giveBack place).Counted := by
  have hBalance := h.balance
  unfold SharedPool.giveBack Pool.giveBack
  cases hPlace : s.out[place]? with
  | none => exact h
  | some b =>
      have hOut :
          (s.out.eraseIdx place).length + 1 =
            s.out.length := by
        rcases List.getElem?_eq_some_iff.mp hPlace with
          ⟨hBound, _⟩
        rw [List.length_eraseIdx_of_lt hBound]
        omega
      simp only [Pool.available] at hBalance
      cases hActive : s.pool.active with
      | true =>
          constructor
          · simp [Pool.available]
            omega
          · simp
      | false =>
          have hIdle := h.drained hActive
          constructor
          · simp [Pool.available, hIdle]
            simp [hIdle] at hBalance
            omega
          · simp [hIdle]

/- Every event keeps the count. -/
theorem counted_step
    (s : SharedPool)
    (e : Event)
    (h : s.Counted) : (step e s).Counted := by
  have hBalance := h.balance
  cases e with
  | activate fresh =>
      by_cases hCan : s.CanActivate fresh
      · have hIdle := h.drained hCan.1
        simp only [step, if_pos hCan]
        constructor
        · simp [Pool.activate, Pool.available, hIdle]
          simp [Pool.available, hIdle] at hBalance
          omega
        · simp [Pool.activate]
      · simpa [step, hCan] using h
  | deactivate =>
      cases hActive : s.pool.active with
      | false => simpa [step, hActive] using h
      | true =>
          simp only [step, hActive, if_true]
          constructor
          · simp [Pool.deactivate, Pool.available]
            simp [Pool.available] at hBalance
            omega
          · simp [Pool.deactivate]
  | take => exact h.take
  | grow b =>
      by_cases hGrowing : 0 < s.growing
      · simp only [step, if_pos hGrowing]
        constructor
        · simp [Pool.noteAcquisition, Pool.available]
          simp [Pool.available] at hBalance
          omega
        · exact h.drained
      · simpa [step, hGrowing] using h
  | giveUp =>
      by_cases hGrowing : 0 < s.growing
      · simp only [step, if_pos hGrowing]
        constructor
        · simp [Pool.cancelGrowth, Pool.available]
          simp [Pool.available] at hBalance
          omega
        · exact h.drained
      · simpa [step, hGrowing] using h
  | wait => exact ⟨hBalance, h.drained⟩
  | giveBack place => exact h.giveBack place

------------------------------------------------------------
-- The Plan and the Bound
------------------------------------------------------------

/- What a pool was made for never changes. -/
@[simp] theorem plan_step
    (e : Event)
    (s : SharedPool) :
    (step e s).pool.plan = s.pool.plan := by
  cases e with
  | activate fresh =>
      by_cases hCan : s.CanActivate fresh
      · simp [step, hCan, Pool.activate]
      · simp [step, hCan]
  | deactivate =>
      cases hActive : s.pool.active with
      | false => simp [step, hActive]
      | true => simp [step, hActive, Pool.deactivate]
  | take =>
      unfold step take
      rcases s.pool.take_cases with
        ⟨_, hTake⟩ | ⟨b, rest, _, _, hTake⟩ |
          ⟨_, _, _, hTake⟩ | ⟨_, _, _, hTake⟩ <;>
        simp [hTake, Pool.noteAcquisition]
  | grow b =>
      by_cases hGrowing : 0 < s.growing
      · simp [step, hGrowing, Pool.noteAcquisition]
      · simp [step, hGrowing]
  | giveUp =>
      by_cases hGrowing : 0 < s.growing
      · simp [step, hGrowing, Pool.cancelGrowth]
      · simp [step, hGrowing]
  | wait => rfl
  | giveBack place =>
      cases hPlace : s.out[place]? with
      | none => simp [step, giveBack, hPlace]
      | some b =>
          cases hActive : s.pool.active <;>
            simp [step, giveBack, Pool.giveBack, hPlace,
              hActive]

/-
  No event but an activation brings the counter above the
  most that the pool may have.
-/
theorem allocated_step_le
    {s : SharedPool}
    {e : Event}
    (hOther :
      ∀ fresh, e = .activate fresh → ¬ s.CanActivate fresh)
    (hBound : s.pool.allocated ≤ s.pool.plan.most) :
    (step e s).pool.allocated ≤ s.pool.plan.most := by
  cases e with
  | activate fresh =>
      have hCannot := hOther fresh rfl
      simpa [step, hCannot] using hBound
  | deactivate =>
      cases hActive : s.pool.active with
      | false => simpa [step, hActive] using hBound
      | true =>
          simp [step, hActive, Pool.deactivate]
          omega
  | take =>
      unfold step take
      rcases s.pool.take_cases with
        ⟨_, hTake⟩ | ⟨b, rest, _, _, hTake⟩ |
          ⟨_, _, hRoom, hTake⟩ | ⟨_, _, _, hTake⟩
      · simpa [hTake] using hBound
      · simpa [hTake, Pool.noteAcquisition] using hBound
      · simp [hTake]
        omega
      · simpa [hTake] using hBound
  | grow b =>
      by_cases hGrowing : 0 < s.growing
      · simpa [step, hGrowing, Pool.noteAcquisition]
          using hBound
      · simpa [step, hGrowing] using hBound
  | giveUp =>
      by_cases hGrowing : 0 < s.growing
      · simp [step, hGrowing, Pool.cancelGrowth]
        omega
      · simpa [step, hGrowing] using hBound
  | wait => exact hBound
  | giveBack place =>
      cases hPlace : s.out[place]? with
      | none => simpa [step, giveBack, hPlace] using hBound
      | some b =>
          cases hActive : s.pool.active with
          | true =>
              simpa [step, giveBack, Pool.giveBack, hPlace,
                hActive] using hBound
          | false =>
              simp [step, giveBack, Pool.giveBack, hPlace,
                hActive]
              omega

/-
  After an activation the pool counts what it must have at
  least on top of what was not given back.
-/
theorem allocated_activate
    {s : SharedPool}
    (hCounted : s.Counted)
    {fresh : List Buffer}
    (hCan : s.CanActivate fresh) :
    (step (.activate fresh) s).pool.allocated =
      s.out.length + s.growing + s.pool.plan.least := by
  have hBalance := hCounted.balance
  have hIdle := hCounted.drained hCan.1
  have hFresh := hCan.2
  simp only [Pool.available, hIdle, List.length_nil]
    at hBalance hFresh
  simp only [step, if_pos hCan, Pool.activate]
  omega

end SharedPool

------------------------------------------------------------
-- What Operations Do to the Pool
------------------------------------------------------------

/- As many buffers are allocated as asked for. -/
theorem PoolPlan.length_allocateMany
    {plan : PoolPlan}
    {n : Nat}
    {fresh bs : List Buffer}
    {m m' : Platform}
    (h : plan.allocateMany n fresh m = (.ok bs, m')) :
    bs.length = n + fresh.length := by
  induction n generalizing fresh m with
  | zero =>
      cases h
      simp
  | succ n ih =>
      simp only [allocateMany, bind, Op.bind, Op.attempt]
        at h
      cases hOne : plan.allocate m with
      | mk result m₁ =>
          cases result with
          | ok b =>
              simp only [hOne] at h
              have hRest := ih h
              simp only [List.length_cons] at hRest
              omega
          | error e =>
              simp only [hOne] at h
              cases hAll :
                  (releaseAll fresh.reverse :
                    Op Error Platform Unit) m₁ with
              | mk outcome m₂ =>
                  cases outcome <;>
                    simp [Op.bind, hAll, Op.fail] at h

/- The platform once an acquisition was counted. -/
def Platform.acquired
    (m : Platform)
    (plan : PoolPlan) : Platform :=
  { m with
    telemetry :=
      m.telemetry.count (.poolAcquisitions plan.name) }

namespace Pool

variable {ε : Type}

/- An activation adds what the pool lacks, or fails. -/
theorem start_pool
    (p : Pool)
    (m : Platform) :
    (start (p, m)).2.1 = p ∨
      ∃ fresh : List Buffer,
        fresh.length = p.plan.least - p.available ∧
          (start (p, m)).2.1 = p.activate fresh := by
  simp only [start, bind, Op.bind, Op.get, onPlatform,
    Op.within, Lens.snd]
  cases hMany :
      p.plan.allocateMany (p.plan.least - p.available) [] m
    with
  | mk result m' =>
      cases result with
      | error e => exact Or.inl rfl
      | ok fresh =>
          have hLength := PoolPlan.length_allocateMany hMany
          exact Or.inr ⟨fresh, by simpa using hLength, rfl⟩

theorem stop_pool
    (p : Pool)
    (m : Platform) :
    ((stop : Op ε _ Unit) (p, m)).2.1 = p.deactivate.2 := by
  simp only [stop, bind, Op.bind, Op.get, onPlatform,
    Op.within, Lens.snd, Lens.fst, Op.update]
  cases hAll :
      (PoolPlan.releaseAll p.deactivate.1.reverse :
        Op ε Platform Unit) m with
  | mk outcome m' =>
      cases outcome <;> rfl

variable {p q : Pool}

/- An acquisition that finds an idle buffer hands it out. -/
theorem tryAcquire_of_ready
    {b : Buffer}
    (hTake : p.take = .ok (.ready b, q))
    (m : Platform) :
    tryAcquire (p, m) =
      (.ok (some b),
        (q.noteAcquisition, m.acquired q.plan)) := by
  simp only [tryAcquire, bind, Op.bind, Op.within,
    Op.change, Lens.fst, hTake]
  rfl

/- An acquisition fills the room it claimed or gives it up. -/
theorem tryAcquire_of_room
    (hTake : p.take = .ok (.room, q))
    (m : Platform) :
    tryAcquire (p, m) =
      match q.plan.allocate m with
      | (.ok b, m') =>
        (.ok (some b),
          (q.noteAcquisition, m'.acquired q.plan))
      | (.error e, m') =>
        (.error e, (q.cancelGrowth, m')) := by
  simp only [tryAcquire, bind, Op.bind, Op.within,
    Op.change, Op.attempt, Op.get, onPlatform, Lens.fst,
    Lens.snd, hTake]
  rcases q.plan.allocate m with ⟨e | b, m'⟩ <;> rfl

/- An acquisition that finds no room changes nothing. -/
theorem tryAcquire_full
    {p : Pool}
    (hTake : p.take = .ok (.full, p))
    (m : Platform) :
    tryAcquire (p, m) = (.ok none, (p, m)) := by
  simp only [tryAcquire, bind, Op.bind, Op.within,
    Op.change, Lens.fst, hTake]
  rfl

/- An inactive pool refuses acquisitions. -/
theorem tryAcquire_inactive
    {p : Pool}
    (hTake : p.take = .error .poolInactive)
    (m : Platform) :
    tryAcquire (p, m) = (.error .poolInactive, (p, m)) := by
  simp only [tryAcquire, bind, Op.bind, Op.within,
    Op.change, Lens.fst, hTake]

/- An acquisition that hands nothing out found no room. -/
theorem full_of_none
    {p : Pool}
    {m : Platform}
    (h : (tryAcquire (p, m)).1 = .ok none) :
    p.idle = [] ∧ p.plan.most ≤ p.allocated := by
  rcases p.take_cases with
    ⟨_, hTake⟩ | ⟨b, rest, _, _, hTake⟩ |
      ⟨_, _, _, hTake⟩ | ⟨_, hIdle, hFull, _⟩
  · rw [tryAcquire_inactive hTake] at h
    cases h
  · rw [tryAcquire_of_ready hTake] at h
    cases h
  · rw [tryAcquire_of_room hTake] at h
    rcases hOne : p.plan.allocate m with ⟨e | b, m'⟩
    · simp only [hOne] at h
      cases h
    · simp only [hOne] at h
      cases h
  · exact ⟨hIdle, hFull⟩

end Pool

------------------------------------------------------------
-- Operations as Runs
------------------------------------------------------------

namespace SharedPool

variable {ε : Type}

/- The buffers handed out after an acquisition. -/
def handed
    (answer : Except Error (Option Buffer))
    (out : List Buffer) : List Buffer :=
  match answer with
  | .ok (some b) => b :: out
  | _ => out

theorem reaches_setActive
    (active : Bool)
    (p : Pool)
    (m : Platform)
    (growing : Nat)
    (out freed : List Buffer) :
    ∃ freed',
      Run.Reaches step ⟨p, growing, out, freed⟩
        ⟨(Pool.setActive active (p, m)).2.1, growing, out,
          freed'⟩ := by
  cases hActive : p.active with
  | true =>
      cases active with
      | true =>
          refine ⟨freed, [], ?_⟩
          simp [Run.after, Pool.setActive, bind, Op.bind,
            Op.get, hActive, pure, Op.pure]
      | false =>
          refine
            ⟨p.deactivate.1 ++ freed, [.deactivate], ?_⟩
          have hStop :
              (Pool.setActive false (p, m)).2.1 =
                p.deactivate.2 := by
            simp [Pool.setActive, bind, Op.bind, Op.get,
              hActive, Pool.stop_pool]
          rw [hStop]
          simp [Run.after, step, hActive]
  | false =>
      cases active with
      | true =>
          have hStart :
              (Pool.setActive true (p, m)).2.1 =
                (Pool.start (p, m)).2.1 := by
            simp [Pool.setActive, bind, Op.bind, Op.get,
              hActive]
          rw [hStart]
          rcases p.start_pool m with
            hSame | ⟨fresh, hLength, hFresh⟩
          · rw [hSame]
            exact ⟨freed, [], rfl⟩
          · rw [hFresh]
            refine ⟨freed, [.activate fresh], ?_⟩
            simp [Run.after, step, CanActivate, hActive,
              hLength]
      | false =>
          refine ⟨freed, [], ?_⟩
          simp [Run.after, Pool.setActive, bind, Op.bind,
            Op.get, hActive, pure, Op.pure]

theorem reaches_tryAcquire
    (p : Pool)
    (m : Platform)
    (growing : Nat)
    (out freed : List Buffer) :
    Run.Reaches step ⟨p, growing, out, freed⟩
      ⟨(Pool.tryAcquire (p, m)).2.1, growing,
        handed (Pool.tryAcquire (p, m)).1 out, freed⟩ := by
  rcases p.take_cases with
    ⟨_, hTake⟩ | ⟨b, rest, _, _, hTake⟩ |
      ⟨_, _, _, hTake⟩ | ⟨_, _, _, hTake⟩
  · rw [Pool.tryAcquire_inactive hTake]
    exact ⟨[], rfl⟩
  · rw [Pool.tryAcquire_of_ready hTake]
    refine ⟨[.take], ?_⟩
    simp [Run.after, step, take, hTake, handed]
  · rw [Pool.tryAcquire_of_room hTake]
    rcases p.plan.allocate m with ⟨e | b, m'⟩
    · refine ⟨[.take, .giveUp], ?_⟩
      simp [Run.after, step, take, hTake, handed]
    · refine ⟨[.take, .grow b], ?_⟩
      simp [Run.after, step, take, hTake, handed]
  · rw [Pool.tryAcquire_full hTake]
    exact ⟨[], rfl⟩

/- A wait that ends without a buffer is noted. -/
theorem reaches_acquireTimeout
    (p : Pool)
    (m : Platform)
    (growing : Nat)
    (out freed : List Buffer) :
    Run.Reaches step ⟨p, growing, out, freed⟩
      ⟨(Pool.acquireTimeout (p, m)).2.1, growing,
        handed (Pool.acquireTimeout (p, m)).1 out,
        freed⟩ := by
  have hTry := reaches_tryAcquire p m growing out freed
  simp only [Pool.acquireTimeout, bind, Op.bind]
  rcases hAnswer : Pool.tryAcquire (p, m) with
    ⟨e | (_ | b), rest⟩
  · rw [hAnswer] at hTry
    exact hTry
  · rw [hAnswer] at hTry
    apply hTry.trans
    exact ⟨[.wait], rfl⟩
  · rw [hAnswer] at hTry
    exact hTry

theorem reaches_acquire
    (p : Pool)
    (m : Platform)
    (growing : Nat)
    (out freed : List Buffer) :
    Run.Reaches step ⟨p, growing, out, freed⟩
      ⟨(Pool.acquire (p, m)).2.1, growing,
        handed ((Pool.acquire (p, m)).1.map some) out,
        freed⟩ := by
  have hTimeout :=
    reaches_acquireTimeout p m growing out freed
  simp only [Pool.acquire, bind, Op.bind]
  rcases hAnswer : Pool.acquireTimeout (p, m) with
    ⟨e | (_ | b), rest⟩
  · rw [hAnswer] at hTimeout
    exact hTimeout
  · rw [hAnswer] at hTimeout
    exact hTimeout
  · rw [hAnswer] at hTimeout
    exact hTimeout

/- A buffer that comes back is one that was handed out. -/
theorem reaches_release
    (p : Pool)
    (m : Platform)
    (growing : Nat)
    {out : List Buffer}
    (freed : List Buffer)
    {place : Nat}
    {b : Buffer}
    (hPlace : out[place]? = some b) :
    ∃ freed',
      Run.Reaches step ⟨p, growing, out, freed⟩
        ⟨((Pool.release b : Op ε _ Unit) (p, m)).2.1,
          growing, out.eraseIdx place, freed'⟩ := by
  cases hActive : p.active with
  | true =>
      refine ⟨freed, [.giveBack place], ?_⟩
      simp [Run.after, step, giveBack, hPlace, Pool.giveBack,
        hActive, Pool.release, bind, Op.bind, Op.within,
        Op.update, Lens.fst, pure, Op.pure]
  | false =>
      refine ⟨b :: freed, [.giveBack place], ?_⟩
      simp [Run.after, step, giveBack, hPlace, Pool.giveBack,
        hActive, Pool.release, bind, Op.bind, Op.within,
        Op.update, Lens.fst, Pool.onPlatform, Lens.snd]

end SharedPool

end Offload
