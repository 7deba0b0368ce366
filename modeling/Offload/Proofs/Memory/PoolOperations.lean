import Offload.Proofs.Op
import Offload.Proofs.Memory.PoolLife

/-
  Operations on a pool as runs of events.

  Each operation on a pool, done from its beginning to its
  end by one thread, comes to events of a backed pool that
  leave nothing on the way. What is proved of all runs
  therefore holds of any sequence of operations.

  Key definitions include:
    * `BackedPool.Leads`
    * `BackedPool.Does`

  Main results:
    * `BackedPool.does_setActive`
    * `BackedPool.does_tryAcquire`
    * `BackedPool.does_acquireTimeout`
    * `BackedPool.does_acquire`
    * `BackedPool.does_release`
    * `BackedPool.does_close`
    * `BackedPool.Does.lawful`
-/

namespace Offload

variable {ε : Type}

------------------------------------------------------------
-- Releases
------------------------------------------------------------

namespace BackedPool

variable {s : BackedPool}

theorem reaches_event
    (e : Event)
    (s : BackedPool) : Run.Reaches step s (step e s) :=
  Run.reaches_step e s

------------------------------------------------------------
-- On the Platform
------------------------------------------------------------

/-
  Events lead from a state to one with this platform, these
  buffers outside of the pool and these handles to release.
  Only what was noted may differ beside them.
-/
def Leads
    (s : BackedPool)
    (m : Platform)
    (stock : List Buffer)
    (leaving : List Handle) : Prop :=
  ∃ made freed refused,
    Run.Reaches step s
      { s with
        platform := m
        stock := stock
        leaving := leaving
        made := made
        freed := freed
        refused := refused }

theorem Leads.refl
    (s : BackedPool) :
    s.Leads s.platform s.stock s.leaving :=
  ⟨s.made, s.freed, s.refused, .refl s⟩

theorem Leads.trans
    {m m' : Platform}
    {stock stock' : List Buffer}
    {leaving leaving' : List Handle}
    (h : s.Leads m stock leaving)
    (hNext :
      ∀ made freed refused,
        Leads
          { s with
            platform := m
            stock := stock
            leaving := leaving
            made := made
            freed := freed
            refused := refused }
          m' stock' leaving') :
    s.Leads m' stock' leaving' := by
  rcases h with ⟨made, freed, refused, hReaches⟩
  rcases hNext made freed refused with
    ⟨made', freed', refused', hReaches'⟩
  exact ⟨made', freed', refused', hReaches.trans hReaches'⟩

/- What is recorded is an event of its own. -/
theorem Leads.recorded
    {m m' : Platform}
    {stock : List Buffer}
    {leaving : List Handle}
    (h : s.Leads m stock leaving)
    (hSame : m'.device = m.device ∧ m'.faults = m.faults) :
    s.Leads m' stock leaving := by
  apply h.trans
  intro made freed refused
  have hNote :
      m' = { m with telemetry := m'.telemetry } := by
    rw [← hSame.1, ← hSame.2]
  rw [hNote]
  exact
    ⟨made, freed, refused,
      reaches_event (.note fun _ => m'.telemetry) _⟩

/- The first handle that leaves is released. -/
theorem leads_release
    {h : Handle}
    {leaving : List Handle}
    (hLeaving : s.leaving = h :: leaving) :
    s.Leads (h.release s.platform : Except Error Unit × _).2
      s.stock leaving := by
  have hDrop : s.leaving[0]? = some h := by
    rw [hLeaving]
    rfl
  have hRest : s.leaving.eraseIdx 0 = leaving := by
    rw [hLeaving]
    rfl
  have hReaches := reaches_event (.drop 0) s
  simp only [step, drop, hDrop, hRest] at hReaches
  split at hReaches
  · exact ⟨_, _, _, hReaches⟩
  · exact ⟨_, _, _, hReaches⟩

/- Segments are released in order. -/
theorem leads_releaseAll
    (segments : List Segment)
    {leaving : List Handle}
    (hLeaving :
      s.leaving = segments.map Segment.handle ++ leaving) :
    s.Leads
      (Buffer.releaseAll segments s.platform :
        Except ε Unit × _).2
      s.stock leaving := by
  induction segments generalizing s with
  | nil =>
      have hSame : s.leaving = leaving := hLeaving
      rw [← hSame]
      exact .refl s
  | cons x rest ih =>
      rw [Buffer.releaseAll,
        Op.run_bind_of_ok (x.handle.release_ok s.platform),
        x.handle.release_run]
      apply (leads_release hLeaving).trans
      intro made freed refused
      exact ih rfl

theorem Leads.releaseAll
    {segments : List Segment}
    {m : Platform}
    {stock : List Buffer}
    {leaving : List Handle}
    (h :
      s.Leads m stock
        (segments.map Segment.handle ++ leaving)) :
    s.Leads
      (Buffer.releaseAll segments m : Except ε Unit × _).2
      stock leaving :=
  h.trans fun _ _ _ => leads_releaseAll segments rfl

/- Buffers are released in order. -/
theorem Leads.releaseBuffers
    {buffers : List Buffer}
    {m : Platform}
    {stock : List Buffer}
    {leaving : List Handle}
    (h :
      s.Leads m stock
        (buffers.flatMap Buffer.handles ++ leaving)) :
    s.Leads
      (PoolPlan.releaseAll buffers m : Except ε Unit × _).2
      stock leaving := by
  induction buffers generalizing m with
  | nil => exact h
  | cons b rest ih =>
      rw [List.flatMap_cons, List.append_assoc] at h
      rw [PoolPlan.releaseAll,
        Op.run_bind_of_ok (b.release_ok m)]
      exact ih (Leads.releaseAll h)

/- A buffer outside of the pool is given up. -/
theorem Leads.discard
    {m : Platform}
    {front : List Buffer}
    {b : Buffer}
    {stock : List Buffer}
    {leaving : List Handle}
    (h : s.Leads m (front ++ b :: stock) leaving) :
    s.Leads m (front ++ stock) (b.handles ++ leaving) := by
  apply h.trans
  intro made freed refused
  have hPlace :
      (front ++ b :: stock)[front.length]? = some b := by
    simp
  have hRest :
      (front ++ b :: stock).eraseIdx front.length =
        front ++ stock := by
    simp [List.eraseIdx_append_of_length_le]
  have hReaches :=
    reaches_event (.discard front.length)
      { s with
        platform := m
        stock := front ++ b :: stock
        leaving := leaving
        made := made
        freed := freed
        refused := refused }
  simp only [step, BackedPool.discard, hPlace, hRest] at hReaches
  exact ⟨_, _, _, hReaches⟩

/- Buffers outside of the pool are released, last first. -/
theorem Leads.discardAll
    {buffers : List Buffer}
    {m : Platform}
    {stock : List Buffer}
    {leaving : List Handle}
    (h : s.Leads m (buffers.reverse ++ stock) leaving) :
    s.Leads
      (PoolPlan.releaseAll buffers m : Except ε Unit × _).2
      stock leaving := by
  induction buffers generalizing m with
  | nil => exact h
  | cons b rest ih =>
      rw [List.reverse_cons, List.append_assoc] at h
      rw [PoolPlan.releaseAll,
        Op.run_bind_of_ok (b.release_ok m)]
      exact ih (Leads.releaseAll h.discard)

------------------------------------------------------------
-- Allocating
------------------------------------------------------------

/- The buffers outside of the pool after an allocation. -/
def entered
    (answer : Except Error Buffer)
    (stock : List Buffer) : List Buffer :=
  match answer with
  | .ok b => b :: stock
  | .error _ => stock

/- Regions are allocated and their segments assembled. -/
theorem leads_assemble
    {regions : List Region}
    {m : Platform}
    (hClaim :
      Platform.allocate s.plan.flags.target s.plan.flags.cache
          (s.plan.layout.map SegmentSpec.size) s.platform =
        (.ok regions, m))
    (hCount : s.plan.layout.length ≤ SegmentSpec.maxCount) :
    s.Leads
      (Buffer.assemble
        (Allocator.segmentsOf regions s.plan.layout)
        s.plan.flags m).2
      (entered
        (Buffer.assemble
          (Allocator.segmentsOf regions s.plan.layout)
          s.plan.flags m).1
        s.stock)
      s.leaving := by
  have hSmall :
      (Allocator.segmentsOf regions s.plan.layout).length ≤
        SegmentSpec.maxCount := by
    simp only [Allocator.segmentsOf, List.length_zipWith]
    omega
  have hReaches :=
    (reaches_event .claim s).next (.finish 0)
  simp only [step, claim, hClaim] at hReaches
  generalize
    Allocator.segmentsOf regions s.plan.layout = segments
    at hSmall hReaches ⊢
  simp only [finish, List.getElem?_cons_zero] at hReaches
  cases segments with
  | nil => exact ⟨_, _, _, hReaches⟩
  | cons parent rest =>
      simp only [Buffer.assemble,
        if_neg (Nat.not_lt_of_le hSmall), bind, Op.bind,
        Op.attempt]
      simp only at hReaches
      rcases hMap : parent.handle.map m with ⟨e | h, m'⟩
      · simp only [hMap] at hReaches
        have hGone :
            s.Leads m' s.stock
              ((parent :: rest).map Segment.handle ++
                s.leaving) :=
          ⟨_, _, _, hReaches⟩
        have hAll := Leads.releaseAll (ε := Error) hGone
        have hFailed :=
          Op.run_bind_of_ok
            (Buffer.releaseAll_ok (parent :: rest) m')
            fun _ => (Op.fail e : Op Error _ Buffer)
        simp only [bind] at hFailed
        simp only [hFailed]
        exact hAll
      · simp only [hMap] at hReaches
        exact ⟨_, _, _, hReaches⟩

/- A layout that passes its check is not too long. -/
theorem length_le_of_check
    {layout : List SegmentSpec}
    (h : Layout.check layout = .ok ()) :
    layout.length ≤ SegmentSpec.maxCount := by
  unfold Layout.check at h
  cases hFault : Layout.fault layout with
  | some text => simp [hFault] at h
  | none =>
      unfold Layout.fault at hFault
      split at hFault
      · cases hFault
      · split at hFault
        · cases hFault
        · rename_i hLength
          exact Nat.le_of_not_lt hLength

/- A buffer is allocated, or nothing is left of it. -/
theorem leads_allocateLayout
    (s : BackedPool) :
    s.Leads
      (Allocator.allocateLayout s.plan.flags s.plan.layout
        s.platform).2
      (entered
        (Allocator.allocateLayout s.plan.flags s.plan.layout
          s.platform).1
        s.stock)
      s.leaving := by
  simp only [Allocator.allocateLayout, bind, Op.bind,
    Op.ofExcept, Op.attempt]
  cases hCheck : Layout.check s.plan.layout with
  | error e => exact .refl s
  | ok _ =>
      simp only
      rcases hAllocate :
          Platform.allocate s.plan.flags.target
            s.plan.flags.cache
            (s.plan.layout.map SegmentSpec.size) s.platform
        with ⟨e | regions, m⟩
      · have hClaim := reaches_event .claim s
        simp only [step, claim, hAllocate] at hClaim
        have hRefused : s.Leads m s.stock s.leaving :=
          ⟨_, _, _, hClaim⟩
        exact hRefused.recorded ⟨rfl, rfl⟩
      · have hAssembled :=
          leads_assemble hAllocate (length_le_of_check hCheck)
        simp only
        rcases hRun :
            Buffer.assemble
              (Allocator.segmentsOf regions s.plan.layout)
              s.plan.flags m with
          ⟨e | b, m'⟩
        · rw [hRun] at hAssembled
          simp only [Op.bind, Op.attempt, hRun]
          exact hAssembled.recorded ⟨rfl, rfl⟩
        · rw [hRun] at hAssembled
          simp only [Op.bind, Op.attempt, hRun]
          exact hAssembled.recorded ⟨rfl, rfl⟩

/-
  Whether a pool without segment names has one segment with
  the name of a parent.
-/
def Plain
    (plan : PoolPlan) : Prop :=
  plan.isNamed = false →
    plan.layout =
      [⟨SegmentSpec.parentName, plan.bufferSize⟩]

theorem plain_of_create
    {allocator : Allocator}
    {least most : Nat}
    {flags : MemoryFlags}
    {sizes : List Nat}
    {names : List String}
    {p : Pool}
    (hCreate :
      Pool.create allocator least most flags sizes names =
        .ok p) : Plain p.plan := by
  unfold Pool.create at hCreate
  split at hCreate
  · cases hCreate
  · rename_i hFault
    cases hCreate
    intro hNamed
    have hNames : names.isEmpty = true := by
      simpa using hNamed
    cases sizes with
    | nil =>
        unfold Pool.requestFault at hFault
        split at hFault
        · cases hFault
        · cases hFault
    | cons size rest =>
        simp [Pool.layoutOf, hNames, PoolPlan.bufferSize,
          Layout.size, Word.total]

theorem leads_allocate
    (hPlain : Plain s.plan) :
    s.Leads (s.plan.allocate s.platform).2
      (entered (s.plan.allocate s.platform).1 s.stock)
      s.leaving := by
  have hLayout := leads_allocateLayout s
  unfold PoolPlan.allocate
  cases hNamed : s.plan.isNamed with
  | true =>
      simp only [if_true, Allocator.allocSegments]
      cases s.plan.allocator.kind with
      | segmented => exact hLayout
      | contiguous =>
          simp only
          split
          · exact hLayout
          · exact .refl s
  | false =>
      rw [if_neg (by simp), Allocator.alloc, ← hPlain hNamed]
      exact hLayout

/- The buffers outside of the pool after several allocations. -/
def enteredAll
    (answer : Except Error (List Buffer))
    (stock : List Buffer) : List Buffer :=
  match answer with
  | .ok fresh => fresh ++ stock
  | .error _ => stock

/- Several buffers are allocated, or nothing is left of them. -/
theorem leads_allocateMany
    (n : Nat)
    {fresh stock : List Buffer}
    (hPlain : Plain s.plan)
    (hStock : s.stock = fresh ++ stock) :
    s.Leads (s.plan.allocateMany n fresh s.platform).2
      (enteredAll
        (s.plan.allocateMany n fresh s.platform).1 stock)
      s.leaving := by
  induction n generalizing s fresh with
  | zero =>
      simp only [PoolPlan.allocateMany, Op.pure,
        enteredAll, ← hStock]
      exact .refl s
  | succ n ih =>
      have hOne := leads_allocate hPlain
      simp only [PoolPlan.allocateMany, bind, Op.bind, Op.attempt]
      rcases hRun : s.plan.allocate s.platform with ⟨e | b, m⟩
      · rw [hRun, hStock] at hOne
        simp only [entered] at hOne
        have hReversed :
            s.Leads m (fresh.reverse.reverse ++ stock)
              s.leaving := by
          rw [List.reverse_reverse]
          exact hOne
        have hFailed :=
          Op.run_bind_of_ok
            (PoolPlan.releaseAll_ok fresh.reverse m)
            fun _ => (Op.fail e : Op Error _ (List Buffer))
        simp only [bind] at hFailed
        simp only [hFailed]
        exact Leads.discardAll hReversed
      · rw [hRun, hStock] at hOne
        apply hOne.trans
        intro made freed refused
        exact ih hPlain rfl

------------------------------------------------------------
-- On the Pool
------------------------------------------------------------

/-
  Events lead from a state to one with this pool and this
  platform, with these buffers handed out and nothing more
  on the way than before.
-/
def Does
    (s : BackedPool)
    (out : List Buffer)
    (r : Pool × Platform) : Prop :=
  ∃ gone made freed refused,
    Run.Reaches step s
      { s with
        shared := ⟨r.1, s.shared.growing, out, gone⟩
        platform := r.2
        made := made
        freed := freed
        refused := refused }

theorem Does.recorded
    {out : List Buffer}
    {p : Pool}
    {m m' : Platform}
    (h : s.Does out (p, m))
    (hSame : m'.device = m.device ∧ m'.faults = m.faults) :
    s.Does out (p, m') := by
  rcases h with ⟨gone, made, freed, refused, hReaches⟩
  have hNote :=
    (Leads.refl
      { s with
        shared := ⟨p, s.shared.growing, out, gone⟩
        platform := m
        made := made
        freed := freed
        refused := refused }).recorded hSame
  rcases hNote with ⟨made', freed', refused', hNote⟩
  exact
    ⟨gone, made', freed', refused', hReaches.trans hNote⟩

/- The platform is used after an event of the pool. -/
theorem Does.of_leads
    {p : Pool}
    {m m' : Platform}
    {out gone : List Buffer}
    {stock : List Buffer}
    {leaving : List Handle}
    {made freed refused : List Region}
    (hFirst :
      Run.Reaches step s
        ⟨⟨p, s.shared.growing, out, gone⟩, m, s.raw, stock,
          leaving, made, freed, refused, s.elsewhere⟩)
    (hLeads :
      Leads
        ⟨⟨p, s.shared.growing, out, gone⟩, m, s.raw, stock,
          leaving, made, freed, refused, s.elsewhere⟩
        m' s.stock s.leaving) :
    s.Does out (p, m') := by
  rcases hLeads with ⟨made', freed', refused', hNext⟩
  exact
    ⟨gone, made', freed', refused', hFirst.trans hNext⟩

/- An acquisition takes a buffer, makes one or finds none. -/
theorem does_tryAcquire
    (hPlain : Plain s.plan) :
    s.Does
      (SharedPool.handed
        (Pool.tryAcquire (s.shared.pool, s.platform)).1
        s.shared.out)
      (Pool.tryAcquire (s.shared.pool, s.platform)).2 := by
  have hTaken := reaches_event .take s
  simp only [step, SharedPool.step, SharedPool.take] at hTaken
  rcases s.shared.pool.take_cases with
    ⟨_, hTake⟩ | ⟨b, rest, _, _, hTake⟩ |
      ⟨_, _, _, hTake⟩ | ⟨_, _, _, hTake⟩
  · rw [Pool.tryAcquire_inactive hTake]
    exact ⟨_, _, _, _, .refl s⟩
  · rw [Pool.tryAcquire_of_ready hTake]
    simp only [hTake] at hTaken
    have hDoes : s.Does (b :: s.shared.out) (_, s.platform) :=
      ⟨_, _, _, _, hTaken⟩
    exact hDoes.recorded ⟨rfl, rfl⟩
  · rw [Pool.tryAcquire_of_room hTake]
    simp only [hTake] at hTaken
    generalize hRoom :
      { s.shared.pool with
        allocated := s.shared.pool.allocated + 1 } = q
        at hTaken
    have hOne :=
      leads_allocate
        (s :=
          { s with
            shared :=
              ⟨q, s.shared.growing + 1, s.shared.out,
                s.shared.freed⟩ })
        (by subst hRoom; exact hPlain)
    simp only [plan] at hOne
    rcases hRun : q.plan.allocate s.platform with ⟨e | b, m⟩
    · rw [hRun] at hOne
      rcases hOne with ⟨made, freed, refused, hOne⟩
      have hAll := (hTaken.trans hOne).next .giveUp
      simp only [step, SharedPool.step, Nat.succ_pos,
        if_true, Nat.add_sub_cancel] at hAll
      exact ⟨_, _, _, _, hAll⟩
    · rw [hRun] at hOne
      rcases hOne with ⟨made, freed, refused, hOne⟩
      have hAll := (hTaken.trans hOne).next (.grow b)
      simp only [step, entered, SharedPool.step,
        Nat.succ_pos, List.mem_cons_self, and_self, if_true,
        Nat.add_sub_cancel, List.erase_cons_head] at hAll
      have hDoes : s.Does (b :: s.shared.out) (_, m) :=
        ⟨_, _, _, _, hAll⟩
      exact hDoes.recorded ⟨rfl, rfl⟩
  · rw [Pool.tryAcquire_full hTake]
    exact ⟨_, _, _, _, .refl s⟩

/- A wait that ends without a buffer is noted. -/
theorem does_acquireTimeout
    (hPlain : Plain s.plan) :
    s.Does
      (SharedPool.handed
        (Pool.acquireTimeout (s.shared.pool, s.platform)).1
        s.shared.out)
      (Pool.acquireTimeout
        (s.shared.pool, s.platform)).2 := by
  have hTry := does_tryAcquire hPlain
  simp only [Pool.acquireTimeout, bind, Op.bind]
  rcases hAnswer :
      Pool.tryAcquire (s.shared.pool, s.platform) with
    ⟨e | (_ | b), p, m⟩
  · rw [hAnswer] at hTry
    exact hTry
  · rw [hAnswer] at hTry
    rcases hTry with ⟨gone, made, freed, refused, hReaches⟩
    have hWait : s.Does s.shared.out (p.noteWait, m) :=
      ⟨_, _, _, _, hReaches.next .wait⟩
    exact hWait.recorded ⟨rfl, rfl⟩
  · rw [hAnswer] at hTry
    exact hTry

theorem does_acquire
    (hPlain : Plain s.plan) :
    s.Does
      (SharedPool.handed
        ((Pool.acquire (s.shared.pool, s.platform)).1.map
          some)
        s.shared.out)
      (Pool.acquire (s.shared.pool, s.platform)).2 := by
  have hTimeout := does_acquireTimeout hPlain
  simp only [Pool.acquire, bind, Op.bind]
  rcases hAnswer :
      Pool.acquireTimeout (s.shared.pool, s.platform) with
    ⟨e | (_ | b), rest⟩
  · rw [hAnswer] at hTimeout
    exact hTimeout
  · rw [hAnswer] at hTimeout
    exact hTimeout
  · rw [hAnswer] at hTimeout
    exact hTimeout

/- A buffer that comes back is kept or released. -/
theorem does_release
    {place : Nat}
    {b : Buffer}
    (hPlace : s.shared.out[place]? = some b) :
    s.Does (s.shared.out.eraseIdx place)
      ((Pool.release b : Op ε _ Unit)
        (s.shared.pool, s.platform)).2 := by
  have hBack := reaches_event (.giveBack place) s
  simp only [step, giveBack, hPlace, SharedPool.step,
    SharedPool.giveBack] at hBack
  simp only [Pool.release, bind, Op.bind, Op.within,
    Op.update, Lens.fst]
  by_cases hActive : s.shared.pool.active = true
  · have hKept :
        s.shared.pool.giveBack b =
          (true,
            { s.shared.pool with
              idle := b :: s.shared.pool.idle }) := by
      simp only [Pool.giveBack, hActive, if_true]
    simp only [hKept, hActive, if_true] at hBack ⊢
    exact ⟨_, _, _, _, hBack⟩
  · have hFreed :
        s.shared.pool.giveBack b =
          (false,
            { s.shared.pool with
              allocated := s.shared.pool.allocated - 1 }) := by
      simp only [Pool.giveBack, hActive,
        Bool.false_eq_true, if_false]
    simp only [hFreed, hActive, Bool.false_eq_true,
      if_false] at hBack ⊢
    exact Does.of_leads hBack (Leads.refl _).releaseAll

/- A pool that is deactivated releases its idle buffers. -/
theorem does_stop
    (hActive : s.shared.pool.active = true) :
    s.Does s.shared.out
      ((Pool.stop : Op ε _ Unit)
        (s.shared.pool, s.platform)).2 := by
  have hStopped := reaches_event .deactivate s
  simp only [step, SharedPool.step, hActive, if_true]
    at hStopped
  simp only [Pool.stop, bind, Op.bind, Op.get,
    Pool.onPlatform, Op.within, Lens.snd, Lens.fst,
    Op.update]
  have hDoes :=
    Does.of_leads hStopped
      (Leads.releaseBuffers (ε := ε) (Leads.refl _))
  simp only [PoolPlan.releaseAll_ok]
  exact hDoes.recorded ⟨rfl, rfl⟩

theorem diff_append_left
    (front stock : List Buffer) :
    (front ++ stock).diff front = stock := by
  induction front with
  | nil => rfl
  | cons b rest ih =>
      rw [List.cons_append, List.diff_cons,
        List.erase_cons_head, ih]

/- A pool is activated with all that it lacks or not at all. -/
theorem does_start
    (hPlain : Plain s.plan)
    (hInactive : s.shared.pool.active = false) :
    s.Does s.shared.out
      (Pool.start (s.shared.pool, s.platform)).2 := by
  have hMany :=
    leads_allocateMany
      (s.plan.least - s.shared.pool.available) hPlain
      (List.nil_append s.stock).symm
  simp only [plan] at hMany
  simp only [Pool.start, bind, Op.bind, Op.get, Pool.onPlatform,
    Op.within, Lens.snd]
  rcases hRun :
      s.shared.pool.plan.allocateMany
        (s.shared.pool.plan.least - s.shared.pool.available) []
        s.platform with ⟨e | fresh, m⟩
  · rw [hRun] at hMany
    rcases hMany with ⟨made, freed, refused, hReaches⟩
    exact ⟨_, made, freed, refused, hReaches⟩
  · rw [hRun] at hMany
    rcases hMany with ⟨made, freed, refused, hReaches⟩
    have hLength := PoolPlan.length_allocateMany hRun
    have hCan : s.shared.CanActivate fresh :=
      ⟨hInactive, by simpa using hLength⟩
    have hAll := hReaches.next (.activate fresh)
    have hBoth :
        s.shared.CanActivate fresh ∧
          fresh.Subperm (fresh ++ s.stock) :=
      ⟨hCan, (List.sublist_append_left _ _).subperm⟩
    simp only [step, enteredAll, SharedPool.step,
      if_pos hBoth, if_pos hCan, diff_append_left] at hAll
    have hDoes : s.Does s.shared.out (_, m) :=
      ⟨_, _, _, _, hAll⟩
    exact hDoes.recorded ⟨rfl, rfl⟩

theorem does_setActive
    (hPlain : Plain s.plan)
    (active : Bool) :
    s.Does s.shared.out
      (Pool.setActive active
        (s.shared.pool, s.platform)).2 := by
  simp only [Pool.setActive, bind, Op.bind, Op.get]
  cases hActive : s.shared.pool.active with
  | true =>
      cases active with
      | true => exact ⟨_, _, _, _, .refl s⟩
      | false => exact does_stop hActive
  | false =>
      cases active with
      | true => exact does_start hPlain hActive
      | false => exact ⟨_, _, _, _, .refl s⟩

/- A pool that is closed is deactivated first. -/
theorem does_close
    (s : BackedPool) :
    s.Does s.shared.out
      ((Pool.close : Op ε _ Unit)
        (s.shared.pool, s.platform)).2 := by
  simp only [Pool.close, bind, Op.bind, Op.get]
  by_cases hActive : s.shared.pool.active = true
  · have hWarned :=
      reaches_event
        (.note fun t =>
          t.log
            ⟨.warn, "buffer pool dropped while active",
              [("pool", s.shared.pool.plan.name)]⟩)
        s
    have hStop :=
      does_stop (ε := ε)
        (s :=
          { s with
            platform :=
              { s.platform with
                telemetry :=
                  s.platform.telemetry.log
                    ⟨.warn,
                      "buffer pool dropped while active",
                      [("pool",
                        s.shared.pool.plan.name)]⟩ } })
        hActive
    rcases hStop with ⟨gone, made, freed, refused, hStop⟩
    simp only [hActive, if_true]
    exact
      ⟨gone, made, freed, refused, hWarned.trans hStop⟩
  · simp only [hActive]
    exact ⟨_, _, _, _, .refl s⟩

/- An operation on a backed pool ends in a lawful state. -/
theorem Does.lawful
    {out : List Buffer}
    {r : Pool × Platform}
    (h : s.Does out r)
    (hBacked : s.Backed) :
    ∃ t : BackedPool,
      t.Backed ∧ t.Lawful ∧ t.shared.pool = r.1 ∧
        t.platform = r.2 ∧ t.shared.out = out := by
  rcases h with ⟨gone, made, freed, refused, hReaches⟩
  have hBacked' := hReaches.keep backed_step hBacked
  exact ⟨_, hBacked', hBacked'.lawful, rfl, rfl, rfl⟩

end BackedPool

end Offload
