import Mathlib.Data.List.Nodup
import Offload.Proofs.Memory.BackedPool

/-
  The life of a pool.

  What every state of a pool shows to those who hold its
  buffers, and what is left when the pool is at rest: the
  counter is zero, and each region that was ever allocated
  for the pool was freed once. The device has none of them
  in use, and counts no more than what is elsewhere and one
  free for each.

  Key definitions include:
    * `BackedPool.AtRest`
    * `BackedPool.Settled`
    * `BackedPool.Lawful`

  Main results:
    * `BackedPool.Backed.lawful`
    * `BackedPool.lawful_run`
-/

namespace Offload

namespace BackedPool

------------------------------------------------------------
-- What the Invariant Says
------------------------------------------------------------

/-
  A pool that is inactive, with no buffer handed out and
  nothing on the way.
-/
structure AtRest
    (s : BackedPool) : Prop where
  inactive : s.shared.pool.active = false
  back : s.shared.out = []
  grown : s.shared.growing = 0
  drawn : s.raw = []
  entered : s.stock = []
  left : s.leaving = []

/-
  What a pool leaves behind. Nothing is counted, and of all
  regions that were allocated for it each was freed once, or
  its release was refused. The device has no region in use
  that was freed, and has counted each of them. Its bytes in
  use are those of the refused releases beside what is
  elsewhere.
-/
structure Settled
    (s : BackedPool) : Prop where
  uncounted : s.shared.pool.allocated = 0
  all : (s.freed ++ s.refused).Perm s.made
  once : ∀ r ∈ s.made, (s.freed ++ s.refused).count r = 1
  released :
    ∀ r ∈ s.freed,
      s.platform.device.isReleased r.addr = true
  used :
    ∀ t,
      s.platform.device.used t =
        s.elsewhere.used t + Region.bytesOn t s.refused
  frees :
    s.platform.device.counters.frees =
      s.elsewhere.frees + s.freed.length

/-
  A state of a pool as its holders see it. The counter is
  what there is, so nothing is subtracted from it that it
  does not have. No buffer is in two places, no region is in
  two buffers, all of them are in use on the device, and
  buffers handed out have the size and the layout of the
  pool. An acquisition finds nothing only if as many buffers
  as there may be are handed out or being allocated. At rest
  all is settled, on the device as well.
-/
structure Lawful
    (s : BackedPool) : Prop where
  balance :
    s.shared.pool.stats.allocated =
      s.shared.pool.stats.available + s.shared.out.length +
        s.shared.growing
  inUse :
    s.shared.pool.stats.inUse =
      s.shared.out.length + s.shared.growing
  idleCounted :
    s.shared.pool.idle.length ≤ s.shared.pool.allocated
  outCounted :
    s.shared.out ≠ [] → 0 < s.shared.pool.allocated
  growingCounted :
    0 < s.shared.growing → 0 < s.shared.pool.allocated
  drained :
    s.shared.pool.active = false → s.shared.pool.idle = []
  once : (s.shared.pool.idle ++ s.shared.out).Nodup
  apart :
    (((s.shared.pool.idle ++ s.shared.out).flatMap
      Buffer.handles).map Handle.addr).Nodup
  live :
    ∀ b ∈ s.shared.pool.idle ++ s.shared.out,
      ∀ h ∈ b.handles, s.platform.device.Lists h.region
  shaped :
    ∀ b ∈ s.shared.out,
      b.size = s.plan.bufferSize ∧ b.layout = s.plan.layout
  full :
    ∀ m, (Pool.tryAcquire (s.shared.pool, m)).1 = .ok none →
      s.plan.most ≤ s.shared.out.length + s.shared.growing
  returned :
    s.shared.pool.active = false →
      s.shared.out = [] →
        s.shared.pool.allocated = s.shared.growing
  atRest : s.AtRest → s.Settled

section Lawful

variable {s : BackedPool}

/- No region has two handles. -/
theorem Backed.apart
    (h : s.Backed) : (s.held.map Handle.addr).Nodup := by
  have hNodup :=
    (h.conserved.map Region.addr).nodup_iff.mpr h.distinct
  rw [kept, List.append_assoc, List.map_append,
    List.map_map] at hNodup
  exact (List.nodup_append.mp hNodup).1

/- Lists that share nothing belong to different things. -/
theorem nodup_of_flatMap
    {α β : Type}
    {f : α → List β}
    {xs : List α}
    (hSome : ∀ x, f x ≠ [])
    (h : (xs.flatMap f).Nodup) : xs.Nodup := by
  apply (List.nodup_flatMap.mp h).2.imp
  intro a b hDisjoint hEq
  subst hEq
  rcases List.exists_mem_of_ne_nil _ (hSome a) with ⟨y, hMem⟩
  exact hDisjoint hMem hMem

theorem Backed.apart_buffers
    (h : s.Backed) :
    (((s.shared.pool.idle ++ s.shared.out).flatMap
      Buffer.handles).map Handle.addr).Nodup := by
  have hAddrs :
      ((s.shared.pool.idle ++ s.shared.out).flatMap
          Buffer.handles).map Handle.addr =
        ((s.shared.pool.idle ++ s.shared.out).flatMap
          Buffer.bares).map Handle.addr := by
    simp only [List.map_flatMap, Buffer.handles,
      Buffer.bares, List.map_map]
    rfl
  rw [hAddrs]
  apply List.Nodup.sublist _ h.apart
  apply List.Sublist.map
  simp only [held, buffers, List.flatMap_append,
    List.append_assoc]
  exact
    (List.Sublist.refl _).append
      (List.sublist_append_left _ _)

/- Buffers in the pool or handed out have regions in use. -/
theorem Backed.lists
    (h : s.Backed)
    {b : Buffer}
    (hMem : b ∈ s.shared.pool.idle ++ s.shared.out)
    {x : Handle}
    (hHandle : x ∈ b.handles) :
    s.platform.device.Lists x.region := by
  have hBare : x.bare ∈ b.bares := by
    rw [← b.bares_handles]
    exact List.mem_map_of_mem hHandle
  have hHeld : x.bare ∈ s.held := by
    apply List.mem_append_left
    apply List.mem_append_left
    exact
      List.mem_flatMap.mpr
        ⟨b, List.mem_append_left _ hMem, hBare⟩
  apply h.live x.region
  apply List.mem_append_left
  exact List.mem_map.mpr ⟨x.bare, hHeld, rfl⟩

/- A pool at rest holds nothing, and leaves all settled. -/
theorem Backed.atRest
    (h : s.Backed)
    (hRest : s.AtRest) : s.Settled := by
  have hIdle := h.counted.drained hRest.inactive
  have hKept : s.kept = s.refused := by
    simp [kept, held, buffers, hIdle, hRest.back,
      hRest.entered, hRest.drawn, hRest.left]
  have hGone : (s.freed ++ s.refused).Perm s.made := by
    have hConserved := h.conserved
    rw [hKept] at hConserved
    exact List.perm_append_comm.trans hConserved
  constructor
  · have hBalance := h.counted.balance
    rw [Pool.available, hIdle, hRest.back, hRest.grown]
      at hBalance
    exact hBalance
  · exact hGone
  · intro r hMem
    rw [hGone.count_eq]
    exact List.count_eq_one_of_mem h.distinct.of_map hMem
  · exact h.released
  · intro t
    rw [h.used, share, hKept]
  · exact h.frees

theorem Backed.lawful
    (h : s.Backed) : s.Lawful := by
  have hBalance := h.counted.balance
  have hApart := h.apart_buffers
  constructor
  · exact hBalance
  · simp only [Pool.stats]
    omega
  · simp only [Pool.available] at hBalance
    omega
  · intro hOut
    have hLength := List.length_pos_of_ne_nil hOut
    omega
  · intro hGrowing
    omega
  · exact h.counted.drained
  · apply nodup_of_flatMap _ hApart.of_map
    exact fun b => List.cons_ne_nil _ _
  · exact hApart
  · exact fun b hMem x hHandle => h.lists hMem hHandle
  · intro b hMem
    have hLayout : b.layout = s.plan.layout := by
      apply h.shaped
      simp [buffers, hMem]
    refine ⟨?_, hLayout⟩
    rw [b.size_eq, hLayout]
    rfl
  · intro m hNone
    rcases Pool.full_of_none hNone with ⟨hIdle, hFull⟩
    rw [Pool.available, hIdle] at hBalance
    exact Nat.le_trans hFull (by simp at hBalance; omega)
  · intro hInactive hBack
    have hIdle := h.counted.drained hInactive
    rw [Pool.available, hIdle, hBack] at hBalance
    simpa using hBalance
  · exact h.atRest

------------------------------------------------------------
-- Refusals
------------------------------------------------------------

/-
  A release is refused only if a failure of freeing is
  planned.
-/
theorem Backed.refused_step
    (h : s.Backed)
    (hFree : s.platform.faults .free = [])
    (e : Event) : (step e s).refused = s.refused := by
  rcases (step_kept s e).2.1 with hSame | ⟨place, rfl⟩
  · exact hSame
  · rw [step]
    cases hPlace : s.leaving[place]? with
    | none =>
        unfold BackedPool.drop
        rw [hPlace]
    | some x =>
        rcases h.drop_cases hPlace with
          ⟨m, ⟨_, hDrop⟩ | ⟨_, hPlanned, _⟩⟩
        · rw [hDrop]
        · exact absurd hFree hPlanned

end Lawful

------------------------------------------------------------
-- Whole Runs
------------------------------------------------------------

/- Whatever threads and others do, a pool stays backed. -/
theorem backed_run
    {allocator : Allocator}
    {least most : Nat}
    {flags : MemoryFlags}
    {sizes : List Nat}
    {names : List String}
    {p : Pool}
    (hCreate :
      Pool.create allocator least most flags sizes names =
        .ok p)
    (m : Platform)
    (es : List Event) :
    ∀ s ∈ Run.states step es (of p m),
      s.Backed ∧ s.plan = p.plan := by
  rcases Pool.create_ok hCreate with
    ⟨_, _, _, _, _, hIdle, hAllocated⟩
  apply Run.forall_states
  · intro s e h
    exact
      ⟨backed_step s e h.1, (step_kept s e).1.trans h.2⟩
  · exact ⟨backed_of hIdle hAllocated m, rfl⟩

/-
  Whatever threads and others do, all states of a pool are
  lawful. While no failure of freeing is planned, no release
  is refused, and without others what is elsewhere stays
  what the device had at first.
-/
theorem lawful_run
    {allocator : Allocator}
    {least most : Nat}
    {flags : MemoryFlags}
    {sizes : List Nat}
    {names : List String}
    {p : Pool}
    (hCreate :
      Pool.create allocator least most flags sizes names =
        .ok p)
    (m : Platform)
    (es : List Event) :
    (∀ s ∈ Run.states step es (of p m),
        s.Lawful ∧ s.plan = p.plan) ∧
      ((∀ s ∈ Run.states step es (of p m),
          s.platform.faults .free = []) →
        ∀ s ∈ Run.states step es (of p m),
          s.refused = []) ∧
      ((∀ e ∈ es, ∀ m', e ≠ .others m') →
        ∀ s ∈ Run.states step es (of p m),
          s.elsewhere = Elsewhere.of m.device) := by
  have hBacked := backed_run hCreate m es
  refine ⟨?_, ?_, ?_⟩
  · intro s hMem
    exact ⟨(hBacked s hMem).1.lawful, (hBacked s hMem).2⟩
  · intro hFree
    apply Run.forall_states_of_moves
    · rfl
    · intro s e hMove hNone
      have hMem := (Run.mem_states_of_mem_moves hMove).1
      rw [(hBacked s hMem).1.refused_step (hFree s hMem) e]
      exact hNone
  · intro hAlone
    apply Run.forall_states_of_moves
    · rfl
    · intro s e hMove hFirst
      rcases (step_kept s e).2.2 with hSame | ⟨m', hOther⟩
      · exact hSame.trans hFirst
      · exact
          absurd hOther
            (hAlone e (Run.event_mem_of_mem_moves hMove) m')

/- A buffer of one page that is mapped. -/
def mappedPage
    (addr : Nat)
    (mapping : Mapping) : Buffer :=
  ⟨⟨SegmentSpec.parentName,
      ⟨⟨addr, 4096, .generic, .uncached⟩, .allocated,
        some mapping⟩⟩,
    [], ⟨0⟩⟩

/- The buffer of an activation. -/
def firstPage : Buffer :=
  mappedPage (Device.windowBase + 4096) ⟨0, 1, 0, 4096, 0⟩

/- The buffer that the pool grows by. -/
def secondPage : Buffer :=
  mappedPage (Device.windowBase + 8192) ⟨1, 2, 0, 4096, 0⟩

/- A fresh device whose first mapping fails. -/
def unmappedOnce : Platform :=
  ⟨Device.fresh .usual Device.defaultCapacity,
    FaultPlan.none.arm .map 1, Telemetry.empty⟩

/-
  After an allocation whose mapping fails, one buffer is
  made for an activation and one on demand. The one on
  demand is still being made when the pool is deactivated,
  and both come back after that.
-/
def outlived : List Event :=
  [.claim, .finish 0, .drop 0, .claim, .finish 0,
    .activate [firstPage], .take, .take, .claim, .finish 0,
    .deactivate, .grow secondPage, .use 0, .giveBack 1,
    .drop 0, .giveBack 0, .drop 0]

/- A pool that is outlived by its buffers comes to rest. -/
theorem outlived_lawful :
    ∃ p,
      SharedPool.pagePool 1 2 = .ok p ∧
        (∀ s ∈ Run.states step outlived (of p unmappedOnce),
          s.Lawful ∧ s.refused = []) ∧
          let s := Run.after step outlived (of p unmappedOnce)
          s.AtRest ∧ s.freed.length = 3 ∧
            s.platform.device.counters.frees = 3 ∧
              s.platform.device.regions = [] ∧
                s.platform.device.used .generic = 0 := by
  have hCreate : SharedPool.pagePool 1 2 = .ok _ := rfl
  have hRun := lawful_run hCreate unmappedOnce outlived
  refine ⟨_, hCreate, ?_, ?_, ?_⟩
  · intro s hMem
    refine ⟨(hRun.1 s hMem).1, hRun.2.1 ?_ s hMem⟩
    decide +kernel
  · constructor <;> decide +kernel
  · refine ⟨?_, ?_, ?_, ?_⟩ <;> decide +kernel

end BackedPool

end Offload
