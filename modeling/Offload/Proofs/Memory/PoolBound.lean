import Offload.Proofs.Memory.SharedPool

/-
  How many buffers a pool has at most.

  Growing on demand looks at the bound before it allocates.
  An activation does not: it adds the least number of
  buffers whatever is still out. The bound therefore holds
  exactly as long as every activation finds that what is out
  and the least number fit into it together.

  Key definitions include:
    * `SharedPool.reactivation`
    * `SharedPool.reactivate`

  Main results:
    * `SharedPool.allocated_le_most_iff`
    * `SharedPool.reactivation_exceeds_most`
-/

namespace Offload

------------------------------------------------------------
-- Creation
------------------------------------------------------------

/- What the request for a pool has to do with the pool. -/
theorem Pool.create_ok
    {allocator : Allocator}
    {least most : Nat}
    {flags : MemoryFlags}
    {sizes : List Nat}
    {names : List String}
    {p : Pool}
    (h :
      create allocator least most flags sizes names =
        .ok p) :
    0 < most ∧ least ≤ most ∧ p.plan.least = least ∧
      p.plan.most = most ∧ p.active = false ∧
      p.idle = [] ∧ p.allocated = 0 := by
  unfold create at h
  split at h
  · cases h
  · rename_i hFault
    cases h
    have hBounds : ¬ (most = 0 ∨ least > most) := by
      intro hBad
      simp [requestFault, hBad] at hFault
    exact ⟨by omega, by omega, rfl, rfl, rfl, rfl, rfl⟩

------------------------------------------------------------
-- The Bound
------------------------------------------------------------

namespace SharedPool

/- Every state of a run is counted and keeps the plan. -/
theorem counted_of_mem_states
    {p : Pool}
    (hIdle : p.idle = [])
    (hAllocated : p.allocated = 0)
    (es : List Event) :
    ∀ s ∈ Run.states step es (of p),
      s.Counted ∧ s.pool.plan = p.plan := by
  apply Run.forall_states
  · intro s e h
    exact
      ⟨counted_step s e h.1, (plan_step e s).trans h.2⟩
  · exact ⟨counted_of hIdle hAllocated, rfl⟩

/-
  All through a run a pool has at most as many buffers as it
  may have exactly if every activation that goes through
  finds room: the buffers that are out or being allocated,
  and the least number, are no more than the most.
-/
theorem allocated_le_most_iff
    {allocator : Allocator}
    {least most : Nat}
    {flags : MemoryFlags}
    {sizes : List Nat}
    {names : List String}
    {p : Pool}
    (hCreate :
      Pool.create allocator least most flags sizes names =
        .ok p)
    (es : List Event) :
    (∀ s ∈ Run.states step es (of p),
        s.pool.stats.allocated ≤ most) ↔
      ∀ s fresh,
        (s, .activate fresh) ∈ Run.moves step es (of p) →
          s.CanActivate fresh →
            s.out.length + s.growing + least ≤ most := by
  rcases Pool.create_ok hCreate with
    ⟨_, _, hLeast, hMost, _, hIdle, hAllocated⟩
  have hCounted :=
    counted_of_mem_states hIdle hAllocated es
  constructor
  · intro hBound s fresh hMove hCan
    have hStates := Run.mem_states_of_mem_moves hMove
    have hBefore := hCounted s hStates.1
    have hAfter := hBound _ hStates.2
    have hAll := allocated_activate hBefore.1 hCan
    rw [hBefore.2, hLeast] at hAll
    rw [← hAll]
    exact hAfter
  · intro hRoom
    apply Run.forall_states_of_moves
    · change p.allocated ≤ most
      omega
    · intro s e hMove hBound
      have hStates := Run.mem_states_of_mem_moves hMove
      have hBefore := hCounted s hStates.1
      change s.pool.allocated ≤ most at hBound
      change (step e s).pool.allocated ≤ most
      by_cases hActivates :
          ∃ fresh, e = .activate fresh ∧ s.CanActivate fresh
      · rcases hActivates with ⟨fresh, rfl, hCan⟩
        rw [allocated_activate hBefore.1 hCan, hBefore.2,
          hLeast]
        exact hRoom s fresh hMove hCan
      · have hOther :
            ∀ fresh, e = .activate fresh →
              ¬ s.CanActivate fresh := by
          intro fresh hEq hCan
          exact hActivates ⟨fresh, hEq, hCan⟩
        have hMostAt : s.pool.plan.most = most := by
          rw [hBefore.2, hMost]
        have hStep := allocated_step_le hOther (by omega)
        omega

------------------------------------------------------------
-- Activating Again
------------------------------------------------------------

/- The request for a pool of plain buffers of one page. -/
def pagePool
    (least most : Nat) : Except Error Pool :=
  Pool.create ⟨"plain", .contiguous⟩ least most ⟨0⟩ [4096] []

/- A buffer of one page. -/
def page
    (addr : Nat) : Buffer :=
  ⟨⟨SegmentSpec.parentName,
      Handle.ofRegion ⟨addr, 4096, .generic, .uncached⟩
        .allocated⟩,
    [], ⟨0⟩⟩

/- Activate again while one buffer is handed out. -/
def reactivation : List Event :=
  [.activate [page 4096], .take, .deactivate,
    .activate [page 8192]]

/- With room for both, activating again keeps the bound. -/
theorem reactivation_within_most :
    ∃ p,
      pagePool 1 2 = .ok p ∧
        ∀ s ∈ Run.states step reactivation (of p),
          s.pool.stats.allocated ≤ 2 := by
  have hCreate : pagePool 1 2 = .ok _ := rfl
  refine ⟨_, hCreate, ?_⟩
  apply (allocated_le_most_iff hCreate reactivation).mpr
  intro s fresh hMove _
  simp [reactivation, Run.moves] at hMove
  rcases hMove with ⟨rfl, _⟩ | ⟨rfl, _⟩
  · decide
  · decide

/- The operations on a pool that `reactivation` stands for. -/
def reactivate : Op Error (Pool × Platform) Unit := do
  Pool.setActive true
  discard Pool.tryAcquire
  Pool.setActive false
  Pool.setActive true

/-
  A pool that may have one buffer has two after it was
  activated again while its buffer was handed out.
-/
theorem reactivation_exceeds_most :
    ∃ p,
      pagePool 1 1 = .ok p ∧
        ¬ (Op.exec reactivate
            (p, Platform.fresh
              Device.defaultCapacity)).1.stats.allocated ≤
          1 := by
  refine ⟨_, rfl, ?_⟩
  decide +kernel

end SharedPool

end Offload
