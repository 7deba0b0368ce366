import Offload.Proofs.Memory.PoolBound
import Offload.Proofs.Memory.WaitedPool

/-
  Notifications that reach threads which wait for a pool.

  What a pool has to spare is never more than the threads
  that were woken and have yet to look, and those that have
  yet to notify another one, as long as any thread waits at
  all and nobody is about to wake all of them. A thread thus
  never waits beside something to find without another one
  that has to go on, and as threads go on fewer of them wait.

  Key definitions include:
    * `Pool.Answers`
    * `WaitedPool.Turn`
    * `WaitedPool.Attended`
    * `WaitedPool.Nears`
    * `WaitedPool.Fair`

  Main results:
    * `WaitedPool.step_turn`
    * `WaitedPool.Attended.turn`
    * `WaitedPool.Turn.nears`
    * `WaitedPool.Attended.not_stuck`
    * `WaitedPool.wakeup_ahead`
-/

namespace Offload

------------------------------------------------------------
-- Pools with Something to Find
------------------------------------------------------------

namespace Pool

/- The idle buffers, and the room for more. -/
def spare
    (p : Pool) : Nat :=
  p.available + (p.plan.most - p.allocated)

/-
  Whether a look at a pool would end: with its refusal, an
  idle buffer or room for one more.
-/
def Answers
    (p : Pool) : Prop :=
  p.active = false ∨ p.idle ≠ [] ∨ p.allocated < p.plan.most

/- A pool that is active answers if it has any to spare. -/
theorem answers_iff
    (p : Pool) :
    p.Answers ↔ p.active = true → 0 < p.spare := by
  have hIdle : p.idle ≠ [] ↔ 0 < p.idle.length :=
    List.length_pos_iff.symm
  unfold Answers spare available
  rw [hIdle]
  cases p.active with
  | false => simp
  | true =>
      simp only [Bool.true_eq_false, false_or, true_imp_iff]
      omega

end Pool

------------------------------------------------------------
-- Counts of Threads
------------------------------------------------------------

namespace PoolPhase

/- Whether a thread has to look at the pool or to notify. -/
def isPending : PoolPhase → Bool
  | woken | notifyOne | notifyAll => true
  | resting | growing | waiting => false

/- One for a thread that waits. -/
def waits : PoolPhase → Nat
  | waiting => 1
  | _ => 0

/- One for a thread that is about to wake all. -/
def rouses : PoolPhase → Nat
  | notifyAll => 1
  | _ => 0

/- One for a thread that takes or passes on what is spare. -/
def helps : PoolPhase → Nat
  | woken | notifyOne => 1
  | _ => 0

/- How far a thread is from having looked again. -/
def distance : PoolPhase → Nat
  | waiting => 2
  | woken => 1
  | _ => 0

/- A thread counts if the threads come to something. -/
theorem exists_of_total_pos
    {f : PoolPhase → Nat}
    {phases : List PoolPhase}
    (hPos : 0 < total f phases) :
    ∃ (t : Nat) (phase : PoolPhase),
      phases[t]? = some phase ∧ 0 < f phase := by
  rcases
      List.exists_mem_ne_zero_of_sum_ne_zero
        (Nat.ne_of_gt hPos) with
    ⟨n, hMem, hOne⟩
  rcases List.mem_map.mp hMem with ⟨phase, hPhase, rfl⟩
  rcases List.getElem?_of_mem hPhase with ⟨t, hFound⟩
  exact ⟨t, phase, hFound, Nat.pos_of_ne_zero hOne⟩

end PoolPhase

namespace WaitedPool

------------------------------------------------------------
-- Turns
------------------------------------------------------------

/- Whether a thread has to look at the pool or to notify. -/
def Pending
    (w : WaitedPool)
    (t : Nat) : Prop :=
  ∃ phase ∈ w.phases[t]?, phase.isPending = true

/-
  All that one event can come to, as far as it matters to
  threads that wait.
-/
inductive Turn
    (w : WaitedPool) : WaitedPool → Prop
  where
  | still : Turn w w
  | served
      {t : Nat}
      {old new : PoolPhase}
      {s : SharedPool}
      (hOld : w.phases[t]? = some old)
      (hLooks : old = .resting ∨ old = .woken)
      (hNew : new = .resting ∨ new = .growing)
      (hBefore : w.shared.pool.active = true)
      (hActive : s.pool.active = true)
      (hSpare : s.pool.spare + 1 = w.shared.pool.spare) :
      Turn w (w.enter s t new)
  | refused
      {t : Nat}
      {old : PoolPhase}
      (hOld : w.phases[t]? = some old)
      (hLooks : old = .resting ∨ old = .woken)
      (hInactive : w.shared.pool.active = false) :
      Turn w (w.enter w.shared t .resting)
  | full
      {t : Nat}
      {old new : PoolPhase}
      {s : SharedPool}
      (hOld : w.phases[t]? = some old)
      (hLooks : old = .resting ∨ old = .woken)
      (hNew : new = .resting ∨ new = .waiting)
      (hNone : ¬ w.shared.pool.Answers)
      (hActive : s.pool.active = true)
      (hSpare : s.pool.spare = 0) :
      Turn w (w.enter s t new)
  | grown
      {t : Nat}
      {s : SharedPool}
      (hOld : w.phases[t]? = some .growing)
      (hActive : s.pool.active = w.shared.pool.active)
      (hSpare : s.pool.spare = w.shared.pool.spare) :
      Turn w (w.enter s t .resting)
  | freed
      {t : Nat}
      {old : PoolPhase}
      {s : SharedPool}
      (hOld : w.phases[t]? = some old)
      (hBusy : old = .resting ∨ old = .growing)
      (hActive : s.pool.active = w.shared.pool.active)
      (hSpare : s.pool.spare ≤ w.shared.pool.spare + 1) :
      Turn w (w.enter s t .notifyOne)
  | activated
      {s : SharedPool}
      (hInactive : w.shared.pool.active = false) :
      Turn w ⟨s, w.phases⟩
  | deactivated
      {t : Nat}
      {s : SharedPool}
      (hOld : w.phases[t]? = some .resting) :
      Turn w (w.enter s t .notifyAll)
  | unheard
      {t : Nat}
      (hOld : w.phases[t]? = some .notifyOne)
      (hNone : .waiting ∉ w.phases) :
      Turn w (w.enter w.shared t .resting)
  | woke
      {t chosen : Nat}
      (hOld : w.phases[t]? = some .notifyOne)
      (hChosen : w.phases[chosen]? = some .waiting) :
      Turn w
        ((w.enter w.shared chosen .woken).enter w.shared t
          .resting)
  | wokeAll
      {t : Nat}
      (hOld : w.phases[t]? = some .notifyAll) :
      Turn w
        ⟨w.shared,
          (w.phases.map PoolPhase.roused).set t .resting⟩
  | stirred
      {t : Nat}
      (hOld : w.phases[t]? = some .waiting) :
      Turn w (w.enter w.shared t .woken)

/- What a look comes to. -/
theorem look_turn
    {w : WaitedPool}
    {t : Nat}
    {old : PoolPhase}
    (hOld : w.phases[t]? = some old)
    (hLooks : old = .resting ∨ old = .woken)
    (isFirst : Bool)
    (patience : Patience) :
    Turn w (w.look t isFirst patience) := by
  unfold look
  simp only [SharedPool.step, SharedPool.take]
  rcases w.shared.pool.take_cases with
    ⟨hInactive, hTake⟩ | ⟨b, rest, hActive, hIdle, hTake⟩ |
      ⟨hActive, hIdle, hRoom, hTake⟩ |
        ⟨hActive, hIdle, hFull, hTake⟩
  · simp only [hTake]
    exact .refused hOld hLooks hInactive
  · simp only [hTake]
    apply Turn.served hOld hLooks (Or.inl rfl) hActive
    · exact hActive
    · simp [Pool.spare, Pool.available, Pool.noteAcquisition,
        hIdle]
      omega
  · simp only [hTake]
    apply Turn.served hOld hLooks (Or.inr rfl) hActive
    · exact hActive
    · simp [Pool.spare, Pool.available, hIdle]
      omega
  · have hNone : ¬ w.shared.pool.Answers := by
      simp [Pool.Answers, hActive, hIdle]
      omega
    have hSpare : w.shared.pool.spare = 0 := by
      simp [Pool.spare, Pool.available, hIdle]
      omega
    simp only [hTake]
    cases patience with
    | none =>
        exact
          .full hOld hLooks (Or.inl rfl) hNone hActive hSpare
    | expired =>
        apply Turn.full hOld hLooks (Or.inl rfl) hNone <;>
          cases isFirst <;> assumption
    | waits =>
        apply Turn.full hOld hLooks (Or.inr rfl) hNone <;>
          cases isFirst <;> assumption

/- Room that is given up is spare. -/
theorem spare_giveUp
    (s : SharedPool) :
    (SharedPool.step .giveUp s).pool.active = s.pool.active ∧
      (SharedPool.step .giveUp s).pool.spare ≤
        s.pool.spare + 1 := by
  by_cases hGrowing : 0 < s.growing
  · simp only [SharedPool.step, if_pos hGrowing,
      Pool.cancelGrowth, Pool.spare, Pool.available]
    refine ⟨trivial, ?_⟩
    omega
  · simp [SharedPool.step, hGrowing]

/- A buffer that comes back is spare, or room for one. -/
theorem spare_giveBack
    (place : Nat)
    (s : SharedPool) :
    (SharedPool.step (.giveBack place) s).pool.active =
        s.pool.active ∧
      (SharedPool.step (.giveBack place) s).pool.spare ≤
        s.pool.spare + 1 := by
  simp only [SharedPool.step, SharedPool.giveBack]
  cases hPlace : s.out[place]? with
  | none => exact ⟨rfl, Nat.le_add_right _ 1⟩
  | some b =>
      cases hActive : s.pool.active with
      | true =>
          simp [Pool.giveBack, Pool.spare, Pool.available,
            hActive]
          omega
      | false =>
          simp [Pool.giveBack, Pool.spare, Pool.available,
            hActive]
          omega

/- A buffer that is handed out was not spare before. -/
theorem spare_grow
    (b : Buffer)
    (s : SharedPool) :
    (SharedPool.step (.grow b) s).pool.active =
        s.pool.active ∧
      (SharedPool.step (.grow b) s).pool.spare =
        s.pool.spare := by
  by_cases hGrowing : 0 < s.growing
  · simp only [SharedPool.step, if_pos hGrowing]
    exact ⟨rfl, rfl⟩
  · simp [SharedPool.step, hGrowing]

/- What a notification of one thread comes to. -/
theorem notifyOne_turn
    {w : WaitedPool}
    {t : Nat}
    (hOld : w.phases[t]? = some .notifyOne)
    (chosen : Nat) : Turn w (w.notifyOne t chosen) := by
  unfold notifyOne
  split
  · split
    · rename_i hChosen
      exact .woke hOld hChosen
    · exact .still
  · rename_i hNone
    exact .unheard hOld hNone

/- What events come to. -/
theorem step_turn
    (e : Event)
    (w : WaitedPool) : Turn w (step e w) := by
  cases e with
  | look t patience =>
      simp only [step]
      split
      · rename_i hOld
        exact look_turn hOld (Or.inl rfl) true patience
      · rename_i hOld
        exact look_turn hOld (Or.inr rfl) false patience
      · exact .still
  | grown t b =>
      simp only [step]
      split
      · rename_i hOld
        have hGrow := spare_grow b w.shared
        exact .grown hOld hGrow.1 hGrow.2
      · exact .still
  | failed t =>
      simp only [step]
      split
      · rename_i hOld
        have hGiveUp := spare_giveUp w.shared
        exact .freed hOld (Or.inr rfl) hGiveUp.1 hGiveUp.2
      · exact .still
  | release t place =>
      simp only [step]
      split
      · rename_i hOld _
        have hGiveBack := spare_giveBack place w.shared
        exact .freed hOld (Or.inl rfl) hGiveBack.1 hGiveBack.2
      · exact .still
  | activate t fresh =>
      simp only [step]
      split
      · by_cases hCan : w.shared.CanActivate fresh
        · exact .activated hCan.1
        · simp only [SharedPool.step, if_neg hCan]
          exact .still
      · exact .still
  | deactivate t =>
      simp only [step]
      split
      · rename_i hOld
        split
        · exact .deactivated hOld
        · exact .still
      · exact .still
  | notify t chosen =>
      simp only [step]
      split
      · rename_i hOld
        exact notifyOne_turn hOld chosen
      · rename_i hOld
        exact .wokeAll hOld
      · exact .still
  | stir t =>
      simp only [step]
      split
      · rename_i hOld
        exact .stirred hOld
      · exact .still

------------------------------------------------------------
-- Waiting Threads Are Attended
------------------------------------------------------------

/- The threads that wait. -/
def waiting
    (w : WaitedPool) : Nat :=
  PoolPhase.total PoolPhase.waits w.phases

/- The threads that are about to wake all. -/
def rousing
    (w : WaitedPool) : Nat :=
  PoolPhase.total PoolPhase.rouses w.phases

/- The threads that take or pass on what is spare. -/
def helping
    (w : WaitedPool) : Nat :=
  PoolPhase.total PoolPhase.helps w.phases

/-
  Nobody waits, or somebody is about to wake all, or there
  are at least as many threads that were woken or are about
  to wake one as the pool has to spare.
-/
def Attended
    (w : WaitedPool) : Prop :=
  w.waiting = 0 ∨ 0 < w.rousing ∨
    w.shared.pool.active = true ∧
      w.shared.pool.spare ≤ w.helping

/- Threads that are all out of the pool are attended. -/
theorem attended_of
    (p : Pool)
    (threads : Nat) : (of p threads).Attended := by
  apply Or.inl
  apply PoolPhase.total_eq_zero
  intro phase hMem
  rw [List.eq_of_mem_replicate hMem]
  rfl

section Turns

variable {w w' : WaitedPool}

/-
  Threads stay attended if no more of them wait, no fewer
  are about to wake all, and nothing becomes spare without a
  thread to take it or to pass it on.
-/
theorem Attended.keep
    (h : w.Attended)
    (hWaits : w'.waiting ≤ w.waiting)
    (hRouses : w.rousing ≤ w'.rousing)
    (hSpare :
      w.shared.pool.active = true →
        w'.shared.pool.active = true ∧
          w'.shared.pool.spare + w.helping ≤
            w.shared.pool.spare + w'.helping) :
    w'.Attended := by
  rcases h with hNobody | hAll | ⟨hActive, hFew⟩
  · exact Or.inl (by omega)
  · exact Or.inr (Or.inl (by omega))
  · rcases hSpare hActive with ⟨hActive', hSpare'⟩
    exact Or.inr (Or.inr ⟨hActive', by omega⟩)

/- One thread goes on. -/
theorem totals_enter
    {t : Nat}
    {old : PoolPhase}
    (hOld : w.phases[t]? = some old)
    (s : SharedPool)
    (new : PoolPhase) :
    (w.enter s t new).waiting + old.waits =
        w.waiting + new.waits ∧
      (w.enter s t new).rousing + old.rouses =
        w.rousing + new.rouses ∧
      (w.enter s t new).helping + old.helps =
        w.helping + new.helps :=
  ⟨PoolPhase.total_set _ hOld new,
    PoolPhase.total_set _ hOld new,
    PoolPhase.total_set _ hOld new⟩

/- Threads stay attended where one goes on. -/
theorem Attended.enter
    {t : Nat}
    {old new : PoolPhase}
    {s : SharedPool}
    (h : w.Attended)
    (hOld : w.phases[t]? = some old)
    (hWaits : new.waits ≤ old.waits)
    (hRouses : old.rouses ≤ new.rouses)
    (hSpare :
      w.shared.pool.active = true →
        s.pool.active = true ∧
          s.pool.spare + old.helps ≤
            w.shared.pool.spare + new.helps) :
    (w.enter s t new).Attended := by
  rcases totals_enter hOld s new with
    ⟨hWaiting, hRousing, hHelping⟩
  apply h.keep (by omega) (by omega)
  intro hActive
  rcases hSpare hActive with ⟨hActive', hSpare'⟩
  refine ⟨hActive', ?_⟩
  change s.pool.spare + _ ≤ _
  omega

/- Nobody waits once all were roused. -/
theorem waiting_roused
    (w : WaitedPool) :
    PoolPhase.total PoolPhase.waits
        (w.phases.map PoolPhase.roused) = 0 := by
  apply PoolPhase.total_eq_zero
  intro phase hMem
  rcases List.mem_map.mp hMem with ⟨old, _, rfl⟩
  cases old <;> rfl

section Kinds

variable {t : Nat}
variable {old new : PoolPhase}
variable {s : SharedPool}

/- A thread that is served takes one of what is spare. -/
theorem Attended.served
    (h : w.Attended)
    (hOld : w.phases[t]? = some old)
    (hLooks : old = .resting ∨ old = .woken)
    (hNew : new = .resting ∨ new = .growing)
    (hActive : s.pool.active = true)
    (hSpare : s.pool.spare + 1 = w.shared.pool.spare) :
    (w.enter s t new).Attended := by
  apply h.enter hOld
  · rcases hNew with rfl | rfl <;> exact Nat.zero_le _
  · rcases hLooks with rfl | rfl <;> exact Nat.zero_le _
  · intro _
    refine ⟨hActive, ?_⟩
    rcases hLooks with rfl | rfl <;>
      simp only [PoolPhase.helps] <;> omega

/- A pool that refuses has nothing to find. -/
theorem Attended.refused
    (h : w.Attended)
    (hOld : w.phases[t]? = some old)
    (hLooks : old = .resting ∨ old = .woken)
    (hInactive : w.shared.pool.active = false) :
    (w.enter w.shared t .resting).Attended := by
  apply h.enter hOld
  · exact Nat.zero_le _
  · rcases hLooks with rfl | rfl <;> exact Nat.zero_le _
  · intro hActive
    rw [hInactive] at hActive
    cases hActive

/- A thread may start to wait where nothing is spare. -/
theorem attended_of_full
    (hActive : s.pool.active = true)
    (hSpare : s.pool.spare = 0) :
    (w.enter s t new).Attended := by
  refine Or.inr (Or.inr ⟨hActive, ?_⟩)
  exact Nat.le_trans (Nat.le_of_eq hSpare) (Nat.zero_le _)

/- A thread that has allocated leaves all that is spare. -/
theorem Attended.grown
    (h : w.Attended)
    (hOld : w.phases[t]? = some .growing)
    (hActive : s.pool.active = w.shared.pool.active)
    (hSpare : s.pool.spare = w.shared.pool.spare) :
    (w.enter s t .resting).Attended := by
  apply h.enter hOld
  · exact Nat.le_refl 0
  · exact Nat.le_refl 0
  · intro hBefore
    rw [hActive, hSpare]
    exact ⟨hBefore, Nat.le_refl _⟩

/- Whoever makes something spare is about to wake another. -/
theorem Attended.freed
    (h : w.Attended)
    (hOld : w.phases[t]? = some old)
    (hBusy : old = .resting ∨ old = .growing)
    (hActive : s.pool.active = w.shared.pool.active)
    (hSpare : s.pool.spare ≤ w.shared.pool.spare + 1) :
    (w.enter s t .notifyOne).Attended := by
  apply h.enter hOld
  · exact Nat.zero_le _
  · rcases hBusy with rfl | rfl <;> exact Nat.zero_le _
  · intro hBefore
    rw [hActive]
    refine ⟨hBefore, ?_⟩
    rcases hBusy with rfl | rfl <;> exact hSpare

/- A pool is activated where nobody relies on its activity. -/
theorem Attended.activated
    (h : w.Attended)
    (hInactive : w.shared.pool.active = false) :
    Attended ⟨s, w.phases⟩ := by
  apply h.keep
  · exact Nat.le_refl w.waiting
  · exact Nat.le_refl w.rousing
  · intro hActive
    rw [hInactive] at hActive
    cases hActive

/- Whoever deactivates a pool is about to wake all. -/
theorem attended_of_deactivated
    (hOld : w.phases[t]? = some .resting) :
    (w.enter s t .notifyAll).Attended := by
  rcases totals_enter hOld s .notifyAll with
    ⟨_, hRousing, _⟩
  simp only [PoolPhase.rouses] at hRousing
  exact Or.inr (Or.inl (by omega))

/- A notification is only lost where nobody waits. -/
theorem attended_of_unheard
    (hOld : w.phases[t]? = some .notifyOne)
    (hNone : .waiting ∉ w.phases) :
    (w.enter w.shared t .resting).Attended := by
  have hNobody : w.waiting = 0 := by
    apply PoolPhase.total_eq_zero
    intro phase hMem
    cases phase with
    | waiting => exact absurd hMem hNone
    | _ => rfl
  have hTotals := totals_enter hOld w.shared .resting
  simp only [hNobody, PoolPhase.waits] at hTotals
  exact Or.inl hTotals.1

/- The thread that was woken helps in place of the other. -/
theorem Attended.woke
    {chosen : Nat}
    (h : w.Attended)
    (hOld : w.phases[t]? = some .notifyOne)
    (hChosen : w.phases[chosen]? = some .waiting) :
    ((w.enter w.shared chosen .woken).enter w.shared t
      .resting).Attended := by
  have hLater := notifying_of_woke hOld hChosen
  have hFirst := totals_enter hChosen w.shared .woken
  have hSecond := totals_enter hLater w.shared .resting
  simp only [PoolPhase.waits, PoolPhase.rouses,
    PoolPhase.helps] at hFirst hSecond
  apply h.keep (by omega) (by omega)
  intro hActive
  refine ⟨hActive, ?_⟩
  change w.shared.pool.spare + _ ≤ _
  omega

/- Nobody waits once all were woken. -/
theorem attended_of_wokeAll
    (hOld : w.phases[t]? = some .notifyAll) :
    Attended
      ⟨w.shared,
        (w.phases.map PoolPhase.roused).set t .resting⟩ := by
  have hTotal :=
    PoolPhase.total_set PoolPhase.waits
      (notifying_of_roused hOld) .resting
  rw [waiting_roused w] at hTotal
  exact Or.inl hTotal

/- A thread that stirs by itself helps as a woken one does. -/
theorem Attended.stirred
    (h : w.Attended)
    (hOld : w.phases[t]? = some .waiting) :
    (w.enter w.shared t .woken).Attended := by
  apply h.enter hOld
  · exact Nat.zero_le _
  · exact Nat.le_refl 0
  · intro hActive
    exact ⟨hActive, Nat.le_add_right _ _⟩

end Kinds

/- Threads that wait stay attended. -/
theorem Attended.turn
    (h : w.Attended)
    (hTurn : Turn w w') : w'.Attended := by
  cases hTurn with
  | still => exact h
  | served hOld hLooks hNew _ hActive hSpare =>
      exact h.served hOld hLooks hNew hActive hSpare
  | refused hOld hLooks hInactive =>
      exact h.refused hOld hLooks hInactive
  | full _ _ _ _ hActive hSpare =>
      exact attended_of_full hActive hSpare
  | grown hOld hActive hSpare =>
      exact h.grown hOld hActive hSpare
  | freed hOld hBusy hActive hSpare =>
      exact h.freed hOld hBusy hActive hSpare
  | activated hInactive => exact h.activated hInactive
  | deactivated hOld => exact attended_of_deactivated hOld
  | unheard hOld hNone => exact attended_of_unheard hOld hNone
  | woke hOld hChosen => exact h.woke hOld hChosen
  | wokeAll hOld => exact attended_of_wokeAll hOld
  | stirred hOld => exact h.stirred hOld

/- Threads that count and do not wait include another one. -/
theorem pending_of_total_pos
    {f : PoolPhase → Nat}
    {t : Nat}
    (hCounts :
      ∀ phase, 0 < f phase → phase.isPending = true)
    (hPos : 0 < PoolPhase.total f w.phases)
    (hWaits : w.phases[t]? = some .waiting) :
    ∃ u, u ≠ t ∧ w.Pending u := by
  rcases PoolPhase.exists_of_total_pos hPos with
    ⟨u, phase, hPhase, hOne⟩
  have hPending := hCounts phase hOne
  refine ⟨u, ?_, phase, hPhase, hPending⟩
  rintro rfl
  rw [hWaits] at hPhase
  cases hPhase
  cases hPending

/-
  While a thread waits for a pool that would answer, another
  one has to look or to notify.
-/
theorem Attended.pending
    {t : Nat}
    (h : w.Attended)
    (hWaits : w.phases[t]? = some .waiting)
    (hAnswers : w.shared.pool.Answers) :
    ∃ u, u ≠ t ∧ w.Pending u := by
  have hOne : 0 < w.waiting := by
    have hTotals := totals_enter hWaits w.shared .resting
    simp only [PoolPhase.waits] at hTotals
    omega
  rcases h with hNobody | hAll | ⟨hActive, hFew⟩
  · omega
  · apply pending_of_total_pos _ hAll hWaits
    intro phase
    cases phase <;> decide
  · have hSpare :=
      (Pool.answers_iff _).mp hAnswers hActive
    have hHelp : 0 < w.helping :=
      Nat.lt_of_lt_of_le hSpare hFew
    apply pending_of_total_pos _ hHelp hWaits
    intro phase
    cases phase <;> decide

end Turns

------------------------------------------------------------
-- Distance
------------------------------------------------------------

/- How far threads are from having looked, all together. -/
def distance
    (w : WaitedPool) : Nat :=
  PoolPhase.total PoolPhase.distance w.phases

/-
  Threads get no further from having looked, and nearer when
  one that had to look or to notify has done so.
-/
structure Nears
    (w w' : WaitedPool) : Prop where
  le : w'.distance ≤ w.distance
  less :
    ∀ u, w.Pending u → ¬ w'.Pending u →
      w'.distance < w.distance

section Nearing

variable {w w' : WaitedPool}

/- One thread goes on and gets nearer if it has to. -/
theorem Nears.enter
    {t : Nat}
    {old new : PoolPhase}
    {s : SharedPool}
    (hOld : w.phases[t]? = some old)
    (hLe : new.distance ≤ old.distance)
    (hLess :
      old.isPending = true → new.isPending = false →
        new.distance < old.distance) :
    Nears w (w.enter s t new) := by
  have hTotal :
      (w.enter s t new).distance + old.distance =
        w.distance + new.distance :=
    PoolPhase.total_set _ hOld new
  refine ⟨by omega, ?_⟩
  rintro u ⟨phase, hPhase, hPending⟩ hDone
  by_cases hHere : u = t
  · subst hHere
    rw [hOld] at hPhase
    cases hPhase
    have hNew : new.isPending = false := by
      cases hNext : new.isPending with
      | false => rfl
      | true =>
          refine absurd ⟨new, ?_, hNext⟩ hDone
          rcases List.getElem?_eq_some_iff.mp hOld with
            ⟨hBound, _⟩
          exact List.getElem?_set_self hBound
    have hLess' := hLess hPending hNew
    omega
  · refine absurd ⟨phase, ?_, hPending⟩ hDone
    exact (List.getElem?_set_ne (Ne.symm hHere)).trans hPhase

/-
  As long as a thread waits for a pool that would answer, no
  other one starts to wait.
-/
theorem Turn.nears
    (hTurn : Turn w w')
    {t : Nat}
    (hBefore : w.phases[t]? = some .waiting)
    (hAfter : w'.phases[t]? = some .waiting)
    (hAnswers : w.shared.pool.Answers) : Nears w w' := by
  cases hTurn with
  | still =>
      exact ⟨Nat.le_refl _, fun u hYes hNo => absurd hYes hNo⟩
  | served hOld hLooks hNew _ _ _ =>
      apply Nears.enter hOld <;>
        rcases hLooks with rfl | rfl <;>
        rcases hNew with rfl | rfl <;> decide
  | refused hOld hLooks _ =>
      apply Nears.enter hOld <;>
        rcases hLooks with rfl | rfl <;> decide
  | full _ _ _ hNone _ _ => exact absurd hAnswers hNone
  | grown hOld _ _ => apply Nears.enter hOld <;> decide
  | freed hOld hBusy _ _ =>
      apply Nears.enter hOld <;>
        rcases hBusy with rfl | rfl <;> decide
  | activated _ =>
      exact ⟨Nat.le_refl _, fun u hYes hNo => absurd hYes hNo⟩
  | deactivated hOld => apply Nears.enter hOld <;> decide
  | unheard _ hNone =>
      exact absurd (List.mem_of_getElem? hBefore) hNone
  | woke hOld hChosen =>
      rename_i u chosen
      have hLater := notifying_of_woke hOld hChosen
      have hFirst :=
        PoolPhase.total_set PoolPhase.distance hChosen .woken
      have hSecond :=
        PoolPhase.total_set PoolPhase.distance hLater .resting
      simp only [enter, PoolPhase.distance]
        at hFirst hSecond
      have hLess :
          PoolPhase.total PoolPhase.distance
              ((w.phases.set chosen .woken).set u .resting) <
            w.distance := by
        unfold distance
        omega
      exact ⟨Nat.le_of_lt hLess, fun _ _ _ => hLess⟩
  | wokeAll _ =>
      have hMem := List.mem_of_getElem? hAfter
      rcases List.mem_or_eq_of_mem_set hMem with hRoused | hRests
      · rcases List.mem_map.mp hRoused with ⟨old, _, hEq⟩
        cases old <;> cases hEq
      · cases hRests
  | stirred hOld => apply Nears.enter hOld <;> decide

end Nearing

------------------------------------------------------------
-- Runs without an End
------------------------------------------------------------

/- The states that events without an end lead through. -/
def trace
    (events : Nat → Event)
    (w : WaitedPool) : Nat → WaitedPool
  | 0 => w
  | k + 1 => step (events k) (trace events w k)

/-
  No thread that has to look or to notify is kept from it
  for good.
-/
def Fair
    (events : Nat → Event)
    (w : WaitedPool) : Prop :=
  ∀ u k,
    (trace events w k).Pending u →
      ∃ j, k ≤ j ∧ ¬ (trace events w j).Pending u

section Traces

variable {events : Nat → Event}
variable {w : WaitedPool}

theorem Attended.along
    (h : w.Attended)
    (k : Nat) : (trace events w k).Attended := by
  induction k with
  | zero => exact h
  | succ k ih => exact ih.turn (step_turn (events k) _)

/- What holds at first and not later ends somewhere. -/
theorem exists_last
    {P : Nat → Prop}
    {k j : Nat}
    (hLe : k ≤ j)
    (hFirst : P k)
    (hLater : ¬ P j) :
    ∃ i, k ≤ i ∧ P i ∧ ¬ P (i + 1) := by
  induction hLe with
  | refl => exact absurd hFirst hLater
  | step hLe ih =>
      rename_i j
      by_cases hHere : P j
      · exact ⟨j, hLe, hHere, hLater⟩
      · exact ih hHere

/-
  From some state on a thread waits for a pool that would
  answer all the time.
-/
def Stuck
    (events : Nat → Event)
    (w : WaitedPool)
    (t k : Nat) : Prop :=
  ∀ j, k ≤ j →
    (trace events w j).phases[t]? = some .waiting ∧
      (trace events w j).shared.pool.Answers

variable {t k : Nat}

theorem Stuck.nears
    (h : Stuck events w t k)
    {j : Nat}
    (hStart : k ≤ j) :
    Nears (trace events w j) (trace events w (j + 1)) := by
  have hHere := h j hStart
  have hNext := h (j + 1) (Nat.le_succ_of_le hStart)
  exact (step_turn (events j) _).nears hHere.1 hNext.1 hHere.2

theorem Stuck.distance_le
    (h : Stuck events w t k)
    {i j : Nat}
    (hStart : k ≤ i)
    (hOrder : i ≤ j) :
    (trace events w j).distance ≤
      (trace events w i).distance := by
  induction hOrder with
  | refl => exact Nat.le_refl _
  | step hOrder ih =>
      have hStep := h.nears (Nat.le_trans hStart hOrder)
      exact Nat.le_trans hStep.le ih

/- A thread that has to go on makes the distance smaller. -/
theorem Stuck.distance_lt
    (h : Stuck events w t k)
    (hAttended : w.Attended)
    (hFair : Fair events w)
    {j : Nat}
    (hStart : k ≤ j) :
    ∃ i,
      k ≤ i ∧
        (trace events w i).distance <
          (trace events w j).distance := by
  have hHere := h j hStart
  rcases (hAttended.along j).pending hHere.1 hHere.2 with
    ⟨u, _, hPending⟩
  rcases hFair u j hPending with ⟨j', hOrder, hDone⟩
  rcases
      exists_last
        (P := fun i => (trace events w i).Pending u)
        hOrder hPending hDone with
    ⟨i, hBehind, hYes, hNo⟩
  have hAfter := Nat.le_trans hStart hBehind
  refine ⟨i + 1, Nat.le_succ_of_le hAfter, ?_⟩
  exact
    Nat.lt_of_lt_of_le ((h.nears hAfter).less u hYes hNo)
      (h.distance_le hStart hBehind)

/-
  No thread is stuck: the distance cannot get smaller again
  and again.
-/
theorem Attended.not_stuck
    (hAttended : w.Attended)
    (hFair : Fair events w)
    (t k : Nat) : ¬ Stuck events w t k := by
  intro h
  have hNever :
      ∀ n j, k ≤ j →
        (trace events w j).distance ≠ n := by
    intro n
    induction n using Nat.strongRecOn with
    | _ n ih =>
        intro j hStart hDistance
        rcases h.distance_lt hAttended hFair hStart with
          ⟨i, hAfter, hLess⟩
        rw [hDistance] at hLess
        exact ih _ hLess i hAfter rfl
  exact hNever _ k (Nat.le_refl k) rfl

end Traces

/-
  What threads on a pool can reach: the pool is one that is
  shared, with room claimed by those that are allocating, and
  threads that wait are attended.
-/
theorem reached
    (p : Pool)
    (threads : Nat)
    (es : List Event) :
    ∀ w ∈ Run.states step es (of p threads),
      Run.Reaches SharedPool.step (SharedPool.of p) w.shared ∧
        w.Matched ∧ w.Attended := by
  apply Run.forall_states
  · rintro w e ⟨hReached, hMatched, hAttended⟩
    exact
      ⟨hReached.trans (reaches_shared e w),
        matched_step w e hMatched,
        hAttended.turn (step_turn e w)⟩
  · exact
      ⟨.refl _, matched_of p threads, attended_of p threads⟩

/-
  In all states that threads on a pool can reach, what they
  did to it is what is done to a shared pool. A thread that
  waits while the pool is inactive, has an idle buffer or has
  room for one more is beside another one that was woken and
  has yet to look, or that has yet to notify. If such threads
  go on in the end, no thread waits forever for a pool that
  would answer.
-/
theorem wakeup_ahead
    (p : Pool)
    (threads : Nat) :
    (∀ es,
      ∀ w ∈ Run.states step es (of p threads),
        Run.Reaches SharedPool.step (SharedPool.of p)
            w.shared ∧
          w.Matched ∧
            ∀ t,
              w.phases[t]? = some .waiting →
                (w.shared.pool.active = false ∨
                  w.shared.pool.idle ≠ [] ∨
                  w.shared.pool.allocated <
                    w.shared.pool.plan.most) →
                  ∃ u, u ≠ t ∧ w.Pending u) ∧
    ∀ events,
      Fair events (of p threads) →
        ∀ t k, ¬ Stuck events (of p threads) t k := by
  refine ⟨?_, ?_⟩
  · intro es w hMem
    rcases reached p threads es w hMem with
      ⟨hReached, hMatched, hAttended⟩
    exact
      ⟨hReached, hMatched, fun t hWaits hAnswers =>
        hAttended.pending hWaits hAnswers⟩
  · intro events hFair
    have hAttended := attended_of p threads
    exact hAttended.not_stuck hFair

/- A pool of one buffer of a page. -/
def onePage : Pool where
  plan := {
    name := "plain-pool"
    allocator := ⟨"plain", .contiguous⟩
    flags := ⟨0⟩
    layout := [⟨SegmentSpec.parentName, 4096⟩]
    isNamed := false
    least := 0
    most := 1 }
  active := false
  idle := []
  allocated := 0
  acquisitions := 0
  waits := 0

/-
  Two threads wait for the only buffer, which the third one
  gives back.
-/
def handOver : List Event :=
  [.activate 0 [],
   .look 0 .waits,
   .grown 0 (SharedPool.page 4096),
   .look 1 .waits,
   .look 2 .waits,
   .release 0 0]

/- Each of the two gets the buffer. Nobody wants it then. -/
def handOn : List Event :=
  [.notify 0 1,
   .look 1 .waits,
   .release 1 0,
   .notify 1 2,
   .look 2 .waits,
   .release 2 0,
   .notify 2 0]

/- Both, and nothing that could happen from then on. -/
def handedOn
    (k : Nat) : Event :=
  (handOver ++ handOn).getD k (.stir 0)

/- Nobody has anything left to do in the end. -/
theorem phases_handedOn
    (k : Nat) :
    (trace handedOn (of onePage 3) (13 + k)).phases =
      [.resting, .resting, .resting] := by
  induction k with
  | zero => decide +kernel
  | succ k ih =>
      have hEvent : handedOn (13 + k) = .stir 0 := by
        simp [handedOn, handOver, handOn]
      rw [← Nat.add_assoc, trace, hEvent]
      simp [step, ih]

theorem handedOn_reaches_waiters :
    SharedPool.pagePool 0 1 = .ok onePage ∧
      (∃ w ∈ Run.states step handOver (of onePage 3),
        w.phases[1]? = some .waiting ∧
          w.shared.pool.idle ≠ [] ∧
            ∃ u, u ≠ 1 ∧ w.Pending u) ∧
        Fair handedOn (of onePage 3) ∧
          ∀ t k, ¬ Stuck handedOn (of onePage 3) t k := by
  have hAll := wakeup_ahead onePage 3
  have hLast :
      Run.after step handOver (of onePage 3) ∈
        Run.states step handOver (of onePage 3) :=
    Run.after_mem_states _ _
  have hWaits :
      (Run.after step handOver (of onePage 3)).phases[1]? =
        some .waiting := by
    decide +kernel
  have hIdle :
      (Run.after step handOver
        (of onePage 3)).shared.pool.idle ≠ [] := by
    decide +kernel
  have hFair : Fair handedOn (of onePage 3) := by
    intro u k _
    refine ⟨13 + k, Nat.le_add_left k 13, ?_⟩
    rintro ⟨phase, hPhase, hPending⟩
    rw [phases_handedOn] at hPhase
    have hMem := List.mem_of_getElem? hPhase
    have hRests : phase = .resting := by simpa using hMem
    rw [hRests] at hPending
    cases hPending
  have hPending :=
    (hAll.1 handOver _ hLast).2.2 1 hWaits
      (Or.inr (Or.inl hIdle))
  exact
    ⟨rfl, ⟨_, hLast, hWaits, hIdle, hPending⟩, hFair,
      hAll.2 handedOn hFair⟩

end WaitedPool

end Offload
