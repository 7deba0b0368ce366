import Mathlib.Algebra.BigOperators.Group.List.Basic
import Mathlib.Algebra.GroupWithZero.Nat
import Offload.Proofs.Memory.SharedPool

/-
  Threads that wait for a pool.

  A thread that finds the pool full waits until another one
  notifies it, its time is up or it wakes for no reason, and
  then looks again. What gives a waiting thread something to
  find is followed by a notification, but not at once: the
  lock of the pool is let go before, and other threads may do
  anything in between.

  Key definitions include:
    * `PoolPhase`
    * `WaitedPool`
    * `WaitedPool.Event`
    * `WaitedPool.step`
    * `WaitedPool.Matched`

  Main results:
    * `WaitedPool.reaches_shared`
    * `WaitedPool.matched_step`
-/

namespace Offload

------------------------------------------------------------
-- Threads
------------------------------------------------------------

/-
  Where a thread is: out of the pool, allocating a buffer in
  room that it claimed, waiting, woken without having looked
  at the pool again, or about to notify one waiting thread,
  or all of them.
-/
inductive PoolPhase where
  | resting
  | growing
  | waiting
  | woken
  | notifyOne
  | notifyAll
deriving DecidableEq

namespace PoolPhase

/- A thread after all that wait were woken. -/
def roused : PoolPhase → PoolPhase
  | waiting => woken
  | phase => phase

/- One for a thread that is allocating. -/
def grows : PoolPhase → Nat
  | growing => 1
  | _ => 0

/- A value of each of the threads, added up. -/
def total
    (f : PoolPhase → Nat)
    (phases : List PoolPhase) : Nat :=
  (phases.map f).sum

section Totals

variable {f : PoolPhase → Nat}
variable {phases : List PoolPhase}
variable {t : Nat}
variable {old : PoolPhase}

/- One thread goes on. -/
theorem total_set
    (f : PoolPhase → Nat)
    (hOld : phases[t]? = some old)
    (new : PoolPhase) :
    total f (phases.set t new) + f old =
      total f phases + f new := by
  induction phases generalizing t with
  | nil => cases hOld
  | cons phase rest ih =>
      cases t with
      | zero =>
          cases hOld
          simp only [total, List.set_cons_zero, List.map_cons,
            List.sum_cons]
          omega
      | succ t =>
          have hRest := ih hOld
          simp only [total, List.set_cons_succ, List.map_cons,
            List.sum_cons] at hRest ⊢
          omega

/- What all threads add nothing to is nothing. -/
theorem total_eq_zero
    (hNone : ∀ phase ∈ phases, f phase = 0) :
    total f phases = 0 := by
  apply List.sum_eq_zero
  intro n hMem
  rcases List.mem_map.mp hMem with ⟨phase, hPhase, rfl⟩
  exact hNone phase hPhase

/- Rousing begins and ends no allocation. -/
theorem total_grows_roused
    (phases : List PoolPhase) :
    total grows (phases.map roused) = total grows phases := by
  have hSame : grows ∘ roused = grows := by
    funext phase
    cases phase <;> rfl
  rw [total, List.map_map, hSame, total]

end Totals

end PoolPhase

------------------------------------------------------------
-- States and Events
------------------------------------------------------------

/- A pool and where each of the threads on it is. -/
structure WaitedPool where
  shared : SharedPool
  phases : List PoolPhase

namespace WaitedPool

/-
  What an acquisition does on a full pool: it leaves at once,
  it leaves because its time is up, or it waits.
-/
inductive Patience where
  | none
  | expired
  | waits

/-
  What thread `t` does in one go. The lock of the pool is
  held all the time of a look, a release or an activation,
  and let go while a buffer is allocated for an acquisition
  and before others are notified. A notification names the
  thread that it wakes if it wakes one of several; `stir` is
  the end of a time limit, or no reason at all.
-/
inductive Event where
  | look (t : Nat) (patience : Patience)
  | grown (t : Nat) (buffer : Buffer)
  | failed (t : Nat)
  | release (t : Nat) (place : Nat)
  | activate (t : Nat) (fresh : List Buffer)
  | deactivate (t : Nat)
  | notify (t : Nat) (chosen : Nat)
  | stir (t : Nat)

/- A number of threads on a pool that nobody has used. -/
def of
    (p : Pool)
    (threads : Nat) : WaitedPool :=
  ⟨SharedPool.of p, List.replicate threads .resting⟩

/- A thread goes on, with what it did to the pool. -/
def enter
    (w : WaitedPool)
    (s : SharedPool)
    (t : Nat)
    (phase : PoolPhase) : WaitedPool :=
  ⟨s, w.phases.set t phase⟩

/-
  Look for a buffer. The first time that an acquisition has
  to wait, or would have if it were not late, is counted.
-/
def look
    (w : WaitedPool)
    (t : Nat)
    (isFirst : Bool)
    (patience : Patience) : WaitedPool :=
  let s := SharedPool.step .take w.shared
  let noted :=
    if isFirst then SharedPool.step .wait s else s
  match w.shared.pool.take with
  | .error _ => w.enter s t .resting
  | .ok (.ready _, _) => w.enter s t .resting
  | .ok (.room, _) => w.enter s t .growing
  | .ok (.full, _) =>
    match patience with
    | .none => w.enter s t .resting
    | .expired => w.enter noted t .resting
    | .waits => w.enter noted t .waiting

/-
  Wake one waiting thread, if there is any. As long as there
  is, no thread that does not wait can be chosen.
-/
def notifyOne
    (w : WaitedPool)
    (t chosen : Nat) : WaitedPool :=
  if .waiting ∈ w.phases then
    if w.phases[chosen]? = some .waiting then
      (w.enter w.shared chosen .woken).enter w.shared t
        .resting
    else
      w
  else
    w.enter w.shared t .resting

/- The state after an event. -/
def step
    (e : Event)
    (w : WaitedPool) : WaitedPool :=
  match e with
  | .look t patience =>
    match w.phases[t]? with
    | some .resting => w.look t true patience
    | some .woken => w.look t false patience
    | _ => w
  | .grown t b =>
    match w.phases[t]? with
    | some .growing =>
      w.enter (SharedPool.step (.grow b) w.shared) t .resting
    | _ => w
  | .failed t =>
    match w.phases[t]? with
    | some .growing =>
      w.enter (SharedPool.step .giveUp w.shared) t .notifyOne
    | _ => w
  | .release t place =>
    match w.phases[t]?, w.shared.out[place]? with
    | some .resting, some _ =>
      w.enter (SharedPool.step (.giveBack place) w.shared) t
        .notifyOne
    | _, _ => w
  | .activate t fresh =>
    match w.phases[t]? with
    | some .resting =>
      ⟨SharedPool.step (.activate fresh) w.shared, w.phases⟩
    | _ => w
  | .deactivate t =>
    match w.phases[t]? with
    | some .resting =>
      if w.shared.pool.active then
        w.enter (SharedPool.step .deactivate w.shared) t
          .notifyAll
      else
        w
    | _ => w
  | .notify t chosen =>
    match w.phases[t]? with
    | some .notifyOne => w.notifyOne t chosen
    | some .notifyAll =>
      ⟨w.shared,
        (w.phases.map PoolPhase.roused).set t .resting⟩
    | _ => w
  | .stir t =>
    match w.phases[t]? with
    | some .waiting => w.enter w.shared t .woken
    | _ => w

/- A thread that wakes another one is not that one. -/
theorem notifying_of_woke
    {w : WaitedPool}
    {t chosen : Nat}
    (hOld : w.phases[t]? = some .notifyOne)
    (hChosen : w.phases[chosen]? = some .waiting) :
    (w.enter w.shared chosen .woken).phases[t]? =
      some .notifyOne := by
  have hNe : chosen ≠ t := by
    rintro rfl
    rw [hOld] at hChosen
    cases hChosen
  rw [← hOld]
  exact List.getElem?_set_ne hNe

/- A thread that is about to wake all is not woken itself. -/
theorem notifying_of_roused
    {w : WaitedPool}
    {t : Nat}
    (hOld : w.phases[t]? = some .notifyAll) :
    (w.phases.map PoolPhase.roused)[t]? =
      some .notifyAll := by
  rw [List.getElem?_map, hOld]
  rfl

------------------------------------------------------------
-- What Threads Do to the Pool
------------------------------------------------------------

/- A look is a look at the shared pool, and may be a wait. -/
theorem reaches_look
    (w : WaitedPool)
    (t : Nat)
    (isFirst : Bool)
    (patience : Patience) :
    Run.Reaches SharedPool.step w.shared
      (w.look t isFirst patience).shared := by
  have hLook :
      Run.Reaches SharedPool.step w.shared
        (SharedPool.step .take w.shared) := ⟨[.take], rfl⟩
  unfold look
  dsimp only
  split
  · exact hLook
  · exact hLook
  · exact hLook
  · cases patience with
    | none => exact hLook
    | expired | waits =>
        cases isFirst with
        | false => exact hLook
        | true => exact hLook.next .wait

/- What threads do is what is done to a shared pool. -/
theorem reaches_shared
    (e : Event)
    (w : WaitedPool) :
    Run.Reaches SharedPool.step w.shared (step e w).shared := by
  have hSame :
      Run.Reaches SharedPool.step w.shared w.shared :=
    .refl _
  cases e with
  | look t patience =>
      simp only [step]
      split
      · exact reaches_look w t true patience
      · exact reaches_look w t false patience
      · exact hSame
  | grown t b =>
      simp only [step]
      split
      · exact ⟨[.grow b], rfl⟩
      · exact hSame
  | failed t =>
      simp only [step]
      split
      · exact ⟨[.giveUp], rfl⟩
      · exact hSame
  | release t place =>
      simp only [step]
      split
      · exact ⟨[.giveBack place], rfl⟩
      · exact hSame
  | activate t fresh =>
      simp only [step]
      split
      · exact ⟨[.activate fresh], rfl⟩
      · exact hSame
  | deactivate t =>
      simp only [step]
      split
      · split
        · exact ⟨[.deactivate], rfl⟩
        · exact hSame
      · exact hSame
  | notify t chosen =>
      simp only [step]
      split
      · unfold notifyOne
        split
        · split <;> exact hSame
        · exact hSame
      · exact hSame
      · exact hSame
  | stir t =>
      simp only [step]
      split <;> exact hSame

------------------------------------------------------------
-- Claimed Room
------------------------------------------------------------

/-
  The room that is claimed for buffers is that of the threads
  that are allocating: none of them ends what it has not
  begun.
-/
def Matched
    (w : WaitedPool) : Prop :=
  w.shared.growing =
    PoolPhase.total PoolPhase.grows w.phases

theorem matched_of
    (p : Pool)
    (threads : Nat) : (of p threads).Matched := by
  apply Eq.symm
  apply PoolPhase.total_eq_zero
  intro phase hMem
  rw [List.eq_of_mem_replicate hMem]
  rfl

section Matching

variable {w : WaitedPool}
variable {t : Nat}
variable {old new : PoolPhase}

theorem Matched.enter
    (h : w.Matched)
    (hOld : w.phases[t]? = some old)
    {s : SharedPool}
    (hGrowing :
      s.growing + old.grows =
        w.shared.growing + new.grows) :
    (w.enter s t new).Matched := by
  have hTotal :=
    PoolPhase.total_set PoolPhase.grows hOld new
  unfold Matched at *
  simp only [WaitedPool.enter]
  omega

/- A thread that is allocating has room claimed. -/
theorem Matched.growing_pos
    (h : w.Matched)
    (hOld : w.phases[t]? = some .growing) :
    0 < w.shared.growing := by
  have hTotal :=
    PoolPhase.total_set PoolPhase.grows hOld .resting
  unfold Matched at h
  simp only [PoolPhase.grows] at hTotal
  omega

theorem Matched.look
    (h : w.Matched)
    (hOld : w.phases[t]? = some old)
    (hLooks : old.grows = 0)
    (isFirst : Bool)
    (patience : Patience) :
    (w.look t isFirst patience).Matched := by
  unfold WaitedPool.look
  simp only [SharedPool.step, SharedPool.take]
  rcases w.shared.pool.take_cases with
    ⟨_, hTake⟩ | ⟨b, rest, _, _, hTake⟩ |
      ⟨_, _, _, hTake⟩ | ⟨_, _, _, hTake⟩
  · simp only [hTake]
    exact h.enter hOld (by rw [hLooks]; rfl)
  · simp only [hTake]
    exact h.enter hOld (by rw [hLooks]; rfl)
  · simp only [hTake]
    exact h.enter hOld (by rw [hLooks]; rfl)
  · simp only [hTake]
    cases patience <;> cases isFirst <;>
      exact h.enter hOld (by rw [hLooks]; rfl)

/- A thread that looks claims room when it is to allocate. -/
theorem Matched.step_look
    (h : w.Matched)
    (t : Nat)
    (patience : Patience) :
    (step (.look t patience) w).Matched := by
  simp only [step]
  split
  · rename_i hOld
    exact h.look hOld rfl true patience
  · rename_i hOld
    exact h.look hOld rfl false patience
  · exact h

/- A thread that is done allocating gives its claim up. -/
theorem Matched.step_grown
    (h : w.Matched)
    (t : Nat)
    (b : Buffer) : (step (.grown t b) w).Matched := by
  simp only [step]
  split
  · rename_i hOld
    have hPos := h.growing_pos hOld
    apply h.enter hOld
    simp only [SharedPool.step, if_pos hPos, PoolPhase.grows]
    omega
  · exact h

theorem Matched.step_failed
    (h : w.Matched)
    (t : Nat) : (step (.failed t) w).Matched := by
  simp only [step]
  split
  · rename_i hOld
    have hPos := h.growing_pos hOld
    apply h.enter hOld
    simp only [SharedPool.step, if_pos hPos, PoolPhase.grows]
    omega
  · exact h

theorem Matched.step_release
    (h : w.Matched)
    (t place : Nat) : (step (.release t place) w).Matched := by
  simp only [step]
  split
  · rename_i b hOld hPlace
    apply h.enter hOld
    simp [SharedPool.step, SharedPool.giveBack, hPlace,
      PoolPhase.grows]
  · exact h

theorem Matched.step_activate
    (h : w.Matched)
    (t : Nat)
    (fresh : List Buffer) :
    (step (.activate t fresh) w).Matched := by
  simp only [step]
  split
  · by_cases hCan : w.shared.CanActivate fresh
    · simp only [SharedPool.step, if_pos hCan]
      exact h
    · simp only [SharedPool.step, if_neg hCan]
      exact h
  · exact h

theorem Matched.step_deactivate
    (h : w.Matched)
    (t : Nat) : (step (.deactivate t) w).Matched := by
  simp only [step]
  split
  · rename_i hOld
    split
    · rename_i hActive
      apply h.enter hOld
      simp [SharedPool.step, hActive, PoolPhase.grows]
    · exact h
  · exact h

/- No claim is made or given up by a notification. -/
theorem Matched.notifyOne
    (h : w.Matched)
    (hOld : w.phases[t]? = some .notifyOne)
    (chosen : Nat) : (w.notifyOne t chosen).Matched := by
  unfold WaitedPool.notifyOne
  split
  · split
    · rename_i hChosen
      have hLater := notifying_of_woke hOld hChosen
      have hWoken :
          (w.enter w.shared chosen .woken).Matched :=
        h.enter hChosen rfl
      exact hWoken.enter hLater rfl
    · exact h
  · exact h.enter hOld rfl

theorem Matched.notifyAll
    (h : w.Matched)
    (hOld : w.phases[t]? = some .notifyAll) :
    Matched
      ⟨w.shared,
        (w.phases.map PoolPhase.roused).set t .resting⟩ := by
  have hAll :
      Matched
        ⟨w.shared, w.phases.map PoolPhase.roused⟩ := by
    unfold Matched
    rw [PoolPhase.total_grows_roused]
    exact h
  exact hAll.enter (notifying_of_roused hOld) rfl

theorem Matched.step_notify
    (h : w.Matched)
    (t chosen : Nat) : (step (.notify t chosen) w).Matched := by
  simp only [step]
  split
  · rename_i hOld
    exact h.notifyOne hOld chosen
  · rename_i hOld
    exact h.notifyAll hOld
  · exact h

theorem Matched.step_stir
    (h : w.Matched)
    (t : Nat) : (step (.stir t) w).Matched := by
  simp only [step]
  split
  · rename_i hOld
    exact h.enter hOld rfl
  · exact h

/- Every event keeps claims and threads in step. -/
theorem matched_step
    (w : WaitedPool)
    (e : Event)
    (h : w.Matched) : (step e w).Matched := by
  cases e with
  | look t patience => exact h.step_look t patience
  | grown t b => exact h.step_grown t b
  | failed t => exact h.step_failed t
  | release t place => exact h.step_release t place
  | activate t fresh => exact h.step_activate t fresh
  | deactivate t => exact h.step_deactivate t
  | notify t chosen => exact h.step_notify t chosen
  | stir t => exact h.step_stir t

end Matching

end WaitedPool

end Offload
