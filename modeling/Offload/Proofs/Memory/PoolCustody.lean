import Offload.Memory.Pool
import Offload.Proofs.Memory.Holders

/-
  What a pool does with handles.

  The handles of idle buffers are held by the pool. An
  acquisition takes those of one buffer out, or makes new
  ones; a release puts them back, or releases them; and a
  pool that is deactivated releases all that it holds.

  Key definitions include:
    * `Pool.idleHandles`
    * `Pool.custodian`

  Main results:
    * `Pool.carries_setActive`
    * `Pool.carries_tryAcquire`
    * `Pool.carries_release`
-/

namespace Offload

open Holdings

variable {ε : Type}

------------------------------------------------------------
-- Buffers in Numbers
------------------------------------------------------------

namespace PoolPlan

open Op

theorem carries_releaseAll
    (buffers : List Buffer) :
    Carries .ofPlatform (buffers.flatMap Buffer.handles)
      (releaseAll buffers : Op ε _ Unit) fun _ => [] := by
  induction buffers with
  | nil => exact .pure (List.Perm.refl _)
  | cons b rest ih =>
      apply (b.carries_release.frame _).bind_of_ok
        b.release_ok
      exact ih

theorem carries_allocate
    (p : PoolPlan) :
    Carries .ofPlatform [] p.allocate
      (given Buffer.handles) := by
  unfold allocate
  split
  · exact Allocator.carries_allocSegments _ _ _
  · exact Allocator.carries_allocateLayout _ _

/- All buffers asked for are allocated, or none are left. -/
theorem carries_allocateMany
    (p : PoolPlan)
    (n : Nat)
    (fresh : List Buffer) :
    Carries .ofPlatform (fresh.flatMap Buffer.handles)
      (p.allocateMany n fresh)
      (given fun bs => bs.flatMap Buffer.handles) := by
  induction n generalizing fresh with
  | zero => exact .pure (List.Perm.refl _)
  | succ n ih =>
      have hOne :=
        p.carries_allocate.frame
          (fresh.flatMap Buffer.handles)
      apply Carries.attempt_bind hOne
      intro r
      cases r with
      | ok b => exact ih (b :: fresh)
      | error e =>
          have hAll :
              (fresh.flatMap Buffer.handles).Perm
                (fresh.reverse.flatMap Buffer.handles) :=
            (List.reverse_perm fresh).symm.flatMap_right _
          have hRelease :=
            (carries_releaseAll (ε := Error)
              fresh.reverse).perm hAll
              fun _ => List.Perm.refl _
          apply hRelease.bind_of_ok (releaseAll_ok _)
          exact .fail (List.Perm.refl _)

end PoolPlan

------------------------------------------------------------
-- Pools
------------------------------------------------------------

namespace Pool

open Op

/- The handles of all idle buffers. -/
def idleHandles
    (p : Pool) : List Handle :=
  p.idle.flatMap Buffer.handles

/- A pool beside the platform. -/
def custodian : Custodian (Pool × Platform) :=
  .beside idleHandles (fun _ => True) .ofPlatform

/- The handles of a buffer, if there is one. -/
def granted
    (b : Option Buffer) : List Handle :=
  b.elim [] Buffer.handles

/- The handles that were taken out of a pool. -/
def taken : Grant → List Handle
  | .ready b => b.handles
  | .room => []
  | .full => []

variable {before : List Handle}

theorem carries_record
    (f : Telemetry → Telemetry) :
    Carries custodian before
      (onPlatform (Platform.record f) : Op ε _ Unit)
      fun _ => before :=
  (Platform.carries_record f).within_snd

theorem carries_take :
    Carries custodian []
      (Op.within Lens.fst (Op.change take))
      (given taken) := by
  apply Carries.change
  · intro p grant p' _ hTake
    refine ⟨trivial, ?_⟩
    unfold take at hTake
    split at hTake
    · split at hTake
      · rename_i b rest hIdle
        cases hTake
        simp only [idleHandles, hIdle]
        exact List.Perm.refl _
      · split at hTake
        · cases hTake
          exact List.Perm.refl _
        · cases hTake
          exact List.Perm.refl _
    · cases hTake
  · exact fun _ => List.Perm.refl _

theorem carries_handOut
    (b : Buffer) :
    Carries custodian b.handles (handOut b : Op ε _ Buffer)
      (given Buffer.handles) := by
  have hNote :
      Carries custodian b.handles
        (change noteAcquisition : Op ε _ Unit)
        fun _ => b.handles :=
    .modify fun _ _ => ⟨trivial, List.Perm.refl _⟩
  apply hNote.bind_of_ok fun _ => rfl
  apply Carries.get_bind
  intro _
  apply (carries_record _).bind_of_ok fun _ => rfl
  exact .pure (List.Perm.refl _)

/- An acquisition answers with a buffer and its handles. -/
theorem carries_tryAcquire :
    Carries custodian [] tryAcquire (given granted) := by
  apply carries_take.bind
  · intro grant
    cases grant with
    | full => exact .pure (List.Perm.refl _)
    | ready b =>
        apply (carries_handOut b).bind
        · exact fun _ => .pure (List.Perm.refl _)
        · exact fun _ => List.Perm.refl _
    | room =>
        apply Carries.get_bind
        rintro ⟨p, m⟩
        apply p.plan.carries_allocate.within_snd.attempt_bind
        intro r
        cases r with
        | ok b =>
            apply (carries_handOut b).bind
            · exact fun _ => .pure (List.Perm.refl _)
            · exact fun _ => List.Perm.refl _
        | error e =>
            have hCancel :
                Carries custodian []
                  (change cancelGrowth : Op Error _ Unit)
                  fun _ => [] :=
              .modify fun _ _ => ⟨trivial, List.Perm.refl _⟩
            apply hCancel.bind_of_ok fun _ => rfl
            exact .fail (List.Perm.refl _)
  · exact fun _ => List.Perm.refl _

theorem carries_wait :
    Carries custodian before (wait : Op ε _ Unit)
      fun _ => before := by
  have hNote :
      Carries custodian before (change noteWait : Op ε _ Unit)
        fun _ => before :=
    .modify fun _ _ => ⟨trivial, List.Perm.refl _⟩
  apply hNote.bind_of_ok fun _ => rfl
  apply Carries.get_bind
  exact fun _ => carries_record _

theorem carries_acquireTimeout :
    Carries custodian [] acquireTimeout (given granted) := by
  apply carries_tryAcquire.bind
  · intro b
    cases b with
    | some b => exact .pure (List.Perm.refl _)
    | none =>
        apply carries_wait.bind_of_ok fun _ => rfl
        exact .pure (List.Perm.refl _)
  · exact fun _ => List.Perm.refl _

theorem carries_acquire :
    Carries custodian [] acquire (given Buffer.handles) := by
  apply carries_acquireTimeout.bind
  · intro b
    cases b with
    | some b => exact .pure (List.Perm.refl _)
    | none => exact .fail (List.Perm.refl _)
  · exact fun _ => List.Perm.refl _

/- A buffer that comes back is kept or released. -/
theorem carries_release
    (b : Buffer) :
    Carries custodian b.handles (release b : Op ε _ Unit)
      fun _ => [] := by
  have hBack :
      Carries custodian b.handles
        (Op.within Lens.fst (Op.update (giveBack b)) :
          Op ε _ Bool)
        (given fun kept => if kept then [] else b.handles) :=
    .update fun p _ => by
      refine ⟨trivial, ?_⟩
      unfold giveBack
      cases p.active with
      | true => exact List.Perm.refl _
      | false => exact List.Perm.refl _
  apply hBack.bind
  · intro kept
    cases kept with
    | true => exact .pure (List.Perm.refl _)
    | false => exact b.carries_release.within_snd
  · exact fun _ => List.Perm.refl _

/- What is allocated for an activation enters the pool. -/
theorem carries_start :
    Carries custodian [] start fun _ => [] := by
  apply Carries.get_bind
  rintro ⟨p, m⟩
  have hAllocate :=
    p.plan.carries_allocateMany (p.plan.least - p.available) []
  apply hAllocate.within_snd.bind
  · intro fresh
    have hEnter :
        Carries custodian (fresh.flatMap Buffer.handles)
          (change (activate fresh) : Op Error _ Unit)
          fun _ => [] :=
      .modify fun p _ => by
        refine ⟨trivial, ?_⟩
        simp only [idleHandles, activate,
          List.flatMap_append]
        exact List.Perm.refl _
    apply hEnter.bind_of_ok fun _ => rfl
    apply Carries.get_bind
    intro _
    apply (carries_record _).bind_of_ok fun _ => rfl
    exact carries_record _
  · exact fun _ => List.Perm.refl _

/- A pool that is deactivated keeps nothing. -/
theorem carries_stop :
    Carries custodian [] (stop : Op ε _ Unit)
      fun _ => [] := by
  have hTake :
      Carries custodian []
        (Op.within Lens.fst (Op.update deactivate) :
          Op ε _ _)
        (given fun bs => bs.flatMap Buffer.handles) :=
    .update fun p _ => by
      refine ⟨trivial, ?_⟩
      simp only [idleHandles, deactivate]
      exact List.perm_append_comm
  apply hTake.bind
  · intro idle
    have hRelease :=
      (PoolPlan.carries_releaseAll (ε := ε)
        idle.reverse).perm
        ((List.reverse_perm idle).symm.flatMap_right _)
        fun _ => List.Perm.refl _
    apply hRelease.within_snd.bind_of_ok
      fun s => PoolPlan.releaseAll_ok _ s.2
    apply Carries.get_bind
    intro _
    apply (carries_record _).bind_of_ok fun _ => rfl
    exact carries_record _
  · exact fun _ => List.Perm.refl _

theorem carries_setActive
    (active : Bool) :
    Carries custodian [] (setActive active)
      fun _ => [] := by
  apply Carries.get_bind
  rintro ⟨p, m⟩
  simp only
  split
  · exact .pure (List.Perm.refl _)
  · split
    · exact carries_start
    · exact carries_stop

theorem carries_close :
    Carries custodian [] (close : Op ε _ Unit)
      fun _ => [] := by
  apply Carries.get_bind
  rintro ⟨p, m⟩
  simp only
  split
  · apply (carries_record _).bind_of_ok fun _ => rfl
    exact carries_stop
  · exact .pure (List.Perm.refl _)

end Pool

end Offload
