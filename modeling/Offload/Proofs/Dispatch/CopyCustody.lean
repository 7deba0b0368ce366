import Offload.Dispatch.Firmware
import Offload.Dispatch.Upcase
import Offload.Proofs.Memory.CacheCustody

/-
  What copies do with handles.

  A simulated accelerator attaches both regions of a copy,
  with the planned failures out of the way, and gives both
  back however the copy ends. A vector graph lets go of what
  it resolved. No request leaves a handle behind.

  Main results:
    * `Firmware.carries_copySample`
    * `Firmware.carries_handle`
    * `Upcase.carries_run`
-/

namespace Offload

open Holdings

variable {ε : Type}

/- Planned failures are put away and back. -/
theorem Op.Carries.direct
    {α : Type}
    {before : List Handle}
    {x : Op ε Platform α}
    {after : Except ε α → List Handle}
    (hx : Carries .ofPlatform before x after) :
    Carries .ofPlatform before (Platform.direct x)
      after := by
  intro m hPlan
  have hNone : Releasing FaultPlan.none := ⟨rfl, rfl, rfl⟩
  have hFirst :
      Turns m before { m with faults := FaultPlan.none }
        before :=
    turns_plan hNone
  rcases hx { m with faults := FaultPlan.none } hNone with
    ⟨_, hTurns⟩
  simp only [Custodian.ofPlatform, List.append_nil, id]
    at hTurns
  unfold CarriesAt
  simp only [Custodian.ofPlatform, List.append_nil, id]
  exact ⟨hPlan, (hFirst.trans hTurns).trans (turns_plan hPlan)⟩

namespace Firmware

open Op

------------------------------------------------------------
-- Copies
------------------------------------------------------------

section Copies

variable {before : List Handle}

theorem carries_orBadValue
    {x : Op Error Platform Unit}
    (hx : Carries .ofPlatform before x fun _ => before) :
    Carries .ofPlatform before (orBadValue x)
      fun _ => before :=
  hx.mapError (fun _ => List.Perm.refl _)
    fun _ => List.Perm.refl _

theorem carries_reach
    (addr : Nat) :
    Carries .ofPlatform [] (reach addr)
      (given fun r => [r.1]) := by
  apply Carries.get_bind
  intro m
  split
  · exact .fail (List.Perm.refl _)
  · rename_i base _
    have hAttach :
        Carries .ofPlatform []
          (orBadValue (IdCache.attachMapped base))
          (given fun h => [h]) :=
      (IdCache.carries_attachMapped base).mapError
        (fun _ => List.Perm.refl _) fun _ => List.Perm.refl _
    apply hAttach.bind
    · exact fun _ => .pure (List.Perm.refl _)
    · exact fun _ => List.Perm.refl _

theorem carries_transfer
    (count : Nat)
    {source target : Handle × Nat}
    (hSource : source.1 ∈ before)
    (hTarget : target.1 ∈ before) :
    Carries .ofPlatform before (transfer count source target)
      fun _ => before := by
  unfold transfer
  split
  · apply
      (carries_orBadValue
        (Handle.carries_invalidate hSource)).bind
    · intro _
      apply (source.1.carries_read source.2 count).bind
      · intro bytes
        apply (Handle.carries_write hTarget _ bytes).bind
        · intro _
          exact
            carries_orBadValue (Handle.carries_flush hTarget)
        · exact fun _ => List.Perm.refl _
      · exact fun _ => List.Perm.refl _
    · exact fun _ => List.Perm.refl _
  · exact .fail (List.Perm.refl _)

end Copies

/- Both regions are given back, whatever came of the copy. -/
theorem carries_copySample
    (mode : CopyMode)
    (source target : UInt64) :
    Carries .ofPlatform [] (copySample mode source target)
      fun _ => [] := by
  apply (carries_reach source.toNat).bind
  · intro s
    apply Carries.attempt_bind
      ((carries_reach target.toNat).frame [s.1])
    intro r
    cases r with
    | error e =>
        apply s.1.carries_release.bind_of_ok s.1.release_ok
        exact .fail (List.Perm.refl _)
    | ok t =>
        apply
          (carries_transfer _
            (List.mem_cons_of_mem t.1 List.mem_cons_self)
            List.mem_cons_self).attempt_bind
        intro result
        apply Carries.bind_of_ok
          (t.1.carries_release.frame [s.1]) t.1.release_ok
        apply s.1.carries_release.bind_of_ok s.1.release_ok
        exact .ofExcept (List.Perm.refl _)
  · exact fun _ => List.Perm.refl _

theorem carries_copySamples
    (mode : CopyMode)
    (samples : List (UInt64 × UInt64)) :
    Carries .ofPlatform [] (copySamples mode samples)
      fun _ => [] := by
  induction samples with
  | nil => exact .pure (List.Perm.refl _)
  | cons sample rest ih =>
      apply (carries_copySample mode sample.1 sample.2).bind
      · exact fun _ => ih
      · exact fun _ => List.Perm.refl _

------------------------------------------------------------
-- Requests
------------------------------------------------------------

theorem carries_loadModel
    (files : FileTree)
    (params : List Param) :
    Carries .bystander [] (loadModel files params)
      fun _ => [] := by
  apply Carries.get_bind
  rintro ⟨f, m⟩
  simp only
  split
  · split
    · exact .fail (List.Perm.refl _)
    · split
      · exact .fail (List.Perm.refl _)
      · split
        · apply Carries.bind (.update_bystander _)
          · exact fun _ => .pure (List.Perm.refl _)
          · exact fun _ => List.Perm.refl _
        · apply (Platform.carries_record _).within_snd.bind
          · exact fun _ => .fail (List.Perm.refl _)
          · exact fun _ => List.Perm.refl _
  · exact .fail (List.Perm.refl _)

theorem carries_consider
    (files : FileTree)
    (r : Request) :
    Carries .bystander [] (consider files r)
      fun _ => [] := by
  unfold consider
  split
  · apply Carries.bind (.update_bystander _)
    · exact fun _ => .pure (List.Perm.refl _)
    · exact fun _ => List.Perm.refl _
  · exact carries_loadModel files r.params
  · exact .pure (List.Perm.refl _)
  · apply Carries.get_bind
    exact fun _ => .pure (List.Perm.refl _)
  · have hCount :
        Carries .bystander []
          (Op.within Lens.fst
            (Op.change (countRun r.opcode r.params)))
          fun _ => [] :=
      .change (fun _ _ _ _ _ => ⟨trivial, List.Perm.refl _⟩)
        fun _ => List.Perm.refl _
    apply hCount.bind
    · exact fun _ => .pure (List.Perm.refl _)
    · exact fun _ => List.Perm.refl _

theorem carries_execute
    (r : RunRecord) :
    Carries .bystander [] (execute r) fun _ => [] := by
  have hEnd :
      Carries .bystander []
        (Op.within Lens.fst
            (Op.modify fun f : Firmware =>
              { f with log := r :: f.log })
          >>= fun _ =>
            (Op.pure [] :
              Op Status (Firmware × Platform) (List Param)))
        fun _ => [] := by
    apply Carries.bind (.modify_bystander _)
    · exact fun _ => .pure (List.Perm.refl _)
    · exact fun _ => List.Perm.refl _
  apply Carries.get_bind
  rintro ⟨f, m⟩
  simp only
  split
  · exact .fail (List.Perm.refl _)
  · split
    · exact hEnd
    · rename_i mode _
      apply
        (carries_copySamples mode _).direct.within_snd.bind
      · exact fun _ => hEnd
      · exact fun _ => List.Perm.refl _

theorem carries_handle
    (files : FileTree)
    (r : Request) :
    Carries .bystander [] (handle files r) fun _ => [] := by
  apply (carries_consider files r).bind
  · intro decision
    cases decision with
    | answer outputs => exact .pure (List.Perm.refl _)
    | run record => exact carries_execute record
  · exact fun _ => List.Perm.refl _

end Firmware

------------------------------------------------------------
-- Vector Graphs
------------------------------------------------------------

namespace Upcase

open Op

variable {before : List Handle}

theorem carries_failWith
    {α : Type}
    {x : Op Error Platform α}
    (status : Status)
    (hx : Carries .ofPlatform before x fun _ => before) :
    Carries .ofPlatform before (failWith status x)
      fun _ => before :=
  hx.mapError (fun _ => List.Perm.refl _)
    fun _ => List.Perm.refl _

theorem carries_copy
    (r : VectorRequest)
    {source target : Handle}
    (hSource : source ∈ before)
    (hTarget : target ∈ before) :
    Carries .ofPlatform before (copy r source target)
      fun _ => before := by
  apply (carries_failWith _
    (Handle.carries_invalidate hSource)).bind
  · intro _
    apply (source.carries_read 0 _).bind
    · intro bytes
      apply (Handle.carries_write hTarget 0 _).bind
      · intro _
        exact
          carries_failWith _ (Handle.carries_flush hTarget)
      · exact fun _ => List.Perm.refl _
    · exact fun _ => List.Perm.refl _
  · exact fun _ => List.Perm.refl _

theorem carries_copyResolved
    (r : VectorRequest)
    (source target : Resolved) :
    Carries IdCache.custodian []
      (copyResolved r source target) fun _ => [] := by
  apply Carries.get_bind_at
  rintro ⟨c, m⟩ ⟨hKeyed, hPlan⟩
  simp only
  split
  · rename_i s t hSource hTarget
    refine CarriesAt.within_snd (t := c) hKeyed ?_
    exact
      carries_copy r (IdCache.mem_leased hKeyed hSource)
        (IdCache.mem_leased hKeyed hTarget) m hPlan
  · exact
      .unchanged ⟨hKeyed, hPlan⟩ rfl (List.Perm.refl _)

/- What was resolved for a request is let go after it. -/
theorem carries_run
    (r : VectorRequest) :
    Carries IdCache.custodian [] (run r) fun _ => [] := by
  have hResolve :
      ∀ id,
        Carries IdCache.custodian []
          (failWith unresolved (IdCache.resolve id))
          fun _ => [] := fun id =>
    (IdCache.carries_resolve id).mapError
      (fun _ => List.Perm.refl _) fun _ => List.Perm.refl _
  have hLetGo :
      ∀ (key : Nat) (result : Except Status Unit),
        Carries IdCache.custodian []
          (IdCache.letGo key >>= fun _ =>
            Op.ofExcept result)
          fun _ => [] := by
    intro key result
    apply (IdCache.carries_letGo key).bind
    · exact fun _ => .ofExcept (List.Perm.refl _)
    · exact fun _ => List.Perm.refl _
  apply (hResolve r.input.addr).attempt_bind
  intro source
  apply (hResolve r.output.addr).attempt_bind
  intro target
  cases source with
  | ok source =>
      cases target with
      | ok target =>
          apply
            (carries_copyResolved r source
              target).attempt_bind
          intro result
          apply (IdCache.carries_letGo target.lease).bind
          · exact fun _ => hLetGo source.lease result
          · exact fun _ => List.Perm.refl _
      | error status =>
          exact hLetGo source.lease (.error status)
  | error status =>
      cases target with
      | ok target => exact hLetGo target.lease (.error status)
      | error _ => exact .fail (List.Perm.refl _)

end Upcase

end Offload
