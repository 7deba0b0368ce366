import Offload.Memory.IdCache
import Offload.Proofs.Memory.Holders

/-
  What an id cache does with handles.

  All handles of a cache are in its leases. A lookup that
  succeeds leaves its handle in a lease, one that fails
  leaves none; a lease is released when its last holder lets
  go, whether that is a slot or a caller.

  Key definitions include:
    * `IdCache.leased`
    * `IdCache.custodian`

  Main results:
    * `IdCache.carries_resolve`
    * `IdCache.carries_resolvePhys`
    * `IdCache.carries_letGo`
    * `IdCache.carries_clear`
-/

namespace Offload

open Holdings

variable {ε : Type}

namespace IdCache

open Op

/- The handles of all leases. -/
def leased
    (c : IdCache) : List Handle :=
  c.leases.contents.map Lease.handle

/- A cache beside the platform. -/
def custodian : Custodian (IdCache × Platform) :=
  .beside leased (fun c => c.leases.Keyed) .ofPlatform

/- A cache that was just made has no leases. -/
theorem leases_of_create
    {capacity : Nat}
    {c : IdCache}
    (h : create capacity = .ok c) :
    c.leases = Table.empty := by
  unfold create at h
  split at h
  · cases h
  · cases h
    rfl

------------------------------------------------------------
-- Leases
------------------------------------------------------------

/- A change of nothing but the number of holders. -/
theorem leased_set
    {c : IdCache}
    {key : Nat}
    {l : Lease}
    (hKeyed : c.leases.Keyed)
    (hFound : c.leases.get? key = some l)
    (holders : Nat) :
    c.leased.Perm
      ((c.leases.set key
        { l with holders := holders }).contents.map
          Lease.handle) := by
  have hBefore := hKeyed.contents_erase hFound
  have hAfter :=
    hKeyed.contents_set hFound { l with holders := holders }
  exact
    (hBefore.map Lease.handle).trans
      (hAfter.map Lease.handle).symm

theorem carries_share
    (key : Nat) :
    Carries custodian [] (change (share key) : Op ε _ Unit)
      fun _ => [] :=
  .modify fun c hKeyed => by
    unfold share
    cases hFound : c.leases.get? key with
    | none => exact ⟨hKeyed, List.Perm.refl _⟩
    | some l =>
        exact ⟨hKeyed.set key _, leased_set hKeyed hFound _⟩

/- What changes no lease concerns no handle. -/
theorem carries_noted
    {α : Type}
    {f : IdCache → IdCache}
    {x : Unit → Op ε (IdCache × Platform) α}
    {after : Except ε α → List Handle}
    (hf : ∀ c, (f c).leases = c.leases)
    (hx : Carries custodian [] (x ()) after) :
    Carries custodian [] (change f >>= x) after := by
  have hNote :
      Carries custodian [] (change f : Op ε _ Unit)
        fun _ => [] :=
    .modify fun c hKeyed => by
      unfold leased
      rw [hf]
      exact ⟨hKeyed, List.Perm.refl _⟩
  exact hNote.bind_of_ok (fun _ => rfl) hx

theorem carries_record
    (f : Telemetry → Telemetry) :
    Carries custodian []
      (onPlatform (Platform.record f) : Op ε _ Unit)
      fun _ => [] :=
  (Platform.carries_record f).within_snd

theorem carries_enter
    (h : Handle)
    (holders : Nat) :
    Carries custodian [h]
      (enter ⟨h, holders⟩ : Op ε _ Nat) fun _ => [] :=
  .update fun _ hKeyed =>
    ⟨hKeyed.insert _, List.Perm.refl _⟩

/- The last holder to let go releases the handle. -/
theorem carries_letGo
    (key : Nat) :
    Carries custodian [] (letGo key : Op ε _ Unit)
      fun _ => [] := by
  apply Carries.get_bind_at
  rintro ⟨c, m⟩ ⟨hKeyed, hPlan⟩
  simp only
  cases hFound : c.leases.get? key with
  | none =>
      exact
        .unchanged ⟨hKeyed, hPlan⟩ rfl (List.Perm.refl _)
  | some l =>
      simp only
      split
      · apply CarriesAt.modify hPlan (hKeyed.set key _)
        exact leased_set hKeyed hFound _
      · have hErase :
            CarriesAt custodian (c, m) []
              (change fun c =>
                { c with leases := c.leases.erase key } :
                Op ε _ Unit)
              fun _ => [l.handle] := by
          apply CarriesAt.modify hPlan (hKeyed.erase key)
          exact
            (hKeyed.contents_erase hFound).map Lease.handle
        apply hErase.bind
        · intro _ _
          exact
            l.handle.carries_release.within_snd _ hErase.1
        · rintro _ ⟨⟩

------------------------------------------------------------
-- Lookups
------------------------------------------------------------

theorem carries_attachMapped
    (id : Nat) :
    Carries .ofPlatform [] (attachMapped id)
      (given fun h => [h]) := by
  apply (Handle.carries_attach id).bind
  · exact Handle.carries_mapOrRelease
  · exact fun _ => List.Perm.refl _

theorem carries_noteHit :
    Carries custodian [] (noteHit : Op ε _ Unit)
      fun _ => [] := by
  refine carries_noted (fun _ => rfl) ?_
  exact carries_record _

theorem carries_noteBypass
    (id : Nat) :
    Carries custodian [] (noteBypass id : Op ε _ Unit)
      fun _ => [] := by
  refine carries_noted (fun _ => rfl) ?_
  apply (carries_record _).bind_of_ok fun _ => rfl
  apply Carries.get_bind
  exact fun _ => carries_record _

/- A slot is filled with a lease or not at all. -/
theorem carries_fill
    (index id : Nat) :
    Carries custodian [] (fill index id) fun _ => [] := by
  apply (carries_attachMapped id).within_snd.bind
  · intro h
    apply (carries_enter h 1).bind
    · intro key
      refine carries_noted (fun _ => rfl) ?_
      apply (carries_record _).bind_of_ok fun _ => rfl
      apply (carries_record _).bind_of_ok fun _ => rfl
      exact .pure (List.Perm.refl _)
    · exact fun _ => List.Perm.refl _
  · exact fun _ => List.Perm.refl _

theorem carries_resolve
    (id : Nat) :
    Carries custodian [] (resolve id) fun _ => [] := by
  apply Carries.get_bind
  rintro ⟨c, m⟩
  simp only
  split
  · apply carries_noteHit.bind_of_ok fun _ => rfl
    apply (carries_share _).bind_of_ok fun _ => rfl
    exact .pure (List.Perm.refl _)
  · split
    · apply (carries_fill _ id).bind
      · intro slot
        apply (carries_share _).bind_of_ok fun _ => rfl
        exact .pure (List.Perm.refl _)
      · exact fun _ => List.Perm.refl _
    · apply (carries_noteBypass id).bind_of_ok fun _ => rfl
      apply (carries_attachMapped id).within_snd.bind
      · intro h
        apply (carries_enter h 1).bind
        · exact fun _ => .pure (List.Perm.refl _)
        · exact fun _ => List.Perm.refl _
      · exact fun _ => List.Perm.refl _

theorem carries_resolvePhys
    (id : Nat) :
    Carries custodian [] (resolvePhys id) fun _ => [] := by
  apply Carries.get_bind
  rintro ⟨c, m⟩
  simp only
  split
  · apply carries_noteHit.bind_of_ok fun _ => rfl
    exact .pure (List.Perm.refl _)
  · split
    · apply (carries_fill _ id).bind
      · exact fun _ => .pure (List.Perm.refl _)
      · exact fun _ => List.Perm.refl _
    · apply (carries_noteBypass id).bind_of_ok fun _ => rfl
      apply (Handle.carries_attach id).within_snd.bind
      · intro h
        apply h.carries_release.within_snd.bind_of_ok
          fun s => h.release_ok s.2
        exact .pure (List.Perm.refl _)
      · exact fun _ => List.Perm.refl _

theorem carries_letGoAll
    (slots : List Slot) :
    Carries custodian [] (letGoAll slots : Op ε _ Unit)
      fun _ => [] := by
  induction slots with
  | nil => exact .pure (List.Perm.refl _)
  | cons slot rest ih =>
      apply (carries_letGo slot.lease).bind
      · exact fun _ => ih
      · exact fun _ => List.Perm.refl _

theorem carries_clear :
    Carries custodian [] (clear : Op ε _ Unit)
      fun _ => [] := by
  apply Carries.get_bind
  rintro ⟨c, m⟩
  refine carries_noted (fun _ => rfl) ?_
  exact carries_letGoAll _

------------------------------------------------------------
-- Using
------------------------------------------------------------

/- A handle that is found is one that the cache holds. -/
theorem mem_leased
    {c : IdCache}
    (hKeyed : c.leases.Keyed)
    {r : Resolved}
    {h : Handle}
    (hFound : c.handle? r = some h) : h ∈ c.leased := by
  rcases Option.map_eq_some_iff.mp hFound with
    ⟨l, hLease, rfl⟩
  have hPerm := hKeyed.contents_erase hLease
  apply List.mem_map_of_mem
  exact hPerm.mem_iff.mpr List.mem_cons_self

end IdCache

end Offload
