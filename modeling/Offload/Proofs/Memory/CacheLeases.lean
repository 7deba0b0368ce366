import Mathlib.Data.List.Count
import Offload.Proofs.Memory.CacheCustody
import Offload.Proofs.Memory.Visits

/-
  Leases and their holders.

  A lease counts its holders, which are slots and callers.
  If the holders are listed, each under the number of its
  lease, every lease is listed as often as it counts, and a
  lease that nobody holds is gone. One that is let go by its
  last holder is unmapped and detached; before that, letting
  go does not touch the device.

  Key definitions include:
    * `IdCache.handleAt`
    * `IdCache.SharedBy`
    * `IdCache.LetsGo`

  Main results:
    * `IdCache.SharedBy.share`
    * `IdCache.SharedBy.enter`
    * `IdCache.SharedBy.letGo`
    * `IdCache.SharedBy.letGoAll`
-/

namespace Offload

namespace IdCache

------------------------------------------------------------
-- Handles of Leases
------------------------------------------------------------

/- The handle of a lease. -/
def handleAt
    (c : IdCache)
    (key : Nat) : Option Handle :=
  (c.leases.get? key).map Lease.handle

/- A cache with one more lease. -/
def withLease
    (h : Handle)
    (c : IdCache) : IdCache :=
  { c with leases := (c.leases.insert ⟨h, 1⟩).2 }

section Leases

variable {c : IdCache}
variable {key : Nat}
variable {h : Handle}
variable {holders : List Nat}

/- A lease keeps its handle when holders are counted anew. -/
theorem handleAt_set
    {l : Lease}
    (hFound : c.leases.get? key = some l)
    (count k : Nat) :
    { c with
        leases :=
          c.leases.set key { l with holders := count }
      }.handleAt k =
      c.handleAt k := by
  unfold handleAt
  by_cases hKey : k = key
  · rw [hKey, Table.get?_set_self hFound, hFound]
    rfl
  · rw [Table.get?_set_other hKey]

theorem handleAt_share
    (c : IdCache)
    (key k : Nat) :
    (share key c).handleAt k = c.handleAt k := by
  unfold share
  cases hFound : c.leases.get? key with
  | none => rfl
  | some l => exact handleAt_set hFound _ k

theorem handleAt_withLease_self
    (c : IdCache)
    (h : Handle) :
    (c.withLease h).handleAt c.leases.next = some h := by
  simp [handleAt, withLease, Table.insert, Table.get?]

theorem handleAt_withLease_other
    (hOther : key ≠ c.leases.next)
    (h : Handle) :
    (c.withLease h).handleAt key = c.handleAt key := by
  unfold handleAt withLease
  rw [Table.get?_insert_other hOther]

------------------------------------------------------------
-- Holders
------------------------------------------------------------

/-
  The leases are those that are listed, and each counts how
  often it is.
-/
structure SharedBy
    (c : IdCache)
    (holders : List Nat) : Prop where
  keyed : c.leases.Keyed
  counted :
    ∀ key,
      (c.leases.get? key).map Lease.holders =
        if key ∈ holders then some (holders.count key)
        else none

theorem SharedBy.perm
    {holders' : List Nat}
    (hShared : c.SharedBy holders)
    (hPerm : holders.Perm holders') :
    c.SharedBy holders' where
  keyed := hShared.keyed
  counted := by
    intro key
    rw [hShared.counted, hPerm.count_eq]
    simp only [hPerm.mem_iff]

/- What is listed is in the table. -/
theorem SharedBy.found
    (hShared : c.SharedBy holders)
    (hMem : key ∈ holders) :
    ∃ h,
      c.leases.get? key = some ⟨h, holders.count key⟩ := by
  have hCounted := hShared.counted key
  rw [if_pos hMem, Option.map_eq_some_iff] at hCounted
  rcases hCounted with ⟨⟨h, count⟩, hFound, hCount⟩
  cases hCount
  exact ⟨h, hFound⟩

/- A lease is listed exactly if it has a handle. -/
theorem SharedBy.mem_iff
    (hShared : c.SharedBy holders) :
    key ∈ holders ↔ (c.handleAt key).isSome := by
  have hCounted := hShared.counted key
  unfold handleAt
  rw [Option.isSome_map]
  by_cases hMem : key ∈ holders
  · rcases hShared.found hMem with ⟨h, hFound⟩
    simp [hMem, hFound]
  · rw [if_neg hMem, Option.map_eq_none_iff] at hCounted
    simp [hMem, hCounted]

theorem SharedBy.next_notMem
    (hShared : c.SharedBy holders) :
    c.leases.next ∉ holders := by
  intro hMem
  rcases hShared.found hMem with ⟨h, hFound⟩
  exact Nat.lt_irrefl _ (hShared.keyed.lt_next hFound)

/- The handles that are leased are those of the leases. -/
theorem SharedBy.mem_leased_iff
    (hShared : c.SharedBy holders) :
    h ∈ c.leased ↔
      ∃ key ∈ holders, c.handleAt key = some h := by
  constructor
  · intro hMem
    rcases List.mem_map.mp hMem with ⟨l, hLease, rfl⟩
    rcases hShared.keyed.get?_of_mem hLease with
      ⟨key, hFound⟩
    have hAt : c.handleAt key = some l.handle := by
      rw [handleAt, hFound]
      rfl
    refine ⟨key, ?_, hAt⟩
    rw [hShared.mem_iff, hAt]
    rfl
  · rintro ⟨key, _, hAt⟩
    rcases Option.map_eq_some_iff.mp hAt with
      ⟨l, hFound, rfl⟩
    have hPerm := hShared.keyed.contents_erase hFound
    exact
      List.mem_map_of_mem
        (hPerm.mem_iff.mpr List.mem_cons_self)

------------------------------------------------------------
-- More Holders
------------------------------------------------------------

/- A lease is counted anew and everything else stays. -/
theorem SharedBy.set
    (holders' : List Nat)
    {l : Lease}
    (hShared : c.SharedBy holders)
    (hFound : c.leases.get? key = some l)
    (hHere : key ∈ holders')
    (hOthers :
      ∀ k, k ≠ key →
        holders'.count k = holders.count k) :
    { c with
        leases :=
          c.leases.set key
            { l with holders := holders'.count key }
      }.SharedBy holders' where
  keyed := hShared.keyed.set key _
  counted := by
    intro k
    by_cases hKey : k = key
    · rw [hKey, Table.get?_set_self hFound, if_pos hHere]
      rfl
    · have hSame : k ∈ holders' ↔ k ∈ holders := by
        rw [← List.count_pos_iff, ← List.count_pos_iff,
          hOthers k hKey]
      rw [Table.get?_set_other hKey, hShared.counted,
        hOthers k hKey]
      simp only [hSame]

/- A holder shares its lease with another. -/
theorem SharedBy.share
    (hShared : c.SharedBy holders)
    (hMem : key ∈ holders) :
    (IdCache.share key c).SharedBy (key :: holders) := by
  rcases hShared.found hMem with ⟨h, hFound⟩
  have hSet :=
    hShared.set (key :: holders) hFound List.mem_cons_self
      fun k hKey => List.count_cons_of_ne (Ne.symm hKey)
  rw [List.count_cons_self] at hSet
  unfold IdCache.share
  rw [hFound]
  exact hSet

theorem SharedBy.leased_share
    (hShared : c.SharedBy holders)
    (key : Nat) :
    c.leased.Perm (IdCache.share key c).leased := by
  unfold IdCache.share
  cases hFound : c.leases.get? key with
  | none => exact List.Perm.refl _
  | some l => exact leased_set hShared.keyed hFound _

/- A new lease has the holder that it was made for. -/
theorem SharedBy.enter
    (hShared : c.SharedBy holders)
    (h : Handle) :
    (c.withLease h).SharedBy (c.leases.next :: holders) where
  keyed := hShared.keyed.insert _
  counted := by
    intro k
    by_cases hKey : k = c.leases.next
    · have hNone :=
        List.count_eq_zero_of_not_mem hShared.next_notMem
      rw [hKey, if_pos List.mem_cons_self,
        List.count_cons_self, hNone]
      simp [withLease, Table.insert, Table.get?]
    · unfold withLease
      rw [Table.get?_insert_other hKey, hShared.counted,
        List.count_cons_of_ne (Ne.symm hKey)]
      simp only [List.mem_cons, hKey, false_or]

------------------------------------------------------------
-- Letting Go
------------------------------------------------------------

/-
  Holders let go of leases, and others are left, whose
  handles stay. The device accounts for what is left.
-/
structure LetsGo
    (others : List Handle)
    (holders : List Nat)
    (x y : IdCache × Platform) : Prop where
  shared : y.1.SharedBy holders
  keeps : y.2.Keeps (others ++ y.1.leased)
  rest : y.1 = { x.1 with leases := y.1.leases }
  handles :
    ∀ key ∈ holders, y.1.handleAt key = x.1.handleAt key

section LettingGo

variable {ε : Type}
variable {m : Platform}
variable {others : List Handle}

theorem LetsGo.trans
    {x y z : IdCache × Platform}
    {holders' : List Nat}
    (hFirst : LetsGo others holders x y)
    (hNext : LetsGo others holders' y z)
    (hSubset : holders' ⊆ holders) :
    LetsGo others holders' x z where
  shared := hNext.shared
  keeps := hNext.keeps
  rest := by
    rw [hNext.rest, hFirst.rest]
  handles := fun key hMem =>
    (hNext.handles key hMem).trans
      (hFirst.handles key (hSubset hMem))

/- A lease that others hold stays as it is. -/
theorem SharedBy.letGo_of_shared
    (hShared : c.SharedBy holders)
    (hKeeps : m.Keeps (others ++ c.leased))
    (hMem : key ∈ holders)
    (hStays : key ∈ holders.erase key) :
    ∃ c',
      (letGo key (c, m) : Except ε Unit × _) =
          (.ok (), (c', m)) ∧
        LetsGo others (holders.erase key) (c, m) (c', m) := by
  rcases hShared.found hMem with ⟨h, hFound⟩
  have hCount := List.count_erase_self (a := key) (l := holders)
  have hMany : holders.count key > 1 := by
    have hLeft := List.count_pos_iff.mpr hStays
    omega
  have hSet :=
    hShared.set (holders.erase key) hFound hStays
      fun k hKey => List.count_erase_of_ne hKey
  rw [hCount] at hSet
  refine ⟨_, ?_, hSet, ?_, rfl, ?_⟩
  · simp only [letGo, bind, Op.bind, Op.get, hFound,
      if_pos hMany]
    rfl
  · apply hKeeps.perm
    apply List.Perm.append_left
    exact leased_set hShared.keyed hFound _
  · exact fun k _ => handleAt_set hFound _ k

/- The last holder of a lease releases the handle. -/
theorem SharedBy.letGo_of_last
    (hShared : c.SharedBy holders)
    (hKeeps : m.Keeps (others ++ c.leased))
    (hMem : key ∈ holders)
    (hLast : key ∉ holders.erase key) :
    ∃ c' m',
      (letGo key (c, m) : Except ε Unit × _) =
          (.ok (), (c', m')) ∧
        LetsGo others (holders.erase key) (c, m)
          (c', m') := by
  rcases hShared.found hMem with ⟨h, hFound⟩
  have hCount := List.count_erase_self (a := key) (l := holders)
  have hOne : ¬ holders.count key > 1 := by
    have hNone := List.count_eq_zero_of_not_mem hLast
    omega
  have hLeased :
      (others ++ c.leased).Perm
        (h :: (others ++
          { c with leases := c.leases.erase key }.leased)) :=
    (List.Perm.append_left others
      ((hShared.keyed.contents_erase hFound).map
        Lease.handle)).trans List.perm_middle
  have hRelease := (hKeeps.perm hLeased).release
  refine
    ⟨{ c with leases := c.leases.erase key },
      (h.release m : Except Error Unit × _).2, ?_, ?_⟩
  · have hReleased := h.release_run (ε := ε) m
    simp only [letGo, bind, Op.bind, Op.get, hFound,
      if_neg hOne, change, Op.within, Op.modify,
      onPlatform, Lens.fst, Lens.snd, hReleased]
  · refine
      ⟨⟨hShared.keyed.erase key, ?_⟩, hRelease.2.1, rfl, ?_⟩
    · intro k
      by_cases hKey : k = key
      · rw [hKey, Table.get?_erase_self, if_neg hLast]
        rfl
      · rw [Table.get?_erase_other hKey, hShared.counted,
          List.count_erase_of_ne hKey]
        simp only [List.mem_erase_of_ne hKey]
    · intro k hLeft
      have hKey : k ≠ key := fun hSame => hLast (hSame ▸ hLeft)
      unfold handleAt
      rw [Table.get?_erase_other hKey]

/-
  A holder lets go. While others hold the lease, nothing is
  done to the platform.
-/
theorem SharedBy.letGo
    (hShared : c.SharedBy holders)
    (hKeeps : m.Keeps (others ++ c.leased))
    (hMem : key ∈ holders) :
    ∃ y,
      (IdCache.letGo key (c, m) : Except ε Unit × _) =
          (.ok (), y) ∧
        LetsGo others (holders.erase key) (c, m) y ∧
        (key ∈ holders.erase key → y.2 = m) := by
  by_cases hStays : key ∈ holders.erase key
  · rcases hShared.letGo_of_shared (ε := ε) hKeeps hMem
        hStays with
      ⟨c', hRun, hGone⟩
    exact ⟨_, hRun, hGone, fun _ => rfl⟩
  · rcases hShared.letGo_of_last (ε := ε) hKeeps hMem
        hStays with
      ⟨c', m', hRun, hGone⟩
    exact ⟨_, hRun, hGone, fun hLeft => absurd hLeft hStays⟩

/-
  Slots let go of their leases, and other holders are left.
  If these hold all the leases, the device is left alone.
-/
theorem SharedBy.letGoAll
    {slots : List Slot}
    (hShared :
      c.SharedBy (slots.map Slot.lease ++ holders))
    (hKeeps : m.Keeps (others ++ c.leased)) :
    ∃ y,
      (IdCache.letGoAll slots (c, m) : Except ε Unit × _) =
          (.ok (), y) ∧
        LetsGo others holders (c, m) y ∧
        ((∀ slot ∈ slots, slot.lease ∈ holders) →
          y.2 = m) := by
  induction slots generalizing c m with
  | nil =>
      exact
        ⟨_, rfl, ⟨hShared, hKeeps, rfl, fun _ _ => rfl⟩,
          fun _ => rfl⟩
  | cons slot rest ih =>
      rcases hShared.letGo (ε := ε) hKeeps
          List.mem_cons_self with
        ⟨⟨c', m'⟩, hRun, hGone, hSame⟩
      rw [List.map_cons, List.cons_append,
        List.erase_cons_head] at hGone hSame
      rcases ih hGone.shared hGone.keeps with
        ⟨y, hRest, hGone', hSame'⟩
      refine ⟨y, ?_, hGone.trans hGone' ?_, ?_⟩
      · simp only [IdCache.letGoAll, bind, Op.bind, hRun]
        exact hRest
      · exact List.subset_append_right _ _
      · intro hHeld
        have hHere : slot.lease ∈ holders :=
          hHeld slot List.mem_cons_self
        rw [hSame' fun s hMem =>
          hHeld s (List.mem_cons_of_mem _ hMem)]
        exact hSame (List.mem_append_right _ hHere)

end LettingGo

end Leases

end IdCache

end Offload
