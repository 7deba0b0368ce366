import Offload.Proofs.Memory.Accounts
import Offload.Proofs.Memory.Allocations
import Offload.Proofs.Memory.FileLayout

/-
  What is in use on a device.

  A region is owned from the allocation that answers it to
  the first call that frees its address, whoever makes that
  call. As long as no cursor leaves its window, the bytes in
  use on a target are those of the regions owned on it, no
  matter which addresses are attached, freed and detached in
  between, and how often.

  Key definitions include:
    * `Ledger`
    * `Ledger.step`
    * `Ledger.Balanced`
    * `Ledger.Exact`

  Main results:
    * `Ledger.Balanced.settled`
    * `Ledger.Balanced.step`
    * `Device.allocate_refused_iff`
    * `Platform.made_of_calm`
    * `Ledger.exact_run`
    * `Ledger.longFile_refused`
-/

namespace Offload

------------------------------------------------------------
-- Owned Regions
------------------------------------------------------------

/- The regions other than the one at an address. -/
def Region.others
    (addr : Nat)
    (rs : List Region) : List Region :=
  rs.filter fun r => r.addr != addr

/- A device, and the regions that are owned on it. -/
structure Ledger where
  device : Device
  owned : List Region

namespace Ledger

/- A device without regions. -/
def opened
    (page : PageSize)
    (capacity : MemoryTarget → Nat) : Ledger :=
  ⟨Device.fresh page capacity, []⟩

/-
  What a call does. The regions that it answers are owned,
  and the one at an address that it frees is not any more.
-/
def step
    (c : Device.Call)
    (s : Ledger) : Ledger where
  device := Device.step c s.device
  owned :=
    match c with
    | .free region => Region.others region.addr s.owned
    | c => s.device.answered c ++ s.owned

end Ledger

namespace Region

/- Owners own the bytes of their regions. -/
theorem sum_owned_eq_bytesOn
    (t : MemoryTarget)
    (rs : List Region) :
    ((Device.owners rs).map (Handle.owned t)).sum =
      bytesOn t rs := by
  induction rs with
  | nil => rfl
  | cons r rest ih =>
      rw [bytesOn_cons, ← ih]
      by_cases hTarget : t = r.target
      · simp [Device.owners, Handle.owned, Handle.ofRegion,
          Handle.isAttached, Handle.size, hTarget]
      · simp [Device.owners, Handle.owned, Handle.ofRegion,
          Handle.isAttached, hTarget, Ne.symm hTarget]

theorem mem_others
    {addr : Nat}
    {r : Region}
    {rs : List Region} :
    r ∈ others addr rs ↔ r ∈ rs ∧ r.addr ≠ addr := by
  simp [others]

/- Where nothing is there is nothing to leave out. -/
theorem others_of_not_mem
    {addr : Nat}
    {rs : List Region}
    (hNone : addr ∉ rs.map Region.addr) :
    others addr rs = rs := by
  apply List.filter_eq_self.mpr
  intro r hMem
  have hNe : r.addr ≠ addr := by
    intro hEq
    exact hNone (List.mem_map.mpr ⟨r, hMem, hEq⟩)
  simpa using hNe

/- A region that is left out takes its bytes along. -/
theorem bytesOn_others
    {rs : List Region}
    (hDistinct : (rs.map Region.addr).Nodup)
    {r : Region}
    (hMem : r ∈ rs)
    (t : MemoryTarget) :
    bytesOn t (others r.addr rs) +
        (if t = r.target then r.size else 0) =
      bytesOn t rs := by
  induction rs with
  | nil => cases hMem
  | cons x rest ih =>
      rw [List.map_cons, List.nodup_cons] at hDistinct
      rcases List.mem_cons.mp hMem with rfl | hRest
      · have hOthers : others r.addr (r :: rest) = rest := by
          have hSame := others_of_not_mem hDistinct.1
          simpa [others] using hSame
        rw [hOthers, bytesOn_cons, Nat.add_comm]
      · have hNe : x.addr ≠ r.addr := by
          intro hEq
          apply hDistinct.1
          rw [hEq]
          exact List.mem_map_of_mem hRest
        have hOthers :
            others r.addr (x :: rest) =
              x :: others r.addr rest := by
          simp [others, hNe]
        rw [hOthers, bytesOn_cons, bytesOn_cons, Nat.add_assoc,
          ih hDistinct.2 hRest]

end Region

------------------------------------------------------------
-- Accepted Calls
------------------------------------------------------------

namespace Device

/- Only a region in use can be freed. -/
theorem free_inUse
    {d d' : Device}
    {region : Region}
    (hOk : d.free region = .ok ((), d')) :
    ∃ r,
      d.region? region.addr = some r ∧ r.freed = false := by
  unfold free at hOk
  split at hOk
  · cases hOk
  · rename_i r hFound
    split at hOk
    · cases hOk
    · rename_i hInUse
      exact ⟨r, hFound, by simpa using hInUse⟩

/- Only a region in the table can be detached from. -/
theorem detach_found
    {d d' : Device}
    {region : Region}
    (hOk : d.detach region = .ok ((), d')) :
    ∃ r, d.region? region.addr = some r := by
  unfold detach at hOk
  split at hOk
  · cases hOk
  · rename_i r hFound
    exact ⟨r, hFound⟩

/- An entry after an allocation is a new one, or an old one. -/
theorem Granted.entry_cases
    {d d' : Device}
    {answer : List Region}
    (h : d.Granted d' answer)
    {addr : Nat}
    {e : LiveRegion}
    (hFound : d'.region? addr = some e) :
    (addr ∈ answer.map Region.addr ∧ e.freed = false) ∨
      d.region? addr = some e := by
  by_cases hNew : addr ∈ answer.map Region.addr
  · rcases List.mem_map.mp hNew with ⟨region, hRegion, rfl⟩
    rcases h.live region hRegion with
      ⟨r, hEntry, _, _, _, hInUse⟩
    rw [hFound] at hEntry
    cases hEntry
    exact Or.inl ⟨hNew, hInUse⟩
  · rw [h.others addr hNew] at hFound
    exact Or.inr hFound

/- An entry after a change is the new one, or an old one. -/
theorem entry_of_kept
    {d d' : Device}
    {addr : Nat}
    {new : LiveRegion}
    (hTable :
      ∀ a,
        d'.region? a =
          if a = addr then new.kept else d.region? a)
    {a : Nat}
    {e : LiveRegion}
    (hFound : d'.region? a = some e) :
    (a = addr ∧ e = new ∧
        (new.freed = true → 0 < new.attachments)) ∨
      (a ≠ addr ∧ d.region? a = some e) := by
  rw [hTable] at hFound
  by_cases hHere : a = addr
  · rw [if_pos hHere] at hFound
    exact Or.inl ⟨hHere, LiveRegion.mem_kept.mp hFound⟩
  · rw [if_neg hHere] at hFound
    exact Or.inr ⟨hHere, hFound⟩

end Device

------------------------------------------------------------
-- Balance
------------------------------------------------------------

namespace Ledger

/-
  The table of the device has all owned regions as regions
  in use and no others in use, a region that is not in use
  is attached, and each byte in use is a byte owned.
-/
structure Balanced
    (s : Ledger) : Prop where
  filed : s.device.Filed
  packed : s.device.Packed
  distinct : (s.owned.map Region.addr).Nodup
  entered :
    ∀ r ∈ s.owned,
      ∃ e,
        s.device.region? r.addr = some e ∧
          e.size = r.size ∧ e.target = r.target ∧
            e.freed = false
  owner :
    ∀ addr e,
      s.device.region? addr = some e →
        e.freed = false → addr ∈ s.owned.map Region.addr
  needed :
    ∀ addr e,
      s.device.region? addr = some e →
        e.freed = true → 0 < e.attachments
  used : ∀ t, s.device.used t = Region.bytesOn t s.owned

theorem balanced_opened
    (page : PageSize)
    (capacity : MemoryTarget → Nat) :
    (opened page capacity).Balanced where
  filed := Device.filed_fresh page capacity
  packed := Device.packed_fresh page capacity
  distinct := List.nodup_nil
  entered := nofun
  owner := nofun
  needed := nofun
  used := fun _ => rfl

section Calls

variable {s : Ledger}
variable {d' : Device}

/- What is entered and not freed is owned. -/
theorem Balanced.owned_of_inUse
    (h : s.Balanced)
    {addr : Nat}
    {e : LiveRegion}
    (hFound : s.device.region? addr = some e)
    (hInUse : e.freed = false) :
    ∃ r ∈ s.owned,
      r.addr = addr ∧ e.size = r.size ∧
        e.target = r.target := by
  rcases List.mem_map.mp (h.owner addr e hFound hInUse) with
    ⟨r, hMem, rfl⟩
  rcases h.entered r hMem with
    ⟨e', hEntry, hSize, hTarget, _⟩
  rw [hFound] at hEntry
  cases hEntry
  exact ⟨r, hMem, rfl, hSize, hTarget⟩

/- Nobody owns what is not entered, or entered as freed. -/
theorem Balanced.not_owned
    (h : s.Balanced)
    {addr : Nat}
    (hGone :
      ∀ e, s.device.region? addr = some e →
        e.freed = true) :
    addr ∉ s.owned.map Region.addr := by
  intro hMem
  rcases List.mem_map.mp hMem with ⟨r, hOwned, rfl⟩
  rcases h.entered r hOwned with ⟨e, hFound, _, _, hInUse⟩
  rw [hGone e hFound] at hInUse
  cases hInUse

/- An allocation makes owners of what it answers. -/
theorem Balanced.allocated
    {target : MemoryTarget}
    {cache : CachePolicy}
    {sizes : List Nat}
    {answer : List Region}
    (h : s.Balanced)
    (hFiled : d'.Filed)
    (hInside : d'.CursorsInside)
    (hOk :
      s.device.allocate target cache sizes =
        .ok (answer, d')) :
    Balanced ⟨d', answer ++ s.owned⟩ := by
  have hGranted := h.packed.granted hInside hOk
  -- An owned region is in the table, a new one is not.
  have hApart :
      ∀ region ∈ answer, ∀ r ∈ s.owned,
        region.addr ≠ r.addr := by
    intro region hNew r hOwned hEq
    rcases h.entered r hOwned with ⟨e, hFound, _⟩
    rw [← hEq, hGranted.vacant region hNew] at hFound
    cases hFound
  constructor
  · exact hFiled
  · exact h.packed.allocated hInside hOk
  · rw [List.map_append]
    apply hGranted.distinct.append h.distinct
    intro addr hNew hOwned
    rcases List.mem_map.mp hNew with ⟨region, hRegion, rfl⟩
    rcases List.mem_map.mp hOwned with ⟨r, hMem, hEq⟩
    exact hApart region hRegion r hMem hEq.symm
  · intro r hMem
    rcases List.mem_append.mp hMem with hNew | hOwned
    · rcases hGranted.live r hNew with
        ⟨e, hFound, hSize, hTarget, _, hInUse⟩
      exact ⟨e, hFound, hSize, hTarget, hInUse⟩
    · rcases h.entered r hOwned with ⟨e, hFound, hEntry⟩
      refine ⟨e, ?_, hEntry⟩
      rw [hGranted.others, hFound]
      intro hNew
      rcases List.mem_map.mp hNew with ⟨region, hRegion, hEq⟩
      exact hApart region hRegion r hOwned hEq
  · intro addr e hFound hInUse
    rw [List.map_append]
    apply List.mem_append.mpr
    rcases hGranted.entry_cases hFound with ⟨hNew, _⟩ | hOld
    · exact Or.inl hNew
    · exact Or.inr (h.owner addr e hOld hInUse)
  · intro addr e hFound hFreed
    rcases hGranted.entry_cases hFound with
      ⟨_, hInUse⟩ | hOld
    · rw [hFreed] at hInUse
      cases hInUse
    · exact h.needed addr e hOld hFreed
  · intro t
    rw [hGranted.used, h.used, Region.sum_owned_eq_bytesOn,
      Region.bytesOn_append, Nat.add_comm]

/-
  One entry changes, or leaves the table once it is neither
  in use nor attached. It is owned as long as it is in use.
-/
theorem Balanced.settled
    {addr : Nat}
    {old : LiveRegion}
    {owned : List Region}
    (h : s.Balanced)
    (new : LiveRegion)
    (hFiled : d'.Filed)
    (hPacked : d'.Packed)
    (hFound : s.device.region? addr = some old)
    (hSame : new.size = old.size ∧ new.target = old.target)
    (hFreed : old.freed = true → new.freed = true)
    (hTable :
      ∀ a,
        d'.region? a =
          if a = addr then new.kept else s.device.region? a)
    (hOwned :
      owned =
        if new.freed then Region.others addr s.owned
        else s.owned)
    (hUsed : ∀ t, d'.used t = Region.bytesOn t owned) :
    Balanced ⟨d', owned⟩ := by
  have hMem :
      ∀ r,
        r ∈ owned ↔
          r ∈ s.owned ∧
            (r.addr = addr → new.freed = false) := by
    intro r
    rw [hOwned]
    cases new.freed with
    | false => simp
    | true => simp [Region.mem_others]
  constructor
  · exact hFiled
  · exact hPacked
  · have hSub : owned.Sublist s.owned := by
      rw [hOwned]
      split
      · exact List.filter_sublist
      · exact List.Sublist.refl _
    exact h.distinct.sublist (hSub.map _)
  · intro r hOwner
    rcases (hMem r).mp hOwner with ⟨hBefore, hInUse⟩
    rcases h.entered r hBefore with ⟨e, hEntry, hRest⟩
    simp only [hTable]
    by_cases hHere : r.addr = addr
    · rw [hHere, hFound] at hEntry
      cases hEntry
      have hNew := hInUse hHere
      refine ⟨new, ?_, ?_⟩
      · rw [if_pos hHere]
        exact
          LiveRegion.mem_kept.mpr
            ⟨rfl, fun hGone => by simp [hNew] at hGone⟩
      · rw [hSame.1, hSame.2]
        exact ⟨hRest.1, hRest.2.1, hNew⟩
    · rw [if_neg hHere]
      exact ⟨e, hEntry, hRest⟩
  · intro a e hEntry hInUse
    rcases Device.entry_of_kept hTable hEntry with
      ⟨rfl, rfl, _⟩ | ⟨hOther, hOld⟩
    · have hBefore : old.freed = false := by
        cases hOld : old.freed with
        | false => rfl
        | true =>
            rw [hFreed hOld] at hInUse
            cases hInUse
      simp only [hOwned, hInUse]
      exact h.owner a old hFound hBefore
    · rcases List.mem_map.mp (h.owner a e hOld hInUse) with
        ⟨r, hBefore, rfl⟩
      exact
        List.mem_map_of_mem
          ((hMem r).mpr
            ⟨hBefore, fun hEq => absurd hEq hOther⟩)
  · intro a e hEntry hGone
    rcases Device.entry_of_kept hTable hEntry with
      ⟨_, rfl, hNeeded⟩ | ⟨_, hOld⟩
    · exact hNeeded hGone
    · exact h.needed a e hOld hGone
  · exact hUsed

/- An attachment leaves owners as they are. -/
theorem Balanced.attached
    {addr : Nat}
    {answer : Region}
    (h : s.Balanced)
    (hFiled : d'.Filed)
    (hPacked : d'.Packed)
    (hOk : s.device.attach addr = .ok (answer, d')) :
    Balanced ⟨d', s.owned⟩ := by
  rcases Device.attach_entry hOk with
    ⟨r, hFound, hInUse, _, hUsed, hTable, _⟩
  let new := { r with attachments := r.attachments + 1 }
  have hKept : new.kept = some new := by
    simp [new, LiveRegion.kept, hInUse]
  apply h.settled new hFiled hPacked hFound ⟨rfl, rfl⟩ id
  · rw [hKept]
    exact hTable
  · simp [new, hInUse]
  · intro t
    rw [hUsed]
    exact h.used t

/- A detachment leaves owners as they are. -/
theorem Balanced.detached
    {region : Region}
    (h : s.Balanced)
    (hFiled : d'.Filed)
    (hPacked : d'.Packed)
    (hOk : s.device.detach region = .ok ((), d')) :
    Balanced ⟨d', s.owned⟩ := by
  rcases Device.detach_found hOk with ⟨r, hFound⟩
  rcases Device.detach_entry hFound with
    ⟨d, hDone, hUsed, hTable, _⟩
  cases hOk.symm.trans hDone
  apply
    h.settled { r with attachments := r.attachments - 1 }
      hFiled hPacked hFound ⟨rfl, rfl⟩ id hTable
  · -- Nobody owns a region that is attached only.
    cases hFreed : r.freed with
    | false => rfl
    | true =>
        apply Eq.symm
        apply Region.others_of_not_mem
        apply h.not_owned
        intro e hEntry
        rw [hFound] at hEntry
        cases hEntry
        exact hFreed
  · intro t
    rw [hUsed]
    exact h.used t

/-
  A free that is accepted takes the bytes of an owned region
  off what is in use.
-/
theorem Balanced.released
    {region : Region}
    (h : s.Balanced)
    (hOk : s.device.free region = .ok ((), d')) :
    ∃ r ∈ s.owned,
      r.addr = region.addr ∧
        ∀ t,
          d'.used t + (if t = r.target then r.size else 0) =
            s.device.used t := by
  rcases Device.free_inUse hOk with ⟨e, hFound, hInUse⟩
  rcases Device.free_entry hFound hInUse with
    ⟨d, hDone, hUsed, _⟩
  cases hOk.symm.trans hDone
  rcases h.owned_of_inUse hFound hInUse with
    ⟨r, hMem, hAddr, hSize, hTarget⟩
  refine ⟨r, hMem, hAddr, ?_⟩
  intro t
  have hOthers := Region.bytesOn_others h.distinct hMem t
  rw [hUsed, h.used, hSize, hTarget]
  omega

/- A region that is freed is not owned any more. -/
theorem Balanced.freed
    {region : Region}
    (h : s.Balanced)
    (hFiled : d'.Filed)
    (hPacked : d'.Packed)
    (hOk : s.device.free region = .ok ((), d')) :
    Balanced ⟨d', Region.others region.addr s.owned⟩ := by
  rcases h.released hOk with ⟨r, hMem, hAddr, hBytes⟩
  rcases Device.free_inUse hOk with ⟨e, hFound, hInUse⟩
  rcases Device.free_entry hFound hInUse with
    ⟨d, hDone, _, hTable, _⟩
  cases hOk.symm.trans hDone
  apply
    h.settled { e with freed := true } hFiled hPacked hFound
      ⟨rfl, rfl⟩ (fun _ => rfl) hTable rfl
  intro t
  change
    d'.used t =
      Region.bytesOn t (Region.others region.addr s.owned)
  have hOthers := Region.bytesOn_others h.distinct hMem t
  have hUsed := hBytes t
  rw [hAddr] at hOthers
  rw [h.used] at hUsed
  omega

/- A free that is refused is not one of an owner. -/
theorem Balanced.not_owned_of_refused
    {region : Region}
    {e : Error}
    (h : s.Balanced)
    (hRefused : s.device.free region = .error e) :
    region.addr ∉ s.owned.map Region.addr := by
  apply h.not_owned
  intro r hFound
  cases hFreed : r.freed with
  | true => rfl
  | false =>
      rcases Device.free_entry hFound hFreed with
        ⟨d, hDone, _⟩
      rw [hRefused] at hDone
      cases hDone

/- No call leaves bytes in use that nobody owns. -/
theorem Balanced.step
    (h : s.Balanced)
    (c : Device.Call)
    (hInside : (s.step c).device.CursorsInside) :
    (s.step c).Balanced := by
  have hFiled : (s.step c).device.Filed :=
    Device.filed_act s.device (.call c) h.filed
  have hPacked : (s.step c).device.Packed :=
    Device.packed_step c h.packed hInside
  cases c with
  | allocate target cache sizes =>
      cases hCall : s.device.allocate target cache sizes with
      | error e =>
          have hStep :
              s.step (.allocate target cache sizes) = s := by
            simp [Ledger.step, Device.step, Device.perform,
              Device.answered, hCall, Except.map]
          rw [hStep]
          exact h
      | ok result =>
          have hOk :=
            Device.allocate_of_isOk
              (congrArg Except.isOk hCall)
          exact h.allocated hFiled hInside hOk
  | attach addr =>
      rcases Device.step_of_perform (.attach addr) s.device
          (x := s.device.attach addr) rfl with
        hSame | ⟨answer, hOk⟩
      · change Balanced ⟨Device.step _ s.device, s.owned⟩
        rw [hSame]
        exact h
      · exact h.attached hFiled hPacked hOk
  | free region =>
      cases hCall : s.device.free region with
      | error e =>
          have hNone := h.not_owned_of_refused hCall
          have hStep : s.step (.free region) = s := by
            simp [Ledger.step, Device.step, Device.perform,
              hCall, Except.map,
              Region.others_of_not_mem hNone]
          rw [hStep]
          exact h
      | ok result =>
          have hOk :
              s.device.free region =
                .ok
                  ((), Device.step (.free region)
                    s.device) := by
            simp [Device.step, Device.perform, hCall,
              Except.map]
          exact h.freed hFiled hPacked hOk
  | detach region =>
      rcases Device.step_of_perform (.detach region) s.device
          (x := s.device.detach region) rfl with
        hSame | ⟨answer, hOk⟩
      · change Balanced ⟨Device.step _ s.device, s.owned⟩
        rw [hSame]
        exact h
      · exact h.detached hFiled hPacked hOk

end Calls

end Ledger

------------------------------------------------------------
-- Capacities
------------------------------------------------------------

namespace Device

/-
  No call changes what a window can hold, and what is in use
  grows within it only.
-/
structure Confined
    (d d' : Device) : Prop where
  capacities :
    ∀ t, (d'.windows t).capacity = (d.windows t).capacity
  used :
    ∀ t,
      d'.used t ≤ d.used t ∨
        d'.used t ≤ (d.windows t).capacity

/- Calls that leave all windows alone are confined. -/
theorem Confined.of_windows
    {d d' : Device}
    (hWindows : d'.windows = d.windows) : d.Confined d' where
  capacities t := by rw [hWindows]
  used t := by
    unfold Device.used
    rw [hWindows]
    exact Or.inl (Nat.le_refl _)

theorem confined_of_allocate
    {d d' : Device}
    {target : MemoryTarget}
    {cache : CachePolicy}
    {sizes : List Nat}
    {answer : List Region}
    (hOk :
      d.allocate target cache sizes = .ok (answer, d')) :
    d.Confined d' := by
  rcases allocate_eq_ok_iff.mp hOk with ⟨hAdmits, _, rfl⟩
  constructor
  · exact d.capacity_grown target cache sizes
  · intro t
    rw [d.used_grown target cache sizes t]
    by_cases hTarget : t = target
    · rw [if_pos hTarget, hTarget]
      exact Or.inr hAdmits.room
    · rw [if_neg hTarget]
      exact Or.inl (Nat.le_refl _)

theorem confined_of_free
    {d d' : Device}
    {region : Region}
    (hOk : d.free region = .ok ((), d')) :
    d.Confined d' := by
  rcases free_ok hOk with ⟨_, _, hUpdated⟩
  constructor
  · exact hUpdated.capacities
  · unfold free at hOk
    split at hOk
    · cases hOk
    · rename_i r _
      split at hOk
      · cases hOk
      · cases hOk
        intro t
        apply Or.inl
        by_cases hTarget : t = r.target
        · simp [used, settle, setWindow, hTarget]
        · simp [used, settle, setWindow, hTarget]

theorem confined_of_detach
    {d d' : Device}
    {region : Region}
    (hOk : d.detach region = .ok ((), d')) :
    d.Confined d' := by
  unfold detach at hOk
  split at hOk
  · cases hOk
  · cases hOk
    exact .of_windows rfl

theorem confined_step
    (c : Call)
    (d : Device) : d.Confined (step c d) := by
  cases c with
  | allocate target cache sizes =>
      rcases step_of_perform (.allocate target cache sizes) d
          (x := d.allocate target cache sizes) rfl with
        hSame | ⟨answer, hOk⟩
      · exact .of_windows (congrArg windows hSame)
      · exact confined_of_allocate hOk
  | attach addr =>
      rcases step_of_perform (.attach addr) d
          (x := d.attach addr) rfl with
        hSame | ⟨answer, hOk⟩
      · exact .of_windows (congrArg windows hSame)
      · rcases attach_eq hOk with ⟨r, _, _, _, hDevice⟩
        rw [hDevice]
        exact .of_windows rfl
  | free region =>
      rcases step_of_perform (.free region) d
          (x := d.free region) rfl with
        hSame | ⟨answer, hOk⟩
      · exact .of_windows (congrArg windows hSame)
      · exact confined_of_free hOk
  | detach region =>
      rcases step_of_perform (.detach region) d
          (x := d.detach region) rfl with
        hSame | ⟨answer, hOk⟩
      · exact .of_windows (congrArg windows hSame)
      · exact confined_of_detach hOk

/- Windows have a capacity that what is in use fits in. -/
structure Budgeted
    (capacity : MemoryTarget → Nat)
    (d : Device) : Prop where
  capacities : ∀ t, (d.windows t).capacity = capacity t
  within : ∀ t, d.used t ≤ capacity t

theorem budgeted_fresh
    (page : PageSize)
    (capacity : MemoryTarget → Nat) :
    Budgeted capacity (fresh page capacity) where
  capacities := fun _ => rfl
  within := fun t => Nat.zero_le (capacity t)

theorem Budgeted.confined
    {capacity : MemoryTarget → Nat}
    {d d' : Device}
    (h : Budgeted capacity d)
    (hConfined : d.Confined d') :
    Budgeted capacity d' where
  capacities t :=
    (hConfined.capacities t).trans (h.capacities t)
  within t := by
    rcases hConfined.used t with hLess | hFits
    · exact Nat.le_trans hLess (h.within t)
    · rw [h.capacities] at hFits
      exact hFits

section Refusals

variable {d : Device}
variable {target : MemoryTarget}
variable {sizes : List Nat}

/- What a window cannot hold is refused. -/
theorem refused_of_full
    (cache : CachePolicy)
    (hFull :
      (d.windows target).capacity <
        d.used target + sizes.sum) :
    ∃ e, d.allocate target cache sizes = .error e := by
  rw [allocate_eq_error_iff]
  intro hAdmits
  have hRoom := hAdmits.room
  omega

/-
  Behind a cursor inside its window, sizes that are not at
  fault are refused exactly if the window cannot hold them
  beside what is in use, or a file cannot.
-/
theorem allocate_refused_iff
    (hWord : (d.windows target).capacity < Word.limit)
    (hInside : (d.windows target).next ≤ windowEnd target)
    (cache : CachePolicy)
    (hSizes : sizes ≠ [])
    (hZero : 0 ∉ sizes) :
    (∃ e, d.allocate target cache sizes = .error e) ↔
      (d.windows target).capacity <
          d.used target + sizes.sum ∨
        Backing.limit ≤ d.page.up sizes.sum := by
  rw [allocate_eq_error_iff]
  constructor
  · intro hNot
    by_contra hNone
    rw [not_or, Nat.not_lt, Nat.not_le] at hNone
    exact
      hNot
        ⟨hSizes, hZero, Nat.lt_of_le_of_lt hNone.1 hWord,
          hNone.1, hNone.2,
          hasAddresses_of_inside hInside hNone.2⟩
  · rintro (hFull | hLong) hAdmits
    · have hRoom := hAdmits.room
      omega
    · have hFile := hAdmits.filed
      omega

/- A file for what fits in a window may be refused. -/
theorem allocate_of_long
    (cache : CachePolicy)
    (hSizes : sizes ≠ [])
    (hZero : 0 ∉ sizes)
    (hRoom :
      d.used target + sizes.sum ≤
        (d.windows target).capacity)
    (hWord : (d.windows target).capacity < Word.limit)
    (hLength : d.page.up sizes.sum < Word.limit)
    (hLong : Backing.limit ≤ d.page.up sizes.sum) :
    d.allocate target cache sizes =
      .error (.system .invalidArgument) := by
  have hTotal :
      (d.windows target).used + sizes.sum < Word.limit :=
    Nat.lt_of_le_of_lt hRoom hWord
  have hSum : Word.sum? sizes = some sizes.sum :=
    if_pos
      (Nat.lt_of_le_of_lt (Nat.le_add_left _ _) hTotal)
  have hPlace :
      d.place target sizes.sum =
        .error (.system .invalidArgument) := by
    unfold place
    dsimp only
    rw [if_neg (Nat.not_le.mpr hLength), if_pos hLong]
  unfold allocate
  rw [if_neg (by simp [hSizes, hZero]), hSum]
  dsimp only
  rw [if_pos ⟨hTotal, hRoom⟩, hPlace]

end Refusals

end Device

------------------------------------------------------------
-- Calls on a Platform
------------------------------------------------------------

namespace Platform

/- A call of the device as the rest of the library makes it. -/
def made : Device.Call → Op Error Platform Unit
  | .allocate target cache sizes =>
    discard (allocate target cache sizes)
  | .attach addr => discard (attach addr)
  | .free region => free region
  | .detach region => detach region

/- A call of the device behind a plan without failures. -/
theorem pass_call_of_calm
    {α : Type}
    {m : Platform}
    (hCalm : m.faults = FaultPlan.none)
    (name : DeviceCall)
    (f : Device → Except Error (α × Device)) :
    (pass name >>= fun _ => call f) m = call f m := by
  simp only [bind, Op.bind, pass_of_nil (congrFun hCalm name)]

/- A call of the device, with its answer left out. -/
theorem discard_call
    {α : Type}
    (f : Device → Except Error (α × Device))
    (m : Platform) :
    (discard (call f) : Op Error Platform Unit) m =
      match (f m.device).map Prod.snd with
      | .ok d => (.ok (), { m with device := d })
      | .error e => (.error e, m) := by
  rw [Op.discard_run, call, Op.change]
  cases f m.device <;> rfl

/-
  Without planned failures the platform does what its device
  does, and a call that is refused changes nothing at all.
-/
theorem made_of_calm
    {m : Platform}
    (hCalm : m.faults = FaultPlan.none)
    (c : Device.Call) :
    made c m =
      match m.device.perform c with
      | .ok d => (.ok (), { m with device := d })
      | .error e => (.error e, m) := by
  cases c with
  | allocate target cache sizes =>
      rw [made, Op.discard_run, allocate_of_calm hCalm,
        ← Op.discard_run, discard_call]
      rfl
  | attach addr =>
      rw [made, Op.discard_run, attach,
        pass_call_of_calm hCalm, ← Op.discard_run,
        discard_call]
      rfl
  | free region =>
      rw [made, free, pass_call_of_calm hCalm, call,
        Op.change, Device.perform]
      cases m.device.free region <;> rfl
  | detach region =>
      rw [made, detach, pass_call_of_calm hCalm, call,
        Op.change, Device.perform]
      cases m.device.detach region <;> rfl

end Platform

------------------------------------------------------------
-- Whole Runs
------------------------------------------------------------

namespace Ledger

/-
  What is in use is what is owned and fits in the windows.
  What is owned can be freed, and nothing else: its size is
  taken off what is in use, which is no less. Sizes that are
  not at fault and have a word of pages are refused exactly
  if they do not fit in the window or in a file. No region
  stays in the table that is neither in use nor
  attached, and a call that is refused changes nothing.
-/
structure Exact
    (capacity : MemoryTarget → Nat)
    (s : Ledger) : Prop where
  capacities :
    ∀ t, (s.device.windows t).capacity = capacity t
  used : ∀ t, s.device.used t = Region.bytesOn t s.owned
  within : ∀ t, s.device.used t ≤ capacity t
  freeable :
    ∀ region,
      region.addr ∈ s.owned.map Region.addr →
        ∃ d', s.device.free region = .ok ((), d')
  released :
    ∀ region d',
      s.device.free region = .ok ((), d') →
        ∃ r ∈ s.owned,
          r.addr = region.addr ∧
            ∀ t,
              d'.used t +
                  (if t = r.target then r.size else 0) =
                s.device.used t
  full :
    ∀ target cache sizes,
      capacity target < s.device.used target + sizes.sum →
        ∃ e,
          s.device.allocate target cache sizes = .error e
  refused :
    ∀ target cache sizes,
      sizes ≠ [] → 0 ∉ sizes →
        s.device.page.up sizes.sum < Word.limit →
          ((∃ e,
              s.device.allocate target cache sizes =
                .error e) ↔
            capacity target <
                s.device.used target + sizes.sum ∨
              Backing.limit ≤ s.device.page.up sizes.sum)
  needed :
    ∀ e ∈ s.device.regions,
      ¬ (e.2.freed = true ∧ e.2.attachments = 0)
  unchanged :
    ∀ c m,
      m.faults = FaultPlan.none → m.device = s.device →
        (Platform.made c m).2.device = (s.step c).device ∧
          ∀ e m',
            Platform.made c m = (.error e, m') → m' = m

theorem Balanced.exact
    {capacity : MemoryTarget → Nat}
    (hWords : ∀ t, capacity t < Word.limit)
    {s : Ledger}
    (h : s.Balanced)
    (hInside : s.device.CursorsInside)
    (hBudget : Device.Budgeted capacity s.device) :
    Exact capacity s where
  capacities := hBudget.capacities
  used := h.used
  within := hBudget.within
  freeable region hOwned := by
    rcases List.mem_map.mp hOwned with ⟨r, hMem, hAddr⟩
    rcases h.entered r hMem with ⟨e, hFound, _, _, hInUse⟩
    rw [hAddr] at hFound
    rcases Device.free_entry hFound hInUse with ⟨d', hOk, _⟩
    exact ⟨d', hOk⟩
  released region d' hOk := h.released hOk
  full target cache sizes hFull := by
    rw [← hBudget.capacities] at hFull
    exact Device.refused_of_full cache hFull
  refused target cache sizes hSizes hZero _ := by
    have hWord := hWords target
    rw [← hBudget.capacities] at hWord ⊢
    exact
      Device.allocate_refused_iff hWord (hInside target)
        cache hSizes hZero
  needed e hMem := by
    rintro ⟨hFreed, hNone⟩
    have hFound := h.filed.region?_of_mem hMem
    have hNeeded := h.needed e.1 e.2 hFound hFreed
    omega
  unchanged c m hCalm hDevice := by
    rw [Platform.made_of_calm hCalm, hDevice]
    cases hCall : s.device.perform c with
    | ok d =>
        refine ⟨?_, nofun⟩
        simp [Ledger.step, Device.step, hCall]
    | error e =>
        refine ⟨?_, ?_⟩
        · simp [Ledger.step, Device.step, hCall, hDevice]
        · intro e' m' hRun
          cases hRun
          rfl

/-
  As long as no cursor leaves its window, what is in use is
  exact in all states of a run.
-/
theorem exact_run
    {page : PageSize}
    {capacity : MemoryTarget → Nat}
    (hWords : ∀ t, capacity t < Word.limit)
    {calls : List Device.Call}
    (hInside :
      ∀ s ∈ Run.states step calls (opened page capacity),
        s.device.CursorsInside) :
    ∀ s ∈ Run.states step calls (opened page capacity),
      Exact capacity s := by
  have hAll :
      ∀ s ∈ Run.states step calls (opened page capacity),
        s.Balanced ∧ Device.Budgeted capacity s.device := by
    apply Run.forall_states_of_moves
    · exact
        ⟨balanced_opened page capacity,
          Device.budgeted_fresh page capacity⟩
    · intro s c hMove h
      have hNext := (Run.mem_states_of_mem_moves hMove).2
      exact
        ⟨h.1.step c (hInside _ hNext),
          h.2.confined (Device.confined_step c s.device)⟩
  intro s hMem
  have h := hAll s hMem
  exact h.1.exact hWords (hInside s hMem) h.2

/-
  Two regions, of which the first is attached, freed twice
  and detached more often than it was attached. A call frees
  what was never there, and what is left of the window is
  asked for at last, with one byte too many before that.
-/
def twoRegions : List Device.Call :=
  let first : Region :=
    ⟨Device.windowBase, 100, .generic, .uncached⟩
  [.allocate .generic .uncached [100, 5000],
   .attach first.addr,
   .free first,
   .free first,
   .detach first,
   .detach first,
   .free { first with addr := 0 },
   .allocate .generic .cached [3193],
   .allocate .generic .cached [3192]]

theorem exact_after_twoRegions :
    let capacity := fun _ => 8192
    (∀ t : MemoryTarget, capacity t < Word.limit) ∧
    (∀ s ∈
        Run.states step twoRegions (opened .usual capacity),
      s.device.CursorsInside) ∧
    Exact capacity
      (Run.after step twoRegions (opened .usual capacity)) ∧
    (Run.after step twoRegions
        (opened .usual capacity)).owned.map Region.size =
      [3192, 5000] := by
  intro capacity
  have hWords : ∀ t, capacity t < Word.limit := by
    intro t
    decide
  have hInside :
      ∀ s ∈
          Run.states step twoRegions (opened .usual capacity),
        s.device.CursorsInside := by
    decide +kernel
  exact
    ⟨hWords, hInside,
      exact_run hWords hInside _ (Run.after_mem_states _ _),
      by decide +kernel⟩

/-
  The capacity alone does not decide which sizes that are not
  at fault are refused. A window as large as a word has room
  for a region that no file has the length for.
-/
theorem longFile_refused :
    let s := opened .usual fun _ => Word.limit - 1
    let sizes := [Backing.limit]
    s.device.CursorsInside ∧
    (sizes ≠ [] ∧ 0 ∉ sizes ∧ sizes.sum < Word.limit) ∧
    s.device.allocate .generic .uncached sizes =
      .error (.system .invalidArgument) ∧
    ¬ ((∃ e,
          s.device.allocate .generic .uncached sizes =
            .error e) ↔
        (s.device.windows .generic).capacity <
          s.device.used .generic + sizes.sum) := by
  intro s sizes
  have hInside : s.device.CursorsInside := by
    decide +kernel
  have hSizes :
      sizes ≠ [] ∧ 0 ∉ sizes ∧ sizes.sum < Word.limit := by
    decide +kernel
  have hRoom :
      s.device.used .generic + sizes.sum ≤
        (s.device.windows .generic).capacity := by
    decide +kernel
  have hRefused :
      s.device.allocate .generic .uncached sizes =
        .error (.system .invalidArgument) :=
    Device.allocate_of_long .uncached hSizes.1 hSizes.2.1
      hRoom (by decide +kernel) (by decide +kernel)
      (by decide +kernel)
  refine ⟨hInside, hSizes, hRefused, ?_⟩
  intro hIff
  exact absurd (hIff.mp ⟨_, hRefused⟩) (Nat.not_lt.mpr hRoom)

end Ledger

end Offload
