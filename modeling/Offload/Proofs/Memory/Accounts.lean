import Mathlib.Algebra.BigOperators.Group.List.Basic
import Mathlib.Data.List.Count
import Offload.Memory.Handle
import Offload.Proofs.Memory.Placement

/-
  What a device counts and the handles that there are.

  A device accounts for handles if its table has a region
  for exactly the addresses that they refer to, with as many
  attachments as there are attached handles and in use while
  there is an owner, and if its counters and budgets come to
  what the handles come to. Obtaining, mapping, unmapping
  and giving back keep the account, and what an account has
  a handle for can be given back.

  Key definitions include:
    * `Device.Tally`
    * `Device.Accounted`
    * `Device.Granted`
    * `Device.Balanced`

  Main results:
    * `Device.Packed.granted`
    * `Device.Accounted.allocated`
    * `Device.Accounted.attached`
    * `Device.Accounted.mapped`
    * `Device.Accounted.unmapped`
    * `Device.Accounted.freed`
    * `Device.Accounted.detached`
-/

namespace Offload

------------------------------------------------------------
-- Handles at an Address
------------------------------------------------------------

namespace Handle

/- Whether a handle owns the region at an address. -/
def ownsAt
    (addr : Nat)
    (h : Handle) : Bool :=
  !h.isAttached && h.addr == addr

/- Whether a handle is attached to the region at an address. -/
def attachedAt
    (addr : Nat)
    (h : Handle) : Bool :=
  h.isAttached && h.addr == addr

/- The bytes of a target that a handle owns. -/
def owned
    (t : MemoryTarget)
    (h : Handle) : Nat :=
  if h.isAttached = false ∧ h.region.target = t then h.size
  else 0

/- A handle as it is while it is not mapped. -/
def bare
    (h : Handle) : Handle :=
  { h with mapping := none }

/- What does not depend on mappings counts the same. -/
theorem countP_of_bare
    {hs hs' : List Handle}
    (hBare : hs'.map bare = hs.map bare)
    {p : Handle → Bool}
    (hp : ∀ h, p h.bare = p h) :
    hs'.countP p = hs.countP p := by
  have hMap :
      ∀ xs : List Handle, (xs.map bare).countP p = xs.countP p := by
    intro xs
    rw [List.countP_map]
    exact congrArg (xs.countP ·) (funext hp)
  rw [← hMap, ← hMap hs, hBare]

/- Handles at an address own the region or are attached. -/
theorem countP_addr
    (addr : Nat)
    (hs : List Handle) :
    hs.countP (ownsAt addr) + hs.countP (attachedAt addr) =
      hs.countP fun h => h.addr == addr := by
  induction hs with
  | nil => rfl
  | cons h rest ih =>
      simp only [List.countP_cons, ← ih, ownsAt, attachedAt]
      by_cases hAttached : h.isAttached = true
      · simp [hAttached, Nat.add_assoc]
      · simp [hAttached]
        omega

end Handle

------------------------------------------------------------
-- Entries
------------------------------------------------------------

/- An entry, if it stays in the table. -/
def LiveRegion.kept
    (r : LiveRegion) : Option LiveRegion :=
  if r.freed && r.attachments == 0 then none else some r

theorem LiveRegion.mem_kept
    {r s : LiveRegion} :
    s ∈ r.kept ↔
      s = r ∧ (r.freed = true → 0 < r.attachments) := by
  unfold kept
  cases hGone : r.freed && r.attachments == 0 with
  | true =>
      have hBoth : r.freed = true ∧ r.attachments = 0 := by
        simpa using hGone
      simp [hBoth.1, hBoth.2]
  | false =>
      have hNeeded : r.freed = true → 0 < r.attachments := by
        intro hFreed
        rw [hFreed] at hGone
        apply Nat.pos_of_ne_zero
        simpa using hGone
      simp only [Bool.false_eq_true, if_false, Option.mem_def,
        Option.some.injEq]
      exact ⟨fun h => ⟨h.symm, hNeeded⟩, fun h => h.1.symm⟩

namespace Device

open Handle

theorem attach_entry
    {d d' : Device}
    {addr : Nat}
    {region : Region}
    (hOk : d.attach addr = .ok (region, d')) :
    ∃ r,
      d.region? addr = some r ∧ r.freed = false ∧
        region = ⟨addr, r.size, r.target, r.cache⟩ ∧
          (∀ t, d'.used t = d.used t) ∧
            (∀ a,
              d'.region? a =
                if a = addr then
                  some { r with attachments := r.attachments + 1 }
                else
                  d.region? a) ∧
              d'.counters =
                { d.counters with
                  attaches := d.counters.attaches + 1 } := by
  rcases attach_eq hOk with ⟨r, hFound, hFreed, hRegion, rfl⟩
  refine
    ⟨r, hFound, hFreed, hRegion, fun _ => rfl, ?_, rfl⟩
  intro a
  simp only [region?, lookup_put]

/- What settling an entry does to the table. -/
theorem region?_settle
    (d : Device)
    (addr : Nat)
    (r : LiveRegion)
    (a : Nat) :
    (d.settle addr r).region? a =
      if a = addr then r.kept else d.region? a := by
  unfold settle LiveRegion.kept region?
  cases hGone : r.freed && r.attachments == 0 with
  | true => exact lookup_without addr a d.regions
  | false => exact lookup_put addr a r d.regions

theorem free_entry
    {d : Device}
    {region : Region}
    {r : LiveRegion}
    (hFound : d.region? region.addr = some r)
    (hFreed : r.freed = false) :
    ∃ d',
      d.free region = .ok ((), d') ∧
        (∀ t,
          d'.used t =
            d.used t - if t = r.target then r.size else 0) ∧
          (∀ a,
            d'.region? a =
              if a = region.addr then
                LiveRegion.kept { r with freed := true }
              else
                d.region? a) ∧
            d'.counters =
              { d.counters with
                frees := d.counters.frees + 1 } := by
  unfold free
  simp only [hFound, hFreed]
  refine ⟨_, rfl, ?_, ?_, rfl⟩
  · intro t
    by_cases hTarget : t = r.target
    · simp [used, settle, setWindow, hTarget]
    · simp [used, settle, setWindow, hTarget]
  · exact region?_settle _ region.addr _

theorem detach_entry
    {d : Device}
    {region : Region}
    {r : LiveRegion}
    (hFound : d.region? region.addr = some r) :
    ∃ d',
      d.detach region = .ok ((), d') ∧
        (∀ t, d'.used t = d.used t) ∧
          (∀ a,
            d'.region? a =
              if a = region.addr then
                LiveRegion.kept
                  { r with attachments := r.attachments - 1 }
              else
                d.region? a) ∧
            d'.counters =
              { d.counters with
                detaches := d.counters.detaches + 1 } := by
  unfold detach
  simp only [hFound]
  exact
    ⟨_, rfl, fun _ => rfl, region?_settle d region.addr _,
      rfl⟩

------------------------------------------------------------
-- Accounts
------------------------------------------------------------

/- What an entry of the table says of some handles. -/
structure Tally
    (hs : List Handle)
    (addr : Nat)
    (r : LiveRegion) : Prop where
  owner :
    hs.countP (ownsAt addr) = if r.freed then 0 else 1
  attachments :
    hs.countP (attachedAt addr) = r.attachments
  needed : r.freed = true → 0 < r.attachments

/-
  A device and all the handles on it. Handles have the size
  and the target of the region they refer to.
-/
structure Accounted
    (d : Device)
    (hs : List Handle) : Prop where
  packed : d.Packed
  tally : ∀ addr r, d.region? addr = some r → Tally hs addr r
  live :
    ∀ h ∈ hs,
      ∃ r,
        d.region? h.addr = some r ∧ r.size = h.size ∧
          r.target = h.region.target
  attaches :
    d.counters.attaches =
      d.counters.detaches + hs.countP isAttached
  maps :
    d.counters.maps = d.counters.unmaps + hs.countP isMapped
  used : ∀ t, d.used t = (hs.map (owned t)).sum

theorem accounted_fresh
    (page : PageSize)
    (capacity : MemoryTarget → Nat) :
    (fresh page capacity).Accounted [] where
  packed := packed_fresh page capacity
  tally := nofun
  live := nofun
  attaches := rfl
  maps := rfl
  used := fun _ => rfl

section Accounts

variable {d d' : Device}
variable {h : Handle}
variable {hs : List Handle}

/- The order of the handles does not matter. -/
theorem Accounted.perm
    {hs' : List Handle}
    (hAll : d.Accounted hs)
    (hPerm : hs.Perm hs') : d.Accounted hs' where
  packed := hAll.packed
  tally := fun addr r hFound =>
    ⟨hPerm.countP_eq _ ▸ (hAll.tally addr r hFound).owner,
      hPerm.countP_eq _ ▸
        (hAll.tally addr r hFound).attachments,
      (hAll.tally addr r hFound).needed⟩
  live := fun h hMem => hAll.live h (hPerm.mem_iff.mpr hMem)
  attaches := hPerm.countP_eq _ ▸ hAll.attaches
  maps := hPerm.countP_eq _ ▸ hAll.maps
  used := fun t =>
    (hPerm.map (owned t)).sum_eq ▸ hAll.used t

/-
  Windows, regions and the counts of attachments and of
  regions freed are equal.
-/
structure Alike
    (d d' : Device) : Prop where
  windows : d'.windows = d.windows
  regions : d'.regions = d.regions
  frees : d'.counters.frees = d.counters.frees
  attaches : d'.counters.attaches = d.counters.attaches
  detaches : d'.counters.detaches = d.counters.detaches

theorem Packed.of_alike
    (hPacked : d.Packed)
    (hAlike : d.Alike d') : d'.Packed := by
  constructor
  · rw [hAlike.windows]
    exact hPacked.reached
  · rw [hAlike.windows, hAlike.regions]
    exact hPacked.behind
  · rw [hAlike.regions]
    exact hPacked.apart

/- Whether handles are mapped is a matter of two counters. -/
theorem Accounted.of_alike
    {hs' : List Handle}
    (hAll : d.Accounted hs)
    (hAlike : d.Alike d')
    (hBare : hs'.map bare = hs.map bare)
    (hMaps :
      d'.counters.maps =
        d'.counters.unmaps + hs'.countP isMapped) :
    d'.Accounted hs' where
  packed := hAll.packed.of_alike hAlike
  tally := by
    intro addr r hFound
    unfold region? at hFound
    rw [hAlike.regions] at hFound
    have hTally := hAll.tally addr r hFound
    constructor
    · rw [countP_of_bare hBare fun _ => rfl]
      exact hTally.owner
    · rw [countP_of_bare hBare fun _ => rfl]
      exact hTally.attachments
    · exact hTally.needed
  live := by
    unfold region?
    rw [hAlike.regions]
    intro x hMem
    have hBareMem : x.bare ∈ hs.map bare := by
      rw [← hBare]
      exact List.mem_map_of_mem hMem
    rcases List.mem_map.mp hBareMem with ⟨y, hOld, hEq⟩
    have hRegion : y.bare.region = x.bare.region := by
      rw [hEq]
    change y.region = x.region at hRegion
    rcases hAll.live y hOld with ⟨r, hFound⟩
    refine ⟨r, ?_⟩
    rw [Handle.addr, Handle.size, ← hRegion]
    exact hFound
  attaches := by
    rw [hAlike.attaches, hAlike.detaches,
      countP_of_bare hBare fun _ => rfl]
    exact hAll.attaches
  maps := hMaps
  used := by
    intro t
    have hOwned :
        (hs'.map bare).map (owned t) =
          (hs.map bare).map (owned t) := by
      rw [hBare]
    rw [List.map_map, List.map_map] at hOwned
    have hSame : owned t ∘ bare = owned t := rfl
    rw [hSame] at hOwned
    unfold Device.used
    rw [hAlike.windows, hOwned]
    exact hAll.used t

/- There is a region exactly where there is a handle. -/
theorem Accounted.region_iff
    (hAll : d.Accounted hs)
    (addr : Nat) :
    (d.region? addr).isSome ↔ ∃ h ∈ hs, h.addr = addr := by
  constructor
  · intro hSome
    rcases Option.isSome_iff_exists.mp hSome with ⟨r, hFound⟩
    have hTally := hAll.tally addr r hFound
    have hCount : 0 < hs.countP fun h => h.addr == addr := by
      rw [← countP_addr, hTally.owner, hTally.attachments]
      cases hFreed : r.freed with
      | false =>
          rw [if_neg Bool.false_ne_true]
          omega
      | true => simpa using hTally.needed hFreed
    rcases List.countP_pos_iff.mp hCount with
      ⟨h, hMem, hAddr⟩
    exact ⟨h, hMem, by simpa using hAddr⟩
  · rintro ⟨h, hMem, rfl⟩
    rcases hAll.live h hMem with ⟨r, hFound, _⟩
    rw [hFound]
    rfl

/- Without handles there is nothing on a device. -/
theorem Accounted.empty
    (hAll : d.Accounted []) :
    d.regions = [] ∧ ∀ t, d.used t = 0 := by
  refine ⟨?_, hAll.used⟩
  cases hTable : d.regions with
  | nil => rfl
  | cons e rest =>
      have hFound : (d.region? e.1).isSome := by
        simp [region?, hTable]
      rcases (hAll.region_iff e.1).mp hFound with ⟨h, hMem, _⟩
      cases hMem

------------------------------------------------------------
-- Obtaining
------------------------------------------------------------

/- Handles on regions that were just allocated. -/
def owners
    (regions : List Region) : List Handle :=
  regions.map fun region => ofRegion region .allocated

theorem map_region_owners
    (regions : List Region) :
    (owners regions).map Handle.region = regions := by
  simp only [owners, List.map_map]
  exact List.map_id regions

theorem countP_attached_owners
    (regions : List Region) :
    (owners regions).countP isAttached = 0 ∧
      (owners regions).countP isMapped = 0 := by
  constructor
  · apply List.countP_eq_zero.mpr
    intro h hMem
    rcases List.mem_map.mp hMem with ⟨region, _, rfl⟩
    simp [ofRegion, isAttached]
  · apply List.countP_eq_zero.mpr
    intro h hMem
    rcases List.mem_map.mp hMem with ⟨region, _, rfl⟩
    simp [ofRegion, isMapped]

theorem countP_attachedAt_owners
    (addr : Nat)
    (regions : List Region) :
    (owners regions).countP (attachedAt addr) = 0 := by
  apply List.countP_eq_zero.mpr
  intro h hMem
  rcases List.mem_map.mp hMem with ⟨region, _, rfl⟩
  simp [ofRegion, attachedAt, isAttached]

theorem countP_ownsAt_owners
    (addr : Nat)
    (regions : List Region) :
    (owners regions).countP (ownsAt addr) =
      (regions.map Region.addr).count addr := by
  unfold owners List.count
  rw [List.countP_map, List.countP_map]
  rfl

/- New owners own the bytes that were asked for. -/
theorem sum_owned_owners
    (start : Nat)
    (target : MemoryTarget)
    (cache : CachePolicy)
    (sizes : List Nat)
    (offset : Nat)
    (t : MemoryTarget) :
    ((owners
        ((carve start target cache sizes offset).map
          Prod.snd)).map (owned t)).sum =
      if t = target then sizes.sum else 0 := by
  induction sizes generalizing offset with
  | nil => simp [carve, owners]
  | cons size rest ih =>
      have hRest := ih (offset + size)
      simp only [owners, List.map_map] at hRest
      simp only [carve, owners, List.map_cons, List.sum_cons,
        List.map_map, hRest]
      by_cases hTarget : t = target
      · simp [owned, ofRegion, isAttached, Handle.size,
          hTarget]
      · simp [owned, ofRegion, isAttached, hTarget,
          Ne.symm hTarget]

/- Where there is no region no handle is counted. -/
theorem Accounted.countP_eq_zero
    (hAll : d.Accounted hs)
    {addr : Nat}
    (hNone : d.region? addr = none) :
    hs.countP (ownsAt addr) = 0 ∧
      hs.countP (attachedAt addr) = 0 := by
  have hAddr : ∀ h ∈ hs, h.addr ≠ addr := by
    intro h hMem hEq
    rcases hAll.live h hMem with ⟨r, hFound, _⟩
    rw [hEq, hNone] at hFound
    cases hFound
  constructor
  · apply List.countP_eq_zero.mpr
    intro h hMem
    simp [ownsAt, hAddr h hMem]
  · apply List.countP_eq_zero.mpr
    intro h hMem
    simp [attachedAt, hAddr h hMem]

/-
  What is granted by an allocation that leaves no window:
  regions in use at addresses of their own, where there was
  none. All other regions stay.
-/
structure Granted
    (d d' : Device)
    (answer : List Region) : Prop where
  distinct : (answer.map Region.addr).Nodup
  vacant : ∀ region ∈ answer, d.region? region.addr = none
  live :
    ∀ region ∈ answer,
      ∃ r,
        d'.region? region.addr = some r ∧
          r.size = region.size ∧ r.target = region.target ∧
            r.attachments = 0 ∧ r.freed = false
  others :
    ∀ addr ∉ answer.map Region.addr,
      d'.region? addr = d.region? addr
  used :
    ∀ t,
      d'.used t =
        d.used t + ((owners answer).map (owned t)).sum
  counters :
    d'.counters =
      { d.counters with allocs := d.counters.allocs + 1 }

theorem Packed.granted
    {target : MemoryTarget}
    {cache : CachePolicy}
    {sizes : List Nat}
    {answer : List Region}
    (hPacked : d.Packed)
    (hInside : d'.CursorsInside)
    (hOk :
      d.allocate target cache sizes = .ok (answer, d')) :
    d.Granted d' answer := by
  rcases allocate_ok hOk with ⟨_, _, ⟨file, hTable⟩, _⟩
  rcases allocate_answer hOk with ⟨rfl, hUsed, hCounters⟩
  have hOrder :
      (d.carvedBy target cache sizes).Pairwise
        fun a b => a.2.addr ≠ b.2.addr := by
    apply (pairwise_carve _ _ _ _ _).imp_of_mem
    intro a b ha _ hBefore
    have hSize := (mem_carvedBy hOk ha).2.1
    omega
  constructor
  · rw [List.map_map]
    exact List.pairwise_map.mpr hOrder
  · intro region hMem
    rcases List.mem_map.mp hMem with ⟨c, hCarved, rfl⟩
    apply Option.eq_none_iff_forall_not_mem.mpr
    intro r hFound
    have hEntry := mem_of_region? hFound
    have hApart :=
      hPacked.carvedBy_apart hInside hOk file hCarved hEntry
    exact
      hApart.addr_ne (mem_carvedBy hOk hCarved).2.1
        (hPacked.behind _ hEntry).2.1 rfl
  · intro region hMem
    rcases List.mem_map.mp hMem with ⟨c, hCarved, rfl⟩
    refine ⟨liveOf file c, ?_, rfl, rfl, rfl, rfl⟩
    rw [region?, hTable]
    exact lookup_enter_of_mem hOrder hCarved
  · intro addr hOther
    rw [region?, hTable]
    apply lookup_enter_other
    intro c hCarved hEq
    apply hOther
    rw [List.map_map]
    exact List.mem_map.mpr ⟨c, hCarved, hEq.symm⟩
  · intro t
    rw [hUsed, carvedBy, sum_owned_owners]
  · exact hCounters

/-
  An allocation that leaves no window adds owners of regions
  at addresses that no handle referred to.
-/
theorem Accounted.allocated
    {target : MemoryTarget}
    {cache : CachePolicy}
    {sizes : List Nat}
    {answer : List Region}
    (hAll : d.Accounted hs)
    (hInside : d'.CursorsInside)
    (hOk :
      d.allocate target cache sizes = .ok (answer, d')) :
    d'.Accounted (owners answer ++ hs) := by
  have hGranted := hAll.packed.granted hInside hOk
  constructor
  · exact hAll.packed.allocated hInside hOk
  · intro addr r hFound
    by_cases hAddr : addr ∈ answer.map Region.addr
    · have hOne := List.count_eq_one_of_mem hGranted.distinct hAddr
      rcases List.mem_map.mp hAddr with ⟨region, hMem, rfl⟩
      have hZero :=
        hAll.countP_eq_zero (hGranted.vacant region hMem)
      rcases hGranted.live region hMem with
        ⟨r', hLive, _, _, hFree, hOwned⟩
      cases hFound.symm.trans hLive
      constructor
      · rw [List.countP_append, countP_ownsAt_owners, hOne,
          hZero.1, hOwned]
        rfl
      · rw [List.countP_append, countP_attachedAt_owners,
          hZero.2, hFree]
      · rw [hOwned]
        exact nofun
    · rw [hGranted.others addr hAddr] at hFound
      have hTally := hAll.tally addr r hFound
      have hNone := List.count_eq_zero_of_not_mem hAddr
      constructor
      · rw [List.countP_append, countP_ownsAt_owners, hNone,
          Nat.zero_add]
        exact hTally.owner
      · rw [List.countP_append, countP_attachedAt_owners,
          Nat.zero_add]
        exact hTally.attachments
      · exact hTally.needed
  · intro h hMem
    rcases List.mem_append.mp hMem with hOwner | hBefore
    · rcases List.mem_map.mp hOwner with ⟨region, hRegion, rfl⟩
      rcases hGranted.live region hRegion with
        ⟨r, hLive, hSize, hTarget, _⟩
      exact ⟨r, hLive, hSize, hTarget⟩
    · rcases hAll.live h hBefore with ⟨r, hFound, hSame⟩
      refine ⟨r, ?_, hSame⟩
      rw [hGranted.others, hFound]
      intro hNew
      rcases List.mem_map.mp hNew with ⟨region, hRegion, hEq⟩
      rw [← hEq, hGranted.vacant region hRegion] at hFound
      cases hFound
  · rw [hGranted.counters, List.countP_append,
      (countP_attached_owners answer).1, Nat.zero_add]
    exact hAll.attaches
  · rw [hGranted.counters, List.countP_append,
      (countP_attached_owners answer).2, Nat.zero_add]
    exact hAll.maps
  · intro t
    rw [hGranted.used, hAll.used, List.map_append,
      List.sum_append, Nat.add_comm]

/-
  One entry is another one, and with it the handles at its
  address.
-/
theorem Accounted.tally_of_updated
    {hs' : List Handle}
    {addr : Nat}
    {new : Option LiveRegion}
    (hAll : d.Accounted hs)
    (hTable :
      ∀ a,
        d'.region? a = if a = addr then new else d.region? a)
    (hNew : ∀ r ∈ new, Tally hs' addr r)
    (hCount :
      ∀ a, a ≠ addr →
        hs'.countP (ownsAt a) = hs.countP (ownsAt a) ∧
          hs'.countP (attachedAt a) =
            hs.countP (attachedAt a)) :
    ∀ a r, d'.region? a = some r → Tally hs' a r := by
  intro a r hFound
  rw [hTable] at hFound
  by_cases hAddr : a = addr
  · rw [if_pos hAddr] at hFound
    rw [hAddr]
    exact hNew r hFound
  · rw [if_neg hAddr] at hFound
    have hTally := hAll.tally a r hFound
    constructor
    · rw [(hCount a hAddr).1]
      exact hTally.owner
    · rw [(hCount a hAddr).2]
      exact hTally.attachments
    · exact hTally.needed

theorem Accounted.live_of_updated
    {hs' : List Handle}
    {addr : Nat}
    {new : Option LiveRegion}
    (hAll : d.Accounted hs)
    (hTable :
      ∀ a,
        d'.region? a = if a = addr then new else d.region? a)
    (hNew :
      ∀ h ∈ hs', h.addr = addr →
        ∃ r ∈ new, r.size = h.size ∧ r.target = h.region.target)
    (hOld : ∀ h ∈ hs', h.addr ≠ addr → h ∈ hs) :
    ∀ h ∈ hs',
      ∃ r,
        d'.region? h.addr = some r ∧ r.size = h.size ∧
          r.target = h.region.target := by
  intro h hMem
  rw [hTable]
  by_cases hAddr : h.addr = addr
  · rw [if_pos hAddr]
    exact hNew h hMem hAddr
  · rw [if_neg hAddr]
    exact hAll.live h (hOld h hMem hAddr)

/- An attachment adds a handle that is attached. -/
theorem Accounted.attached
    {addr : Nat}
    {region : Region}
    (hAll : d.Accounted hs)
    (hOk : d.attach addr = .ok (region, d')) :
    d'.Accounted (ofRegion region .attached :: hs) := by
  rcases attach_ok hOk with ⟨_, _, hUpdated⟩
  rcases attach_entry hOk with
    ⟨r, hFound, hFreed, rfl, hUsed, hTable, hCounters⟩
  have hTally := hAll.tally addr r hFound
  constructor
  · exact hAll.packed.updated hUpdated
  · apply hAll.tally_of_updated hTable
    · rintro new ⟨⟩
      constructor
      · simpa [ownsAt, ofRegion, isAttached] using
          hTally.owner
      · simpa [attachedAt, ofRegion, isAttached,
          Handle.addr] using hTally.attachments
      · simp
    · intro a hAddr
      simp [ownsAt, attachedAt, ofRegion, isAttached,
        Handle.addr, Ne.symm hAddr]
  · apply hAll.live_of_updated hTable
    · intro h hMem hAddr
      refine ⟨_, rfl, ?_⟩
      rcases List.mem_cons.mp hMem with rfl | hBefore
      · exact ⟨rfl, rfl⟩
      · rcases hAll.live h hBefore with ⟨old, hOld, hSame⟩
        rw [hAddr, hFound] at hOld
        cases hOld
        exact hSame
    · intro h hMem hAddr
      rcases List.mem_cons.mp hMem with rfl | hBefore
      · exact absurd rfl hAddr
      · exact hBefore
  · have hAttaches := hAll.attaches
    rw [hCounters]
    simp [ofRegion, isAttached] at hAttaches ⊢
    omega
  · rw [hCounters]
    simpa [ofRegion, isMapped] using hAll.maps
  · intro t
    rw [hUsed]
    simpa [owned, ofRegion, isAttached] using hAll.used t

------------------------------------------------------------
-- Mapping
------------------------------------------------------------

/- A mapping makes a handle a mapped one. -/
theorem Accounted.mapped
    {m : Mapping}
    (hAll : d.Accounted (h :: hs))
    (hNone : h.mapping = none)
    (hOk : d.map h.region = .ok (m, d')) :
    d'.Accounted ({ h with mapping := some m } :: hs) := by
  have hMaps := hAll.maps
  unfold map at hOk
  cases hFound : d.region? h.region.addr with
  | none => simp [hFound] at hOk
  | some r =>
      simp only [hFound] at hOk
      cases hOk
      rw [List.countP_cons_of_neg (by simp [isMapped, hNone])]
        at hMaps
      apply hAll.of_alike
      · exact ⟨rfl, rfl, rfl, rfl, rfl⟩
      · rfl
      · rw [List.countP_cons_of_pos rfl]
        simp only
        omega

/- A mapped handle is unmapped. -/
theorem Accounted.unmapped
    (hAll : d.Accounted (h :: hs))
    (hMapped : h.isMapped = true) :
    d.unmap.Accounted ({ h with mapping := none } :: hs) := by
  have hMaps := hAll.maps
  rw [List.countP_cons_of_pos hMapped] at hMaps
  apply hAll.of_alike
  · exact ⟨rfl, rfl, rfl, rfl, rfl⟩
  · rfl
  · rw [List.countP_cons_of_neg (by simp [isMapped])]
    simp only [unmap]
    omega

------------------------------------------------------------
-- Giving Back
------------------------------------------------------------

/-
  A handle leaves, and with it a reference to its region,
  which the table keeps while there is another.
-/
theorem Accounted.settled
    {old new : LiveRegion}
    (hAll : d.Accounted (h :: hs))
    (hFound : d.region? h.addr = some old)
    (hTable :
      ∀ a,
        d'.region? a =
          if a = h.addr then new.kept else d.region? a)
    (hSize : new.size = old.size ∧ new.target = old.target)
    (hOwner :
      hs.countP (ownsAt h.addr) = if new.freed then 0 else 1)
    (hAttachments :
      hs.countP (attachedAt h.addr) = new.attachments) :
    (∀ a r, d'.region? a = some r → Tally hs a r) ∧
      ∀ x ∈ hs,
        ∃ r,
          d'.region? x.addr = some r ∧ r.size = x.size ∧
            r.target = x.region.target := by
  constructor
  · apply hAll.tally_of_updated hTable
    · intro r hKept
      rcases LiveRegion.mem_kept.mp hKept with
        ⟨rfl, hNeeded⟩
      exact ⟨hOwner, hAttachments, hNeeded⟩
    · intro a hAddr
      simp [ownsAt, attachedAt, Ne.symm hAddr]
  · apply hAll.live_of_updated hTable
    · intro x hMem hAddr
      refine ⟨new, ?_, ?_⟩
      · apply LiveRegion.mem_kept.mpr
        refine ⟨rfl, ?_⟩
        intro hFreed
        rw [← hAttachments]
        have hOne : 0 < hs.countP fun y => y.addr == h.addr :=
          List.countP_pos_iff.mpr ⟨x, hMem, by simpa using hAddr⟩
        rw [← countP_addr, hOwner, if_pos hFreed] at hOne
        omega
      · rcases hAll.live x (List.mem_cons_of_mem _ hMem) with
          ⟨r, hOld, hSame⟩
        rw [hAddr, hFound] at hOld
        cases hOld
        rw [hSize.1, hSize.2]
        exact hSame
    · intro x hMem _
      exact List.mem_cons_of_mem _ hMem

/- An owner that is not mapped can be given back. -/
theorem Accounted.freed
    (hAll : d.Accounted (h :: hs))
    (hOwner : h.origin = .allocated)
    (hNone : h.mapping = none) :
    ∃ d', d.free h.region = .ok ((), d') ∧ d'.Accounted hs := by
  rcases hAll.live h List.mem_cons_self with
    ⟨r, hFound, hSize, hTarget⟩
  have hTally := hAll.tally h.addr r hFound
  have hNotAttached : h.isAttached = false := by
    rw [isAttached, hOwner]
    rfl
  have hOwns := hTally.owner
  have hAttachments := hTally.attachments
  rw [List.countP_cons_of_pos
    (by simp [ownsAt, hNotAttached])] at hOwns
  rw [List.countP_cons_of_neg
    (by simp [attachedAt, hNotAttached])] at hAttachments
  have hFreed : r.freed = false := by
    cases hFreed : r.freed with
    | false => rfl
    | true => simp [hFreed] at hOwns
  rw [hFreed, if_neg Bool.false_ne_true] at hOwns
  rcases free_entry hFound hFreed with
    ⟨d', hOk, hUsed, hTable, hCounters⟩
  rcases free_ok hOk with ⟨_, _, hUpdated⟩
  refine ⟨d', hOk, ?_⟩
  have hSettled :=
    hAll.settled hFound hTable ⟨rfl, rfl⟩
      (Nat.succ.inj hOwns) hAttachments
  have hAttaches := hAll.attaches
  have hMaps := hAll.maps
  rw [List.countP_cons_of_neg (by simp [hNotAttached])]
    at hAttaches
  rw [List.countP_cons_of_neg (by simp [isMapped, hNone])]
    at hMaps
  constructor
  · exact hAll.packed.updated hUpdated
  · exact hSettled.1
  · exact hSettled.2
  · rw [hCounters]
    exact hAttaches
  · rw [hCounters]
    exact hMaps
  · intro t
    have hUsedBefore := hAll.used t
    rw [hUsed]
    rw [List.map_cons, List.sum_cons] at hUsedBefore
    have hOwned :
        owned t h = if t = r.target then r.size else 0 := by
      rw [owned, hTarget, hSize]
      simp only [hNotAttached, true_and, eq_comm]
    omega

/- An attached handle that is not mapped can be given back. -/
theorem Accounted.detached
    (hAll : d.Accounted (h :: hs))
    (hOrigin : h.origin = .attached)
    (hNone : h.mapping = none) :
    ∃ d',
      d.detach h.region = .ok ((), d') ∧ d'.Accounted hs := by
  rcases hAll.live h List.mem_cons_self with
    ⟨r, hFound, hSize, hTarget⟩
  have hTally := hAll.tally h.addr r hFound
  have hAttached : h.isAttached = true := by
    rw [isAttached, hOrigin]
    rfl
  have hOwns := hTally.owner
  have hAttachments := hTally.attachments
  rw [List.countP_cons_of_neg
    (by simp [ownsAt, hAttached])] at hOwns
  rw [List.countP_cons_of_pos
    (by simp [attachedAt, hAttached])] at hAttachments
  rcases detach_entry hFound with
    ⟨d', hOk, hUsed, hTable, hCounters⟩
  rcases detach_ok hOk with ⟨_, _, hUpdated⟩
  refine ⟨d', hOk, ?_⟩
  have hSettled :=
    hAll.settled hFound hTable ⟨rfl, rfl⟩ hOwns
      (by simp only; omega)
  have hAttaches := hAll.attaches
  have hMaps := hAll.maps
  rw [List.countP_cons_of_pos hAttached] at hAttaches
  rw [List.countP_cons_of_neg (by simp [isMapped, hNone])]
    at hMaps
  constructor
  · exact hAll.packed.updated hUpdated
  · exact hSettled.1
  · exact hSettled.2
  · rw [hCounters]
    simp only
    omega
  · rw [hCounters]
    exact hMaps
  · intro t
    have hUsedBefore := hAll.used t
    rw [hUsed]
    simpa [owned, hAttached] using hUsedBefore

------------------------------------------------------------
-- Balance
------------------------------------------------------------

/-
  What a device says of all the handles on it: a region is
  live exactly while a handle refers to it and marked as
  freed exactly while none owns it, attachments and mappings
  are those of the handles, and the bytes in use are those
  of the owners.
-/
structure Balanced
    (d : Device)
    (hs : List Handle) : Prop where
  live :
    ∀ addr, (d.region? addr).isSome ↔ ∃ h ∈ hs, h.addr = addr
  region :
    ∀ h ∈ hs,
      ∃ r,
        d.region? h.addr = some r ∧ r.size = h.size ∧
          r.target = h.region.target
  tally : ∀ addr r, d.region? addr = some r → Tally hs addr r
  attaches :
    d.counters.attaches =
      d.counters.detaches + hs.countP isAttached
  maps :
    d.counters.maps = d.counters.unmaps + hs.countP isMapped
  used : ∀ t, d.used t = (hs.map (owned t)).sum
  dropped : hs = [] → d.regions = [] ∧ ∀ t, d.used t = 0

theorem Accounted.balanced
    (hAll : d.Accounted hs) : d.Balanced hs where
  live := hAll.region_iff
  region := hAll.live
  tally := hAll.tally
  attaches := hAll.attaches
  maps := hAll.maps
  used := hAll.used
  dropped := by
    rintro rfl
    exact hAll.empty

end Accounts

end Device

end Offload
