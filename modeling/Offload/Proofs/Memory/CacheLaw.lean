import Offload.Proofs.Memory.CacheLeases
import Offload.Proofs.Memory.SlotTable

/-
  The law of an id cache.

  A lookup of an id with a slot is a hit: it is answered
  with the handle of the slot and without the device. An id
  without a slot is attached and mapped for a new slot or,
  when all slots are taken, for the caller. A lookup that
  fails leaves slots, leases and device as they were.

  Key definitions include:
    * `IdCache.cached?`
    * `IdCache.Hit`
    * `IdCache.Filled`
    * `IdCache.Bypassed`
    * `IdCache.Failed`
    * `IdCache.Lawful`

  Main results:
    * `IdCache.Lawful.share`
    * `IdCache.Lawful.withLease`
    * `IdCache.Lawful.fill`
-/

namespace Offload

namespace IdCache

------------------------------------------------------------
-- Cached Ids
------------------------------------------------------------

/- The ids that have a slot. -/
def ids
    (c : IdCache) : List Nat :=
  c.slots.filled.map Slot.id

/- Whether every slot has an id. -/
def IsFull
    (c : IdCache) : Prop :=
  c.ids.length = c.slots.capacity

instance
    (c : IdCache) : Decidable c.IsFull := by
  unfold IsFull
  infer_instance

/- The handle that a slot has for an id. -/
def cached?
    (c : IdCache)
    (id : Nat) : Option Handle :=
  (c.slots.find? id).bind fun slot => c.handleAt slot.lease

/- The ways in which a lookup is counted. -/
inductive Way where
  | hit
  | miss
  | bypass
deriving DecidableEq

/- How often a way was taken. -/
def taken
    (c : IdCache) : Way → Nat
  | .hit => c.hits
  | .miss => c.misses
  | .bypass => c.bypasses

/- A lookup counts for one way or for none. -/
def Counts
    (way : Option Way)
    (c c' : IdCache) : Prop :=
  ∀ w, c'.taken w = c.taken w + if way = some w then 1 else 0

/- Sharing a lease is nothing to the slots. -/
theorem slots_share
    (key : Nat)
    (c : IdCache) : (share key c).slots = c.slots := by
  unfold share
  cases c.leases.get? key <;> rfl

theorem cached?_share
    (key : Nat)
    (c : IdCache)
    (id : Nat) : (share key c).cached? id = c.cached? id := by
  simp only [cached?, slots_share, handleAt_share]

theorem taken_share
    (key : Nat)
    (c : IdCache)
    (way : Way) : (share key c).taken way = c.taken way := by
  unfold share
  cases c.leases.get? key <;> cases way <;> rfl

/- Nothing is counted if nothing changes. -/
theorem counts_refl
    (c : IdCache) : Counts none c c := by
  intro way
  rw [if_neg (by simp)]
  rfl

theorem Counts.share
    {way : Option Way}
    {c c' : IdCache}
    (hCounts : Counts way c c')
    (key : Nat) : Counts way c (share key c') := by
  intro w
  rw [taken_share]
  exact hCounts w

------------------------------------------------------------
-- What a Lookup Does
------------------------------------------------------------

/- A slot answers, and the device is not asked. -/
structure Hit
    (id : Nat)
    (h : Handle)
    (x y : IdCache × Platform) : Prop where
  known : x.1.cached? id = some h
  slots : y.1.slots = x.1.slots
  cached : ∀ i, y.1.cached? i = x.1.cached? i
  device : y.2.device = x.2.device
  faults : y.2.faults = x.2.faults
  counts : Counts (some .hit) x.1 y.1

/- A handle is attached and mapped, and nothing else. -/
def Mapped
    (d d' : Device) : Prop :=
  d'.counters =
    { d.counters with
      attaches := d.counters.attaches + 1
      maps := d.counters.maps + 1 }

/- A slot that was empty gets the id. -/
structure Filled
    (id : Nat)
    (h : Handle)
    (x y : IdCache × Platform) : Prop where
  new : x.1.cached? id = none
  room : x.1.ids.length < x.1.slots.capacity
  ids : y.1.ids.Perm (id :: x.1.ids)
  capacity : y.1.slots.capacity = x.1.slots.capacity
  cached :
    ∀ i,
      y.1.cached? i =
        if i = id then some h else x.1.cached? i
  device : Mapped x.2.device y.2.device
  counts : Counts (some .miss) x.1 y.1

/- There is no slot left, and the slots stay as they are. -/
structure Bypassed
    (id : Nat)
    (x y : IdCache × Platform) : Prop where
  new : x.1.cached? id = none
  full : x.1.IsFull
  slots : y.1.slots = x.1.slots
  cached : ∀ i, y.1.cached? i = x.1.cached? i
  counts : Counts (some .bypass) x.1 y.1

/- Slots, leases and device are as they were. -/
structure Failed
    (id : Nat)
    (x y : IdCache × Platform) : Prop where
  new : x.1.cached? id = none
  slots : y.1.slots = x.1.slots
  leases : y.1.leases = x.1.leases
  device : x.2.device.Restored y.2.device
  counts :
    Counts (if x.1.IsFull then some .bypass else none)
      x.1 y.1

------------------------------------------------------------
-- Lawful Caches
------------------------------------------------------------

/-
  Slots have the addresses that are their ids and a share of
  a lease of that id; the other shares are held by callers.
  Everything leased is attached and mapped, and beside the
  handles of others it is what the device accounts for.
-/
structure Lawful
    (held : List Nat)
    (others : List Handle)
    (x : IdCache × Platform) : Prop where
  sound : x.1.slots.Sound
  shared :
    x.1.SharedBy (x.1.slots.filled.map Slot.lease ++ held)
  slotted :
    ∀ slot ∈ x.1.slots.filled,
      slot.addr = slot.id ∧
        ∃ h,
          x.1.handleAt slot.lease = some h ∧
            h.addr = slot.id
  mapped :
    ∀ h ∈ x.1.leased,
      h.isMapped = true ∧ h.isAttached = true
  keeps : x.2.Keeps (others ++ x.1.leased)

section Lawful

variable {held : List Nat}
variable {others : List Handle}
variable {c : IdCache}
variable {m : Platform}
variable {x : IdCache × Platform}
variable {id : Nat}
variable {slot : Slot}

/- A slot that is found has a mapped handle of its id. -/
theorem Lawful.cached?_of_find?
    (hLawful : Lawful held others x)
    (hFind : x.1.slots.find? id = some slot) :
    ∃ h,
      x.1.cached? id = some h ∧
        x.1.handleAt slot.lease = some h ∧
        slot ∈ x.1.slots.filled ∧ slot.addr = id := by
  rcases hLawful.sound.find?_eq_some_iff.mp hFind with
    ⟨hMem, hId⟩
  rcases hLawful.slotted slot hMem with ⟨hAddr, h, hAt, _⟩
  refine ⟨h, ?_, hAt, hMem, hAddr.trans hId⟩
  rw [cached?, hFind]
  exact hAt

theorem cached?_of_find?_eq_none
    (hFind : c.slots.find? id = none) :
    c.cached? id = none := by
  rw [cached?, hFind]
  rfl

/- A cached handle is a mapped one of the id. -/
theorem Lawful.handle_of_cached?
    {h : Handle}
    (hLawful : Lawful held others x)
    (hCached : x.1.cached? id = some h) :
    h.addr = id ∧ h.isMapped = true ∧
      h.isAttached = true := by
  rcases Option.bind_eq_some_iff.mp hCached with
    ⟨slot, hFind, hAt⟩
  rcases hLawful.sound.find?_eq_some_iff.mp hFind with
    ⟨hMem, hId⟩
  rcases hLawful.slotted slot hMem with ⟨_, h', hAt', hAddr⟩
  rw [hAt] at hAt'
  cases hAt'
  refine ⟨hAddr.trans hId, hLawful.mapped h ?_⟩
  refine hLawful.shared.mem_leased_iff.mpr ⟨_, ?_, hAt⟩
  exact
    List.mem_append_left _ (List.mem_map_of_mem hMem)

/- What is counted and recorded is of no matter. -/
theorem Lawful.noted
    {y : IdCache × Platform}
    (hLawful : Lawful held others x)
    (hSlots : y.1.slots = x.1.slots)
    (hLeases : y.1.leases = x.1.leases)
    (hDevice : y.2.device = x.2.device)
    (hFaults : y.2.faults = x.2.faults) :
    Lawful held others y := by
  have hAt : ∀ key, y.1.handleAt key = x.1.handleAt key := by
    intro key
    rw [handleAt, hLeases]
    rfl
  have hLeased : y.1.leased = x.1.leased := by
    rw [leased, hLeases]
    rfl
  constructor
  · rw [hSlots]
    exact hLawful.sound
  · rw [hSlots]
    constructor
    · rw [hLeases]
      exact hLawful.shared.keyed
    · rw [hLeases]
      exact hLawful.shared.counted
  · simp only [hSlots, hAt]
    exact hLawful.slotted
  · rw [hLeased]
    exact hLawful.mapped
  · rw [hLeased]
    refine hLawful.keeps.of_device (fun call => ?_) hDevice
    rw [hFaults]

/- A caller gets a share of a lease. -/
theorem Lawful.share
    {key : Nat}
    (hLawful : Lawful held others (c, m))
    (hMem :
      key ∈ c.slots.filled.map Slot.lease ++ held) :
    Lawful (key :: held) others (IdCache.share key c, m) := by
  have hPerm := hLawful.shared.leased_share key
  constructor
  · rw [slots_share]
    exact hLawful.sound
  · rw [slots_share]
    exact
      (hLawful.shared.share hMem).perm List.perm_middle.symm
  · simp only [slots_share, handleAt_share]
    exact hLawful.slotted
  · intro h hLeased
    exact hLawful.mapped h (hPerm.mem_iff.mpr hLeased)
  · exact hLawful.keeps.perm (hPerm.append_left others)

/- What the device accounts for once an id was looked up. -/
theorem keeps_attachMapped
    {hs : List Handle}
    (hKeeps : m.Keeps hs)
    (id : Nat) :
    (∀ h m', attachMapped id m = (.ok h, m') →
        m'.Keeps (h :: hs)) ∧
      ∀ e m', attachMapped id m = (.error e, m') →
        m'.Keeps hs := by
  have hAttach := hKeeps.attach id
  simp only [attachMapped, bind, Op.bind]
  rcases hRun : Handle.attach id m with ⟨e | h, m'⟩
  · rw [hRun] at hAttach
    constructor
    · intro _ _ hSame
      cases hSame
    · intro _ _ hSame
      cases hSame
      exact hAttach
  · rw [hRun] at hAttach
    have hMap := hAttach.map
    simp only [Handle.mapOrRelease, bind, Op.bind,
      Op.attempt]
    rcases hMapped : h.map m' with ⟨e | h', m''⟩
    · rw [hMapped] at hMap
      have hRelease := hMap.release.2.1
      have hRun :
          ∃ p, (h.release m'' : Except Error Unit × _) =
            (.ok (), p) :=
        ⟨_, h.release_run m''⟩
      rcases hRun with ⟨p, hReleased⟩
      rw [hReleased] at hRelease
      simp only [Op.bind, hReleased]
      constructor
      · intro _ _ hSame
        cases hSame
      · intro _ _ hSame
        cases hSame
        exact hRelease
    · rw [hMapped] at hMap
      constructor
      · intro _ _ hSame
        cases hSame
        exact hMap
      · intro _ _ hSame
        cases hSame

/- A mapped handle gets a lease of its own. -/
theorem Lawful.withLease
    {h : Handle}
    {m' : Platform}
    (hLawful : Lawful held others (c, m))
    (hAttach : attachMapped id m = (.ok h, m'))
    (hMapped : h.isMapped = true)
    (hAttached : h.isAttached = true) :
    Lawful (c.leases.next :: held) others
      (c.withLease h, m') where
  sound := hLawful.sound
  shared :=
    (hLawful.shared.enter h).perm List.perm_middle.symm
  slotted := by
    intro slot hMem
    rcases hLawful.slotted slot hMem with
      ⟨hAddr, h', hAt, hId⟩
    refine ⟨hAddr, h', ?_, hId⟩
    rw [← hAt]
    apply handleAt_withLease_other
    intro hSame
    apply hLawful.shared.next_notMem
    rw [← hSame]
    exact
      List.mem_append_left _ (List.mem_map_of_mem hMem)
  mapped := by
    intro h' hMem
    rcases List.mem_cons.mp hMem with rfl | hOld
    · exact ⟨hMapped, hAttached⟩
    · exact hLawful.mapped h' hOld
  keeps :=
    ((keeps_attachMapped hLawful.keeps id).1 h m'
      hAttach).perm List.perm_middle.symm

------------------------------------------------------------
-- Filling a Slot
------------------------------------------------------------

/- The slot that an id gets, with a new lease. -/
def slotFor
    (c : IdCache)
    (id : Nat)
    (h : Handle) : Slot :=
  ⟨id, h.addr, c.leases.next⟩

/- A cache one of whose slots was filled. -/
def withSlot
    (c : IdCache)
    (index id : Nat)
    (h : Handle) : IdCache :=
  { c.withLease h with
    slots := c.slots.fill index (c.slotFor id h)
    misses := c.misses + 1 }

/- Filling succeeds if the id can be attached and mapped. -/
theorem fill_of_attached
    {h : Handle}
    {m' : Platform}
    (hAttach : attachMapped id m = (.ok h, m'))
    (index : Nat) :
    ∃ p,
      fill index id (c, m) =
          (.ok (c.slotFor id h),
            (c.withSlot index id h, p)) ∧
        p.device = m'.device ∧ p.faults = m'.faults := by
  simp only [fill, bind, Op.bind, onPlatform, Op.within,
    Lens.snd, hAttach]
  exact ⟨_, rfl, rfl, rfl⟩

theorem fill_of_refused
    {e : Error}
    {m' : Platform}
    (hAttach : attachMapped id m = (.error e, m'))
    (index : Nat) :
    fill index id (c, m) = (.error e, (c, m')) := by
  simp only [fill, bind, Op.bind, onPlatform, Op.within,
    Lens.snd, hAttach]

/- The slots of a cache with one slot more. -/
theorem Lawful.filled_withSlot
    {index : Nat}
    (hLawful : Lawful held others (c, m))
    (id : Nat)
    (h : Handle)
    (hFree : c.slots.freeIndex? = some index) :
    (c.withSlot index id h).slots.filled.Perm
      (c.slotFor id h :: c.slots.filled) :=
  Slots.filled_fill
    (hLawful.sound.entry_of_freeIndex? hFree).2 _

theorem Lawful.sound_withSlot
    {h : Handle}
    {index : Nat}
    (hLawful : Lawful held others (c, m))
    (hFree : c.slots.freeIndex? = some index)
    (hFind : c.slots.find? id = none) :
    (c.withSlot index id h).slots.Sound :=
  hLawful.sound.fill
    (hLawful.sound.entry_of_freeIndex? hFree).2
    (hLawful.sound.find?_eq_none_iff.mp hFind)

/- A slot is filled with a new lease of its id. -/
theorem Lawful.withSlot
    {h : Handle}
    {m' : Platform}
    {index : Nat}
    (hLawful : Lawful held others (c, m))
    (hFree : c.slots.freeIndex? = some index)
    (hFind : c.slots.find? id = none)
    (hAttach : attachMapped id m = (.ok h, m'))
    (hMapped : h.isMapped = true)
    (hAttached : h.isAttached = true)
    (hAddr : h.addr = id) :
    Lawful held others (c.withSlot index id h, m') := by
  have hLease := hLawful.withLease hAttach hMapped hAttached
  have hFilled := hLawful.filled_withSlot id h hFree
  constructor
  · exact hLawful.sound_withSlot hFree hFind
  · have hPerm :=
      ((hFilled.map Slot.lease).append_right held).symm
    have hShared :=
      hLease.shared.perm (List.perm_middle.trans hPerm)
    exact ⟨hShared.keyed, hShared.counted⟩
  · intro slot hMem
    rcases List.mem_cons.mp (hFilled.mem_iff.mp hMem) with
      rfl | hOld
    · exact
        ⟨hAddr, h, handleAt_withLease_self c h, hAddr⟩
    · exact hLease.slotted slot hOld
  · exact hLease.mapped
  · exact hLease.keeps

/- What is cached once a slot was filled. -/
theorem Lawful.cached?_withSlot
    {h : Handle}
    {index : Nat}
    (hLawful : Lawful held others (c, m))
    (hFree : c.slots.freeIndex? = some index)
    (hFind : c.slots.find? id = none)
    (i : Nat) :
    (c.withSlot index id h).cached? i =
      if i = id then some h else c.cached? i := by
  have hFilled := hLawful.filled_withSlot id h hFree
  have hSound :=
    hLawful.sound_withSlot (h := h) hFree hFind
  have hSelf := handleAt_withLease_self c h
  by_cases hId : i = id
  · have hFound :
        (c.withSlot index id h).slots.find? i =
          some (c.slotFor id h) :=
      hSound.find?_eq_some_iff.mpr
        ⟨hFilled.mem_iff.mpr List.mem_cons_self, hId.symm⟩
    rw [if_pos hId, cached?, hFound]
    exact hSelf
  · rw [if_neg hId]
    cases hOld : c.slots.find? i with
    | none =>
        have hNone :
            (c.withSlot index id h).slots.find? i = none := by
          rw [hSound.find?_eq_none_iff,
            (hFilled.map Slot.id).mem_iff, List.map_cons,
            List.mem_cons, not_or]
          exact
            ⟨hId, hLawful.sound.find?_eq_none_iff.mp hOld⟩
        rw [cached?_of_find?_eq_none hNone,
          cached?_of_find?_eq_none hOld]
    | some slot =>
        rcases hLawful.sound.find?_eq_some_iff.mp hOld with
          ⟨hMem, hSlot⟩
        have hFound :
            (c.withSlot index id h).slots.find? i =
              some slot :=
          hSound.find?_eq_some_iff.mpr
            ⟨hFilled.mem_iff.mpr
              (List.mem_cons_of_mem _ hMem), hSlot⟩
        have hOther : slot.lease ≠ c.leases.next := by
          intro hSame
          apply hLawful.shared.next_notMem
          rw [← hSame]
          exact
            List.mem_append_left _
              (List.mem_map_of_mem hMem)
        rw [cached?, cached?, hFound, hOld]
        exact handleAt_withLease_other hOther h

/- There is a free slot exactly if not every slot has an id. -/
theorem Lawful.freeIndex?_eq_none_iff
    (hLawful : Lawful held others x) :
    x.1.slots.freeIndex? = none ↔ x.1.IsFull := by
  rw [hLawful.sound.freeIndex?_eq_none_iff, IsFull, ids,
    List.length_map]

/-
  A free slot is filled with an id without a slot, unless
  the id cannot be attached and mapped.
-/
theorem Lawful.fill
    {index : Nat}
    (hLawful : Lawful held others (c, m))
    (hFree : c.slots.freeIndex? = some index)
    (hFind : c.slots.find? id = none) :
    (∃ h p,
        IdCache.fill index id (c, m) =
            (.ok (c.slotFor id h),
              (c.withSlot index id h, p)) ∧
          Filled id h (c, m) (c.withSlot index id h, p) ∧
          Lawful held others (c.withSlot index id h, p) ∧
          h.addr = id) ∨
      ∃ e m',
        IdCache.fill index id (c, m) =
            (.error e, (c, m')) ∧
          Failed id (c, m) (c, m') ∧
          Lawful held others (c, m') := by
  have hRoom : ¬ c.IsFull := by
    intro hFull
    rw [hLawful.freeIndex?_eq_none_iff.mpr hFull] at hFree
    cases hFree
  have hNew := cached?_of_find?_eq_none hFind
  rcases attachMapped_cases hLawful.keeps.unmap
      hLawful.keeps.detach id with
    ⟨r, h, m', hAttach, hMapped, hVisit⟩ |
      ⟨e, m', hAttach, hSpares, hRestored, _⟩
  · rcases fill_of_attached (c := c) hAttach index with
      ⟨p, hRun, hDevice, hFaults⟩
    have hAttached : h.isAttached = true := by
      rw [Handle.isAttached, hVisit.isAttached]
      rfl
    have hSlot :=
      hLawful.withSlot hFree hFind hAttach hMapped hAttached
        hVisit.addr_eq
    refine
      Or.inl ⟨h, p, hRun, ?_,
        hSlot.noted rfl rfl hDevice hFaults, hVisit.addr_eq⟩
    constructor
    · exact hNew
    · have hLe := c.slots.length_filled_le
      rw [IsFull] at hRoom
      simp only [ids, List.length_map] at hRoom ⊢
      omega
    · exact (hLawful.filled_withSlot id h hFree).map Slot.id
    · simp [IdCache.withSlot, Slots.fill, Slots.capacity]
    · exact hLawful.cached?_withSlot hFree hFind
    · unfold Mapped
      rw [hDevice, hVisit.counters, Handle.mappings,
        if_pos hMapped]
    · intro w
      cases w <;> rfl
  · refine
      Or.inr ⟨e, m', fill_of_refused hAttach index, ?_, ?_⟩
    · refine ⟨hNew, rfl, rfl, hRestored, ?_⟩
      rw [if_neg hRoom]
      exact counts_refl c
    · exact
        { hLawful with
          keeps :=
            (keeps_attachMapped hLawful.keeps id).2 e m'
              hAttach }

end Lawful

end IdCache

end Offload
