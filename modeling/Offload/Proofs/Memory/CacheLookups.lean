import Offload.Proofs.Memory.CacheLaw

/-
  Lookups in an id cache.

  Both kinds of lookup keep to the law of the cache, however
  they end, and so do clearing it and letting go of what a
  lookup gave.

  Key definitions include:
    * `IdCache.Resolves`
    * `IdCache.ResolvesPhys`
    * `IdCache.Cleared`

  Main results:
    * `IdCache.Lawful.resolve`
    * `IdCache.Lawful.resolvePhys`
    * `IdCache.Lawful.clear`
    * `IdCache.Lawful.letGo`
-/

namespace Offload

namespace IdCache

------------------------------------------------------------
-- How Lookups End
------------------------------------------------------------

/-
  How an id is resolved to mapped memory. Without a slot the
  handle is the caller's alone.
-/
inductive Resolves
    (id : Nat)
    (x : IdCache × Platform) :
    Except Error Resolved × (IdCache × Platform) → Prop
  where
  | hit {r : Resolved} {h : Handle}
      {y : IdCache × Platform} :
      Hit id h x y → r.isCached = true →
        y.1.handle? r = some h → Resolves id x (.ok r, y)
  | filled {r : Resolved} {h : Handle}
      {y : IdCache × Platform} :
      Filled id h x y → r.isCached = true →
        y.1.handle? r = some h → Resolves id x (.ok r, y)
  | bypassed {r : Resolved} {h : Handle}
      {y : IdCache × Platform} :
      Bypassed id x y → Mapped x.2.device y.2.device →
        r.isCached = false →
          y.1.leases.get? r.lease = some ⟨h, 1⟩ →
            h.addr = id → h.isMapped = true →
              Resolves id x (.ok r, y)
  | failed {e : Error} {y : IdCache × Platform} :
      Failed id x y → Resolves id x (.error e, y)

/-
  How an id is resolved to an address. Without a slot it is
  attached and detached again, and not mapped.
-/
inductive ResolvesPhys
    (id : Nat)
    (x : IdCache × Platform) :
    Except Error Nat × (IdCache × Platform) → Prop
  where
  | hit {h : Handle} {y : IdCache × Platform} :
      Hit id h x y → ResolvesPhys id x (.ok id, y)
  | filled {h : Handle} {y : IdCache × Platform} :
      Filled id h x y → ResolvesPhys id x (.ok id, y)
  | bypassed {y : IdCache × Platform} :
      Bypassed id x y → x.1.leases = y.1.leases →
        x.2.device.Restored y.2.device →
          y.2.device.counters.attaches =
              x.2.device.counters.attaches + 1 →
            y.2.device.counters.maps =
                x.2.device.counters.maps →
              ResolvesPhys id x (.ok id, y)
  | failed {e : Error} {y : IdCache × Platform} :
      Failed id x y → ResolvesPhys id x (.error e, y)

section Lawful

variable {held : List Nat}
variable {others : List Handle}
variable {c : IdCache}
variable {m : Platform}
variable {x : IdCache × Platform}
variable {id : Nat}
variable {slot : Slot}

------------------------------------------------------------
-- Resolving
------------------------------------------------------------

theorem noteHit_run
    {ε : Type}
    (c : IdCache)
    (m : Platform) :
    ∃ p,
      (noteHit : Op ε _ Unit) (c, m) =
          (.ok (), ({ c with hits := c.hits + 1 }, p)) ∧
        p.device = m.device ∧ p.faults = m.faults :=
  ⟨_, rfl, rfl, rfl⟩

theorem noteBypass_run
    {ε : Type}
    (id : Nat)
    (c : IdCache)
    (m : Platform) :
    ∃ p,
      (noteBypass id : Op ε _ Unit) (c, m) =
          (.ok (),
            ({ c with bypasses := c.bypasses + 1 }, p)) ∧
        p.device = m.device ∧ p.faults = m.faults :=
  ⟨_, rfl, rfl, rfl⟩

/- The callers' shares once an id was resolved. -/
def heldAfter
    (held : List Nat) : Except Error Resolved → List Nat
  | .ok r => r.lease :: held
  | .error _ => held

/- An id with a slot is resolved to a share of its lease. -/
theorem resolve_of_find?
    (hFind : c.slots.find? id = some slot)
    (m : Platform) :
    ∃ p,
      IdCache.resolve id (c, m) =
          (.ok ⟨slot.lease, true⟩,
            (IdCache.share slot.lease
              { c with hits := c.hits + 1 }, p)) ∧
        p.device = m.device ∧ p.faults = m.faults := by
  simp only [IdCache.resolve, bind, Op.bind, Op.get, hFind]
  exact ⟨_, rfl, rfl, rfl⟩

/- An id that gets a slot is resolved to a share as well. -/
theorem resolve_of_fill
    {index : Nat}
    {y : IdCache × Platform}
    (hFind : c.slots.find? id = none)
    (hFree : c.slots.freeIndex? = some index)
    (hFill :
      IdCache.fill index id (c, m) = (.ok slot, y)) :
    IdCache.resolve id (c, m) =
      (.ok ⟨slot.lease, true⟩,
        (IdCache.share slot.lease y.1, y.2)) := by
  simp only [IdCache.resolve, bind, Op.bind, Op.get, hFind,
    hFree, hFill]
  rfl

theorem resolve_of_unfilled
    {index : Nat}
    {e : Error}
    {y : IdCache × Platform}
    (hFind : c.slots.find? id = none)
    (hFree : c.slots.freeIndex? = some index)
    (hFill :
      IdCache.fill index id (c, m) = (.error e, y)) :
    IdCache.resolve id (c, m) = (.error e, y) := by
  simp only [IdCache.resolve, bind, Op.bind, Op.get, hFind,
    hFree, hFill]

/- An id that gets no slot is resolved to a new lease. -/
theorem resolve_of_full
    (hFind : c.slots.find? id = none)
    (hFree : c.slots.freeIndex? = none)
    (m : Platform) :
    ∃ p,
      p.device = m.device ∧ p.faults = m.faults ∧
        (∀ h m', attachMapped id p = (.ok h, m') →
          IdCache.resolve id (c, m) =
            (.ok ⟨c.leases.next, false⟩,
              ({ c with
                  bypasses := c.bypasses + 1 }.withLease h,
                m'))) ∧
        ∀ e m', attachMapped id p = (.error e, m') →
          IdCache.resolve id (c, m) =
            (.error e,
              ({ c with bypasses := c.bypasses + 1 },
                m')) := by
  rcases noteBypass_run (ε := Error) id c m with
    ⟨p, hNote, hDevice, hFaults⟩
  refine ⟨p, hDevice, hFaults, ?_, ?_⟩
  · intro h m' hAttach
    simp only [IdCache.resolve, bind, Op.bind, Op.get, hFind,
      hFree, hNote, onPlatform, Op.within, Lens.snd, hAttach]
    rfl
  · intro e m' hAttach
    simp only [IdCache.resolve, bind, Op.bind, Op.get, hFind,
      hFree, hNote, onPlatform, Op.within, Lens.snd, hAttach]

/- A hit, with or without a share for the caller. -/
theorem hit_of_find?
    {h : Handle}
    {p : Platform}
    {c' : IdCache}
    (hCached : c.cached? id = some h)
    (hNoted :
      c' = { c with hits := c.hits + 1 } ∨
        ∃ key,
          c' =
            IdCache.share key { c with hits := c.hits + 1 })
    (hDevice : p.device = m.device)
    (hFaults : p.faults = m.faults) :
    Hit id h (c, m) (c', p) := by
  have hCounts :
      Counts (some .hit) c { c with hits := c.hits + 1 } := by
    intro w
    cases w <;> rfl
  rcases hNoted with rfl | ⟨key, rfl⟩
  · exact
      ⟨hCached, rfl, fun _ => rfl, hDevice, hFaults, hCounts⟩
  · exact
      ⟨hCached, slots_share key _, cached?_share key _,
        hDevice, hFaults, hCounts.share key⟩

/- A lookup that fills a slot may share its lease. -/
theorem Filled.share
    {h : Handle}
    {x : IdCache × Platform}
    {c' : IdCache}
    {p : Platform}
    (hFilled : Filled id h x (c', p))
    (key : Nat) :
    Filled id h x (IdCache.share key c', p) where
  new := hFilled.new
  room := hFilled.room
  ids := by
    simp only [IdCache.ids, slots_share]
    exact hFilled.ids
  capacity := by
    simp only [slots_share]
    exact hFilled.capacity
  cached := by
    intro i
    simp only [cached?_share]
    exact hFilled.cached i
  device := hFilled.device
  counts := hFilled.counts.share key

/- A lookup of a full table. -/
theorem bypassed_of_full
    {c' : IdCache}
    {p : Platform}
    (hFind : c.slots.find? id = none)
    (hFull : c.IsFull)
    (hSlots : c'.slots = c.slots)
    (hAt :
      ∀ key ∈ c.slots.filled.map Slot.lease,
        c'.handleAt key = c.handleAt key)
    (hCounts : Counts (some .bypass) c c') :
    Bypassed id (c, m) (c', p) where
  new := cached?_of_find?_eq_none hFind
  full := hFull
  slots := hSlots
  cached := by
    intro i
    simp only [cached?, hSlots]
    cases hOld : c.slots.find? i with
    | none => rfl
    | some slot =>
        have hMem := (Slots.of_findIn_eq_some hOld).1
        exact hAt _ (List.mem_map_of_mem hMem)
  counts := hCounts

/- A lookup of a full table is noted before anything else. -/
theorem counts_bypass
    (c : IdCache) :
    Counts (some .bypass) c
      { c with bypasses := c.bypasses + 1 } := by
  intro w
  cases w <;> rfl

/- A lookup of a full table that could not attach or map. -/
theorem Lawful.failed_of_full
    {p m' : Platform}
    (hLawful : Lawful held others (c, m))
    (hFind : c.slots.find? id = none)
    (hFree : c.slots.freeIndex? = none)
    (hDevice : p.device = m.device)
    (hRestored : p.device.Restored m'.device) :
    Failed id (c, m)
      ({ c with bypasses := c.bypasses + 1 }, m') where
  new := cached?_of_find?_eq_none hFind
  slots := rfl
  leases := rfl
  device := hDevice ▸ hRestored
  counts := by
    rw [if_pos (hLawful.freeIndex?_eq_none_iff.mp hFree)]
    exact counts_bypass c

/- Resolving an id without a slot when there is none left. -/
theorem Lawful.resolve_full
    (hLawful : Lawful held others (c, m))
    (hFind : c.slots.find? id = none)
    (hFree : c.slots.freeIndex? = none) :
    Resolves id (c, m) (IdCache.resolve id (c, m)) ∧
      Lawful
        (heldAfter held (IdCache.resolve id (c, m)).1) others
        (IdCache.resolve id (c, m)).2 := by
  have hFull := hLawful.freeIndex?_eq_none_iff.mp hFree
  rcases resolve_of_full hFind hFree m with
    ⟨p, hDevice, hFaults, hOk, hError⟩
  have hNoted :
      Lawful held others
        ({ c with bypasses := c.bypasses + 1 }, p) :=
    hLawful.noted rfl rfl hDevice hFaults
  rcases attachMapped_cases hNoted.keeps.unmap
      hNoted.keeps.detach id with
    ⟨r, h, m', hAttach, hMapped, hVisit⟩ |
      ⟨e, m', hAttach, _, hRestored, _⟩
  · have hAttached : h.isAttached = true := by
      rw [Handle.isAttached, hVisit.isAttached]
      rfl
    have hFresh :
        ∀ key ∈ c.slots.filled.map Slot.lease,
          key ≠ c.leases.next := by
      intro key hMem hSame
      apply hLawful.shared.next_notMem
      exact hSame ▸ List.mem_append_left _ hMem
    rw [hOk h m' hAttach]
    refine
      ⟨.bypassed (h := h) ?_ ?_ rfl ?_ hVisit.addr_eq hMapped,
        hNoted.withLease hAttach hMapped hAttached⟩
    · refine bypassed_of_full hFind hFull ?_ ?_ ?_
      · rfl
      · intro key hMem
        exact
          handleAt_withLease_other
            (c := { c with bypasses := c.bypasses + 1 })
            (hFresh key hMem) h
      · exact counts_bypass c
    · rw [Mapped, hVisit.counters, Handle.mappings,
        if_pos hMapped, hDevice]
    · simp [IdCache.withLease, Table.insert, Table.get?]
  · rw [hError e m' hAttach]
    constructor
    · exact
        .failed
          (hLawful.failed_of_full hFind hFree hDevice
            hRestored)
    · exact
        { hNoted with
          keeps :=
            (keeps_attachMapped hNoted.keeps id).2 e m'
              hAttach }

/- Resolving an id keeps to the law. -/
theorem Lawful.resolve
    (hLawful : Lawful held others (c, m))
    (id : Nat) :
    Resolves id (c, m) (IdCache.resolve id (c, m)) ∧
      Lawful
        (heldAfter held (IdCache.resolve id (c, m)).1) others
        (IdCache.resolve id (c, m)).2 := by
  cases hFind : c.slots.find? id with
  | some slot =>
      rcases resolve_of_find? hFind m with
        ⟨p, hRun, hDevice, hFaults⟩
      rcases hLawful.cached?_of_find? hFind with
        ⟨h, hCached, hAt, hMem, _⟩
      have hNoted :
          Lawful held others
            ({ c with hits := c.hits + 1 }, p) :=
        hLawful.noted rfl rfl hDevice hFaults
      have hHit :=
        hit_of_find? (m := m) (p := p) hCached
          (Or.inr ⟨slot.lease, rfl⟩) hDevice hFaults
      rw [hRun]
      constructor
      · refine .hit hHit rfl ?_
        exact (handleAt_share _ _ _).trans hAt
      · apply hNoted.share
        exact
          List.mem_append_left _ (List.mem_map_of_mem hMem)
  | none =>
      cases hFree : c.slots.freeIndex? with
      | some index =>
          rcases hLawful.fill hFree hFind with
            ⟨h, p, hFill, hFilled, hLawful', _⟩ |
              ⟨e, m', hFill, hFailed, hLawful'⟩
          · rw [resolve_of_fill hFind hFree hFill]
            have hMem :=
              (hLawful.filled_withSlot id h hFree).mem_iff.mpr
                List.mem_cons_self
            constructor
            · refine .filled (hFilled.share _) rfl ?_
              exact
                (handleAt_share _ _ _).trans
                  (handleAt_withLease_self c h)
            · apply hLawful'.share
              exact
                List.mem_append_left _
                  (List.mem_map_of_mem hMem)
          · rw [resolve_of_unfilled hFind hFree hFill]
            exact ⟨.failed hFailed, hLawful'⟩
      | none => exact hLawful.resolve_full hFind hFree

/- Resolving an address of a full table. -/
theorem Lawful.resolvePhys_full
    (hLawful : Lawful held others (c, m))
    (hFind : c.slots.find? id = none)
    (hFree : c.slots.freeIndex? = none) :
    ResolvesPhys id (c, m) (IdCache.resolvePhys id (c, m)) ∧
      Lawful held others
        (IdCache.resolvePhys id (c, m)).2 := by
  rcases noteBypass_run (ε := Error) id c m with
    ⟨p, hNote, hDevice, hFaults⟩
  have hNoted :
      Lawful held others
        ({ c with bypasses := c.bypasses + 1 }, p) :=
    hLawful.noted rfl rfl hDevice hFaults
  have hKeeps := hNoted.keeps.attach id
  simp only [IdCache.resolvePhys, bind, Op.bind, Op.get,
    hFind, hFree, hNote, onPlatform, Op.within, Lens.snd]
  rcases Handle.Visiting.of_attach id p with
    ⟨r, h, m', hAttach, hNone, hVisit⟩ |
      ⟨e, m', hAttach, _, hSame⟩
  · have hMappings : h.mappings = 0 := by
      simp [Handle.mappings, Handle.isMapped, hNone]
    rcases hVisit.release (ε := Error) (.refl _)
        (hVisit.spares.nil hNoted.keeps.unmap)
        (hVisit.spares.nil hNoted.keeps.detach) with
      ⟨d, hRelease, hRestored, _, hAttaches, hMaps⟩
    rw [hVisit.counters, hDevice] at hAttaches hMaps
    rw [hMappings] at hMaps
    rw [hAttach] at hKeeps
    have hReleased := hKeeps.release.2.1
    rw [hRelease] at hReleased
    simp only [hAttach, hRelease]
    constructor
    · rw [hVisit.addr_eq]
      apply ResolvesPhys.bypassed
      · exact
          bypassed_of_full hFind
            (hLawful.freeIndex?_eq_none_iff.mp hFree) rfl
            (fun _ _ => rfl) (counts_bypass c)
      · rfl
      · exact hDevice ▸ hRestored
      · exact hAttaches
      · exact hMaps
    · exact { hNoted with keeps := hReleased }
  · rw [hAttach] at hKeeps
    simp only [hAttach]
    constructor
    · apply ResolvesPhys.failed
      apply hLawful.failed_of_full hFind hFree hDevice
      rw [hSame]
      exact .refl _
    · exact { hNoted with keeps := hKeeps }

/- Resolving an address keeps to the law. -/
theorem Lawful.resolvePhys
    (hLawful : Lawful held others (c, m))
    (id : Nat) :
    ResolvesPhys id (c, m) (IdCache.resolvePhys id (c, m)) ∧
      Lawful held others
        (IdCache.resolvePhys id (c, m)).2 := by
  cases hFind : c.slots.find? id with
  | some slot =>
      rcases noteHit_run (ε := Error) c m with
        ⟨p, hNote, hDevice, hFaults⟩
      rcases hLawful.cached?_of_find? hFind with
        ⟨h, hCached, _, _, hAddr⟩
      have hHit :=
        hit_of_find? (m := m) (p := p) hCached (Or.inl rfl)
          hDevice hFaults
      simp only [IdCache.resolvePhys, bind, Op.bind, Op.get,
        hFind, hNote]
      constructor
      · rw [hAddr]
        exact .hit hHit
      · exact hLawful.noted rfl rfl hDevice hFaults
  | none =>
      cases hFree : c.slots.freeIndex? with
      | some index =>
          simp only [IdCache.resolvePhys, bind, Op.bind,
            Op.get, hFind, hFree]
          rcases hLawful.fill hFree hFind with
            ⟨h, p, hFill, hFilled, hLawful', hAddr⟩ |
              ⟨e, m', hFill, hFailed, hLawful'⟩
          · simp only [hFill]
            constructor
            · rw [slotFor, hAddr]
              exact .filled hFilled
            · exact hLawful'
          · simp only [hFill]
            exact ⟨.failed hFailed, hLawful'⟩
      | none => exact hLawful.resolvePhys_full hFind hFree

------------------------------------------------------------
-- Clearing
------------------------------------------------------------

/-
  The slots are empty. Leases that callers hold are left,
  with their handles, and no others; if callers hold them
  all, the device is not touched.
-/
structure Cleared
    (held : List Nat)
    (x y : IdCache × Platform) : Prop where
  empty : y.1.ids = []
  capacity : y.1.slots.capacity = x.1.slots.capacity
  kept :
    ∀ key ∈ held, y.1.handleAt key = x.1.handleAt key
  leased :
    ∀ h,
      h ∈ y.1.leased ↔
        ∃ key ∈ held, x.1.handleAt key = some h
  untouched :
    (∀ slot ∈ x.1.slots.filled, slot.lease ∈ held) →
      y.2 = x.2
  counts : Counts none x.1 y.1

theorem filled_empty
    (capacity : Nat) : (Slots.empty capacity).filled = [] := by
  simp [Slots.filled, Slots.empty,
    List.filterMap_replicate_of_none]

/- Clearing keeps to the law. -/
theorem Lawful.clear
    {ε : Type}
    (hLawful : Lawful held others (c, m)) :
    ∃ y,
      (IdCache.clear (c, m) : Except ε Unit × _) =
          (.ok (), y) ∧
        Cleared held (c, m) y ∧ Lawful held others y := by
  let c' : IdCache :=
    { c with slots := Slots.empty c.slots.capacity }
  have hShared :
      c'.SharedBy (c.slots.filled.map Slot.lease ++ held) :=
    ⟨hLawful.shared.keyed, hLawful.shared.counted⟩
  rcases hShared.letGoAll (ε := ε) hLawful.keeps with
    ⟨y, hRun, hGone, hSame⟩
  have hSlots : y.1.slots = Slots.empty c.slots.capacity := by
    rw [hGone.rest]
  have hFilled : y.1.slots.filled = [] := by
    rw [hSlots, filled_empty]
  have hLeft :
      ∀ h,
        h ∈ y.1.leased ↔
          ∃ key ∈ held, c.handleAt key = some h := by
    intro h
    rw [hGone.shared.mem_leased_iff]
    constructor
    · rintro ⟨key, hMem, hAt⟩
      exact ⟨key, hMem, (hGone.handles key hMem) ▸ hAt⟩
    · rintro ⟨key, hMem, hAt⟩
      exact ⟨key, hMem, (hGone.handles key hMem).trans hAt⟩
  refine ⟨y, ?_, ?_, ?_⟩
  · simp only [IdCache.clear, bind, Op.bind, Op.get, change,
      Op.within, Op.modify, Lens.fst]
    exact hRun
  · constructor
    · rw [ids, hFilled]
      rfl
    · rw [hSlots]
      simp [Slots.capacity, Slots.empty]
    · exact hGone.handles
    · exact hLeft
    · exact hSame
    · intro w
      rw [hGone.rest]
      cases w <;> rfl
  · constructor
    · rw [hSlots]
      exact Slots.sound_empty hLawful.sound.small
    · rw [hFilled]
      exact hGone.shared
    · rw [hFilled]
      intro slot hMem
      cases hMem
    · intro h hMem
      rcases (hLeft h).mp hMem with ⟨key, hHeld, hAt⟩
      apply hLawful.mapped h
      exact
        hLawful.shared.mem_leased_iff.mpr
          ⟨key, List.mem_append_right _ hHeld, hAt⟩
    · exact hGone.keeps

/-
  A caller lets go of its share. The lease is gone exactly
  if nobody else has one; otherwise the device is not
  touched.
-/
theorem Lawful.letGo
    {ε : Type}
    {key : Nat}
    (hLawful : Lawful (key :: held) others (c, m)) :
    ∃ y,
      (IdCache.letGo key (c, m) : Except ε Unit × _) =
          (.ok (), y) ∧
        Lawful held others y ∧ y.1.slots = c.slots ∧
        (∀ k ∈ c.slots.filled.map Slot.lease ++ held,
          y.1.handleAt k = c.handleAt k) ∧
        (key ∈ c.slots.filled.map Slot.lease ++ held →
          y.2 = m) ∧
        (key ∉ c.slots.filled.map Slot.lease ++ held →
          y.1.handleAt key = none) := by
  have hShared :=
    hLawful.shared.perm (List.perm_middle (a := key))
  rcases hShared.letGo (ε := ε) hLawful.keeps
      List.mem_cons_self with
    ⟨y, hRun, hGone, hSame⟩
  rw [List.erase_cons_head] at hGone hSame
  have hSlots : y.1.slots = c.slots := by
    rw [hGone.rest]
  refine
    ⟨y, hRun, ?_, hSlots, hGone.handles, hSame, ?_⟩
  · constructor
    · rw [hSlots]
      exact hLawful.sound
    · rw [hSlots]
      exact hGone.shared
    · rw [hSlots]
      intro slot hMem
      rcases hLawful.slotted slot hMem with
        ⟨hAddr, h, hAt, hId⟩
      refine ⟨hAddr, h, ?_, hId⟩
      rw [hGone.handles]
      · exact hAt
      · exact
          List.mem_append_left _ (List.mem_map_of_mem hMem)
    · intro h hMem
      rcases hGone.shared.mem_leased_iff.mp hMem with
        ⟨k, hHolder, hAt⟩
      rw [hGone.handles k hHolder] at hAt
      apply hLawful.mapped h
      refine hLawful.shared.mem_leased_iff.mpr ⟨k, ?_, hAt⟩
      exact
        List.perm_middle.mem_iff.mpr
          (List.mem_cons_of_mem _ hHolder)
    · exact hGone.keeps
  · intro hLast
    rw [hGone.shared.mem_iff] at hLast
    simpa using hLast

end Lawful

end IdCache

end Offload
