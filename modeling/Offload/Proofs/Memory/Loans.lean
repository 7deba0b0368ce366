import Offload.Proofs.Memory.FileLayout
import Offload.Proofs.Memory.Holders

/-
  What is borrowed of a device and given back.

  Whoever allocates regions on a device that others use, and
  gives them all back, leaves the device as it was to the
  others: with the same regions, the same bytes in use and
  the same number of mappings. That holds on any device that
  arose, whatever the others did to it, as long as no cursor
  leaves its window; and for every operation that allocates,
  maps and releases, whichever way it ends.

  Key definitions include:
    * `Device.Lent`
    * `Device.Recovered`
    * `Platform.Smooth`
    * `Platform.Lends`

  Main results:
    * `Device.Arises.packed`
    * `Device.Lent.recovered`
    * `Platform.ensures_allocate`
    * `Handle.ensures_release`
    * `Buffer.ensures_assemble`
    * `Allocator.ensures_allocateLayout`
    * `PoolPlan.ensures_allocateMany`
-/

namespace Offload

open Holdings

------------------------------------------------------------
-- Devices
------------------------------------------------------------

namespace Device

open Handle

/- A device that arose goes on to arise. -/
theorem Arises.reaches
    {d d' : Device}
    (hArises : d.Arises)
    (hActs : Run.Reaches act d d') : d'.Arises := by
  rcases hArises with ⟨page, capacity, hReaches⟩
  exact ⟨page, capacity, hReaches.trans hActs⟩

/- What is done to a device but calls leaves it alike. -/
theorem act_alike
    (d : Device)
    (a : Act)
    (hOther : ∀ c, a ≠ .call c) : d.Alike (act a d) := by
  cases a with
  | call c => exact absurd rfl (hOther c)
  | map region =>
      simp only [act]
      cases hMap : d.map region with
      | error e => exact .refl d
      | ok r => exact alike_of_map hMap
  | write mapping start bytes =>
      exact (unaccounted_write mapping start bytes).alike d
  | _ => exact ⟨rfl, rfl, rfl, rfl, rfl⟩

/-
  Regions of a device that arose lie in place if no cursor
  has left its window, since no cursor ever moves back.
-/
theorem Arises.packed
    {d : Device}
    (hArises : d.Arises)
    (hInside : d.CursorsInside) : d.Packed := by
  rcases hArises with ⟨page, capacity, hReaches⟩
  refine
    hReaches.keep (P := fun d => d.CursorsInside → d.Packed)
      ?_ (fun _ => packed_fresh page capacity) hInside
  intro d a hBefore hAfter
  have hPacked : d.Packed := by
    apply hBefore
    intro t
    exact Nat.le_trans (cursor_act d a t) (hAfter t)
  cases a with
  | call c => exact packed_step c hPacked hAfter
  | _ => exact hPacked.of_alike (act_alike d _ nofun)

/-
  A device has lent regions to some owners: each has one
  where there was none before. All other regions are the
  same, and the bytes in use and the mappings are more by
  those of the owners.
-/
structure Lent
    (d : Device)
    (hs : List Handle)
    (d' : Device) : Prop where
  regions :
    ∀ h ∈ hs,
      h.origin = .allocated ∧ d.region? h.addr = none ∧
        ∃ r,
          d'.region? h.addr = some r ∧ r.size = h.size ∧
            r.target = h.region.target ∧
              r.attachments = 0 ∧ r.freed = false
  distinct : (hs.map addr).Nodup
  others :
    ∀ a ∉ hs.map addr, d'.region? a = d.region? a
  used :
    ∀ t, d'.used t = d.used t + (hs.map (owned t)).sum
  maps :
    d'.counters.maps + d.counters.unmaps =
      d.counters.maps + d'.counters.unmaps +
        hs.countP isMapped

section Lent

variable {d d' d'' : Device}
variable {h : Handle}
variable {hs hs' : List Handle}

theorem Lent.refl
    (d : Device) : d.Lent [] d where
  regions := nofun
  distinct := List.nodup_nil
  others := fun _ _ => rfl
  used := fun _ => rfl
  maps := rfl

/- The order of the owners does not matter. -/
theorem Lent.perm
    (hLent : d.Lent hs d')
    (hPerm : hs.Perm hs') : d.Lent hs' d' where
  regions := fun h hMem =>
    hLent.regions h (hPerm.mem_iff.mpr hMem)
  distinct := (hPerm.map addr).nodup_iff.mp hLent.distinct
  others := fun a hOther =>
    hLent.others a fun hMem =>
      hOther ((hPerm.map addr).mem_iff.mp hMem)
  used := fun t =>
    (hPerm.map (owned t)).sum_eq ▸ hLent.used t
  maps := hPerm.countP_eq _ ▸ hLent.maps

/- What is restored in between is as it was. -/
theorem Lent.of_restored
    (hLent : d.Lent hs d')
    (hRestored : d'.Restored d'') : d.Lent hs d'' where
  regions := by
    intro h hMem
    rw [hRestored.region]
    exact hLent.regions h hMem
  distinct := hLent.distinct
  others := fun a hOther =>
    (hRestored.region a).trans (hLent.others a hOther)
  used := by
    intro t
    unfold Device.used
    rw [hRestored.windows]
    exact hLent.used t
  maps := by
    have hBefore := hLent.maps
    have hBetween := hRestored.maps
    omega

/- Owners may have been mapped or unmapped. -/
theorem Lent.of_alike
    (hLent : d.Lent hs d')
    (hAlike : d'.Alike d'')
    (hBare : hs'.map bare = hs.map bare)
    (hMaps :
      d''.counters.maps + d'.counters.unmaps +
          hs.countP isMapped =
        d'.counters.maps + d''.counters.unmaps +
          hs'.countP isMapped) :
    d.Lent hs' d'' := by
  have hSame :
      ∀ {β : Type} (f : Handle → β),
        (∀ h, f h.bare = f h) → hs'.map f = hs.map f := by
    intro β f hf
    have hAll :
        ∀ xs : List Handle, (xs.map bare).map f = xs.map f := by
      intro xs
      rw [List.map_map]
      exact List.map_congr_left fun h _ => hf h
    rw [← hAll, hBare, hAll]
  have hRegion : ∀ a, d''.region? a = d'.region? a := by
    intro a
    rw [region?, hAlike.regions]
    rfl
  constructor
  · intro h hMem
    have hBareMem : h.bare ∈ hs.map bare := by
      rw [← hBare]
      exact List.mem_map_of_mem hMem
    rcases List.mem_map.mp hBareMem with ⟨y, hOld, hEq⟩
    have hOrigin : y.bare.origin = h.bare.origin := by
      rw [hEq]
    have hHere : y.bare.region = h.bare.region := by
      rw [hEq]
    change y.origin = h.origin at hOrigin
    change y.region = h.region at hHere
    have hOwner := hLent.regions y hOld
    rw [addr, size, hOrigin, hHere] at hOwner
    rw [hRegion]
    exact hOwner
  · rw [hSame addr fun _ => rfl]
    exact hLent.distinct
  · intro a hOther
    rw [hSame addr fun _ => rfl] at hOther
    exact (hRegion a).trans (hLent.others a hOther)
  · intro t
    rw [hSame (owned t) fun _ => rfl]
    unfold Device.used
    rw [hAlike.windows]
    exact hLent.used t
  · have hBefore := hLent.maps
    omega

/- An allocation that leaves no window lends more regions. -/
theorem Lent.allocated
    {target : MemoryTarget}
    {cache : CachePolicy}
    {sizes : List Nat}
    {answer : List Region}
    (hLent : d.Lent hs d')
    (hPacked : d'.Packed)
    (hInside : d''.CursorsInside)
    (hOk :
      d'.allocate target cache sizes = .ok (answer, d'')) :
    d.Lent (owners answer ++ hs) d'' := by
  have hGranted := hPacked.granted hInside hOk
  have hAddrs :
      (owners answer).map addr = answer.map Region.addr := by
    simp only [owners, List.map_map]
    rfl
  -- No owner has a region where there was none.
  have hApart :
      ∀ region ∈ answer, region.addr ∉ hs.map addr := by
    intro region hNew hOld
    rcases List.mem_map.mp hOld with ⟨h, hMem, hAddr⟩
    rcases hLent.regions h hMem with ⟨_, _, r, hFound, _⟩
    rw [hAddr, hGranted.vacant region hNew] at hFound
    cases hFound
  constructor
  · intro h hMem
    rcases List.mem_append.mp hMem with hNew | hOld
    · rcases List.mem_map.mp hNew with ⟨region, hRegion, rfl⟩
      refine ⟨rfl, ?_, hGranted.live region hRegion⟩
      have hVacant := hGranted.vacant region hRegion
      rw [hLent.others _ (hApart region hRegion)] at hVacant
      exact hVacant
    · rcases hLent.regions h hOld with
        ⟨hOrigin, hNone, r, hFound, hSame⟩
      refine ⟨hOrigin, hNone, r, ?_, hSame⟩
      rw [hGranted.others, hFound]
      intro hNew
      rcases List.mem_map.mp hNew with ⟨region, hRegion, hEq⟩
      apply hApart region hRegion
      rw [hEq]
      exact List.mem_map_of_mem hOld
  · rw [List.map_append, hAddrs]
    apply List.nodup_append.mpr
    refine ⟨hGranted.distinct, hLent.distinct, ?_⟩
    rintro a hNew b hOld rfl
    rcases List.mem_map.mp hNew with ⟨region, hRegion, rfl⟩
    exact hApart region hRegion hOld
  · intro a hOther
    rw [List.map_append, hAddrs, List.mem_append, not_or]
      at hOther
    rw [hGranted.others a hOther.1]
    exact hLent.others a hOther.2
  · intro t
    rw [hGranted.used, hLent.used, List.map_append,
      List.sum_append]
    omega
  · rw [hGranted.counters, List.countP_append,
      (countP_attached_owners answer).2, Nat.zero_add]
    exact hLent.maps

/- A mapping makes an owner a mapped one. -/
theorem Lent.mapped
    {mapping : Mapping}
    (hLent : d.Lent (h :: hs) d')
    (hNone : h.mapping = none)
    (hOk : d'.map h.region = .ok (mapping, d'')) :
    d.Lent ({ h with mapping := some mapping } :: hs) d'' := by
  refine hLent.of_alike (alike_of_map hOk) rfl ?_
  unfold map at hOk
  cases hFound : d'.region? h.region.addr with
  | none => simp [hFound] at hOk
  | some r =>
      simp only [hFound] at hOk
      cases hOk
      rw [List.countP_cons_of_neg (by simp [isMapped, hNone]),
        List.countP_cons_of_pos rfl]
      simp only
      omega

/- An owner that is unmapped, if it is mapped. -/
theorem Lent.unmapped
    (hLent : d.Lent (h :: hs) d') :
    d.Lent (h.bare :: hs)
      { d' with
        counters :=
          { d'.counters with
            unmaps := d'.counters.unmaps + h.mappings } } := by
  refine hLent.of_alike ⟨rfl, rfl, rfl, rfl, rfl⟩ rfl ?_
  rw [List.countP_cons, List.countP_cons, mappings]
  simp only [isMapped, bare, Option.isSome_none,
    Bool.false_eq_true, if_false]
  omega

/- An owner that is not mapped gives its region back. -/
theorem Lent.freed
    (hLent : d.Lent (h :: hs) d')
    (hNone : h.mapping = none) :
    ∃ d'',
      d'.free h.region = .ok ((), d'') ∧ d.Lent hs d'' := by
  rcases hLent.regions h List.mem_cons_self with
    ⟨hOrigin, hVacant, r, hFound, hSize, hTarget, hAttached,
      hFreed⟩
  rcases free_entry hFound hFreed with
    ⟨d'', hOk, hUsed, hTable, hCounters⟩
  have hGone :
      LiveRegion.kept { r with freed := true } = none := by
    simp [LiveRegion.kept, hAttached]
  have hDistinct := hLent.distinct
  rw [List.map_cons, List.nodup_cons] at hDistinct
  refine ⟨d'', hOk, ?_⟩
  constructor
  · intro x hMem
    rcases hLent.regions x (List.mem_cons_of_mem _ hMem) with
      ⟨hOrigin', hVacant', r', hFound', hRest⟩
    refine ⟨hOrigin', hVacant', r', ?_, hRest⟩
    rw [hTable, if_neg, hFound']
    intro hSame
    apply hDistinct.1
    rw [← show x.addr = h.addr from hSame]
    exact List.mem_map_of_mem hMem
  · exact hDistinct.2
  · intro a hOther
    rw [hTable, hGone]
    by_cases hHere : a = h.region.addr
    · rw [if_pos hHere, hHere]
      exact hVacant.symm
    · rw [if_neg hHere]
      apply hLent.others
      rw [List.map_cons, List.mem_cons, not_or]
      exact ⟨hHere, hOther⟩
  · intro t
    have hBefore := hLent.used t
    rw [List.map_cons, List.sum_cons] at hBefore
    have hOwned :
        owned t h = if t = r.target then r.size else 0 := by
      rw [owned, hTarget, hSize, isAttached, hOrigin]
      by_cases hHere : h.region.target = t
      · simp [hHere]
      · simp [hHere, Ne.symm hHere]
    rw [hUsed]
    omega
  · have hBefore := hLent.maps
    rw [List.countP_cons_of_neg (by simp [isMapped, hNone])]
      at hBefore
    rw [hCounters]
    exact hBefore

end Lent

/- The number of mappings that were not removed. -/
def openMappings
    (d : Device) : Int :=
  d.counters.maps - d.counters.unmaps

/-
  A device has the live regions that it had, whatever their
  order, and as many bytes in use and open mappings.
-/
structure Recovered
    (d d' : Device) : Prop where
  regions : d'.regions.Perm d.regions
  used : ∀ t, d'.used t = d.used t
  mappings : d'.openMappings = d.openMappings

/- A device that nobody borrows from has all it had. -/
theorem Lent.recovered
    {d d' : Device}
    (hLent : d.Lent [] d')
    (hFiled : d.Filed)
    (hFiled' : d'.Filed) : d.Recovered d' where
  regions := by
    have hSame : ∀ a, d'.region? a = d.region? a :=
      fun a => hLent.others a List.not_mem_nil
    apply
      (List.perm_ext_iff_of_nodup hFiled'.distinct.of_map
        hFiled.distinct.of_map).mpr
    intro e
    constructor
    · intro hMem
      have hFound := hFiled'.region?_of_mem hMem
      rw [hSame] at hFound
      exact mem_of_region? hFound
    · intro hMem
      have hFound := hFiled.region?_of_mem hMem
      rw [← hSame] at hFound
      exact mem_of_region? hFound
  used := hLent.used
  mappings := by
    have hMaps := hLent.maps
    simp only [List.countP_nil, Nat.add_zero] at hMaps
    unfold openMappings
    omega

end Device

------------------------------------------------------------
-- The Platform
------------------------------------------------------------

namespace Platform

open Device

/-
  Nothing got in the way of giving regions back since some
  platform: no cursor has left its window, and no failure of
  an unmapping or of a release came up.
-/
structure Smooth
    (o m : Platform) : Prop where
  inside : m.device.CursorsInside
  unmap : Unstruck .unmap o m
  free : Unstruck .free o m

/- Nothing got in the way on either part of the way. -/
theorem Smooth.parts
    {o m m' : Platform}
    (h : o.Smooth m')
    (hFirst : o.Spares m)
    (hNext : m.Advances m') : o.Smooth m ∧ m.Smooth m' := by
  have hUnmap := h.unmap.parts hFirst hNext.spares
  have hFree := h.free.parts hFirst hNext.spares
  refine ⟨⟨?_, hUnmap.1, hFree.1⟩, h.inside, hUnmap.2, hFree.2⟩
  intro t
  exact Nat.le_trans (hNext.cursors t) (h.inside t)

/-
  Since a platform was at `o`, its device has lent regions
  to some owners, if it arose and nothing got in the way.
-/
structure Lends
    (o : Platform)
    (hs : List Handle)
    (m : Platform) : Prop where
  advances : o.Advances m
  lent :
    o.device.Arises → o.Smooth m → o.device.Lent hs m.device

/- Nothing is lent at first. -/
theorem Lends.refl
    (o : Platform) : o.Lends [] o :=
  ⟨Std.Refl.refl o, fun _ _ => .refl o.device⟩

section Lends

variable {o m m' : Platform}
variable {hs hs' : List Handle}

theorem Lends.perm
    (hLends : o.Lends hs m)
    (hPerm : hs.Perm hs') : o.Lends hs' m where
  advances := hLends.advances
  lent := fun hArises hSmooth =>
    (hLends.lent hArises hSmooth).perm hPerm

/-
  What is done to a platform keeps a loan if it keeps it on
  a device whose cursors are in their windows.
-/
theorem Lends.advance
    (hLends : o.Lends hs m)
    (hAdvances : m.Advances m')
    (hLent :
      m.Smooth m' → m.device.Packed →
        o.device.Lent hs m.device →
          o.device.Lent hs' m'.device) :
    o.Lends hs' m' where
  advances := IsTrans.trans _ _ _ hLends.advances hAdvances
  lent := by
    intro hArises hSmooth
    rcases hSmooth.parts hLends.advances.spares hAdvances with
      ⟨hBefore, hNow⟩
    have hPacked :=
      (hArises.reaches hLends.advances.acts).packed
        hBefore.inside
    exact hLent hNow hPacked (hLends.lent hArises hBefore)

theorem Lends.of_device
    (hLends : o.Lends hs m)
    (hAdvances : m.Advances m')
    (hDevice : m'.device = m.device) : o.Lends hs m' := by
  apply hLends.advance hAdvances
  intro _ _ hLent
  rw [hDevice]
  exact hLent

/- What is done without regard to regions keeps a loan. -/
theorem Lends.of_called
    {f : Device → Device}
    {r : Except Error Unit × Platform}
    (hLends : o.Lends hs m)
    (hAdvances : m.Advances r.2)
    (hf : Unaccounted f)
    (hCalled : Called (fun d => .ok ((), f d)) m r) :
    o.Lends hs r.2 := by
  cases hCalled with
  | refused _ hDevice =>
      exact hLends.of_device hAdvances hDevice
  | answered _ hOk =>
      have hDevice := congrArg Prod.snd (Except.ok.inj hOk)
      simp only at hDevice
      apply hLends.advance hAdvances
      intro _ _ hLent
      rw [← hDevice]
      apply hLent.of_alike (hf.alike _) rfl
      rw [hf.maps, hf.unmaps]

/- An allocation lends the regions that it answers. -/
theorem ensures_allocate
    (target : MemoryTarget)
    (cache : CachePolicy)
    (sizes : List Nat) :
    Op.Ensures (Lends o hs) (allocate target cache sizes)
      fun r => Lends o (owners (regionsIn r) ++ hs) := by
  intro m hLends
  have hAdvances : m.Advances _ :=
    allocate_moves target cache sizes m
  rcases allocate_called target cache sizes m with
    hCalled | ⟨m', hRun, _, hDevice⟩
  · generalize allocate target cache sizes m = r
      at hAdvances hCalled ⊢
    cases hCalled with
    | refused _ hDevice =>
        exact hLends.of_device hAdvances hDevice
    | answered _ hOk =>
        apply hLends.advance hAdvances
        intro hSmooth hPacked hLent
        exact hLent.allocated hPacked hSmooth.inside hOk
  · rw [hRun] at hAdvances ⊢
    exact hLends.of_device hAdvances hDevice

/- What is recorded concerns no region. -/
theorem ensures_record
    {ε : Type}
    (f : Telemetry → Telemetry) :
    Op.Ensures (Lends o hs) (record f : Op ε Platform Unit)
      fun _ => Lends o hs :=
  fun m hLends =>
    hLends.of_device ⟨.refl m, .refl m.device⟩ rfl

end Lends

end Platform

------------------------------------------------------------
-- Handles
------------------------------------------------------------

namespace Handle

open Platform

section Handles

variable {ε : Type}
variable {o m : Platform}
variable {hs : List Handle}

theorem ensures_map
    (h : Handle) :
    Op.Ensures (Lends o (h :: hs)) h.map
      fun r => Lends o (mappedOr h r :: hs) := by
  intro m hLends
  have hAdvances : m.Advances _ := h.map_moves m
  unfold map at hAdvances ⊢
  cases hMapping : h.mapping with
  | some mapping => exact hLends
  | none =>
      have hCalled := map_called h.region m
      simp only [hMapping, bind, Op.bind] at hAdvances ⊢
      generalize Platform.map h.region m = r
        at hAdvances hCalled ⊢
      cases hCalled with
      | refused _ hDevice =>
          exact hLends.of_device hAdvances hDevice
      | answered _ hOk =>
          apply hLends.advance hAdvances
          intro _ _ hLent
          exact hLent.mapped hMapping hOk

theorem ensures_invalidate
    (h : Handle) :
    Op.Ensures (Lends o hs) h.invalidate
      fun _ => Lends o hs := by
  intro m hLends
  have hAdvances : m.Advances _ := h.invalidate_moves m
  unfold invalidate at hAdvances ⊢
  cases hMapped : h.isMapped with
  | false => exact hLends
  | true =>
      simp only [hMapped, if_true] at hAdvances ⊢
      exact
        hLends.of_called hAdvances
          Device.unaccounted_invalidate (invalidate_called m)

theorem ensures_flush
    (h : Handle) :
    Op.Ensures (Lends o hs) h.flush fun _ => Lends o hs := by
  intro m hLends
  have hAdvances : m.Advances _ := h.flush_moves m
  unfold flush at hAdvances ⊢
  cases hMapped : h.isMapped with
  | false => exact hLends
  | true =>
      simp only [hMapped, if_true] at hAdvances ⊢
      exact
        hLends.of_called hAdvances Device.unaccounted_flush
          (flush_called m)

theorem ensures_write
    (h : Handle)
    (start : Nat)
    (bytes : Bytes) :
    Op.Ensures (Lends o hs)
      (h.write start bytes : Op Error Platform Unit)
      fun _ => Lends o hs := by
  intro m hLends
  have hAdvances : m.Advances _ :=
    h.write_moves (ε := Error) start bytes m
  unfold write at hAdvances ⊢
  cases hMapping : h.mapping with
  | none => exact hLends
  | some mapping =>
      simp only [hMapping] at hAdvances ⊢
      exact
        hLends.of_called hAdvances
          (Device.unaccounted_write mapping start bytes)
          (act_called _ m)

/- A mapping is removed unless a failure comes up. -/
theorem unmap_of_unstruck
    {m m' : Platform}
    (h : Handle)
    (hRun :
      (h.unmap m : Except Error Unit × Platform) =
        (.ok (), m'))
    (hUnstruck : Unstruck .unmap m m') :
    m'.device =
      { m.device with
        counters :=
          { m.device.counters with
            unmaps :=
              m.device.counters.unmaps + h.mappings } } := by
  unfold unmap at hRun
  unfold mappings isMapped
  cases hMapping : h.mapping with
  | none =>
      simp only [hMapping] at hRun
      cases hRun
      rfl
  | some mapping =>
      simp only [hMapping, Op.orElse] at hRun
      have hPlan : m'.faults = (Platform.unmap m).2.faults := by
        rcases hUnmap : Platform.unmap m with ⟨e | _, t⟩
        · rw [hUnmap] at hRun
          cases hRun
          rfl
        · rw [hUnmap] at hRun
          cases hRun
          rfl
      unfold Unstruck at hUnstruck
      rw [hPlan] at hUnstruck
      rw [Platform.unmap_of_unstruck hUnstruck] at hRun
      cases hRun
      rfl

/- A release leaves the plan that giving back leaves. -/
theorem release_faults
    (h : Handle)
    (m : Platform) :
    (h.release m : Except Error Unit × Platform).2.faults =
      (h.giveBack
        (h.unmap m : Except Error Unit × _).2).2.faults := by
  rcases h.unmap_alike m with ⟨m', hUnmap, _⟩
  simp only [release, bind, Op.bind, hUnmap, Op.orElse]
  rcases h.giveBack m' with ⟨e | _, m''⟩ <;> rfl

/- An owner gives its region back unless a failure comes up. -/
theorem release_of_unstruck
    {m : Platform}
    {d : Device}
    (h : Handle)
    (hSmooth :
      m.Smooth (h.release m : Except Error Unit × _).2)
    (hOrigin : h.origin = .allocated)
    (hDone :
      Device.free
          { m.device with
            counters :=
              { m.device.counters with
                unmaps :=
                  m.device.counters.unmaps + h.mappings } }
          h.region =
        .ok ((), d)) :
    (h.release m : Except Error Unit × _).2.device = d := by
  rcases h.unmap_alike m with ⟨m', hUnmap, hFirst, _⟩
  have hGiven : m'.Advances _ := h.giveBack_moves m'
  have hNext := hGiven.spares
  have hPlan := h.release_faults m
  have hBefore := hSmooth.unmap
  have hAfter := hSmooth.free
  rw [Unstruck, hPlan, hUnmap] at hBefore hAfter
  have hUnmapped :=
    h.unmap_of_unstruck hUnmap
      (Unstruck.parts hBefore hFirst hNext).1
  have hGiveBack : h.giveBack = Platform.free h.region := by
    rw [giveBack, hOrigin]
  rw [← hUnmapped] at hDone
  rw [release_device, hUnmap, hGiveBack]
  rw [hGiveBack] at hAfter hNext
  rw [Platform.free_of_unstruck
    (Unstruck.parts hAfter hFirst hNext).2 hDone]

/- An owner that is released gives its region back. -/
theorem ensures_release
    (h : Handle) :
    Op.Ensures (Lends o (h :: hs)) (h.release : Op ε _ Unit)
      fun _ => Lends o hs := by
  intro m hLends
  rw [h.release_run m]
  apply hLends.advance (h.release_moves m)
  intro hSmooth _ hLent
  have hOrigin := (hLent.regions h List.mem_cons_self).1
  rcases hLent.unmapped.freed rfl with ⟨d, hDone, hLent'⟩
  rw [h.release_of_unstruck hSmooth hOrigin hDone]
  exact hLent'

end Handles

end Handle

open Platform

variable {ε : Type}
variable {o : Platform}
variable {hs : List Handle}

------------------------------------------------------------
-- Buffers
------------------------------------------------------------

namespace Buffer

theorem ensures_releaseAll
    (segments : List Segment) :
    Op.Ensures
      (Lends o (segments.map Segment.handle ++ hs))
      (releaseAll segments : Op ε _ Unit)
      fun _ => Lends o hs := by
  induction segments with
  | nil => exact .pure fun _ hLends => hLends
  | cons s rest ih =>
      exact
        s.handle.ensures_release.bind_of_ok
          s.handle.release_ok ih

theorem ensures_release
    (b : Buffer) :
    Op.Ensures (Lends o (b.handles ++ hs))
      (b.release : Op ε _ Unit) fun _ => Lends o hs :=
  ensures_releaseAll b.segments

/- Segments become a buffer or are given back. -/
theorem ensures_assemble
    (segments : List Segment)
    (flags : MemoryFlags) :
    Op.Ensures
      (Lends o (segments.map Segment.handle ++ hs))
      (assemble segments flags)
      fun r => Lends o (given handles r ++ hs) := by
  unfold assemble
  cases segments with
  | nil => exact .fail fun _ hLends => hLends
  | cons parent rest =>
      simp only
      split
      · refine
          (ensures_releaseAll _).bind_of_ok (releaseAll_ok _) ?_
        exact .fail fun _ hLends => hLends
      · refine parent.handle.ensures_map.attempt_bind ?_
        intro r
        cases r with
        | ok h => exact .pure fun _ hLends => hLends
        | error e =>
            refine
              (ensures_releaseAll (parent :: rest)).bind_of_ok
                (releaseAll_ok _) ?_
            exact .fail fun _ hLends => hLends

/- The segments in hand are those of a loan. -/
def LendsEach
    (o : Platform)
    (hs : List Handle)
    (s : List Segment × Platform) : Prop :=
  o.Lends (s.1.map Segment.handle ++ hs) s.2

theorem ensures_mapEach :
    Op.Ensures (LendsEach o hs) (Op.each Segment.map)
      fun _ => LendsEach o hs := by
  rintro ⟨segments, m⟩ hLends
  unfold LendsEach Op.each at *
  induction segments generalizing m hs with
  | nil => exact hLends
  | cons s rest ih =>
      have hFirst := s.handle.ensures_map m hLends
      simp only [Op.eachOf, Segment.map]
      rcases hRun : s.handle.map m with ⟨e | h, m'⟩
      · rw [hRun] at hFirst
        exact hFirst
      · rw [hRun] at hFirst
        have hRest :=
          ih m' (hFirst.perm List.perm_middle.symm)
        exact hRest.perm List.perm_middle

/- A buffer whose handles are those of a loan. -/
def LendsTo
    (o : Platform)
    (hs : List Handle)
    (s : Buffer × Platform) : Prop :=
  o.Lends (s.1.handles ++ hs) s.2

theorem ensures_mapSegments :
    Op.Ensures (LendsTo o hs) mapSegments
      fun _ => LendsTo o hs := by
  rintro ⟨b, m⟩ hLends
  have hMapped := ensures_mapEach (b.segments, m) hLends
  have hSome :=
    Segment.eachOf_map_ne_nil b.segments_ne_nil m
  have hSame :
      (mapSegments (b, m)).2.1.segments =
        (Op.eachOf Segment.map b.segments m).2.1 :=
    b.segments_withSegments hSome
  unfold LendsTo handles
  rw [hSame]
  exact hMapped

/- What keeps a loan segment by segment keeps it in all. -/
theorem ensures_inOrder
    {f : Segment → Op Error Platform Unit}
    {g : List Segment → Op Error Platform Unit}
    (hNil : g [] = Op.pure ())
    (hCons :
      ∀ s rest, g (s :: rest) = f s >>= fun _ => g rest)
    (hf :
      ∀ s, Op.Ensures (Lends o hs) (f s) fun _ => Lends o hs)
    (segments : List Segment) :
    Op.Ensures (Lends o hs) (g segments)
      fun _ => Lends o hs := by
  induction segments with
  | nil =>
      rw [hNil]
      exact .pure fun _ hLends => hLends
  | cons s rest ih =>
      rw [hCons]
      exact
        (hf s).bind (fun _ => ih) fun _ _ hLends => hLends

/- A buffer is mapped, as far as that does not fail. -/
theorem ensures_map :
    Op.Ensures (LendsTo o hs) map fun _ => LendsTo o hs := by
  refine ensures_mapSegments.bind ?_ ?_
  · intro _
    refine Op.Ensures.get_bind ?_
    rintro ⟨b, m⟩ hLends
    simp only
    split
    · exact
        ensures_inOrder rfl (fun _ _ => rfl)
          (fun s => s.handle.ensures_invalidate) b.segments m
          hLends
    · exact hLends
  · exact fun _ _ hLends => hLends

theorem ensures_flush
    (b : Buffer) :
    Op.Ensures (Lends o hs) b.flush fun _ => Lends o hs := by
  unfold flush
  split
  · exact
      ensures_inOrder rfl (fun _ _ => rfl)
        (fun s => s.handle.ensures_flush) b.segments
  · exact .pure fun _ hLends => hLends

end Buffer

------------------------------------------------------------
-- Allocators
------------------------------------------------------------

namespace Allocator

theorem ensures_allocateLayout
    (flags : MemoryFlags)
    (layout : List SegmentSpec) :
    Op.Ensures (Lends o hs) (allocateLayout flags layout)
      fun r => Lends o (given Buffer.handles r ++ hs) := by
  have hCheck :
      Op.Ensures (Lends o hs)
        (Op.ofExcept (Layout.check layout))
        fun _ => Lends o hs :=
    .ofExcept fun _ hLends => hLends
  have hRegions :
      Op.Ensures (Lends o hs)
        (Platform.allocate flags.target flags.cache
          (layout.map SegmentSpec.size))
        fun r m =>
          o.Lends (Device.owners (regionsIn r) ++ hs) m ∧
            Platform.Fits (layout.map SegmentSpec.size) r :=
    fun m hLends =>
      ⟨Platform.ensures_allocate _ _ _ m hLends,
        Platform.fits_allocate _ _ _ m⟩
  refine hCheck.bind ?_ ?_
  · intro _
    refine hRegions.attempt_bind fun r => .of_known ?_
    intro hFits
    cases r with
    | error e =>
        refine
          (Platform.ensures_record _).bind_of_ok
            (fun _ => rfl) ?_
        refine
          (Platform.ensures_record _).bind_of_ok
            (fun _ => rfl) ?_
        exact .fail fun _ hLends => hLends
    | ok regions =>
        have hHandles :
            (segmentsOf regions layout).map Segment.handle =
              Device.owners regions := by
          rcases hFits with rfl | hAll
          · rfl
          · exact handles_segmentsOf hAll
        have hBuffer :
            Op.Ensures (Lends o (Device.owners regions ++ hs))
              (Buffer.assemble (segmentsOf regions layout)
                flags)
              fun r =>
                Lends o (given Buffer.handles r ++ hs) := by
          rw [← hHandles]
          exact Buffer.ensures_assemble _ _
        refine hBuffer.attempt_bind ?_
        intro r
        cases r with
        | error e =>
            refine
              (Platform.ensures_record _).bind_of_ok
                (fun _ => rfl) ?_
            exact .fail fun _ hLends => hLends
        | ok b =>
            refine
              (Platform.ensures_record _).bind_of_ok
                (fun _ => rfl) ?_
            refine
              (Platform.ensures_record _).bind_of_ok
                (fun _ => rfl) ?_
            exact .pure fun _ hLends => hLends
  · exact fun _ _ hLends => hLends

theorem ensures_allocSegments
    (a : Allocator)
    (flags : MemoryFlags)
    (layout : List SegmentSpec) :
    Op.Ensures (Lends o hs) (a.allocSegments flags layout)
      fun r => Lends o (given Buffer.handles r ++ hs) := by
  unfold allocSegments
  cases a.kind with
  | segmented => exact ensures_allocateLayout flags layout
  | contiguous =>
      simp only
      split
      · exact ensures_allocateLayout flags layout
      · exact .fail fun _ hLends => hLends

end Allocator

------------------------------------------------------------
-- Pools
------------------------------------------------------------

namespace PoolPlan

theorem ensures_allocate
    (p : PoolPlan) :
    Op.Ensures (Lends o hs) p.allocate
      fun r => Lends o (given Buffer.handles r ++ hs) := by
  unfold allocate
  split
  · exact Allocator.ensures_allocSegments _ _ _
  · exact Allocator.ensures_allocateLayout _ _

theorem ensures_releaseAll
    (buffers : List Buffer) :
    Op.Ensures (Lends o (buffers.flatMap Buffer.handles ++ hs))
      (releaseAll buffers : Op ε _ Unit)
      fun _ => Lends o hs := by
  induction buffers with
  | nil => exact .pure fun _ hLends => hLends
  | cons b rest ih =>
      rw [List.flatMap_cons, List.append_assoc]
      exact b.ensures_release.bind_of_ok b.release_ok ih

/- All buffers asked for are allocated, or none are left. -/
theorem ensures_allocateMany
    (p : PoolPlan)
    (n : Nat)
    (fresh : List Buffer) :
    Op.Ensures (Lends o (fresh.flatMap Buffer.handles ++ hs))
      (p.allocateMany n fresh)
      fun r =>
        Lends o
          (given (fun bs => bs.flatMap Buffer.handles) r ++
            hs) := by
  induction n generalizing fresh with
  | zero => exact .pure fun _ hLends => hLends
  | succ n ih =>
      refine p.ensures_allocate.attempt_bind ?_
      intro r
      cases r with
      | ok b =>
          have hRest := ih (b :: fresh)
          rw [List.flatMap_cons, List.append_assoc] at hRest
          exact hRest
      | error e =>
          have hAll :
              (fresh.flatMap Buffer.handles ++ hs).Perm
                (fresh.reverse.flatMap Buffer.handles ++ hs) :=
            ((List.reverse_perm fresh).symm.flatMap_right
              _).append_right hs
          have hRelease :
              Op.Ensures
                (Lends o (fresh.flatMap Buffer.handles ++ hs))
                (releaseAll fresh.reverse : Op Error _ Unit)
                fun _ => Lends o hs :=
            (ensures_releaseAll fresh.reverse).imp
              (fun m hLends => Lends.perm hLends hAll)
              fun _ _ hLends => hLends
          refine hRelease.bind_of_ok (releaseAll_ok _) ?_
          exact .fail fun _ hLends => hLends

end PoolPlan

namespace Pool

/-
  A pool that cannot be activated stays as it is, and what
  was allocated for it is given back.
-/
theorem ensures_start
    (p : Pool) :
    Op.Ensures (fun s => s.1 = p ∧ o.Lends hs s.2) start
      fun r s =>
        ∀ e, r = .error e → s.1 = p ∧ o.Lends hs s.2 := by
  refine Op.Ensures.get_bind ?_
  rintro ⟨p, m⟩ ⟨rfl, hLends⟩
  have hMany :=
    p.plan.ensures_allocateMany
      (p.plan.least - p.available) [] m hLends
  simp only [bind, Op.bind, onPlatform, Op.within, Lens.snd]
  rcases hRun :
      p.plan.allocateMany (p.plan.least - p.available) [] m
    with ⟨e | fresh, m'⟩
  · rw [hRun] at hMany
    intro _ _
    exact ⟨rfl, hMany⟩
  · exact fun _ hError => by cases hError

theorem ensures_activate
    (p : Pool) :
    Op.Ensures (fun s => s.1 = p ∧ o.Lends hs s.2)
      (setActive true)
      fun r s =>
        ∀ e, r = .error e → s.1 = p ∧ o.Lends hs s.2 := by
  refine Op.Ensures.get_bind ?_
  rintro ⟨p, m⟩ hLends
  simp only
  split
  · exact fun _ hError => by cases hError
  · exact ensures_start _ (p, m) hLends

end Pool

end Offload
