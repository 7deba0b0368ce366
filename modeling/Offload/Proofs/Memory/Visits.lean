import Offload.Memory.IdCache
import Offload.Proofs.Memory.Handles

/-
  Regions that are attached for a while.

  A visit attaches to a region, perhaps maps it, and gives
  it back in the end. Whatever is done in between, as long
  as it restores the device in turn, the device is then as
  it was, up to the bytes of its files.

  Key definitions include:
    * `Device.Restored`
    * `Handle.Visiting`

  Main results:
    * `Handle.Visiting.of_attach`
    * `Handle.Visiting.release`
    * `IdCache.attachMapped_cases`
-/

namespace Offload

------------------------------------------------------------
-- Restored Devices
------------------------------------------------------------

namespace Device

/-
  A device has the windows and the regions that it had, with
  their attachments, and as many attachments and mappings
  were given up as were made.
-/
structure Restored
    (d d' : Device) : Prop where
  windows : d'.windows = d.windows
  region : ∀ addr, d'.region? addr = d.region? addr
  attaches :
    d'.counters.attaches + d.counters.detaches =
      d.counters.attaches + d'.counters.detaches
  maps :
    d'.counters.maps + d.counters.unmaps =
      d.counters.maps + d'.counters.unmaps

theorem Restored.refl
    (d : Device) : d.Restored d :=
  ⟨rfl, fun _ => rfl, rfl, rfl⟩

theorem Restored.trans
    {d d' d'' : Device}
    (hFirst : d.Restored d')
    (hNext : d'.Restored d'') : d.Restored d'' where
  windows := hNext.windows.trans hFirst.windows
  region := fun addr =>
    (hNext.region addr).trans (hFirst.region addr)
  attaches := by
    have hBefore := hFirst.attaches
    have hAfter := hNext.attaches
    omega
  maps := by
    have hBefore := hFirst.maps
    have hAfter := hNext.maps
    omega

/- A region in use can be attached to. -/
theorem attach_of_region?
    {d : Device}
    {addr : Nat}
    {r : LiveRegion}
    (hFound : d.region? addr = some r)
    (hFreed : r.freed = false) :
    ∃ d',
      d.attach addr =
        .ok (⟨addr, r.size, r.target, r.cache⟩, d') := by
  unfold attach
  simp only [hFound, hFreed]
  exact ⟨_, rfl⟩

/- A region in the table can be mapped. -/
theorem map_of_region?
    {d : Device}
    {region : Region}
    {r : LiveRegion}
    (hFound : d.region? region.addr = some r) :
    ∃ mapping d', d.map region = .ok (mapping, d') := by
  unfold map
  simp only [hFound]
  exact ⟨_, _, rfl⟩

end Device

------------------------------------------------------------
-- Visits
------------------------------------------------------------

/- One for a handle that is mapped. -/
def Handle.mappings
    (h : Handle) : Nat :=
  if h.isMapped then 1 else 0

/- A handle whose mapping can be removed. -/
theorem Handle.unmap_of_spared
    {ε : Type}
    {m : Platform}
    (hUnmap : m.faults .unmap = [])
    (h : Handle) :
    (h.unmap m : Except ε Unit × Platform) =
      (.ok (),
        { m with
          device :=
            { m.device with
              counters :=
                { m.device.counters with
                  unmaps :=
                    m.device.counters.unmaps +
                      h.mappings } } }) := by
  unfold Handle.unmap mappings isMapped
  cases h.mapping with
  | none => rfl
  | some mapping =>
      simp only [Op.orElse, Platform.unmap_of_spared hUnmap]
      rfl

/- An attached handle that is not mapped is given back. -/
theorem Handle.giveBack_attached
    {m : Platform}
    {h : Handle}
    {r : LiveRegion}
    (hOrigin : h.origin = .attached)
    (hFound : m.device.region? h.region.addr = some r)
    (hDetach : m.faults .detach = []) :
    h.giveBack m =
      (.ok (),
        { m with
          device :=
            { m.device.settle h.region.addr
                { r with attachments := r.attachments - 1 } with
              counters :=
                { m.device.counters with
                  detaches :=
                    m.device.counters.detaches + 1 } } }) := by
  have hDone :
      m.device.detach h.region =
        .ok ((),
          { m.device.settle h.region.addr
              { r with attachments := r.attachments - 1 } with
            counters :=
              { m.device.counters with
                detaches :=
                  m.device.counters.detaches + 1 } }) := by
    simp only [Device.detach, hFound]
    rfl
  simp only [Handle.giveBack, hOrigin]
  exact Platform.detach_of_spared hDetach hDone

/- An attached handle that can be given back. -/
theorem Handle.release_attached
    {ε : Type}
    {m : Platform}
    {h : Handle}
    {r : LiveRegion}
    (hOrigin : h.origin = .attached)
    (hFound : m.device.region? h.region.addr = some r)
    (hUnmap : m.faults .unmap = [])
    (hDetach : m.faults .detach = []) :
    ∃ d,
      (h.release m : Except ε Unit × Platform) =
          (.ok (), { m with device := d }) ∧
        d.windows = m.device.windows ∧
        d.files = m.device.files ∧
        (∀ addr,
          d.region? addr =
            if addr = h.region.addr then
              LiveRegion.kept
                { r with attachments := r.attachments - 1 }
            else
              m.device.region? addr) ∧
        d.counters =
          { m.device.counters with
            detaches := m.device.counters.detaches + 1
            unmaps :=
              m.device.counters.unmaps + h.mappings } := by
  have hUnmapped :=
    Handle.unmap_of_spared (ε := ε) hUnmap h
  have hBack :=
    Handle.giveBack_attached
      (m := (h.unmap m : Except ε Unit × Platform).2)
      hOrigin (by rw [hUnmapped]; exact hFound)
      (by rw [hUnmapped]; exact hDetach)
  simp only [Handle.release, bind, Op.bind, hUnmapped,
    Op.orElse] at hBack ⊢
  rw [hBack]
  exact
    ⟨_, rfl, rfl, rfl, Device.region?_settle _ _ _, rfl⟩

/-
  A handle was attached, and perhaps mapped, and nothing
  else was done to the platform.
-/
structure Handle.Visiting
    (id : Nat)
    (r : LiveRegion)
    (h : Handle)
    (m m' : Platform) : Prop where
  found : m.device.region? id = some r
  inUse : r.freed = false
  handle :
    h.bare =
      ofRegion ⟨id, r.size, r.target, r.cache⟩ .attached
  mapping :
    ∀ mapping, h.mapping = some mapping →
      mapping.file = r.file ∧ mapping.base = r.offset
  windows : m'.device.windows = m.device.windows
  files : m'.device.files = m.device.files
  region :
    ∀ addr,
      m'.device.region? addr =
        if addr = id then
          some { r with attachments := r.attachments + 1 }
        else
          m.device.region? addr
  counters :
    m'.device.counters =
      { m.device.counters with
        attaches := m.device.counters.attaches + 1
        maps := m.device.counters.maps + h.mappings }
  spares : m.Spares m'

section Visits

variable {ε : Type}
variable {m m' m'' : Platform}
variable {id : Nat}
variable {r : LiveRegion}
variable {h : Handle}

namespace Handle.Visiting

theorem addr_eq
    (hVisit : Visiting id r h m m') : h.addr = id :=
  congrArg addr hVisit.handle

theorem region_eq
    (hVisit : Visiting id r h m m') :
    h.region = ⟨id, r.size, r.target, r.cache⟩ :=
  congrArg Handle.region hVisit.handle

theorem isAttached
    (hVisit : Visiting id r h m m') :
    h.origin = .attached :=
  congrArg origin hVisit.handle

/- A visited region is in the table, with its attachment. -/
theorem entry
    (hVisit : Visiting id r h m m') :
    m'.device.region? h.region.addr =
      some { r with attachments := r.attachments + 1 } := by
  rw [hVisit.region]
  exact if_pos hVisit.addr_eq

------------------------------------------------------------
-- Beginning
------------------------------------------------------------

/- Attaching begins a visit or does nothing. -/
theorem of_attach
    (id : Nat)
    (m : Platform) :
    (∃ r h m',
        Handle.attach id m = (.ok h, m') ∧
          h.mapping = none ∧ Visiting id r h m m') ∨
      ∃ e m',
        Handle.attach id m = (.error e, m') ∧
          m.Spares m' ∧ m'.device = m.device := by
  have hCalled := Platform.attach_called id m
  simp only [Handle.attach, bind, Op.bind]
  generalize Platform.attach id m = x at hCalled
  cases hCalled with
  | refused hSpares hDevice =>
      exact Or.inr ⟨_, _, rfl, hSpares, hDevice⟩
  | @answered region m' hSpares hOk =>
      rcases Device.attach_eq hOk with
        ⟨r, hFound, hFreed, rfl, hDevice⟩
      refine Or.inl ⟨r, _, m', rfl, rfl, ?_⟩
      exact
        { found := hFound
          inUse := hFreed
          handle := rfl
          mapping := fun _ hNone => by cases hNone
          windows := by rw [hDevice]
          files := by rw [hDevice]
          region := by
            intro addr
            rw [hDevice]
            exact Device.lookup_put id addr _ m.device.regions
          counters := by
            rw [hDevice]
            rfl
          spares := hSpares }

/- A visit goes on with a mapping or as it was. -/
theorem map
    (hVisit : Visiting id r h m m')
    (hNone : h.mapping = none) :
    (∃ h' m'',
        h.map m' = (.ok h', m'') ∧ h'.isMapped = true ∧
          Visiting id r h' m m'') ∨
      ∃ e m'',
        h.map m' = (.error e, m'') ∧ Visiting id r h m m'' ∧
          m'.Spares m'' := by
  have hCalled := Platform.map_called h.region m'
  simp only [Handle.map, hNone, bind, Op.bind]
  generalize Platform.map h.region m' = x at hCalled
  cases hCalled with
  | @refused e m'' hSpares hDevice =>
      refine Or.inr ⟨e, m'', rfl, ?_, hSpares⟩
      exact
        { hVisit with
          windows := by rw [hDevice, hVisit.windows]
          files := by rw [hDevice, hVisit.files]
          region := by
            rw [hDevice]
            exact hVisit.region
          counters := by rw [hDevice, hVisit.counters]
          spares := hVisit.spares.trans hSpares }
  | @answered mapping m'' hSpares hOk =>
      simp only [Device.map, hVisit.entry, Except.ok.injEq,
        Prod.mk.injEq] at hOk
      rcases hOk with ⟨rfl, hDevice⟩
      refine Or.inl ⟨_, m'', rfl, rfl, ?_⟩
      exact
        { hVisit with
          handle := hVisit.handle
          mapping := by
            intro mapping hSome
            cases hSome
            refine ⟨rfl, ?_⟩
            exact
              Nat.sub_add_cancel (Nat.mod_le r.offset _)
          windows := by rw [← hDevice, ← hVisit.windows]
          files := by rw [← hDevice, ← hVisit.files]
          region := by
            rw [← hDevice]
            exact hVisit.region
          counters := by
            rw [← hDevice, hVisit.counters]
            simp [mappings, isMapped, hNone]
          spares := hVisit.spares.trans hSpares }

------------------------------------------------------------
-- Ending
------------------------------------------------------------

/-
  A visit during which the device was restored is ended by
  releasing the handle, and the device is restored again.
-/
theorem release
    (hVisit : Visiting id r h m m')
    (hRestored : m'.device.Restored m''.device)
    (hUnmap : m''.faults .unmap = [])
    (hDetach : m''.faults .detach = []) :
    ∃ d,
      (h.release m'' : Except ε Unit × Platform) =
          (.ok (), { m'' with device := d }) ∧
        m.device.Restored d ∧
          d.files = m''.device.files ∧
          d.counters.attaches =
              m''.device.counters.attaches ∧
            d.counters.maps = m''.device.counters.maps := by
  have hFound :=
    (hRestored.region h.region.addr).trans hVisit.entry
  rcases Handle.release_attached hVisit.isAttached hFound
      hUnmap hDetach with
    ⟨d, hRelease, hWindows, hFiles, hRegion, hCounters⟩
  refine
    ⟨d, hRelease, ?_, hFiles, by rw [hCounters],
      by rw [hCounters]⟩
  have hKept :
      LiveRegion.kept
          { r with attachments := r.attachments + 1 - 1 } =
        some r :=
    LiveRegion.mem_kept.mpr
      ⟨rfl, fun hFreed =>
        absurd (hVisit.inUse.symm.trans hFreed)
          Bool.false_ne_true⟩
  have hAttaches := hRestored.attaches
  have hMaps := hRestored.maps
  rw [hVisit.counters] at hAttaches hMaps
  constructor
  · rw [hWindows, hRestored.windows, hVisit.windows]
  · intro addr
    rw [hRegion, hRestored.region, hVisit.region, hKept]
    by_cases hAddr : addr = id
    · have hSame : addr = h.region.addr :=
        hAddr.trans hVisit.addr_eq.symm
      rw [if_pos hSame, hAddr, hVisit.found]
    · have hOther : addr ≠ h.region.addr := fun hSame =>
        hAddr (hSame.trans hVisit.addr_eq)
      rw [if_neg hOther, if_neg hAddr]
  · rw [hCounters]
    simp only at hAttaches ⊢
    omega
  · rw [hCounters]
    simp only at hMaps ⊢
    omega

end Handle.Visiting

/-
  A region is attached and mapped, or the device is restored
  with its files as they were.
-/
theorem IdCache.attachMapped_cases
    (hUnmap : m.faults .unmap = [])
    (hDetach : m.faults .detach = [])
    (id : Nat) :
    (∃ r h m',
        attachMapped id m = (.ok h, m') ∧
          h.isMapped = true ∧
          Handle.Visiting id r h m m') ∨
      ∃ e m',
        attachMapped id m = (.error e, m') ∧
          m.Spares m' ∧ m.device.Restored m'.device ∧
          m'.device.files = m.device.files := by
  simp only [attachMapped, bind, Op.bind]
  rcases Handle.Visiting.of_attach id m with
    ⟨r, h, m', hAttach, hNone, hVisit⟩ |
      ⟨e, m', hAttach, hSpares, hDevice⟩
  · simp only [hAttach, Handle.mapOrRelease, bind, Op.bind,
      Op.attempt]
    rcases hVisit.map hNone with
      ⟨h', m'', hMap, hMapped, hVisit'⟩ |
        ⟨e, m'', hMap, hVisit', hSpares⟩
    · rw [hMap]
      exact Or.inl ⟨r, h', m'', rfl, hMapped, hVisit'⟩
    · rw [hMap]
      rcases hVisit'.release (ε := Error) (.refl _)
          (hVisit'.spares.nil hUnmap)
          (hVisit'.spares.nil hDetach) with
        ⟨d, hRelease, hRestored, hFiles, _⟩
      simp only [Op.bind, hRelease]
      exact
        Or.inr
          ⟨e, _, rfl, hVisit'.spares, hRestored,
            hFiles.trans hVisit'.files⟩
  · rw [hAttach]
    refine Or.inr ⟨e, m', rfl, hSpares, ?_, ?_⟩
    · rw [hDevice]
      exact .refl _
    · rw [hDevice]

end Visits

end Offload
