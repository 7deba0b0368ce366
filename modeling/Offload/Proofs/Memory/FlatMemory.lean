import Mathlib.Data.List.Pairwise
import Offload.Proofs.Memory.FileLayout

/-
  Device memory as one array of bytes.

  Whoever uses a region (its owner, a view of a buffer, an
  attached handle, a cache of ids or firmware) maps it and
  then reads and writes through the mapping. Files, offsets
  and pages do not show in what is read: a mapping reads
  what was last written to its region, and as long as
  regions in the table have no address in common, what is
  read is what one array of bytes has at their addresses.
  An allocation starts from zeros. What an earlier region
  held at the same addresses is not read again, although
  mappings that are left of it still show it.

  Key definitions include:
    * `Site`
    * `MappedDevice`
    * `MappedDevice.step`
    * `MappedDevice.lastIn`
    * `MappedDevice.Flat`

  Main results:
    * `MappedDevice.traced_step`
    * `MappedDevice.mirrored_step`
    * `MappedDevice.flat_of_apart`
-/

namespace Offload

------------------------------------------------------------
-- Sites
------------------------------------------------------------

/-
  An allocated region: its address and the bytes of a file
  that it was given. No two allocations give the same.
-/
structure Site where
  addr : Nat
  file : Nat
  offset : Nat
  size : Nat
deriving DecidableEq

namespace Site

/- The site of an entry of the table. -/
def of
    (addr : Nat)
    (r : LiveRegion) : Site :=
  ⟨addr, r.file, r.offset, r.size⟩

/- Two sites without a common byte in a file. -/
def Separate
    (a b : Site) : Prop :=
  a.file = b.file →
    a.offset + a.size ≤ b.offset ∨
      b.offset + b.size ≤ a.offset

instance : Std.Symm Separate where
  symm _ _ h hFile := (h hFile.symm).symm

end Site

namespace Device

/- The region of a site is in the table. -/
def Has
    (d : Device)
    (site : Site) : Prop :=
  (d.region? site.addr).map (Site.of site.addr) = some site

instance
    (d : Device)
    (site : Site) : Decidable (d.Has site) :=
  inferInstanceAs (Decidable (_ = _))

theorem Has.entry
    {d : Device}
    {site : Site}
    (hHas : d.Has site) :
    ∃ r,
      d.region? site.addr = some r ∧
        Site.of site.addr r = site :=
  Option.map_eq_some_iff.mp hHas

/- Regions of the table without a common address. -/
theorem Has.apart
    {d : Device}
    (hApart : d.regions.Pairwise Apart)
    {a b : Site}
    (ha : d.Has a)
    (hb : d.Has b)
    (hNe : a ≠ b) :
    a.addr + a.size ≤ b.addr ∨
      b.addr + b.size ≤ a.addr := by
  rcases ha.entry with ⟨r, hFound, hr⟩
  rcases hb.entry with ⟨s, hFound', hs⟩
  have hEntries :
      Apart (a.addr, r) (b.addr, s) := by
    apply hApart.forall (mem_of_region? hFound)
      (mem_of_region? hFound')
    intro hSame
    rcases Prod.mk.inj hSame with ⟨hAddr, hRegion⟩
    apply hNe
    rw [← hr, ← hs, hAddr, hRegion]
  rw [← hr, ← hs]
  exact hEntries

/- A call that changes one entry brings no site. -/
theorem Updated.has
    {d d' : Device}
    {addr : Nat}
    {old new : LiveRegion}
    (h : Updated d d' addr old new)
    {site : Site}
    (hHas : d'.Has site) : d.Has site := by
  rcases hHas.entry with ⟨r, hFound, hSite⟩
  unfold Has
  unfold region? at hFound
  rcases h.table with hPut | hWithout
  · rw [hPut, lookup_put] at hFound
    split at hFound
    · rename_i hAddr
      cases hFound
      rw [hAddr, h.found, ← hSite, hAddr]
      simp [Site.of, h.file, h.offset, h.size]
    · rw [region?, hFound]
      exact congrArg some hSite
  · rw [hWithout, lookup_without] at hFound
    split at hFound
    · cases hFound
    · rw [region?, hFound]
      exact congrArg some hSite

end Device

------------------------------------------------------------
-- Mapped Devices
------------------------------------------------------------

/-
  A mapping in use, the site it was made for and how many
  bytes of the site are reached through it.
-/
structure View where
  site : Site
  count : Nat
  mapping : Mapping

/-
  A device, the mappings in use, what was written through
  mappings, newest first, and one array of bytes.
-/
structure MappedDevice where
  device : Device
  views : List View
  stores : List (Site × Patch)
  flat : Nat → UInt8

namespace MappedDevice

/- Nothing is allocated, and all bytes are zero. -/
def fresh
    (page : PageSize)
    (capacity : MemoryTarget → Nat) : MappedDevice :=
  ⟨Device.fresh page capacity, [], [], fun _ => 0⟩

/- What may be done to a device and its mappings. -/
inductive Event where
  | call (c : Device.Call)
  | map (region : Region)
  | unmap (index : Nat)
  | write
      (index start : Nat)
      (bytes : Bytes)

/- The array with the bytes of some regions set to zero. -/
def blank
    (regions : List Region)
    (flat : Nat → UInt8) : Nat → UInt8 :=
  fun a =>
    if ∃ r ∈ regions, r.addr ≤ a ∧ a < r.addr + r.size then
      0
    else
      flat a

/- The array with other bytes from an address on. -/
def patched
    (patch : Patch)
    (addr : Nat)
    (flat : Nat → UInt8) : Nat → UInt8 :=
  fun a =>
    if addr ≤ a then
      (patch.byte? (a - addr)).getD (flat a)
    else
      flat a

/-
  Write through a mapping. The array has what is written to
  regions of the table.
-/
def store
    (s : MappedDevice)
    (v : View)
    (start : Nat)
    (bytes : Bytes) : MappedDevice :=
  let patch : Patch := ⟨start, bytes.toArray⟩
  { s with
    device := s.device.write v.mapping start bytes
    stores := (v.site, patch) :: s.stores
    flat :=
      if s.device.Has v.site then
        patched patch v.site.addr s.flat
      else
        s.flat }

/-
  One event. A refused call, and what is done through a
  mapping that there is not or beyond its end, changes
  nothing. Reading changes nothing either, so all states are
  asked what is read in them.
-/
def step : Event → MappedDevice → MappedDevice
  | .call c, s =>
    { s with
      device := Device.step c s.device
      flat := blank (s.device.answered c) s.flat }
  | .map region, s =>
    match s.device.region? region.addr,
        s.device.map region with
    | some r, .ok (mapping, d) =>
      { s with
        device := d
        views :=
          ⟨Site.of region.addr r, min region.size r.size,
            mapping⟩ :: s.views }
    | _, _ => s
  | .unmap index, s =>
    if index < s.views.length then
      { s with
        device := s.device.unmap
        views := s.views.eraseIdx index }
    else
      s
  | .write index start bytes, s =>
    match s.views[index]? with
    | none => s
    | some v =>
      if start + bytes.length ≤ v.count then
        s.store v start bytes
      else
        s

------------------------------------------------------------
-- What Was Written Last
------------------------------------------------------------

/-
  The byte last written to a byte of a site through any
  mapping of it, zero if there was none.
-/
def lastIn
    (s : MappedDevice)
    (site : Site)
    (i : Nat) : UInt8 :=
  (s.stores.findSome? fun e =>
    if e.1 = site then e.2.byte? i else none).getD 0

/-
  The byte last written at an address through any mapping,
  also of an earlier region there.
-/
def lastAt
    (s : MappedDevice)
    (a : Nat) : UInt8 :=
  (s.stores.findSome? fun e =>
    if e.1.addr ≤ a then e.2.byte? (a - e.1.addr)
    else none).getD 0

/- The newest write decides about the bytes it covers. -/
theorem lastIn_store
    (s : MappedDevice)
    (v : View)
    (start : Nat)
    (bytes : Bytes)
    (site : Site)
    (i : Nat) :
    (s.store v start bytes).lastIn site i =
      if v.site = site then
        (Patch.byte? ⟨start, bytes.toArray⟩ i).getD
          (s.lastIn site i)
      else
        s.lastIn site i := by
  simp only [lastIn, store, List.findSome?_cons]
  by_cases hSite : v.site = site
  · simp only [if_pos hSite]
    cases Patch.byte? ⟨start, bytes.toArray⟩ i <;> rfl
  · simp only [if_neg hSite]

/-
  What a device with mappings reads: the bytes that were
  last written to the regions of the mappings, and those of
  one array while the regions are in the table. A write
  through a mapping of one region changes neither what is
  read through mappings of others nor a byte of another
  region in the table.
-/
structure Flat
    (s : MappedDevice) : Prop where
  latest :
    ∀ v ∈ s.views, ∀ start count,
      start + count ≤ v.count →
        s.device.read v.mapping start count =
          (List.range' start count).map (s.lastIn v.site)
  array :
    ∀ v ∈ s.views, s.device.Has v.site →
      ∀ start count, start + count ≤ v.count →
        s.device.read v.mapping start count =
          (List.range' (v.site.addr + start) count).map
            s.flat
  frame :
    ∀ v ∈ s.views, ∀ start bytes,
      start + bytes.length ≤ v.count →
        (∀ w ∈ s.views, w.site ≠ v.site →
          ∀ other count, other + count ≤ w.count →
            (s.device.write v.mapping start bytes).read
                w.mapping other count =
              s.device.read w.mapping other count) ∧
        ∀ base, ¬ (s.device.Has v.site ∧ base = v.site.addr) →
          ∀ addr,
            (s.device.write v.mapping start bytes).byteOf
                base addr =
              s.device.byteOf base addr

------------------------------------------------------------
-- Files and Writes
------------------------------------------------------------

/-
  The sites of all allocations have no byte in common, and
  their files have what was written to them. Mappings in use
  start at the first byte of a site.
-/
structure Traced
    (sites : List Site)
    (s : MappedDevice) : Prop where
  filed : s.device.Filed
  separate : sites.Pairwise Site.Separate
  entered :
    ∀ e ∈ s.device.regions, Site.of e.1 e.2 ∈ sites
  kept :
    ∀ site ∈ sites, ∃ b,
      s.device.files.get? site.file = some b ∧
        ∀ i < site.size,
          b.byte (site.offset + i) = s.lastIn site i
  viewed :
    ∀ v ∈ s.views,
      v.site ∈ sites ∧ v.mapping.file = v.site.file ∧
        v.mapping.base = v.site.offset ∧
        v.count ≤ v.site.size
  stored : ∀ e ∈ s.stores, e.1 ∈ sites

theorem traced_fresh
    (page : PageSize)
    (capacity : MemoryTarget → Nat) :
    Traced [] (fresh page capacity) where
  filed := Device.filed_fresh page capacity
  separate := List.Pairwise.nil
  entered := nofun
  kept := nofun
  viewed := nofun
  stored := nofun

section Traces

variable {sites : List Site}
variable {s : MappedDevice}

theorem Traced.site_of_has
    (h : Traced sites s)
    {site : Site}
    (hHas : s.device.Has site) : site ∈ sites := by
  rcases hHas.entry with ⟨r, hFound, hSite⟩
  rw [← hSite]
  exact h.entered _ (Device.mem_of_region? hFound)

/- A mapping reads what was last written to its site. -/
theorem Traced.read
    (h : Traced sites s)
    {v : View}
    (hView : v ∈ s.views)
    {start count : Nat}
    (hFits : start + count ≤ v.count) :
    s.device.read v.mapping start count =
      (List.range' start count).map (s.lastIn v.site) := by
  rcases h.viewed v hView with
    ⟨hSite, hFile, hBase, hCount⟩
  rcases h.kept v.site hSite with ⟨b, hStored, hBytes⟩
  unfold Device.read
  rw [hFile, hStored, hBase]
  simp only [Backing.read]
  rw [← List.map_add_range', List.map_map]
  apply List.map_congr_left
  intro i hIndex
  have hRange := List.mem_range'_1.mp hIndex
  exact hBytes i (by omega)

/-
  What a write through a mapping does to the bytes of a
  site: those of the mapping's own site change as written,
  and those of other sites stay.
-/
theorem Traced.byte_write
    (h : Traced sites s)
    {v : View}
    (hView : v ∈ s.views)
    {start : Nat}
    {bytes : Bytes}
    (hFits : start + bytes.length ≤ v.count)
    {site : Site}
    (hSite : site ∈ sites)
    {b : Backing}
    (hStored : s.device.files.get? site.file = some b) :
    ∃ b',
      (s.device.write v.mapping start bytes).files.get?
          site.file = some b' ∧
        ∀ i < site.size,
          b'.byte (site.offset + i) =
            if v.site = site then
              (Patch.byte? ⟨start, bytes.toArray⟩ i).getD
                (b.byte (site.offset + i))
            else
              b.byte (site.offset + i) := by
  rcases h.viewed v hView with
    ⟨hOwn, hFile, hBase, hCount⟩
  rcases h.kept v.site hOwn with ⟨own, hOwnFile, _⟩
  rw [Device.files_write (hFile ▸ hOwnFile), hFile, hBase]
  by_cases hSame : site.file = v.site.file
  · rw [hSame, hOwnFile] at hStored
    cases hStored
    rw [if_pos hSame]
    refine ⟨_, rfl, fun i hIndex => ?_⟩
    split
    · rename_i hEq
      subst hEq
      simp only [Backing.byte_write, Patch.byte?,
        List.getElem?_toArray, Nat.add_le_add_iff_left,
        Nat.add_sub_add_left]
      split <;> rfl
    · rename_i hNe
      have hApart :=
        h.separate.forall hOwn hSite hNe hSame.symm
      exact Backing.byte_write_outside _ (by omega)
  · rw [if_neg hSame, hStored]
    refine ⟨b, rfl, fun i _ => ?_⟩
    rw [if_neg]
    rintro rfl
    exact hSame rfl

/- A write through a mapping is a write to its site. -/
theorem Traced.written
    (h : Traced sites s)
    {v : View}
    (hView : v ∈ s.views)
    {start : Nat}
    {bytes : Bytes}
    (hFits : start + bytes.length ≤ v.count) :
    Traced sites (s.store v start bytes) where
  filed := h.filed.write v.mapping start bytes
  separate := h.separate
  entered := by
    intro e hMem
    apply h.entered
    rwa [MappedDevice.store, Device.regions_write] at hMem
  kept := by
    intro site hSite
    rcases h.kept site hSite with ⟨b, hStored, hBytes⟩
    rcases h.byte_write hView hFits hSite hStored with
      ⟨b', hStored', hBytes'⟩
    refine ⟨b', hStored', fun i hIndex => ?_⟩
    rw [hBytes' i hIndex, hBytes i hIndex, lastIn_store]
  viewed := h.viewed
  stored := by
    intro e hMem
    rcases List.mem_cons.mp hMem with rfl | hOld
    · exact (h.viewed v hView).1
    · exact h.stored e hOld

/- Calls that change no file leave the writes as they are. -/
theorem Traced.of_entries
    (h : Traced sites s)
    {d : Device}
    (hFiled : d.Filed)
    (hEntries : ∀ site, d.Has site → s.device.Has site)
    (hFiles : d.files = s.device.files)
    (flat : Nat → UInt8) :
    Traced sites { s with device := d, flat := flat } where
  filed := hFiled
  separate := h.separate
  entered := by
    intro e hMem
    apply h.site_of_has
    apply hEntries
    rw [Device.Has, Site.of, hFiled.region?_of_mem hMem]
    rfl
  kept := by
    rw [hFiles]
    exact h.kept
  viewed := h.viewed
  stored := h.stored

/- What is not in use yet was never written to. -/
theorem Traced.lastIn_new
    (h : Traced sites s)
    {site : Site}
    (hNew : site.file = s.device.files.next)
    (i : Nat) : s.lastIn site i = 0 := by
  have hNone :
      (s.stores.findSome? fun e =>
        if e.1 = site then e.2.byte? i else none) = none := by
    apply List.findSome?_eq_none_iff.mpr
    intro e hMem
    apply if_neg
    intro hSame
    rcases h.kept e.1 (h.stored e hMem) with ⟨b, hStored, _⟩
    have hOld := h.filed.keyed.lt_next hStored
    rw [hSame, hNew] at hOld
    exact Nat.lt_irrefl _ hOld
  rw [lastIn, hNone]
  rfl

end Traces

end MappedDevice

------------------------------------------------------------
-- Allocations
------------------------------------------------------------

namespace Device

/- The sites that an allocation makes. -/
def sitesBy
    (d : Device)
    (target : MemoryTarget)
    (cache : CachePolicy)
    (sizes : List Nat) : List Site :=
  (d.carvedBy target cache sizes).map fun c =>
    Site.of c.2.addr (liveOf d.files.next c)

variable {d : Device}
variable {target : MemoryTarget}
variable {cache : CachePolicy}
variable {sizes : List Nat}

theorem file_of_mem_sitesBy
    {site : Site}
    (hMem : site ∈ d.sitesBy target cache sizes) :
    site.file = d.files.next := by
  rcases List.mem_map.mp hMem with ⟨c, _, rfl⟩
  rfl

/- The regions of one allocation have no common byte. -/
theorem pairwise_sitesBy :
    (d.sitesBy target cache sizes).Pairwise
      Site.Separate := by
  apply List.pairwise_map.mpr
  apply (pairwise_carve _ _ _ _ _).imp_of_mem
  intro a b ha hb hOrder _
  have hFirst := addr_of_mem_carve ha
  have hSecond := addr_of_mem_carve hb
  simp only [Site.of, liveOf]
  omega

section Tables

variable {d' : Device}
variable {answer : List Region}

/- The regions of an allocation are in the table. -/
theorem has_of_mem_sitesBy
    (hOk : d.allocate target cache sizes = .ok (answer, d'))
    {site : Site}
    (hMem : site ∈ d.sitesBy target cache sizes) :
    d'.Has site := by
  rcases List.mem_map.mp hMem with ⟨c, hCarved, rfl⟩
  have hDistinct :
      (d.carvedBy target cache sizes).Pairwise
        fun a b => a.2.addr ≠ b.2.addr := by
    apply (pairwise_carve _ _ _ _ _).imp_of_mem
    intro a b ha _ hOrder
    have hSize := (mem_carvedBy hOk ha).2.1
    omega
  unfold Has region?
  rw [(allocate_files hOk).2]
  change
    (List.lookup c.2.addr _).map _ = some _
  rw [lookup_enter_of_mem hDistinct hCarved]
  rfl

/- After an allocation the table has its regions and old ones. -/
theorem Has.of_allocate
    (hFiled : d.Filed)
    (hOk : d.allocate target cache sizes = .ok (answer, d'))
    {site : Site}
    (hHas : d'.Has site) :
    site ∈ d.sitesBy target cache sizes ∨ d.Has site := by
  rcases hHas.entry with ⟨r, hFound, hSite⟩
  have hMem := mem_of_region? hFound
  rw [(allocate_files hOk).2] at hMem
  rcases mem_enter hMem with hTable | ⟨c, hCarved, hEntry⟩
  · apply Or.inr
    rw [Has, hFiled.region?_of_mem hTable, Option.map_some,
      hSite]
  · apply Or.inl
    apply List.mem_map.mpr
    rcases Prod.mk.inj hEntry with ⟨hAddr, hRegion⟩
    exact
      ⟨c, hCarved, by rw [← hSite, hAddr, hRegion]⟩

end Tables

end Device

namespace MappedDevice

section Allocations

variable {sites : List Site}
variable {s : MappedDevice}
variable {d : Device}
variable {target : MemoryTarget}
variable {cache : CachePolicy}
variable {sizes : List Nat}
variable {answer : List Region}

/- An allocation adds sites of zeros in a new file. -/
theorem Traced.allocated
    (h : Traced sites s)
    (hOk :
      s.device.allocate target cache sizes =
        .ok (answer, d))
    (flat : Nat → UInt8) :
    Traced
      (s.device.sitesBy target cache sizes ++ sites)
      { s with device := d, flat := flat } := by
  rcases Device.allocate_files hOk with ⟨hFiles, hRegions⟩
  have hOlder :
      ∀ site ∈ sites, site.file ≠ s.device.files.next := by
    intro site hSite
    rcases h.kept site hSite with ⟨b, hStored, _⟩
    exact Nat.ne_of_lt (h.filed.keyed.lt_next hStored)
  constructor
  · exact h.filed.allocated hOk
  · apply List.pairwise_append.mpr
    refine ⟨Device.pairwise_sitesBy, h.separate, ?_⟩
    intro a ha b hb hFile
    rw [Device.file_of_mem_sitesBy ha] at hFile
    exact absurd hFile.symm (hOlder b hb)
  · intro e hMem
    apply List.mem_append.mpr
    rw [hRegions] at hMem
    rcases Device.mem_enter hMem with
      hTable | ⟨c, hCarved, rfl⟩
    · exact Or.inr (h.entered e hTable)
    · exact Or.inl (List.mem_map_of_mem hCarved)
  · intro site hSite
    change
      ∃ b, d.files.get? site.file = some b ∧
        ∀ i < site.size,
          b.byte (site.offset + i) = s.lastIn site i
    rw [hFiles]
    rcases List.mem_append.mp hSite with hNew | hOld
    · have hFile := Device.file_of_mem_sitesBy hNew
      rw [hFile]
      refine
        ⟨_, Table.get?_insert_self _ s.device.files, ?_⟩
      intro i _
      rw [h.lastIn_new hFile]
      rfl
    · rw [Table.get?_insert_other (hOlder site hOld)]
      exact h.kept site hOld
  · intro v hView
    rcases h.viewed v hView with ⟨hSite, hRest⟩
    exact ⟨List.mem_append_right _ hSite, hRest⟩
  · intro e hMem
    exact List.mem_append_right _ (h.stored e hMem)

/- A call leaves the writes as they are. -/
theorem Traced.call
    (h : Traced sites s)
    (c : Device.Call) :
    ∃ sites', Traced sites' (step (.call c) s) := by
  rcases Device.step_cases c s.device with
    hSame | ⟨target, cache, sizes, answer, hOk⟩ |
      ⟨addr, old, new, hUpdated⟩
  · refine ⟨sites, h.of_entries ?_ ?_ ?_ _⟩
    · rw [hSame]
      exact h.filed
    · rw [hSame]
      exact fun _ => id
    · rw [hSame]
  · exact ⟨_, h.allocated hOk _⟩
  · exact
      ⟨sites, h.of_entries (h.filed.updated hUpdated)
        (fun _ => hUpdated.has) hUpdated.files _⟩

/- A new mapping starts at the first byte of its region. -/
theorem Traced.map
    (h : Traced sites s)
    (region : Region) :
    Traced sites (step (.map region) s) := by
  rw [step]
  cases hFound : s.device.region? region.addr with
  | none => exact h
  | some r =>
      have hLive :
          ∃ mapping d,
            s.device.map region = .ok (mapping, d) :=
        Device.map_of_region? hFound
      rcases hLive with ⟨mapping, d, hMap⟩
      simp only [hMap]
      unfold Device.map at hMap
      simp only [hFound] at hMap
      cases hMap
      refine
        { h with
          filed := h.filed.of_same rfl rfl
          viewed := ?_ }
      intro v hView
      rcases List.mem_cons.mp hView with rfl | hOld
      · refine
          ⟨h.entered _ (Device.mem_of_region? hFound), rfl,
            ?_, Nat.min_le_right _ _⟩
        exact Nat.sub_add_cancel (Nat.mod_le r.offset _)
      · exact h.viewed v hOld

/- Every event leaves files in line with what was written. -/
theorem traced_step
    (s : MappedDevice)
    (e : Event)
    (hTraced : ∃ sites, Traced sites s) :
    ∃ sites, Traced sites (step e s) := by
  rcases hTraced with ⟨sites, h⟩
  cases e with
  | call c => exact h.call c
  | map region => exact ⟨sites, h.map region⟩
  | unmap index =>
      refine ⟨sites, ?_⟩
      rw [step]
      split
      · exact
          { h with
            filed := h.filed.of_same rfl rfl
            viewed := fun v hView =>
              h.viewed v (List.mem_of_mem_eraseIdx hView) }
      · exact h
  | write index start bytes =>
      refine ⟨sites, ?_⟩
      rw [step]
      cases hView : s.views[index]? with
      | none => exact h
      | some v =>
          dsimp only
          split
          · exact
              h.written (List.mem_of_getElem? hView)
                ‹start + bytes.length ≤ v.count›
          · exact h

end Allocations

------------------------------------------------------------
-- The Array
------------------------------------------------------------

/-
  The array has what was last written to the regions in the
  table.
-/
def Mirrored
    (s : MappedDevice) : Prop :=
  ∀ site, s.device.Has site → ∀ i < site.size,
    s.flat (site.addr + i) = s.lastIn site i

theorem mirrored_fresh
    (page : PageSize)
    (capacity : MemoryTarget → Nat) :
    (fresh page capacity).Mirrored :=
  fun _ _ _ _ => rfl

theorem blank_nil
    (flat : Nat → UInt8) : blank [] flat = flat := by
  funext a
  exact if_neg nofun

section Mirrors

variable {sites : List Site}
variable {s : MappedDevice}

/-
  An allocation sets the bytes of its regions to zero. Other
  regions in the table have no address in common with them.
-/
theorem Mirrored.allocated
    (h : s.Mirrored)
    (hTraced : Traced sites s)
    {d : Device}
    {target : MemoryTarget}
    {cache : CachePolicy}
    {sizes : List Nat}
    {answer : List Region}
    (hOk :
      s.device.allocate target cache sizes =
        .ok (answer, d))
    (hApart : d.regions.Pairwise Device.Apart) :
    { s with
      device := d
      flat := blank answer s.flat }.Mirrored := by
  intro site hHas i hIndex
  change blank answer s.flat (site.addr + i) = s.lastIn site i
  have hAnswer := (Device.allocate_answer hOk).1
  rcases Device.Has.of_allocate hTraced.filed hOk hHas with
    hNew | hOld
  · rw [hTraced.lastIn_new (Device.file_of_mem_sitesBy hNew)]
    apply if_pos
    rcases List.mem_map.mp hNew with ⟨c, hCarved, rfl⟩
    refine ⟨c.2, ?_, Nat.le_add_right _ _, ?_⟩
    · rw [hAnswer]
      exact List.mem_map_of_mem hCarved
    · exact Nat.add_lt_add_left hIndex _
  · rw [← h site hOld i hIndex]
    apply if_neg
    rintro ⟨region, hRegion, hLow, hHigh⟩
    rw [hAnswer] at hRegion
    rcases List.mem_map.mp hRegion with ⟨c, hCarved, rfl⟩
    let own :=
      Site.of c.2.addr
        (Device.liveOf s.device.files.next c)
    have hOwn :
        own ∈ s.device.sitesBy target cache sizes :=
      List.mem_map_of_mem hCarved
    rcases hTraced.kept site (hTraced.site_of_has hOld) with
      ⟨b, hStored, _⟩
    have hOlder := hTraced.filed.keyed.lt_next hStored
    have hNe : site ≠ own := by
      intro hSame
      rw [hSame] at hOlder
      exact Nat.lt_irrefl _ hOlder
    have hDisjoint :=
      Device.Has.apart hApart hHas
        (Device.has_of_mem_sitesBy hOk hOwn) hNe
    simp only [own, Site.of, Device.liveOf] at hDisjoint
    omega

theorem Mirrored.call
    (h : s.Mirrored)
    (hTraced : Traced sites s)
    (c : Device.Call)
    (hApart :
      (step (.call c) s).device.regions.Pairwise
        Device.Apart) :
    (step (.call c) s).Mirrored := by
  rcases Device.step_answered c s.device with
    ⟨target, cache, sizes, hOk⟩ | ⟨hNone, hEntries⟩
  · exact h.allocated hTraced hOk hApart
  · have hOld :
        ∀ site, (Device.step c s.device).Has site →
          s.device.Has site := by
      intro site hHas
      rcases hEntries with hSame | ⟨addr, old, new, hUpdated⟩
      · rwa [hSame] at hHas
      · exact hUpdated.has hHas
    intro site hHas i hIndex
    rw [step, hNone, blank_nil]
    exact h site (hOld site hHas) i hIndex

/-
  A write through a mapping of a region in the table is one
  to the array. Left-over mappings do not write there.
-/
theorem Mirrored.written
    (h : s.Mirrored)
    (hTraced : Traced sites s)
    (hApart : s.device.regions.Pairwise Device.Apart)
    {v : View}
    (hView : v ∈ s.views)
    {start : Nat}
    {bytes : Bytes}
    (hFits : start + bytes.length ≤ v.count) :
    (s.store v start bytes).Mirrored := by
  intro site hHas i hIndex
  replace hHas : s.device.Has site := by
    rwa [Device.Has, store, Device.region?_write] at hHas
  have hBefore := h site hHas i hIndex
  rw [lastIn_store]
  simp only [store]
  by_cases hSame : v.site = site
  · subst hSame
    rw [if_pos hHas, if_pos rfl, patched,
      if_pos (Nat.le_add_right _ _), Nat.add_sub_cancel_left,
      hBefore]
  · rw [if_neg hSame, ← hBefore]
    split
    · rename_i hOwn
      have hDisjoint :=
        Device.Has.apart hApart hOwn hHas hSame
      have hCount := (hTraced.viewed v hView).2.2.2
      unfold patched
      split
      · have hBehind :
            bytes.length ≤ site.addr + i - v.site.addr - start := by
          omega
        simp only [Patch.byte?, List.getElem?_toArray,
          List.getElem?_eq_none hBehind, ite_self,
          Option.getD_none]
      · rfl
    · rfl

/-
  Every event leaves the array in line with what was written
  as long as regions have no address in common.
-/
theorem mirrored_step
    (s : MappedDevice)
    (e : Event)
    (hTraced : ∃ sites, Traced sites s)
    (hBefore : s.device.regions.Pairwise Device.Apart)
    (hAfter :
      (step e s).device.regions.Pairwise Device.Apart)
    (h : s.Mirrored) : (step e s).Mirrored := by
  rcases hTraced with ⟨sites, hTraced⟩
  cases e with
  | call c => exact h.call hTraced c hAfter
  | map region =>
      rw [step]
      unfold Device.map
      cases s.device.region? region.addr with
      | none => exact h
      | some r => exact h
  | unmap index =>
      rw [step]
      split
      · exact h
      · exact h
  | write index start bytes =>
      rw [step]
      cases hView : s.views[index]? with
      | none => exact h
      | some v =>
          dsimp only
          split
          · exact
              h.written hTraced hBefore
                (List.mem_of_getElem? hView)
                ‹start + bytes.length ≤ v.count›
          · exact h

------------------------------------------------------------
-- What Is Read
------------------------------------------------------------

/- Writes to one site do not show in others. -/
theorem Traced.frame
    (h : Traced sites s)
    {v : View}
    (hView : v ∈ s.views)
    {start : Nat}
    {bytes : Bytes}
    (hFits : start + bytes.length ≤ v.count)
    {w : View}
    (hOther : w ∈ s.views)
    (hNe : w.site ≠ v.site)
    {other count : Nat}
    (hInside : other + count ≤ w.count) :
    (s.device.write v.mapping start bytes).read w.mapping
        other count =
      s.device.read w.mapping other count := by
  have hAfter :=
    (h.written hView hFits).read
      (v := w) hOther hInside
  refine hAfter.trans ?_
  rw [h.read hOther hInside]
  apply List.map_congr_left
  intro i _
  rw [lastIn_store, if_neg hNe.symm]

/- Writes to one site leave the other regions alone. -/
theorem Traced.byteOf_write
    (h : Traced sites s)
    {v : View}
    (hView : v ∈ s.views)
    {start : Nat}
    {bytes : Bytes}
    (hFits : start + bytes.length ≤ v.count)
    {base : Nat}
    (hOther :
      ¬ (s.device.Has v.site ∧ base = v.site.addr))
    (addr : Nat) :
    (s.device.write v.mapping start bytes).byteOf base addr =
      s.device.byteOf base addr := by
  cases hFound : s.device.region? base with
  | none =>
      unfold Device.byteOf
      rw [Device.region?_write, hFound]
  | some r =>
      have hSite := h.entered _ (Device.mem_of_region? hFound)
      have hNe : v.site ≠ Site.of base r := by
        intro hSame
        apply hOther
        rw [hSame]
        refine ⟨?_, rfl⟩
        rw [Device.Has, Site.of, hFound]
        rfl
      rcases h.kept _ hSite with ⟨b, hStored, _⟩
      rcases h.byte_write hView hFits hSite hStored with
        ⟨b', hStored', hBytes⟩
      have hFound' :
          (s.device.write v.mapping start bytes).region?
              base = some r := by
        rw [Device.region?_write, hFound]
      by_cases hInside : base ≤ addr ∧ addr < base + r.size
      · have hIndex : addr - base < r.size := by omega
        have hSame := hBytes (addr - base) hIndex
        rw [if_neg hNe] at hSame
        rw [Device.byteOf_eq hFound' hStored' hInside.1
            hInside.2,
          Device.byteOf_eq hFound hStored hInside.1
            hInside.2]
        exact congrArg some hSame
      · rw [Device.byteOf_outside hFound' hInside,
          Device.byteOf_outside hFound hInside]

theorem flat_of_traced
    (hTraced : Traced sites s)
    (hMirrored : s.Mirrored) : s.Flat where
  latest := fun _ hView _ _ hFits => hTraced.read hView hFits
  array := by
    intro v hView hHas start count hFits
    have hCount := (hTraced.viewed v hView).2.2.2
    rw [hTraced.read hView hFits, ← List.map_add_range',
      List.map_map]
    apply List.map_congr_left
    intro i hIndex
    have hRange := List.mem_range'_1.mp hIndex
    exact (hMirrored v.site hHas i (by omega)).symm
  frame := fun _ hView _ _ hFits =>
    ⟨fun _ hOther hNe _ _ hInside =>
        hTraced.frame hView hFits hOther hNe hInside,
      fun _ hOther addr =>
        hTraced.byteOf_write hView hFits hOther addr⟩

end Mirrors

/-
  In a run in which regions of the table have no address in
  common, every mapping reads what was last written to its
  region, regions in the table are read as one array of
  bytes that allocations set to zero, and no write changes
  another region.
-/
theorem flat_of_apart
    (page : PageSize)
    (capacity : MemoryTarget → Nat)
    (es : List Event)
    (hApart :
      ∀ s ∈ Run.states step es (fresh page capacity),
        s.device.regions.Pairwise Device.Apart) :
    ∀ s ∈ Run.states step es (fresh page capacity), s.Flat := by
  have hAll :
      ∀ s ∈ Run.states step es (fresh page capacity),
        (∃ sites, Traced sites s) ∧ s.Mirrored := by
    apply Run.forall_states_of_moves
    · exact
        ⟨⟨_, traced_fresh page capacity⟩,
          mirrored_fresh page capacity⟩
    · intro s e hMove ⟨hTraced, hMirrored⟩
      have hStates := Run.mem_states_of_mem_moves hMove
      exact
        ⟨traced_step s e hTraced,
          mirrored_step s e hTraced (hApart s hStates.1)
            (hApart _ hStates.2) hMirrored⟩
  intro s hs
  rcases hAll s hs with ⟨⟨sites, hTraced⟩, hMirrored⟩
  exact flat_of_traced hTraced hMirrored

/-
  Two segments share a page. The first is mapped by its
  owner and by an attached handle, which writes.
-/
def sharedPage : List Event :=
  let first : Region :=
    ⟨Device.windowBase, 100, .generic, .uncached⟩
  let second : Region :=
    ⟨Device.windowBase + 100, 200, .generic, .uncached⟩
  [.call (.allocate .generic .uncached [100, 200]),
   .map first,
   .map second,
   .call (.attach first.addr),
   .map first,
   .write 0 98 [7, 8]]

theorem flat_of_sharedPage :
    (∀ s ∈
        Run.states step sharedPage
          (fresh .usual Device.defaultCapacity),
      s.device.regions.Pairwise Device.Apart) ∧
    (∀ s ∈
        Run.states step sharedPage
          (fresh .usual Device.defaultCapacity),
      s.Flat) ∧
    (let s :=
      Run.after step sharedPage
        (fresh .usual Device.defaultCapacity)
    s.views.map (fun v =>
        s.device.read v.mapping (v.count - 2) 2) =
      [[7, 8], [0, 0], [7, 8]]) := by
  have hApart :
      ∀ s ∈
          Run.states step sharedPage
            (fresh .usual Device.defaultCapacity),
        s.device.regions.Pairwise Device.Apart := by
    decide +kernel
  exact
    ⟨hApart, flat_of_apart _ _ sharedPage hApart,
      by decide +kernel⟩

------------------------------------------------------------
-- Addresses Used Again
------------------------------------------------------------

/-
  A region behind a sweep is written to and freed. The next
  region of another target is given the same address.
-/
def reuse : List Event :=
  let first : Region :=
    ⟨Device.windowStart .onChip, 4096, .generic, .uncached⟩
  Device.sweep.map .call ++
    [.call (.allocate .generic .uncached [4096]),
     .map first,
     .write 0 0 [7],
     .unmap 0,
     .call (.free first),
     .call (.allocate .onChip .uncached [4096]),
     .map { first with target := .onChip }]

/-
  Although regions of the table never have an address in
  common, a mapping does not read the last byte written at
  an address: that was written to an earlier region.
-/
theorem reads_zero_at_reused_address :
    (∀ s ∈
        Run.states step reuse (fresh .usual Device.defaultCapacity),
      s.device.regions.Pairwise Device.Apart) ∧
    ∃ v ∈
        (Run.after step reuse
          (fresh .usual Device.defaultCapacity)).views,
      v.count = 4096 ∧
        (Run.after step reuse
            (fresh .usual Device.defaultCapacity)).device.Has
          v.site ∧
        (Run.after step reuse
            (fresh .usual Device.defaultCapacity)).device.read
          v.mapping 0 1 = [0] ∧
        (Run.after step reuse
            (fresh .usual Device.defaultCapacity)).lastAt
          v.site.addr = 7 := by
  decide +kernel

end MappedDevice

end Offload
