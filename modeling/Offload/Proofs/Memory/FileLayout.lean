import Offload.Proofs.Memory.Visits

/-
  Where the bytes of regions are kept.

  Every allocation has a backing file of its own, and its
  regions lie in the file as they lie in memory. Regions
  without a common address therefore have no common byte,
  and a byte of memory is found by the region it is in.

  Key definitions include:
    * `Device.Arises`
    * `Device.Filed`
    * `Device.byteOf`
    * `Device.Spans`

  Main results:
    * `Device.filed_act`
    * `Device.Arises.filed`
    * `Device.containing?_of_spans`
    * `Device.byteOf_write`
-/

namespace Offload

------------------------------------------------------------
-- Bytes of Files
------------------------------------------------------------

namespace Backing

/- A byte that is written is read back. -/
theorem byte_write_inside
    (b : Backing)
    (start : Nat)
    {bytes : Bytes}
    {i : Nat}
    (hIndex : i < bytes.length) :
    some ((b.write start bytes).byte (start + i)) =
      bytes[i]? := by
  rw [byte_write, if_pos (Nat.le_add_right start i),
    Nat.add_sub_cancel_left, List.getElem?_eq_getElem hIndex,
    Option.getD_some]

/- A byte beside what is written stays. -/
theorem byte_write_outside
    (b : Backing)
    {start : Nat}
    {bytes : Bytes}
    {i : Nat}
    (hOutside : i < start ∨ start + bytes.length ≤ i) :
    (b.write start bytes).byte i = b.byte i := by
  rw [byte_write]
  rcases hOutside with hBefore | hBehind
  · exact if_neg (Nat.not_le.mpr hBefore)
  · have hNone : bytes[i - start]? = none :=
      List.getElem?_eq_none (by omega)
    rw [hNone, Option.getD_none, ite_self]

end Backing

/- The file of a region, its offset there and its size. -/
def LiveRegion.place
    (r : LiveRegion) : Nat × Nat × Nat :=
  (r.file, r.offset, r.size)

namespace Device

------------------------------------------------------------
-- Devices That Arise
------------------------------------------------------------

/- A fresh device has become this one. -/
def Arises
    (d : Device) : Prop :=
  ∃ page capacity,
    Run.Reaches act (fresh page capacity) d

------------------------------------------------------------
-- Files of Regions
------------------------------------------------------------

/-
  Each region has a file, and each file an address at which
  it starts: a region lies as far behind that address as it
  lies behind the start of the file.
-/
structure Filed
    (d : Device) : Prop where
  distinct : (d.regions.map Prod.fst).Nodup
  keyed : d.files.Keyed
  stored :
    ∀ e ∈ d.regions, ∃ b, d.files.get? e.2.file = some b
  placed :
    ∃ start : Nat → Nat,
      ∀ e ∈ d.regions, e.1 = start e.2.file + e.2.offset

theorem filed_fresh
    (page : PageSize)
    (capacity : MemoryTarget → Nat) :
    (fresh page capacity).Filed where
  distinct := List.nodup_nil
  keyed := Table.keyed_empty
  stored := fun _ hMem => absurd hMem List.not_mem_nil
  placed := ⟨id, fun _ hMem => absurd hMem List.not_mem_nil⟩

theorem nodup_put
    {rs : List (Nat × LiveRegion)}
    (h : (rs.map Prod.fst).Nodup)
    (addr : Nat)
    (r : LiveRegion) :
    ((put addr r rs).map Prod.fst).Nodup := by
  apply List.Nodup.cons
  · intro hMem
    rcases List.mem_map.mp hMem with ⟨e, hKept, hAddr⟩
    simp [without, hAddr] at hKept
  · exact h.sublist (List.filter_sublist.map Prod.fst)

theorem nodup_enter
    {rs : List (Nat × LiveRegion)}
    (h : (rs.map Prod.fst).Nodup)
    (file : Nat)
    (cs : List (Nat × Region)) :
    ((enter file rs cs).map Prod.fst).Nodup := by
  induction cs generalizing rs with
  | nil => exact h
  | cons c rest ih => exact ih (nodup_put h _ _)

/- A carved region lies at its offset from the start. -/
theorem addr_of_mem_carve
    {start : Nat}
    {target : MemoryTarget}
    {cache : CachePolicy}
    {sizes : List Nat}
    {offset : Nat}
    {c : Nat × Region}
    (hMem : c ∈ carve start target cache sizes offset) :
    c.2.addr = start + c.1 := by
  induction sizes generalizing offset with
  | nil => cases hMem
  | cons size rest ih =>
      rcases List.mem_cons.mp hMem with rfl | hRest
      · rfl
      · exact ih hRest

/-
  An allocation has a new file for the regions it enters: as
  many zeros as they have bytes, and those up to the end of
  the last page.
-/
theorem allocate_files
    {d d' : Device}
    {target : MemoryTarget}
    {cache : CachePolicy}
    {sizes : List Nat}
    {answer : List Region}
    (h :
      d.allocate target cache sizes = .ok (answer, d')) :
    d'.files =
        (d.files.insert
          (Backing.zeros (d.page.up sizes.sum))).2 ∧
      d'.regions =
        enter d.files.next d.regions
          (d.carvedBy target cache sizes) := by
  rcases allocate_eq_ok_iff.mp h with ⟨_, _, rfl⟩
  exact ⟨rfl, rfl⟩

theorem Filed.allocated
    {d d' : Device}
    {target : MemoryTarget}
    {cache : CachePolicy}
    {sizes : List Nat}
    {answer : List Region}
    (hFiled : d.Filed)
    (h :
      d.allocate target cache sizes = .ok (answer, d')) :
    d'.Filed := by
  rcases allocate_files h with ⟨hFiles, hRegions⟩
  rcases hFiled.placed with ⟨start, hPlaced⟩
  have hOld :
      ∀ e ∈ d.regions, e.2.file ≠ d.files.next := by
    intro e hMem
    rcases hFiled.stored e hMem with ⟨_, hFound⟩
    exact Nat.ne_of_lt (hFiled.keyed.lt_next hFound)
  constructor
  · rw [hRegions]
    exact nodup_enter hFiled.distinct _ _
  · rw [hFiles]
    exact hFiled.keyed.insert _
  · intro e hMem
    rw [hRegions] at hMem
    rw [hFiles]
    rcases mem_enter hMem with hTable | ⟨c, _, rfl⟩
    · rw [Table.get?_insert_other (hOld e hTable)]
      exact hFiled.stored e hTable
    · exact ⟨_, Table.get?_insert_self _ d.files⟩
  · refine
      ⟨fun file =>
        if file = d.files.next then
          d.page.up (d.windows target).next
        else
          start file, ?_⟩
    intro e hMem
    rw [hRegions] at hMem
    rcases mem_enter hMem with hTable | ⟨c, hCarved, rfl⟩
    · simp only [if_neg (hOld e hTable)]
      exact hPlaced e hTable
    · simp only [entryOf, liveOf, if_pos]
      exact addr_of_mem_carve hCarved

theorem Filed.updated
    {d d' : Device}
    {addr : Nat}
    {old new : LiveRegion}
    (hFiled : d.Filed)
    (h : Updated d d' addr old new) : d'.Filed := by
  rcases hFiled.placed with ⟨start, hPlaced⟩
  have hOld : (addr, old) ∈ d.regions :=
    mem_of_region? h.found
  constructor
  · rcases h.table with hPut | hWithout
    · rw [hPut]
      exact nodup_put hFiled.distinct _ _
    · rw [hWithout]
      exact
        hFiled.distinct.sublist
          (List.filter_sublist.map Prod.fst)
  · rw [h.files]
    exact hFiled.keyed
  · intro e he
    rw [h.files]
    rcases h.mem_regions he with rfl | hKept
    · rw [h.file]
      exact hFiled.stored _ hOld
    · exact hFiled.stored e hKept
  · refine ⟨start, fun e he => ?_⟩
    rcases h.mem_regions he with rfl | hKept
    · rw [h.file, h.offset]
      exact hPlaced _ hOld
    · exact hPlaced e hKept

/- Only regions and files matter. -/
theorem Filed.of_same
    {d d' : Device}
    (hFiled : d.Filed)
    (hRegions : d'.regions = d.regions)
    (hFiles : d'.files = d.files) : d'.Filed := by
  constructor
  · rw [hRegions]
    exact hFiled.distinct
  · rw [hFiles]
    exact hFiled.keyed
  · rw [hRegions, hFiles]
    exact hFiled.stored
  · rw [hRegions]
    exact hFiled.placed

theorem Filed.write
    {d : Device}
    (hFiled : d.Filed)
    (mapping : Mapping)
    (start : Nat)
    (bytes : Bytes) :
    (d.write mapping start bytes).Filed := by
  unfold Device.write
  cases hFile : d.files.get? mapping.file with
  | none => exact hFiled
  | some b =>
      constructor
      · exact hFiled.distinct
      · exact hFiled.keyed.set _ _
      · intro e hMem
        by_cases hSame : e.2.file = mapping.file
        · rw [hSame]
          exact ⟨_, Table.get?_set_self hFile _⟩
        · rw [Table.get?_set_other hSame]
          exact hFiled.stored e hMem
      · exact hFiled.placed

/- Every act keeps regions in their files. -/
theorem filed_act
    (d : Device)
    (a : Act)
    (hFiled : d.Filed) : (act a d).Filed := by
  cases a with
  | call c =>
      rcases step_cases c d with
        hSame | ⟨target, cache, sizes, answer, hOk⟩ |
          ⟨addr, old, new, hUpdated⟩
      · rw [act, hSame]
        exact hFiled
      · exact hFiled.allocated hOk
      · exact hFiled.updated hUpdated
  | map region =>
      simp only [act, Device.map]
      cases d.region? region.addr with
      | none => exact hFiled
      | some r => exact hFiled.of_same rfl rfl
  | unmap => exact hFiled.of_same rfl rfl
  | invalidate => exact hFiled.of_same rfl rfl
  | flush => exact hFiled.of_same rfl rfl
  | write mapping start bytes =>
      exact hFiled.write mapping start bytes

theorem Arises.filed
    {d : Device}
    (hArises : d.Arises) : d.Filed := by
  rcases hArises with ⟨page, capacity, hReaches⟩
  exact hReaches.keep filed_act (filed_fresh page capacity)

/- What is in the table is found in it. -/
theorem Filed.region?_of_mem
    {d : Device}
    (hFiled : d.Filed)
    {e : Nat × LiveRegion}
    (hMem : e ∈ d.regions) : d.region? e.1 = some e.2 := by
  rcases List.append_of_mem hMem with
    ⟨before, behind, hTable⟩
  apply List.lookup_eq_some_iff.mpr
  refine ⟨before, behind, hTable, ?_⟩
  intro f hBefore
  have hDistinct := hFiled.distinct
  rw [hTable, List.map_append] at hDistinct
  have hApart := (List.nodup_append.mp hDistinct).2.2
  have hNe : f.1 ≠ e.1 :=
    hApart f.1 (List.mem_map_of_mem hBefore) e.1
      (List.mem_map_of_mem List.mem_cons_self)
  simpa using Ne.symm hNe

------------------------------------------------------------
-- Regions That Hold Addresses
------------------------------------------------------------

/-
  The regions of a device lie in files and have no address
  in common.
-/
structure Laid
    (d : Device) : Prop where
  filed : d.Filed
  apart :
    ∀ a b r s,
      d.region? a = some r → d.region? b = some s →
        a ≠ b → Apart (a, r) (b, s)

/- A region in use has `count` addresses from one on. -/
def Spans
    (d : Device)
    (base addr count : Nat) : Prop :=
  ∃ r,
    d.region? base = some r ∧ r.freed = false ∧
      base ≤ addr ∧ addr + count ≤ base + r.size

instance
    (d : Device)
    (base addr count : Nat) :
    Decidable (d.Spans base addr count) :=
  inferInstanceAs
    (Decidable (∃ r ∈ d.region? base,
      r.freed = false ∧
        base ≤ addr ∧ addr + count ≤ base + r.size))

/- Regions stay apart while none is moved. -/
theorem Laid.of_places
    {d d' : Device}
    (hLaid : d.Laid)
    (hFiled : d'.Filed)
    (hPlaces :
      ∀ a,
        (d'.region? a).map LiveRegion.place =
          (d.region? a).map LiveRegion.place) :
    d'.Laid where
  filed := hFiled
  apart := by
    have hOld :
        ∀ a r', d'.region? a = some r' →
          ∃ r, d.region? a = some r ∧ r.size = r'.size := by
      intro a r' hNew
      have hPlace := hPlaces a
      rw [hNew, Option.map_some] at hPlace
      rcases Option.map_eq_some_iff.mp hPlace.symm with
        ⟨r, hFound, hSame⟩
      simp only [LiveRegion.place, Prod.mk.injEq] at hSame
      exact ⟨r, hFound, hSame.2.2⟩
    intro a b r s ha hb hNe
    rcases hOld a r ha with ⟨r₀, hFirst, hSize⟩
    rcases hOld b s hb with ⟨s₀, hSecond, hSize'⟩
    have hApart :=
      hLaid.apart a b r₀ s₀ hFirst hSecond hNe
    simpa [Apart, hSize, hSize'] using hApart

/- The region that holds an address is the one there is. -/
theorem containing?_of_spans
    {d : Device}
    (hLaid : d.Laid)
    {base addr count : Nat}
    (hSpans : d.Spans base addr count)
    (hCount : 0 < count) : d.containing? addr = some base := by
  rcases hSpans with ⟨r, hFound, hFreed, hLow, hHigh⟩
  have hHere : (base, r) ∈ d.regions := mem_of_region? hFound
  unfold containing?
  cases hFind : d.regions.find? _ with
  | none =>
      have hNone := List.find?_eq_none.mp hFind _ hHere
      simp [hFreed, hLow] at hNone
      omega
  | some e =>
      have hHolds := List.find?_some hFind
      simp only [Bool.and_eq_true, decide_eq_true_eq]
        at hHolds
      have hOther :=
        hLaid.filed.region?_of_mem
          (List.mem_of_find?_eq_some hFind)
      by_cases hSame : e.1 = base
      · rw [Option.map_some, hSame]
      · have hApart :=
          hLaid.apart e.1 base e.2 r hOther hFound hSame
        simp only [Apart] at hApart
        omega

------------------------------------------------------------
-- Bytes
------------------------------------------------------------

/- The byte that the region at `base` has at an address. -/
def byteOf
    (d : Device)
    (base addr : Nat) : Option UInt8 :=
  match d.region? base with
  | none => none
  | some r =>
    if base ≤ addr ∧ addr < base + r.size then
      (d.files.get? r.file).map fun b =>
        b.byte (r.offset + (addr - base))
    else
      none

/- The byte of a region in the region's file. -/
theorem byteOf_eq
    {d : Device}
    {base addr : Nat}
    {r : LiveRegion}
    {b : Backing}
    (hFound : d.region? base = some r)
    (hFile : d.files.get? r.file = some b)
    (hLow : base ≤ addr)
    (hHigh : addr < base + r.size) :
    d.byteOf base addr =
      some (b.byte (r.offset + (addr - base))) := by
  unfold byteOf
  simp only [hFound, hFile, if_pos (And.intro hLow hHigh),
    Option.map_some]

/- A region has no bytes at addresses outside of it. -/
theorem byteOf_outside
    {d : Device}
    {base addr : Nat}
    {r : LiveRegion}
    (hFound : d.region? base = some r)
    (hOutside : ¬ (base ≤ addr ∧ addr < base + r.size)) :
    d.byteOf base addr = none := by
  unfold byteOf
  simp only [hFound, if_neg hOutside]

/- Only places of regions and files decide about bytes. -/
theorem byteOf_congr
    {d d' : Device}
    {base : Nat}
    (hRegion :
      (d'.region? base).map LiveRegion.place =
        (d.region? base).map LiveRegion.place)
    (hFiles : d'.files = d.files)
    (addr : Nat) :
    d'.byteOf base addr = d.byteOf base addr := by
  unfold byteOf
  rw [hFiles]
  cases hNew : d'.region? base with
  | none =>
      cases hOld : d.region? base with
      | none => rfl
      | some r => simp [hNew, hOld] at hRegion
  | some r' =>
      cases hOld : d.region? base with
      | none => simp [hNew, hOld] at hRegion
      | some r =>
          simp only [hNew, hOld, Option.map_some,
            Option.some.injEq, LiveRegion.place,
            Prod.mk.injEq] at hRegion
          simp only [hRegion]

/- A mapping of a region reads the region's bytes. -/
theorem read_eq
    {d : Device}
    (hFiled : d.Filed)
    {base : Nat}
    {r : LiveRegion}
    (hFound : d.region? base = some r)
    {mapping : Mapping}
    (hFile : mapping.file = r.file)
    (hBase : mapping.base = r.offset)
    {start count : Nat}
    (hFits : start + count ≤ r.size)
    {i : Nat}
    (hIndex : i < count) :
    (d.read mapping start count)[i]? =
      d.byteOf base (base + start + i) := by
  rcases hFiled.stored _ (mem_of_region? hFound) with
    ⟨b, hStored⟩
  have hPosition :
      base + start + i - base = start + i := by
    omega
  rw [byteOf_eq hFound hStored (by omega) (by omega),
    hPosition]
  unfold Device.read
  simp only [hFile, hStored, Backing.read, hBase,
    List.getElem?_map, List.getElem?_range' hIndex,
    Option.map_some, Nat.one_mul, Nat.add_assoc]

theorem length_read
    (d : Device)
    (mapping : Mapping)
    (start count : Nat) :
    (d.read mapping start count).length = count := by
  unfold Device.read
  cases d.files.get? mapping.file with
  | none => exact List.length_replicate
  | some b => exact b.length_read _ _

theorem regions_write
    (d : Device)
    (mapping : Mapping)
    (start : Nat)
    (bytes : Bytes) :
    (d.write mapping start bytes).regions = d.regions := by
  unfold Device.write
  cases d.files.get? mapping.file <;> rfl

@[simp]
theorem region?_write
    (d : Device)
    (mapping : Mapping)
    (start : Nat)
    (bytes : Bytes)
    (addr : Nat) :
    (d.write mapping start bytes).region? addr =
      d.region? addr := by
  rw [region?, regions_write, region?]

/- A mapping writes to its file. -/
theorem files_write
    {d : Device}
    {mapping : Mapping}
    {b : Backing}
    (hStored : d.files.get? mapping.file = some b)
    (start : Nat)
    (bytes : Bytes)
    (file : Nat) :
    (d.write mapping start bytes).files.get? file =
      if file = mapping.file then
        some (b.write (mapping.base + start) bytes)
      else
        d.files.get? file := by
  unfold Device.write
  simp only [hStored]
  by_cases hSame : file = mapping.file
  · rw [if_pos hSame, hSame]
    exact Table.get?_set_self hStored _
  · rw [if_neg hSame]
    exact Table.get?_set_other hSame _ _

/- A mapping of a region leaves all other regions alone. -/
theorem byteOf_write_other
    {d : Device}
    (hLaid : d.Laid)
    {target : Nat}
    {r : LiveRegion}
    (hFound : d.region? target = some r)
    {mapping : Mapping}
    (hFile : mapping.file = r.file)
    (hBase : mapping.base = r.offset)
    {start : Nat}
    {bytes : Bytes}
    (hFits : start + bytes.length ≤ r.size)
    {base : Nat}
    (hOther : base ≠ target)
    (addr : Nat) :
    (d.write mapping start bytes).byteOf base addr =
      d.byteOf base addr := by
  rcases hLaid.filed.placed with ⟨origin, hPlaced⟩
  rcases hLaid.filed.stored _ (mem_of_region? hFound) with
    ⟨b, hStored⟩
  have hFiles :=
    files_write (hFile ▸ hStored) start bytes
  have hTarget := hPlaced _ (mem_of_region? hFound)
  cases hRegion : d.region? base with
  | none =>
      unfold byteOf
      rw [region?_write, hRegion]
  | some s =>
      by_cases hInside : base ≤ addr ∧ addr < base + s.size
      · rcases hLaid.filed.stored _ (mem_of_region? hRegion)
          with ⟨old, hOld⟩
        rw [byteOf_eq hRegion hOld hInside.1 hInside.2]
        have hFile' := hFiles s.file
        by_cases hSame : s.file = mapping.file
        · have hOrigin := hPlaced _ (mem_of_region? hRegion)
          have hApart :=
            hLaid.apart base target s r hRegion hFound hOther
          rw [hSame, hFile] at hOrigin hOld
          cases hOld.symm.trans hStored
          rw [if_pos hSame] at hFile'
          rw [byteOf_eq (by rw [region?_write, hRegion]) hFile'
            hInside.1 hInside.2, b.byte_write_outside]
          simp only [Apart] at hApart hOrigin hTarget
          omega
        · rw [if_neg hSame] at hFile'
          exact
            byteOf_eq (by rw [region?_write, hRegion])
              (hFile'.trans hOld) hInside.1 hInside.2
      · rw [byteOf_outside hRegion hInside]
        exact
          byteOf_outside (by rw [region?_write, hRegion])
            hInside

/-
  A mapping of a region writes the region's bytes, and no
  others.
-/
theorem byteOf_write
    {d : Device}
    (hLaid : d.Laid)
    {target : Nat}
    {r : LiveRegion}
    (hFound : d.region? target = some r)
    {mapping : Mapping}
    (hFile : mapping.file = r.file)
    (hBase : mapping.base = r.offset)
    {start : Nat}
    {bytes : Bytes}
    (hFits : start + bytes.length ≤ r.size)
    (base addr : Nat) :
    (d.write mapping start bytes).byteOf base addr =
      if base = target ∧ target + start ≤ addr ∧
          addr < target + start + bytes.length then
        bytes[addr - (target + start)]?
      else
        d.byteOf base addr := by
  rcases hLaid.filed.stored _ (mem_of_region? hFound) with
    ⟨b, hStored⟩
  by_cases hSame : base = target
  · subst hSame
    have hFound' :
        (d.write mapping start bytes).region? base =
          some r := by
      rw [region?_write, hFound]
    have hFile' :
        (d.write mapping start bytes).files.get? r.file =
          some (b.write (r.offset + start) bytes) := by
      rw [files_write (hFile ▸ hStored), hFile, hBase,
        if_pos rfl]
    by_cases hInside : base ≤ addr ∧ addr < base + r.size
    · rw [byteOf_eq hFound' hFile' hInside.1 hInside.2]
      by_cases hHit :
          base + start ≤ addr ∧
            addr < base + start + bytes.length
      · have hPosition :
            r.offset + (addr - base) =
              r.offset + start + (addr - (base + start)) := by
          omega
        rw [if_pos ⟨rfl, hHit⟩, hPosition]
        exact b.byte_write_inside _ (by omega)
      · rw [if_neg (fun h => hHit h.2),
          byteOf_eq hFound hStored hInside.1 hInside.2,
          b.byte_write_outside (by omega)]
    · rw [byteOf_outside hFound' hInside,
        byteOf_outside hFound hInside, if_neg]
      omega
  · rw [if_neg (fun h => hSame h.1)]
    exact
      byteOf_write_other hLaid hFound hFile hBase hFits hSame
        addr

end Device

end Offload
