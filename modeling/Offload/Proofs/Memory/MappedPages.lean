import Offload.Proofs.Memory.FlatMemory

/-
  The pages that mappings cover.

  Files and mappings consist of whole pages, and regions lie
  back to back in the file of their allocation, wherever
  pages begin. A mapping starts at the page of a region's
  first byte and ends with the page of its last one. It thus
  has all bytes of the region and none beyond the end of the
  file.

  Key definitions include:
    * `Mapping.Covers`
    * `Device.MapsInto`

  Main results:
    * `Device.Stored.act`
    * `Device.covers_of_has`
    * `Device.maps_inside_file`
-/

namespace Offload

/- Writing makes a file neither longer nor shorter. -/
theorem Backing.length_write
    (b : Backing)
    (start : Nat)
    (bytes : Bytes) :
    (b.write start bytes).length = b.length := by
  unfold write
  split <;> rfl

------------------------------------------------------------
-- Coverage
------------------------------------------------------------

/-
  A mapping of a site in a file of some length: it starts at
  a page boundary that is not behind the site's first byte,
  which is at the mapping's offset, it has all bytes of the
  site and at least one, and it ends within the file.
-/
structure Mapping.Covers
    (m : Mapping)
    (page : PageSize)
    (site : Site)
    (length : Nat) : Prop where
  file : m.file = site.file
  aligned : page.bytes ∣ m.start
  before : m.start ≤ site.offset
  base : m.start + m.offset = site.offset
  enough : m.offset + site.size ≤ m.length
  within : m.offset < m.length
  inFile : m.start + m.length ≤ length

/-
  The site of the region with an index among those of one
  allocation: it lies behind the regions before it.
-/
def Site.inRun
    (file : Nat)
    (sizes : List Nat)
    (i : Nat)
    (region : Region) : Site :=
  ⟨region.addr, file, (sizes.take i).sum, region.size⟩

namespace Device

/-
  A region can be mapped to a site in a file of some length,
  and reads and writes through the mapping are reads and
  writes of the site's bytes in the file.
-/
def MapsInto
    (d : Device)
    (region : Region)
    (site : Site)
    (length : Nat) : Prop :=
  ∃ b m d',
    d.files.get? site.file = some b ∧
    b.length = length ∧
    d.map region = .ok (m, d') ∧
    m.Covers d.page site length ∧
    (∀ start count,
      start + count ≤ site.size →
        d'.read m start count =
          (List.range' (site.offset + start) count).map
            b.byte) ∧
    ∀ start bytes,
      start + bytes.length ≤ site.size →
        (d'.write m start bytes).files.get? site.file =
          some (b.write (site.offset + start) bytes)

------------------------------------------------------------
-- Pages
------------------------------------------------------------

/-
  The pages from that of one byte on, as many as it takes to
  get behind the last one, end where the file's pages would.
-/
theorem start_add_up
    (page : PageSize)
    (offset size : Nat) :
    (offset - offset % page.bytes) +
        page.up (offset % page.bytes + size) =
      page.up (offset + size) := by
  have hPages := Nat.div_add_mod offset page.bytes
  have hStart :
      offset - offset % page.bytes =
        page.bytes * (offset / page.bytes) := by
    omega
  have hEnd :
      offset + size + (page.bytes - 1) =
        offset % page.bytes + size + (page.bytes - 1) +
          page.bytes * (offset / page.bytes) := by
    omega
  rw [hStart]
  unfold PageSize.up Word.alignUp
  rw [hEnd, Nat.add_mul_div_left _ _ page.pos, Nat.add_mul,
    Nat.mul_comm page.bytes, Nat.add_comm]

------------------------------------------------------------
-- Sites in Runs
------------------------------------------------------------

/- A carved region follows those that were carved before it. -/
theorem getElem?_carve
    (start : Nat)
    (target : MemoryTarget)
    (cache : CachePolicy)
    (sizes : List Nat)
    (offset i : Nat) :
    (carve start target cache sizes offset)[i]? =
      sizes[i]?.map fun size =>
        (offset + (sizes.take i).sum,
          ⟨start + (offset + (sizes.take i).sum), size,
            target, cache⟩) := by
  induction sizes generalizing offset i with
  | nil => simp [carve]
  | cons size rest ih =>
      cases i with
      | zero => simp [carve]
      | succ i =>
          simp [carve, ih, Nat.add_assoc]

/- A size and those before it are no more than all sizes. -/
theorem sum_take_add_le
    {sizes : List Nat}
    {i size : Nat}
    (hSize : sizes[i]? = some size) :
    (sizes.take i).sum + size ≤ sizes.sum := by
  rcases List.getElem?_eq_some_iff.mp hSize with
    ⟨hIndex, hEq⟩
  have hAll := List.sum_take_add_sum_drop sizes i
  rw [List.drop_eq_getElem_cons hIndex, List.sum_cons, hEq]
    at hAll
  omega

section Runs

variable {d d' : Device}
variable {target : MemoryTarget}
variable {cache : CachePolicy}
variable {sizes : List Nat}
variable {answer : List Region}

/- The regions that an allocation answers, one by one. -/
theorem getElem?_answer
    (hOk : d.allocate target cache sizes = .ok (answer, d'))
    (i : Nat) :
    answer[i]? =
      sizes[i]?.map fun size =>
        ⟨d.page.up (d.windows target).next +
            (sizes.take i).sum,
          size, target, cache⟩ := by
  rw [(allocate_answer hOk).1, List.getElem?_map, carvedBy,
    getElem?_carve, Option.map_map]
  simp [Function.comp_def]

/- The site of a region that an allocation answers. -/
theorem mem_sitesBy_of_getElem?
    (hOk : d.allocate target cache sizes = .ok (answer, d'))
    {i : Nat}
    {region : Region}
    (hRegion : answer[i]? = some region) :
    Site.inRun d.files.next sizes i region ∈
      d.sitesBy target cache sizes := by
  rw [getElem?_answer hOk] at hRegion
  rcases Option.map_eq_some_iff.mp hRegion with
    ⟨size, hSize, rfl⟩
  have hCarved :=
    getElem?_carve (d.page.up (d.windows target).next) target
      cache sizes 0 i
  rw [hSize, Option.map_some] at hCarved
  apply List.mem_map.mpr
  refine ⟨_, List.mem_of_getElem? hCarved, ?_⟩
  simp [Site.of, Site.inRun, liveOf]

end Runs

------------------------------------------------------------
-- Files
------------------------------------------------------------

/- A file of some length under a number. -/
def Stored
    (d : Device)
    (file length : Nat) : Prop :=
  d.files.Keyed ∧
    ∃ b, d.files.get? file = some b ∧ b.length = length

theorem Stored.of_files
    {d d' : Device}
    {file length : Nat}
    (h : d.Stored file length)
    (hFiles : d'.files = d.files) : d'.Stored file length := by
  unfold Stored
  rw [hFiles]
  exact h

/- An allocation stores a file of whole pages. -/
theorem stored_of_allocate
    {d d' : Device}
    {target : MemoryTarget}
    {cache : CachePolicy}
    {sizes : List Nat}
    {answer : List Region}
    (hKeyed : d.files.Keyed)
    (hOk :
      d.allocate target cache sizes = .ok (answer, d')) :
    d'.Stored d.files.next (d.page.up sizes.sum) := by
  unfold Stored
  rw [(allocate_files hOk).1]
  exact
    ⟨hKeyed.insert _, _, Table.get?_insert_self _ _, rfl⟩

/- No act makes a file longer or shorter. -/
theorem Stored.act
    {file length : Nat}
    (d : Device)
    (a : Act)
    (h : d.Stored file length) :
    (act a d).Stored file length := by
  rcases h with ⟨hKeyed, b, hFile, hLength⟩
  have hSame :
      ∀ d' : Device, d'.files = d.files →
        d'.Stored file length := by
    intro d' hFiles
    exact Stored.of_files ⟨hKeyed, b, hFile, hLength⟩ hFiles
  cases a with
  | call c =>
      rcases step_cases c d with
        hStep | ⟨target, cache, sizes, answer, hOk⟩ |
          ⟨addr, old, new, hUpdated⟩
      · exact hSame _ (congrArg Device.files hStep)
      · have hOld : file ≠ d.files.next :=
          Nat.ne_of_lt (hKeyed.lt_next hFile)
        rw [Device.act, Stored, (allocate_files hOk).1,
          Table.get?_insert_other hOld]
        exact ⟨hKeyed.insert _, b, hFile, hLength⟩
      · exact hSame _ hUpdated.files
  | map region =>
      apply hSame
      simp only [Device.act, Device.map]
      cases d.region? region.addr <;> rfl
  | unmap => exact hSame _ rfl
  | invalidate => exact hSame _ rfl
  | flush => exact hSame _ rfl
  | write mapping start bytes =>
      cases hStored : d.files.get? mapping.file with
      | none =>
          apply hSame
          simp only [Device.act, Device.write, hStored]
      | some old =>
          have hWrite := files_write hStored start bytes file
          refine ⟨?_, ?_⟩
          · simp only [Device.act, Device.write, hStored]
            exact hKeyed.set _ _
          · rw [Device.act, hWrite]
            split
            · rename_i hHere
              rw [hHere, hStored] at hFile
              cases hFile
              refine ⟨_, rfl, ?_⟩
              rw [Backing.length_write, hLength]
            · exact ⟨b, hFile, hLength⟩

------------------------------------------------------------
-- Mappings
------------------------------------------------------------

section Mappings

variable {d : Device}
variable {site : Site}
variable {length : Nat}

/- A region in the table is mapped with all of its pages. -/
theorem covers_of_has
    {region : Region}
    (hHas : d.Has site)
    (hAddr : region.addr = site.addr)
    (hSize : region.size = site.size)
    (hSome : 0 < site.size)
    (hEnd :
      d.page.up (site.offset + site.size) ≤ length) :
    ∃ m d',
      d.map region = .ok (m, d') ∧
        m.Covers d.page site length ∧ d'.files = d.files := by
  rcases hHas.entry with ⟨r, hFound, hSite⟩
  have hFile : r.file = site.file :=
    congrArg Site.file hSite
  have hOffset : r.offset = site.offset :=
    congrArg Site.offset hSite
  have hMod := Nat.mod_le site.offset d.page.bytes
  have hUp :=
d.page.le_up (site.offset % d.page.bytes + site.size)
  have hPages :=
    start_add_up d.page site.offset site.size
  unfold map
  rw [hAddr, hFound, hSize]
  simp only [hFile, hOffset]
  refine ⟨_, _, rfl, ?_, rfl⟩
  constructor
  · rfl
  · exact Nat.dvd_sub_mod site.offset
  · exact Nat.sub_le _ _
  · exact Nat.sub_add_cancel hMod
  · exact hUp
  · exact
      Nat.lt_of_lt_of_le (Nat.lt_add_of_pos_right hSome) hUp
  · exact Nat.le_trans (Nat.le_of_eq hPages) hEnd

/- A covering mapping reads the site's bytes in its file. -/
theorem read_of_covers
    {page : PageSize}
    {m : Mapping}
    (hCovers : m.Covers page site length)
    {b : Backing}
    (hFile : d.files.get? site.file = some b)
    (start count : Nat) :
    d.read m start count =
      (List.range' (site.offset + start) count).map
        b.byte := by
  unfold Device.read
  rw [hCovers.file, hFile, Mapping.base, hCovers.base]
  rfl

/- A covering mapping writes the site's bytes in its file. -/
theorem write_of_covers
    {page : PageSize}
    {m : Mapping}
    (hCovers : m.Covers page site length)
    {b : Backing}
    (hFile : d.files.get? site.file = some b)
    (start : Nat)
    (bytes : Bytes) :
    (d.write m start bytes).files.get? site.file =
      some (b.write (site.offset + start) bytes) := by
  rw [files_write (hCovers.file ▸ hFile), hCovers.file,
    if_pos rfl, Mapping.base, hCovers.base]

/- A region in the table is mapped into its file. -/
theorem Stored.mapsInto
    {region : Region}
    (hStored : d.Stored site.file length)
    (hHas : d.Has site)
    (hAddr : region.addr = site.addr)
    (hSize : region.size = site.size)
    (hSome : 0 < site.size)
    (hEnd :
      d.page.up (site.offset + site.size) ≤ length) :
    d.MapsInto region site length := by
  rcases hStored with ⟨_, b, hFile, hLength⟩
  rcases covers_of_has hHas hAddr hSize hSome hEnd with
    ⟨m, d', hMap, hCovers, hFiles⟩
  rw [← hFiles] at hFile
  refine
    ⟨b, m, d', hFiles ▸ hFile, hLength, hMap, hCovers,
      fun start count _ => ?_, fun start bytes _ => ?_⟩
  · exact read_of_covers hCovers hFile start count
  · exact write_of_covers hCovers hFile start bytes

end Mappings

/-
  The regions of an allocation have the sizes asked for, and
  each is entered with the bytes behind those of the regions
  before it. As long as it is in the table it can be mapped:
  the mapping starts at a page boundary, has all bytes of the
  region, ends within the file, whose length is a word, and
  reads and writes the region's own bytes there.
-/
theorem maps_inside_file
    {d d' e : Device}
    {target : MemoryTarget}
    {cache : CachePolicy}
    {sizes : List Nat}
    {answer : List Region}
    (hArises : d.Arises)
    (hOk : d.allocate target cache sizes = .ok (answer, d'))
    (hLater : Run.Reaches act d' e) :
    answer.map Region.size = sizes ∧
    d.page.up sizes.sum < Word.limit ∧
    ∀ i region,
      answer[i]? = some region →
        d'.Has (Site.inRun d.files.next sizes i region) ∧
          (e.Has (Site.inRun d.files.next sizes i region) →
            e.MapsInto region
              (Site.inRun d.files.next sizes i region)
              (d.page.up sizes.sum)) := by
  rcases allocate_eq_ok_iff.mp hOk with ⟨hAdmits, _, hGrown⟩
  have hStored :
      e.Stored d.files.next (d.page.up sizes.sum) :=
    hLater.keep Stored.act
      (stored_of_allocate hArises.filed.keyed hOk)
  have hPage : e.page = d.page := by
    apply hLater.keep (P := fun t => t.page = d.page)
    · exact fun t a hSame => (page_act a t).trans hSame
    · rw [hGrown]
      rfl
  refine ⟨?_, ?_, fun i region hRegion => ?_⟩
  · rw [(allocate_answer hOk).1, List.map_map]
    exact sizes_carve _ _ _ _ _
  · have hLimits : Backing.limit < Word.limit := by decide
    exact Nat.lt_trans hAdmits.filed hLimits
  · have hSize : sizes[i]? = some region.size := by
      rw [getElem?_answer hOk] at hRegion
      rcases Option.map_eq_some_iff.mp hRegion with
        ⟨size, hSize, rfl⟩
      exact hSize
    have hSome : region.size ≠ 0 := by
      intro hZero
      have hMem := List.mem_of_getElem? hSize
      exact hAdmits.sized (hZero ▸ hMem)
    refine
      ⟨has_of_mem_sitesBy hOk
          (mem_sitesBy_of_getElem? hOk hRegion),
        fun hHas => ?_⟩
    exact
      hStored.mapsInto hHas rfl rfl
        (Nat.pos_of_ne_zero hSome)
        (hPage ▸ d.page.up_mono (sum_take_add_le hSize))

/-
  Three regions that share pages. The second one is freed
  while somebody else is attached to it, and can still be
  mapped: its mapping starts with the page of the first one
  and ends with that of the third.
-/
theorem shared_pages_mapped :
    let d := fresh .usual defaultCapacity
    let c := Call.allocate .generic .uncached [100, 5000, 4096]
    let region : Region :=
      ⟨windowBase + 100, 5000, .generic, .uncached⟩
    let e :=
      Run.after act
        [.call (.attach region.addr), .call (.free region)]
        (step c d)
    d.allocate .generic .uncached [100, 5000, 4096] =
        .ok (d.answered c, step c d) ∧
      (d.answered c)[1]? = some region ∧
        e.Has ⟨region.addr, 0, 100, 5000⟩ ∧
          e.MapsInto region ⟨region.addr, 0, 100, 5000⟩
            12288 := by
  intro d c region e
  have hOk :
      d.allocate .generic .uncached [100, 5000, 4096] =
        .ok (d.answered c, step c d) :=
    allocate_of_isOk (by decide +kernel)
  have hRegion : (d.answered c)[1]? = some region := by
    decide +kernel
  have hHas : e.Has ⟨region.addr, 0, 100, 5000⟩ := by
    decide +kernel
  have hAll :=
    maps_inside_file ⟨.usual, defaultCapacity, .refl _⟩ hOk
      (e := e) ⟨_, rfl⟩
  exact
    ⟨hOk, hRegion, hHas, (hAll.2.2 1 region hRegion).2 hHas⟩

end Device

end Offload
