import Mathlib.Algebra.GroupWithZero.Nat
import Mathlib.Data.List.Basic
import Offload.Memory.Device
import Offload.Proofs.Table

/-
  Calls on a device and its table of regions.

  An allocation carves regions behind the cursor of a window
  and enters them into the table; every other call changes
  one entry or takes it out. Nothing else is ever done to
  the table or to a cursor.

  Key definitions include:
    * `Device.Call`
    * `Device.perform`
    * `Device.step`
    * `Device.Act`
    * `Device.act`
    * `Device.Admits`
    * `Device.grown`
    * `Device.Updated`
    * `Device.answered`

  Main results:
    * `Device.mem_enter`
    * `Device.allocate_eq_ok_iff`
    * `Device.step_answered`
    * `Device.step_cases`
-/

namespace Offload

/- A sum that fits in a word is the sum of the list. -/
theorem Word.eq_sum_of_sum?
    {ns : List Nat}
    {total : Nat}
    (h : sum? ns = some total) : total = ns.sum := by
  simp only [sum?, check, Option.ite_none_right_eq_some,
    Option.some.injEq] at h
  exact h.2.symm

namespace PageSize

theorem dvd_up
    (p : PageSize)
    (n : Nat) : p.bytes ∣ p.up n :=
  Nat.dvd_mul_left _ _

theorem le_up
    (p : PageSize)
    (n : Nat) : n ≤ p.up n := by
  have hPos := p.pos
  have hDiv := Nat.div_add_mod (n + (p.bytes - 1)) p.bytes
  have hMod := Nat.mod_lt (n + (p.bytes - 1)) hPos
  rw [Nat.mul_comm] at hDiv
  unfold up Word.alignUp
  omega

/- Less than a page is added. -/
theorem up_lt_add
    (p : PageSize)
    (n : Nat) : p.up n < n + p.bytes := by
  have hPos := p.pos
  have hDiv := Nat.div_mul_le_self (n + (p.bytes - 1)) p.bytes
  unfold up Word.alignUp
  omega

theorem up_mono
    (p : PageSize)
    {n m : Nat}
    (h : n ≤ m) : p.up n ≤ p.up m :=
  Nat.mul_le_mul_right _
    (Nat.div_le_div_right (Nat.add_le_add_right h _))

end PageSize

------------------------------------------------------------
-- Bytes of Regions
------------------------------------------------------------

/- The bytes that regions have on a target. -/
def Region.bytesOn
    (t : MemoryTarget)
    (rs : List Region) : Nat :=
  ((rs.filter fun r => r.target = t).map Region.size).sum

namespace Region

theorem bytesOn_append
    (t : MemoryTarget)
    (rs rs' : List Region) :
    bytesOn t (rs ++ rs') = bytesOn t rs + bytesOn t rs' := by
  simp [bytesOn]

theorem bytesOn_cons
    (t : MemoryTarget)
    (r : Region)
    (rs : List Region) :
    bytesOn t (r :: rs) =
      (if t = r.target then r.size else 0) +
        bytesOn t rs := by
  unfold bytesOn
  by_cases hTarget : r.target = t
  · simp [hTarget]
  · simp [hTarget, Ne.symm hTarget]

theorem bytesOn_perm
    {rs rs' : List Region}
    (h : rs.Perm rs')
    (t : MemoryTarget) : bytesOn t rs = bytesOn t rs' :=
  ((h.filter _).map _).sum_nat

end Region

namespace Device

------------------------------------------------------------
-- Calls
------------------------------------------------------------

/- The calls that change which regions there are. -/
inductive Call where
  | allocate
      (target : MemoryTarget)
      (cache : CachePolicy)
      (sizes : List Nat)
  | attach (addr : Nat)
  | free (region : Region)
  | detach (region : Region)

/- The device that a call leads to, unless it is refused. -/
def perform
    (d : Device) : Call → Except Error Device
  | .allocate target cache sizes =>
    (d.allocate target cache sizes).map Prod.snd
  | .attach addr => (d.attach addr).map Prod.snd
  | .free region => (d.free region).map Prod.snd
  | .detach region => (d.detach region).map Prod.snd

/- The device after a call. A refused call changes nothing. -/
def step
    (c : Call)
    (d : Device) : Device :=
  match d.perform c with
  | .ok d' => d'
  | .error _ => d

/- All that is done to a device. -/
inductive Act where
  | call (c : Call)
  | map (region : Region)
  | unmap
  | invalidate
  | flush
  | write
      (mapping : Mapping)
      (start : Nat)
      (bytes : Bytes)

/- The device after an act. A refused act changes nothing. -/
def act : Act → Device → Device
  | .call c, d => step c d
  | .map region, d =>
    match d.map region with
    | .ok (_, d') => d'
    | .error _ => d
  | .unmap, d => d.unmap
  | .invalidate, d => d.invalidate
  | .flush, d => d.flush
  | .write mapping start bytes, d =>
    d.write mapping start bytes

------------------------------------------------------------
-- The Table
------------------------------------------------------------

theorem mem_put
    {addr : Nat}
    {r : LiveRegion}
    {rs : List (Nat × LiveRegion)}
    {e : Nat × LiveRegion} :
    e ∈ put addr r rs ↔
      e = (addr, r) ∨ e ∈ rs ∧ e.1 ≠ addr := by
  simp [put, without, List.mem_filter]

/- What the table answers for an address is an entry of it. -/
theorem mem_of_region?
    {d : Device}
    {addr : Nat}
    {r : LiveRegion}
    (h : d.region? addr = some r) :
    (addr, r) ∈ d.regions := by
  rcases List.lookup_eq_some_iff.mp h with
    ⟨before, behind, hTable, _⟩
  rw [hTable]
  simp

theorem lookup_without
    (addr a : Nat)
    (rs : List (Nat × LiveRegion)) :
    (without addr rs).lookup a =
      if a = addr then none else rs.lookup a :=
  Table.lookup_filter_ne a addr rs

theorem lookup_put
    (addr a : Nat)
    (r : LiveRegion)
    (rs : List (Nat × LiveRegion)) :
    (put addr r rs).lookup a =
      if a = addr then some r else rs.lookup a := by
  by_cases hAddr : a = addr
  · rw [if_pos hAddr, put, List.lookup_cons, hAddr]
    simp
  · have hOther : (a == addr) = false := by simpa using hAddr
    rw [if_neg hAddr, put, List.lookup_cons, hOther]
    simp only [lookup_without, if_neg hAddr]

------------------------------------------------------------
-- Carving
------------------------------------------------------------

/- Carved regions lie between the start and the end. -/
theorem mem_carve
    {start : Nat}
    {target : MemoryTarget}
    {cache : CachePolicy}
    {sizes : List Nat}
    {offset : Nat}
    {c : Nat × Region}
    (hMem : c ∈ carve start target cache sizes offset) :
    start + offset ≤ c.2.addr ∧
      c.2.addr + c.2.size ≤ start + offset + sizes.sum ∧
      c.2.target = target ∧ c.2.size ∈ sizes := by
  induction sizes generalizing offset with
  | nil => cases hMem
  | cons size rest ih =>
      rcases List.mem_cons.mp hMem with rfl | hRest
      · simp
      · have hLater := ih hRest
        simp only [List.sum_cons, List.mem_cons]
        refine ⟨by omega, by omega, hLater.2.2.1, ?_⟩
        exact Or.inr hLater.2.2.2

/- Carved regions follow each other. -/
theorem pairwise_carve
    (start : Nat)
    (target : MemoryTarget)
    (cache : CachePolicy)
    (sizes : List Nat)
    (offset : Nat) :
    (carve start target cache sizes offset).Pairwise
      fun a b => a.2.addr + a.2.size ≤ b.2.addr := by
  induction sizes generalizing offset with
  | nil => exact List.Pairwise.nil
  | cons size rest ih =>
      apply List.Pairwise.cons
      · intro c hMem
        have hLater := (mem_carve hMem).1
        simpa [Nat.add_assoc] using hLater
      · exact ih (offset + size)

/- The last carved region ends where the sizes end. -/
theorem carve_concat
    (start : Nat)
    (target : MemoryTarget)
    (cache : CachePolicy)
    (sizes : List Nat)
    (size offset : Nat) :
    carve start target cache (sizes ++ [size]) offset =
      carve start target cache sizes offset ++
        [(offset + sizes.sum,
          ⟨start + (offset + sizes.sum), size, target,
            cache⟩)] := by
  induction sizes generalizing offset with
  | nil => rfl
  | cons first rest ih =>
      simp [carve, ih, Nat.add_assoc]

------------------------------------------------------------
-- Entering
------------------------------------------------------------

/- The entry of the table for a carved region. -/
def entryOf
    (file : Nat)
    (c : Nat × Region) : Nat × LiveRegion :=
  (c.2.addr, liveOf file c)

theorem enter_append
    (file : Nat)
    (rs : List (Nat × LiveRegion))
    (cs ds : List (Nat × Region)) :
    enter file rs (cs ++ ds) =
      enter file (enter file rs cs) ds := by
  induction cs generalizing rs with
  | nil => rfl
  | cons c rest ih =>
      exact ih (put c.2.addr (liveOf file c) rs)

theorem mem_enter
    {file : Nat}
    {rs : List (Nat × LiveRegion)}
    {cs : List (Nat × Region)}
    {e : Nat × LiveRegion}
    (hMem : e ∈ enter file rs cs) :
    e ∈ rs ∨ ∃ c ∈ cs, e = entryOf file c := by
  induction cs generalizing rs with
  | nil => exact Or.inl hMem
  | cons c rest ih =>
      rcases ih hMem with hTable | ⟨d, hRest, hEq⟩
      · rcases mem_put.mp hTable with hNew | hOld
        · exact Or.inr ⟨c, List.mem_cons_self, hNew⟩
        · exact Or.inl hOld.1
      · exact Or.inr ⟨d, List.mem_cons_of_mem _ hRest, hEq⟩

/- Entries at other addresses stay in the table. -/
theorem mem_enter_of_mem
    {file : Nat}
    {rs : List (Nat × LiveRegion)}
    {cs : List (Nat × Region)}
    {e : Nat × LiveRegion}
    (hMem : e ∈ rs)
    (hAddr : ∀ c ∈ cs, e.1 ≠ c.2.addr) :
    e ∈ enter file rs cs := by
  induction cs generalizing rs with
  | nil => exact hMem
  | cons c rest ih =>
      apply ih
      · exact mem_put.mpr
          (Or.inr ⟨hMem, hAddr c List.mem_cons_self⟩)
      · intro d hRest
        exact hAddr d (List.mem_cons_of_mem _ hRest)

theorem lookup_enter_other
    {file : Nat}
    {rs : List (Nat × LiveRegion)}
    {cs : List (Nat × Region)}
    {addr : Nat}
    (hAddr : ∀ c ∈ cs, addr ≠ c.2.addr) :
    (enter file rs cs).lookup addr = rs.lookup addr := by
  induction cs generalizing rs with
  | nil => rfl
  | cons c rest ih =>
      have hFirst := hAddr c List.mem_cons_self
      have hRest :
          ∀ d ∈ rest, addr ≠ d.2.addr :=
        fun d hMem => hAddr d (List.mem_cons_of_mem _ hMem)
      simp only [enter, ih hRest, lookup_put, if_neg hFirst]

/- What is entered at addresses of its own is found there. -/
theorem lookup_enter_of_mem
    {file : Nat}
    {rs : List (Nat × LiveRegion)}
    {cs : List (Nat × Region)}
    (hDistinct :
      cs.Pairwise fun a b => a.2.addr ≠ b.2.addr)
    {c : Nat × Region}
    (hMem : c ∈ cs) :
    (enter file rs cs).lookup c.2.addr =
      some (liveOf file c) := by
  induction cs generalizing rs with
  | nil => cases hMem
  | cons d rest ih =>
      have hOrder := List.pairwise_cons.mp hDistinct
      rcases List.mem_cons.mp hMem with rfl | hRest
      · rw [enter, lookup_enter_other hOrder.1, lookup_put,
          if_pos rfl]
      · exact ih hOrder.2 hRest

/- Carved regions have the sizes asked for. -/
theorem sizes_carve
    (start : Nat)
    (target : MemoryTarget)
    (cache : CachePolicy)
    (sizes : List Nat)
    (offset : Nat) :
    (carve start target cache sizes offset).map
        (fun c => c.2.size) = sizes := by
  induction sizes generalizing offset with
  | nil => rfl
  | cons size rest ih =>
      rw [carve, List.map_cons, ih]

/- Carved regions have all their bytes on one target. -/
theorem bytesOn_carve
    (start : Nat)
    (target : MemoryTarget)
    (cache : CachePolicy)
    (sizes : List Nat)
    (offset : Nat)
    (t : MemoryTarget) :
    Region.bytesOn t
        ((carve start target cache sizes offset).map
          Prod.snd) =
      if t = target then sizes.sum else 0 := by
  induction sizes generalizing offset with
  | nil => exact (ite_self 0).symm
  | cons size rest ih =>
      rw [carve, List.map_cons, Region.bytesOn_cons, ih,
        List.sum_cons]
      split <;> rfl

------------------------------------------------------------
-- What Calls Do
------------------------------------------------------------

/- The regions that an allocation enters. -/
def carvedBy
    (d : Device)
    (target : MemoryTarget)
    (cache : CachePolicy)
    (sizes : List Nat) : List (Nat × Region) :=
  carve (d.page.up (d.windows target).next) target cache
    sizes 0

/-
  What is allocated: some sizes, none of them zero, that the
  window has room for, that a file can have, and that have
  addresses from the cursor on.
-/
structure Admits
    (d : Device)
    (target : MemoryTarget)
    (sizes : List Nat) : Prop where
  inhabited : sizes ≠ []
  sized : 0 ∉ sizes
  word : d.used target + sizes.sum < Word.limit
  room :
    d.used target + sizes.sum ≤ (d.windows target).capacity
  filed : d.page.up sizes.sum < Backing.limit
  addressed :
    d.page.up (d.windows target).next + sizes.sum <
      Word.limit

/- The device once some sizes are allocated. -/
def grown
    (d : Device)
    (target : MemoryTarget)
    (cache : CachePolicy)
    (sizes : List Nat) : Device :=
  let w := d.windows target
  let file :=
    d.files.insert (Backing.zeros (d.page.up sizes.sum))
  let d' := d.setWindow target
    ⟨d.page.up w.next + sizes.sum, w.capacity,
      w.used + sizes.sum⟩
  { d' with
    regions :=
      enter file.1 d.regions (d.carvedBy target cache sizes)
    files := file.2
    counters :=
      { d.counters with
        allocs := d.counters.allocs + 1 } }

/- A file that is not too long has a length that is a word. -/
theorem place_eq_ok_iff
    {d : Device}
    {target : MemoryTarget}
    {total start : Nat} :
    d.place target total = .ok start ↔
      d.page.up total < Backing.limit ∧
        d.page.up (d.windows target).next + total <
          Word.limit ∧
        start = d.page.up (d.windows target).next := by
  have hLimits : Backing.limit < Word.limit := by decide
  unfold place
  by_cases hWord : Word.limit ≤ d.page.up total
  · simp only [if_pos hWord]
    exact ⟨nofun, fun h => by omega⟩
  by_cases hFile : Backing.limit ≤ d.page.up total
  · simp only [if_neg hWord, if_pos hFile]
    exact ⟨nofun, fun h => by omega⟩
  by_cases hEnd :
      Word.limit ≤ d.page.up (d.windows target).next + total
  · simp only [if_neg hWord, if_neg hFile, if_pos hEnd]
    exact ⟨nofun, fun h => by omega⟩
  · simp only [if_neg hWord, if_neg hFile, if_neg hEnd,
      Except.ok.injEq]
    exact
      ⟨fun h =>
        ⟨Nat.lt_of_not_le hFile, Nat.lt_of_not_le hEnd,
          h.symm⟩,
        fun h => h.2.2.symm⟩

/-
  All that an allocation does: there is one exactly for what
  is admitted, and it answers the regions that it enters.
-/
theorem allocate_eq_ok_iff
    {d d' : Device}
    {target : MemoryTarget}
    {cache : CachePolicy}
    {sizes : List Nat}
    {answer : List Region} :
    d.allocate target cache sizes = .ok (answer, d') ↔
      d.Admits target sizes ∧
        answer =
          (d.carvedBy target cache sizes).map Prod.snd ∧
        d' = d.grown target cache sizes := by
  constructor
  · intro h
    unfold allocate at h
    split at h
    · cases h
    rename_i hSizes
    rw [Bool.or_eq_true, not_or] at hSizes
    split at h
    · cases h
    rename_i total hSum
    cases Word.eq_sum_of_sum? hSum
    dsimp only at h
    split at h
    · rename_i hRoom
      split at h
      · cases h
      · rename_i start hPlace
        rcases place_eq_ok_iff.mp hPlace with
          ⟨hFile, hEnd, rfl⟩
        cases h
        refine
          ⟨⟨?_, ?_, hRoom.1, hRoom.2, hFile, hEnd⟩, rfl, rfl⟩
        · simpa using hSizes.1
        · simpa using hSizes.2
    · cases h
  · rintro ⟨h, rfl, rfl⟩
    have hSizes :
        ¬ (sizes.isEmpty || sizes.contains 0) = true := by
      simp [h.inhabited, h.sized]
    have hSum : Word.sum? sizes = some sizes.sum :=
      if_pos (Nat.lt_of_le_of_lt (Nat.le_add_left _ _) h.word)
    have hPlace :
        d.place target sizes.sum =
          .ok (d.page.up (d.windows target).next) :=
      place_eq_ok_iff.mpr ⟨h.filed, h.addressed, rfl⟩
    unfold allocate
    rw [if_neg hSizes, hSum]
    dsimp only
    rw [if_pos ⟨h.word, h.room⟩, hPlace]
    rfl

/- What is not admitted is refused. -/
theorem allocate_eq_error_iff
    {d : Device}
    {target : MemoryTarget}
    {cache : CachePolicy}
    {sizes : List Nat} :
    (∃ e, d.allocate target cache sizes = .error e) ↔
      ¬ d.Admits target sizes := by
  constructor
  · rintro ⟨e, hError⟩ hAdmits
    have hOk :=
      allocate_eq_ok_iff.mpr
        ⟨hAdmits, rfl, Eq.refl (d.grown target cache sizes)⟩
    rw [hError] at hOk
    cases hOk
  · intro hNot
    cases hCall : d.allocate target cache sizes with
    | error e => exact ⟨e, rfl⟩
    | ok answer =>
        exact absurd (allocate_eq_ok_iff.mp hCall).1 hNot

/- What an allocation does to the use of targets. -/
theorem used_grown
    (d : Device)
    (target : MemoryTarget)
    (cache : CachePolicy)
    (sizes : List Nat)
    (t : MemoryTarget) :
    (d.grown target cache sizes).used t =
      d.used t + if t = target then sizes.sum else 0 := by
  by_cases hEq : t = target
  · simp [grown, used, setWindow, hEq]
  · simp [grown, used, setWindow, hEq]

/- No window can hold more or less than before. -/
theorem capacity_grown
    (d : Device)
    (target : MemoryTarget)
    (cache : CachePolicy)
    (sizes : List Nat)
    (t : MemoryTarget) :
    ((d.grown target cache sizes).windows t).capacity =
      (d.windows t).capacity := by
  by_cases hEq : t = target
  · simp [grown, setWindow, hEq]
  · simp [grown, setWindow, hEq]

/- What an allocation does to cursors. -/
theorem next_grown
    (d : Device)
    (target : MemoryTarget)
    (cache : CachePolicy)
    (sizes : List Nat)
    (t : MemoryTarget) :
    ((d.grown target cache sizes).windows t).next =
      if t = target then
        d.page.up (d.windows target).next + sizes.sum
      else
        (d.windows t).next := by
  by_cases hEq : t = target
  · simp [grown, setWindow, hEq]
  · simp [grown, setWindow, hEq]

/- All that an allocation does to windows and regions. -/
theorem allocate_ok
    {d d' : Device}
    {target : MemoryTarget}
    {cache : CachePolicy}
    {sizes : List Nat}
    {answer : List Region}
    (h :
      d.allocate target cache sizes = .ok (answer, d')) :
    sizes ≠ [] ∧ 0 ∉ sizes ∧
      (∃ file,
        d'.regions =
          enter file d.regions
            (d.carvedBy target cache sizes)) ∧
      ∀ t,
        (d'.windows t).next =
          if t = target then
            d.page.up (d.windows target).next + sizes.sum
          else
            (d.windows t).next := by
  rcases allocate_eq_ok_iff.mp h with ⟨hAdmits, _, rfl⟩
  exact
    ⟨hAdmits.inhabited, hAdmits.sized, ⟨_, rfl⟩,
      d.next_grown target cache sizes⟩

/- What an allocation answers and counts. -/
theorem allocate_answer
    {d d' : Device}
    {target : MemoryTarget}
    {cache : CachePolicy}
    {sizes : List Nat}
    {answer : List Region}
    (h :
      d.allocate target cache sizes = .ok (answer, d')) :
    answer =
        (d.carvedBy target cache sizes).map Prod.snd ∧
      (∀ t,
        d'.used t =
          d.used t + if t = target then sizes.sum else 0) ∧
      d'.counters =
        { d.counters with
          allocs := d.counters.allocs + 1 } := by
  rcases allocate_eq_ok_iff.mp h with ⟨_, hAnswer, rfl⟩
  exact ⟨hAnswer, d.used_grown target cache sizes, rfl⟩

/-
  What calls other than allocations do: one entry changes or
  leaves the table. It keeps its address, size, target and
  place in a file. No cursor moves and no budget or file
  changes.
-/
structure Updated
    (d d' : Device)
    (addr : Nat)
    (old new : LiveRegion) : Prop where
  found : d.region? addr = some old
  size : new.size = old.size
  target : new.target = old.target
  file : new.file = old.file
  offset : new.offset = old.offset
  page : d'.page = d.page
  cursors : ∀ t, (d'.windows t).next = (d.windows t).next
  capacities :
    ∀ t, (d'.windows t).capacity = (d.windows t).capacity
  files : d'.files = d.files
  table :
    d'.regions = put addr new d.regions ∨
      d'.regions = without addr d.regions

/- No other entry comes into the table. -/
theorem Updated.mem_regions
    {d d' : Device}
    {addr : Nat}
    {old new : LiveRegion}
    (h : Updated d d' addr old new)
    {e : Nat × LiveRegion}
    (hMem : e ∈ d'.regions) :
    e = (addr, new) ∨ e ∈ d.regions := by
  rcases h.table with hPut | hWithout
  · rw [hPut] at hMem
    exact (mem_put.mp hMem).imp_right And.left
  · rw [hWithout] at hMem
    exact Or.inr (List.mem_of_mem_filter hMem)

theorem settle_regions
    (d : Device)
    (addr : Nat)
    (r : LiveRegion) :
    (d.settle addr r).regions = put addr r d.regions ∨
      (d.settle addr r).regions =
        without addr d.regions := by
  unfold settle
  split
  · exact Or.inr rfl
  · exact Or.inl rfl

/- What an attachment does to a device. -/
theorem attach_eq
    {d d' : Device}
    {addr : Nat}
    {region : Region}
    (hOk : d.attach addr = .ok (region, d')) :
    ∃ r,
      d.region? addr = some r ∧ r.freed = false ∧
        region = ⟨addr, r.size, r.target, r.cache⟩ ∧
          d' =
            { d with
              regions := put addr
                { r with attachments := r.attachments + 1 }
                d.regions
              counters :=
                { d.counters with
                  attaches := d.counters.attaches + 1 } } := by
  unfold attach at hOk
  cases hFound : d.region? addr with
  | none => simp [hFound] at hOk
  | some r =>
      cases hFreed : r.freed with
      | true => simp [hFound, hFreed] at hOk
      | false =>
          simp only [hFound, hFreed] at hOk
          cases hOk
          exact ⟨r, rfl, hFreed, rfl, by simp [hFreed]⟩

theorem attach_ok
    {d d' : Device}
    {addr : Nat}
    {answer : Region}
    (h : d.attach addr = .ok (answer, d')) :
    ∃ old new, Updated d d' addr old new := by
  rcases attach_eq h with ⟨r, hFound, _, _, rfl⟩
  exact
    ⟨r, { r with attachments := r.attachments + 1 }, hFound,
      rfl, rfl, rfl, rfl, rfl, fun _ => rfl, fun _ => rfl,
      rfl, Or.inl rfl⟩

theorem free_ok
    {d d' : Device}
    {region : Region}
    (h : d.free region = .ok ((), d')) :
    ∃ old new, Updated d d' region.addr old new := by
  unfold free at h
  split at h
  · cases h
  · rename_i r hFound
    split at h
    · cases h
    · cases h
      refine
        ⟨r, { r with freed := true }, hFound, rfl, rfl, rfl,
          rfl, rfl, ?_, ?_, rfl, settle_regions _ _ _⟩
      · intro t
        by_cases hEq : t = r.target
        · simp [settle, setWindow, hEq]
        · simp [settle, setWindow, hEq]
      · intro t
        by_cases hEq : t = r.target
        · simp [settle, setWindow, hEq]
        · simp [settle, setWindow, hEq]

theorem detach_ok
    {d d' : Device}
    {region : Region}
    (h : d.detach region = .ok ((), d')) :
    ∃ old new, Updated d d' region.addr old new := by
  unfold detach at h
  split at h
  · cases h
  · rename_i r hFound
    cases h
    exact
      ⟨r, { r with attachments := r.attachments - 1 },
        hFound, rfl, rfl, rfl, rfl, rfl, fun _ => rfl,
        fun _ => rfl, rfl, settle_regions _ _ _⟩

/- A call that is not refused. -/
theorem step_of_ok
    (c : Call)
    {d d' : Device}
    (h : d.perform c = .ok d') : step c d = d' := by
  unfold step
  rw [h]

/- A call is refused, or leads to where its result says. -/
theorem step_of_perform
    {α : Type}
    (c : Call)
    (d : Device)
    {x : Except Error (α × Device)}
    (hPerform : d.perform c = x.map Prod.snd) :
    step c d = d ∨ ∃ a, x = .ok (a, step c d) := by
  cases x with
  | error e =>
      apply Or.inl
      simp [step, hPerform, Except.map]
  | ok p =>
      apply Or.inr
      refine ⟨p.1, ?_⟩
      simp [step, hPerform, Except.map]

/- The regions that a call answers. -/
def answered
    (d : Device) : Call → List Region
  | .allocate target cache sizes =>
    match d.allocate target cache sizes with
    | .ok (regions, _) => regions
    | .error _ => []
  | _ => []

/- An allocation that is not refused, in terms of calls. -/
theorem allocate_of_isOk
    {d : Device}
    {target : MemoryTarget}
    {cache : CachePolicy}
    {sizes : List Nat}
    (hOk : (d.allocate target cache sizes).isOk = true) :
    d.allocate target cache sizes =
      .ok
        (d.answered (.allocate target cache sizes),
          step (.allocate target cache sizes) d) := by
  cases hCall : d.allocate target cache sizes with
  | error e =>
      rw [hCall] at hOk
      cases hOk
  | ok result =>
      simp [answered, step, perform, hCall, Except.map]

/-
  A call is an allocation that answers regions, or answers
  none and changes one entry at most.
-/
theorem step_answered
    (c : Call)
    (d : Device) :
    (∃ target cache sizes,
        d.allocate target cache sizes =
          .ok (d.answered c, step c d)) ∨
      d.answered c = [] ∧
        (step c d = d ∨
          ∃ addr old new,
            Updated d (step c d) addr old new) := by
  cases c with
  | allocate target cache sizes =>
      cases hCall : d.allocate target cache sizes with
      | error e =>
          refine Or.inr ⟨?_, Or.inl ?_⟩
          · simp [answered, hCall]
          · simp [step, perform, hCall, Except.map]
      | ok result =>
          refine Or.inl ⟨target, cache, sizes, ?_⟩
          simp [hCall, answered, step, perform, Except.map]
  | attach addr =>
      refine Or.inr ⟨rfl, ?_⟩
      rcases step_of_perform (.attach addr) d
          (x := d.attach addr) rfl with
        hSame | ⟨answer, hOk⟩
      · exact Or.inl hSame
      · exact Or.inr ⟨addr, attach_ok hOk⟩
  | free region =>
      refine Or.inr ⟨rfl, ?_⟩
      rcases step_of_perform (.free region) d
          (x := d.free region) rfl with
        hSame | ⟨answer, hOk⟩
      · exact Or.inl hSame
      · exact Or.inr ⟨region.addr, free_ok hOk⟩
  | detach region =>
      refine Or.inr ⟨rfl, ?_⟩
      rcases step_of_perform (.detach region) d
          (x := d.detach region) rfl with
        hSame | ⟨answer, hOk⟩
      · exact Or.inl hSame
      · exact Or.inr ⟨region.addr, detach_ok hOk⟩

/-
  All that a call does: nothing, an allocation, or a change
  to one entry.
-/
theorem step_cases
    (c : Call)
    (d : Device) :
    step c d = d ∨
      (∃ target cache sizes answer,
        d.allocate target cache sizes =
          .ok (answer, step c d)) ∨
      ∃ addr old new, Updated d (step c d) addr old new := by
  rcases step_answered c d with
    ⟨target, cache, sizes, hOk⟩ | ⟨_, hSame | hUpdated⟩
  · exact Or.inr (Or.inl ⟨target, cache, sizes, _, hOk⟩)
  · exact Or.inl hSame
  · exact Or.inr (Or.inr hUpdated)

/- The pages of a system stay as they are. -/
theorem page_act
    (a : Act)
    (d : Device) : (act a d).page = d.page := by
  cases a with
  | call c =>
      rcases step_cases c d with
        hSame | ⟨target, cache, sizes, answer, hOk⟩ |
          ⟨addr, old, new, hUpdated⟩
      · exact congrArg Device.page hSame
      · rw [act, (allocate_eq_ok_iff.mp hOk).2.2]
        rfl
      · exact hUpdated.page
  | map region =>
      simp only [act, map]
      cases d.region? region.addr <;> rfl
  | unmap => rfl
  | invalidate => rfl
  | flush => rfl
  | write mapping start bytes =>
      simp only [act, write]
      cases d.files.get? mapping.file <;> rfl

end Device

end Offload
