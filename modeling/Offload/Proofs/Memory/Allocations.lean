import Mathlib.Data.List.Chain
import Offload.Proofs.Memory.Buffers

/-
  When a buffer is allocated, and what is allocated then.

  On a device without planned failures, a layout that is at
  fault, a window without room for it and a cursor too near
  to the last address stand in the way of a buffer, and
  nothing else does. The segments of a buffer follow each
  other without a gap from a page boundary on. A cursor gets
  near to the last address when a window is allocated and
  freed again and again.

  Key definitions include:
    * `Layout.Proper`
    * `Device.HasRoom`
    * `Device.HasAddresses`
    * `Device.Spent`
    * `Buffer.LaidOut`

  Main results:
    * `Layout.fault_eq_none_iff_proper`
    * `Device.admits_of_room`
    * `Device.allocate_of_far`
    * `Device.lined_of_allocate`
    * `Device.swept_sweeps`
    * `Allocator.allocateLayout_of_admits`
    * `Allocator.allocSegments_exact`
    * `Allocator.last_window_overflows`
-/

namespace Offload

------------------------------------------------------------
-- Layouts
------------------------------------------------------------

namespace Layout

/-
  A layout that a buffer can have: it has segments, but not
  too many, they have sizes and names of their own, and the
  sizes add up to a word.
-/
structure Proper
    (layout : List SegmentSpec) : Prop where
  inhabited : layout ≠ []
  few : layout.length ≤ SegmentSpec.maxCount
  sized : ∀ spec ∈ layout, spec.size ≠ 0
  named : ∀ spec ∈ layout, spec.name ≠ ""
  distinct : (layout.map SegmentSpec.name).Nodup
  fits : size layout < Word.limit

/- Segments without a fault, given the names before them. -/
theorem firstFault_none_iff
    (seen : List String)
    (layout : List SegmentSpec) :
    firstFault seen layout = none ↔
      (∀ spec ∈ layout,
        spec.size ≠ 0 ∧ spec.name ≠ "" ∧
          spec.name ∉ seen) ∧
        (layout.map SegmentSpec.name).Nodup := by
  induction layout generalizing seen with
  | nil => simp [firstFault]
  | cons spec rest ih =>
      unfold firstFault segmentFault
      by_cases hSize : spec.size = 0
      · simp [hSize]
      by_cases hName : spec.name = ""
      · simp [hSize, hName]
      by_cases hSeen : spec.name ∈ seen
      · simp [hSize, hName, hSeen]
      have hFirst :
          firstFault (spec.name :: seen) rest = none ↔
            (∀ other ∈ rest,
              other.size ≠ 0 ∧ other.name ≠ "" ∧
                other.name ∉ seen) ∧
              spec.name ∉ rest.map SegmentSpec.name ∧
                (rest.map SegmentSpec.name).Nodup := by
        rw [ih]
        simp only [List.mem_cons, not_or, List.mem_map]
        grind
      simpa [hSize, hName, hSeen] using hFirst

/- What the check of a layout lets pass. -/
theorem fault_eq_none_iff
    (layout : List SegmentSpec) :
    fault layout = none ↔
      layout ≠ [] ∧ firstFault [] layout = none ∧
        Word.total (layout.map SegmentSpec.size) <
          Word.limit ∧
        layout.length ≤ SegmentSpec.maxCount := by
  unfold fault
  by_cases hEmpty : layout = []
  · simp [hEmpty]
  rw [if_neg (by simpa using hEmpty)]
  by_cases hLength : layout.length ≤ SegmentSpec.maxCount
  · rw [if_neg (Nat.not_lt.mpr hLength)]
    cases firstFault [] layout with
    | some text => simp
    | none =>
        simp only [Word.sum?, Word.check]
        by_cases hTotal :
            Word.total (layout.map SegmentSpec.size) <
              Word.limit
        · simp [hEmpty, hTotal, hLength]
        · simp [hTotal]
  · rw [if_pos (Nat.not_le.mp hLength)]
    simp [hLength]

/- The check of a layout lets pass what is proper. -/
theorem fault_eq_none_iff_proper
    (layout : List SegmentSpec) :
    fault layout = none ↔ Proper layout := by
  rw [fault_eq_none_iff, firstFault_none_iff]
  constructor
  · rintro ⟨hSome, ⟨hSegments, hDistinct⟩, hFits, hFew⟩
    constructor
    · exact hSome
    · exact hFew
    · exact fun spec hMem => (hSegments spec hMem).1
    · exact fun spec hMem => (hSegments spec hMem).2.1
    · exact hDistinct
    · exact hFits
  · intro h
    refine ⟨h.inhabited, ⟨?_, h.distinct⟩, h.fits, h.few⟩
    intro spec hMem
    exact
      ⟨h.sized spec hMem, h.named spec hMem,
        List.not_mem_nil⟩

theorem Proper.sizes_ne_nil
    {layout : List SegmentSpec}
    (h : Proper layout) :
    layout.map SegmentSpec.size ≠ [] :=
  fun hNil => h.inhabited (List.map_eq_nil_iff.mp hNil)

theorem Proper.zero_not_mem
    {layout : List SegmentSpec}
    (h : Proper layout) :
    0 ∉ layout.map SegmentSpec.size := by
  intro hMem
  rcases List.mem_map.mp hMem with ⟨spec, hSpec, hZero⟩
  exact h.sized spec hSpec hZero

end Layout

------------------------------------------------------------
-- Room
------------------------------------------------------------

namespace Device

/- Each carved region starts where the one before it ends. -/
theorem isChain_carve
    (start : Nat)
    (target : MemoryTarget)
    (cache : CachePolicy)
    (sizes : List Nat)
    (offset : Nat) :
    (carve start target cache sizes offset).IsChain
      fun a b => a.2.addr + a.2.size = b.2.addr := by
  induction sizes generalizing offset with
  | nil => exact List.IsChain.nil
  | cons size rest ih =>
      have hRest := ih (offset + size)
      cases rest with
      | nil => exact List.IsChain.singleton _
      | cons next later =>
          refine List.isChain_cons_cons.mpr ⟨?_, hRest⟩
          exact Nat.add_assoc start offset size

/- A number of bytes can still be allocated on a target. -/
def HasRoom
    (d : Device)
    (target : MemoryTarget)
    (size : Nat) : Prop :=
  d.used target + size ≤ (d.windows target).capacity

instance
    (d : Device)
    (target : MemoryTarget)
    (size : Nat) : Decidable (d.HasRoom target size) :=
  inferInstanceAs
    (Decidable
      (d.used target + size ≤ (d.windows target).capacity))

/- No budget is larger than the window it is for. -/
def IsBudgeted
    (d : Device) : Prop :=
  ∀ t, (d.windows t).capacity ≤ windowStride

/- The budget of a window is a word. -/
theorem IsBudgeted.lt_limit
    {d : Device}
    (hBudget : d.IsBudgeted)
    (t : MemoryTarget) :
    (d.windows t).capacity < Word.limit := by
  have hWord : windowStride < Word.limit := by decide
  exact Nat.lt_of_le_of_lt (hBudget t) hWord

/-
  A number of bytes have addresses from the cursor of a
  target on.
-/
def HasAddresses
    (d : Device)
    (target : MemoryTarget)
    (size : Nat) : Prop :=
  d.page.up (d.windows target).next + size < Word.limit

instance
    (d : Device)
    (target : MemoryTarget)
    (size : Nat) : Decidable (d.HasAddresses target size) :=
  inferInstanceAs
    (Decidable
      (d.page.up (d.windows target).next + size <
        Word.limit))

section Calls

variable {d : Device}
variable {target : MemoryTarget}
variable {sizes : List Nat}

/-
  From a cursor inside its window, what a file can have has
  addresses.
-/
theorem hasAddresses_of_inside
    {size : Nat}
    (hInside : (d.windows target).next ≤ windowEnd target)
    (hFile : d.page.up size < Backing.limit) :
    d.HasAddresses target size := by
  have hUp := d.page.up_lt_add (d.windows target).next
  have hSize := d.page.le_up size
  have hSmall := d.page.small
  have hLast :
      windowEnd target + windowStride + Backing.limit <
        Word.limit := by
    cases target <;> decide
  unfold HasAddresses
  omega

/- What budgets have room for is not too long for a file. -/
theorem IsBudgeted.filed
    {size : Nat}
    (hBudget : d.IsBudgeted)
    (hRoom : d.HasRoom target size) :
    d.page.up size < Backing.limit := by
  have hUp := d.page.up_lt_add size
  have hSmall := d.page.small
  have hWindow := hBudget target
  have hLimit :
      windowStride + windowStride < Backing.limit := by
    decide
  unfold HasRoom at hRoom
  omega

/- Sizes with room and addresses are admitted. -/
theorem admits_of_room
    (hBudget : d.IsBudgeted)
    (hSizes : sizes ≠ [])
    (hZero : 0 ∉ sizes)
    (hRoom : d.HasRoom target sizes.sum)
    (hAddresses : d.HasAddresses target sizes.sum) :
    d.Admits target sizes where
  inhabited := hSizes
  sized := hZero
  word := Nat.lt_of_le_of_lt hRoom (hBudget.lt_limit target)
  room := hRoom
  filed := hBudget.filed hRoom
  addressed := hAddresses

/- Sizes without room are refused. -/
theorem allocate_of_full
    (cache : CachePolicy)
    (hSizes : sizes ≠ [])
    (hZero : 0 ∉ sizes)
    (hFits : sizes.sum < Word.limit)
    (hFull : ¬ d.HasRoom target sizes.sum) :
    d.allocate target cache sizes =
      .error
        (exhausted (d.windows target) target sizes.sum) := by
  have hSum : Word.sum? sizes = some sizes.sum :=
    if_pos hFits
  unfold allocate
  rw [if_neg (by simp [hSizes, hZero]), hSum]
  dsimp only
  rw [if_neg fun hBoth => hFull hBoth.2]

/- Sizes with room but without addresses overflow. -/
theorem allocate_of_far
    (hBudget : d.IsBudgeted)
    (cache : CachePolicy)
    (hSizes : sizes ≠ [])
    (hZero : 0 ∉ sizes)
    (hRoom : d.HasRoom target sizes.sum)
    (hFar : ¬ d.HasAddresses target sizes.sum) :
    d.allocate target cache sizes = .error .overflow := by
  have hWord :
      (d.windows target).used + sizes.sum < Word.limit :=
    Nat.lt_of_le_of_lt hRoom (hBudget.lt_limit target)
  have hSum : Word.sum? sizes = some sizes.sum :=
    if_pos (Nat.lt_of_le_of_lt (Nat.le_add_left _ _) hWord)
  have hFile := hBudget.filed hRoom
  have hLimits : Backing.limit < Word.limit := by decide
  have hPlace :
      d.place target sizes.sum = .error .overflow := by
    unfold place
    dsimp only
    rw [if_neg (by omega), if_neg (by omega),
      if_pos (Nat.le_of_not_lt hFar)]
  unfold allocate
  rw [if_neg (by simp [hSizes, hZero]), hSum]
  dsimp only
  rw [if_pos ⟨hWord, hRoom⟩, hPlace]

end Calls

/-
  A number of bytes were allocated on a target, and a region
  was mapped, but none was unmapped.
-/
structure Spent
    (d d' : Device)
    (target : MemoryTarget)
    (size : Nat) : Prop where
  used :
    ∀ t,
      d'.used t = d.used t + if t = target then size else 0
  maps : d'.counters.maps = d.counters.maps + 1
  unmaps : d'.counters.unmaps = d.counters.unmaps

/- A region in use can be mapped, which is only counted. -/
theorem map_of_inUse
    {d : Device}
    {region : Region}
    (h : d.inUse region.addr = true) :
    ∃ mapping,
      d.map region =
        .ok (mapping,
          { d with
            nextMapping := d.nextMapping + 1
            counters :=
              { d.counters with
                maps := d.counters.maps + 1 } }) := by
  unfold inUse at h
  unfold map
  cases hFound : d.region? region.addr with
  | none => simp [hFound] at h
  | some r => exact ⟨_, rfl⟩

end Device

------------------------------------------------------------
-- Buffers
------------------------------------------------------------

namespace Allocator

/- Allocated segments have their regions. -/
theorem regions_segmentsOf
    {regions : List Region}
    {layout : List SegmentSpec}
    (hSizes :
      regions.map Region.size = layout.map SegmentSpec.size) :
    (segmentsOf regions layout).map
        (fun s => s.handle.region) = regions := by
  have hHandles :=
    congrArg (List.map Handle.region)
      (handles_segmentsOf hSizes)
  simpa [Device.owners, Handle.ofRegion, Function.comp_def]
    using hHandles

/- Allocated segments are not mapped yet. -/
theorem unmapped_segmentsOf
    {regions : List Region}
    {layout : List SegmentSpec}
    (hSizes :
      regions.map Region.size = layout.map SegmentSpec.size)
    {s : Segment}
    (hMem : s ∈ segmentsOf regions layout) :
    s.handle.mapping = none := by
  have hOwner : s.handle ∈ Device.owners regions :=
    handles_segmentsOf hSizes ▸ List.mem_map_of_mem hMem
  rcases List.mem_map.mp hOwner with ⟨region, _, hEq⟩
  rw [← hEq]
  rfl

end Allocator

namespace Buffer

/-
  A buffer that was just made with a layout. Its segments
  follow each other from a page boundary on, and the first
  one is the only one that is mapped.
-/
structure LaidOut
    (b : Buffer)
    (page : PageSize)
    (layout : List SegmentSpec) : Prop where
  specs : b.layout = layout
  adjoining :
    b.segments.IsChain fun s t => s.addr + s.size = t.addr
  aligned : page.bytes ∣ b.addr
  size : b.size = Layout.size layout
  parent_mapped : b.parent.handle.isMapped = true
  rest_unmapped :
    ∀ s ∈ b.rest, s.handle.isMapped = false

/- A buffer of regions that follow each other. -/
theorem LaidOut.of_regions
    {b : Buffer}
    {page : PageSize}
    {layout : List SegmentSpec}
    {regions : List Region}
    (hSpecs : b.layout = layout)
    (hRegions :
      b.segments.map (fun s => s.handle.region) = regions)
    (hChain :
      regions.IsChain fun r r' => r.addr + r.size = r'.addr)
    (hAligned :
      ∀ r ∈ regions.head?, page.bytes ∣ r.addr)
    (hParent : b.parent.handle.isMapped = true)
    (hRest : ∀ s ∈ b.rest, s.handle.isMapped = false) :
    b.LaidOut page layout := by
  subst hRegions
  constructor
  · exact hSpecs
  · exact (List.isChain_map _).mp hChain
  · exact hAligned b.parent.handle.region rfl
  · rw [b.size_eq, hSpecs]
  · exact hParent
  · exact hRest

/- Segments whose parent is in use become a buffer. -/
theorem assemble_of_inUse
    {parent : Segment}
    {rest : List Segment}
    {m : Platform}
    (hFew : (parent :: rest).length ≤ SegmentSpec.maxCount)
    (hUnmapped : parent.handle.mapping = none)
    (hLive : m.device.inUse parent.addr = true)
    (hSpare : m.faults .map = [])
    (flags : MemoryFlags) :
    ∃ mapping,
      assemble (parent :: rest) flags m =
        (.ok
          ⟨{ parent with
              handle :=
                { parent.handle with mapping := some mapping } },
            rest, flags⟩,
          { m with
            device :=
              { m.device with
                nextMapping := m.device.nextMapping + 1
                counters :=
                  { m.device.counters with
                    maps :=
                      m.device.counters.maps + 1 } } }) := by
  rcases Device.map_of_inUse hLive with ⟨mapping, hMap⟩
  refine ⟨mapping, ?_⟩
  simp only [assemble, if_neg (Nat.not_lt.mpr hFew), bind,
    Op.bind, Op.attempt, Handle.map, hUnmapped,
    Platform.map_of_spared hSpare hMap]
  rfl

end Buffer

------------------------------------------------------------
-- Allocations
------------------------------------------------------------

/- Without planned failures the device answers. -/
theorem Platform.allocate_of_calm
    {m : Platform}
    (hCalm : m.faults = FaultPlan.none)
    (target : MemoryTarget)
    (cache : CachePolicy)
    (sizes : List Nat) :
    allocate target cache sizes m =
      call (fun d => d.allocate target cache sizes) m := by
  have hNone : ∀ c, m.faults c = [] := congrFun hCalm
  rw [allocate_of_spared (hNone .allocEmpty)]
  simp only [bind, Op.bind, pass_of_nil (hNone .alloc)]

/-
  Regions that were allocated together follow each other
  from a page boundary on.
-/
theorem Device.lined_of_allocate
    {d d' : Device}
    {target : MemoryTarget}
    {cache : CachePolicy}
    {sizes : List Nat}
    {answer : List Region}
    (hOk :
      d.allocate target cache sizes = .ok (answer, d')) :
    (answer.IsChain fun r r' => r.addr + r.size = r'.addr) ∧
      ∀ r ∈ answer.head?, d.page.bytes ∣ r.addr := by
  rw [(allocate_answer hOk).1]
  constructor
  · rw [List.isChain_map]
    exact isChain_carve _ target cache sizes 0
  · intro r hMem
    cases sizes with
    | nil => cases hMem
    | cons size rest =>
        cases hMem
        exact d.page.dvd_up (d.windows target).next

namespace Allocator

variable {m : Platform}
variable {flags : MemoryFlags}
variable {layout : List SegmentSpec}

/- A layout that does not pass its check is refused. -/
theorem allocateLayout_refused
    {text : String}
    (hFault : Layout.fault layout = some text)
    (m : Platform) :
    allocateLayout flags layout m =
      (.error (.invalidArgument text), m) := by
  have hCheck :
      Layout.check layout =
        .error (.invalidArgument text) := by
    unfold Layout.check
    rw [hFault]
  simp only [allocateLayout, bind, Op.bind, Op.ofExcept,
    hCheck]

/- What the device refuses is refused, and changes nothing. -/
theorem allocateLayout_of_error
    {e : Error}
    (hCalm : m.faults = FaultPlan.none)
    (hProper : Layout.Proper layout)
    (hError :
      m.device.allocate flags.target flags.cache
        (layout.map SegmentSpec.size) = .error e) :
    ∃ m',
      allocateLayout flags layout m = (.error e, m') ∧
        m'.device = m.device := by
  have hCheck :=
    (Layout.fault_eq_none_iff_proper layout).mpr hProper
  have hRun :
      Platform.allocate flags.target flags.cache
          (layout.map SegmentSpec.size) m =
        (.error e, m) := by
    rw [Platform.allocate_of_calm hCalm, Platform.call,
      Op.change, hError]
  simp only [allocateLayout, Layout.check, hCheck, bind,
    Op.bind, Op.ofExcept, Op.attempt, hRun]
  exact ⟨_, rfl, rfl⟩

/- There are regions for a layout that is admitted. -/
theorem allocate_of_admits
    (hCalm : m.faults = FaultPlan.none)
    (hAdmits :
      m.device.Admits flags.target
        (layout.map SegmentSpec.size)) :
    ∃ regions d,
      m.device.allocate flags.target flags.cache
          (layout.map SegmentSpec.size) =
          .ok (regions, d) ∧
        Platform.allocate flags.target flags.cache
            (layout.map SegmentSpec.size) m =
          (.ok regions, { m with device := d }) := by
  have hAllocate :=
    Device.allocate_eq_ok_iff.mpr
      ⟨hAdmits, rfl, Eq.refl (m.device.grown flags.target
        flags.cache (layout.map SegmentSpec.size))⟩
  refine ⟨_, _, hAllocate, ?_⟩
  rw [Platform.allocate_of_calm hCalm, Platform.call,
    Op.change, hAllocate]

/- A layout that is admitted becomes a buffer. -/
theorem allocateLayout_of_admits
    (hCalm : m.faults = FaultPlan.none)
    (hProper : Layout.Proper layout)
    (hAdmits :
      m.device.Admits flags.target
        (layout.map SegmentSpec.size)) :
    ∃ b m',
      allocateLayout flags layout m = (.ok b, m') ∧
        b.LaidOut m.device.page layout ∧
          m.device.Spent m'.device flags.target
            (Layout.size layout) := by
  have hCheck :=
    (Layout.fault_eq_none_iff_proper layout).mpr hProper
  rcases allocate_of_admits hCalm hAdmits with
    ⟨regions, d, hAllocate, hRun⟩
  have hCarved := Device.carved_of_allocate hAllocate
  rcases Device.allocate_answer hAllocate with
    ⟨hAnswer, hUsed, hCounters⟩
  have hLined := Device.lined_of_allocate hAllocate
  have hRegions := regions_segmentsOf hCarved.sizes
  have hSpecs := spec_segmentsOf hCarved.sizes
  have hUnmapped :
      ∀ s ∈ segmentsOf regions layout,
        s.handle.mapping = none :=
    fun s hMem => unmapped_segmentsOf hCarved.sizes hMem
  rcases hSegments : segmentsOf regions layout with
    _ | ⟨parent, rest⟩
  · rw [hSegments] at hSpecs
    exact absurd hSpecs.symm hProper.inhabited
  rw [hSegments] at hRegions hSpecs hUnmapped
  have hFew :
      (parent :: rest).length ≤ SegmentSpec.maxCount := by
    have hLength := congrArg List.length hSpecs
    rw [List.length_map] at hLength
    exact hLength ▸ hProper.few
  have hLive : d.inUse parent.addr = true := by
    have hFirst : parent.handle.region ∈ regions := by
      rw [← hRegions]
      exact List.mem_cons_self
    exact (hCarved.live _ hFirst).inUse
  rcases Buffer.assemble_of_inUse
      (m := { m with device := d }) hFew
      (hUnmapped parent List.mem_cons_self) hLive
      (congrFun hCalm .map) flags with ⟨mapping, hAssemble⟩
  simp only [allocateLayout, Layout.check, hCheck, bind,
    Op.bind, Op.ofExcept, Op.attempt, hRun, hSegments,
    hAssemble]
  refine ⟨_, _, rfl, ?_, ?_⟩
  · have hRest : ∀ s ∈ rest, s.handle.isMapped = false := by
      intro s hMem
      rw [Handle.isMapped,
        hUnmapped s (List.mem_cons_of_mem _ hMem)]
      rfl
    exact
      .of_regions hSpecs hRegions hLined.1 hLined.2 rfl hRest
  · constructor
    · exact hUsed
    · change d.counters.maps + 1 = _
      rw [hCounters]
    · change d.counters.unmaps = _
      rw [hCounters]

/-
  A layout that is not proper or has no room is refused, and
  the device is as it was.
-/
theorem allocateLayout_of_not
    (hCalm : m.faults = FaultPlan.none)
    (hNot :
      ¬ (Layout.Proper layout ∧
        m.device.HasRoom flags.target
          (Layout.size layout))) :
    ∃ e m',
      allocateLayout flags layout m = (.error e, m') ∧
        e ≠ .overflow ∧ m'.device = m.device := by
  by_cases hProper : Layout.Proper layout
  · have hError :=
      Device.allocate_of_full flags.cache
        hProper.sizes_ne_nil hProper.zero_not_mem
          hProper.fits fun hRoom => hNot ⟨hProper, hRoom⟩
    rcases allocateLayout_of_error hCalm hProper hError with
      ⟨m', hRun, hDevice⟩
    exact ⟨_, m', hRun, nofun, hDevice⟩
  · cases hFault : Layout.fault layout with
    | none =>
        exact
          absurd
            ((Layout.fault_eq_none_iff_proper layout).mp
              hFault)
            hProper
    | some text =>
        exact
          ⟨_, _, allocateLayout_refused hFault m, nofun, rfl⟩

/- A layout with room but without addresses overflows. -/
theorem allocateLayout_of_far
    (hCalm : m.faults = FaultPlan.none)
    (hBudget : m.device.IsBudgeted)
    (hProper : Layout.Proper layout)
    (hRoom :
      m.device.HasRoom flags.target (Layout.size layout))
    (hFar :
      ¬ m.device.HasAddresses flags.target
        (Layout.size layout)) :
    ∃ m',
      allocateLayout flags layout m =
        (.error .overflow, m') := by
  have hError :=
    Device.allocate_of_far hBudget flags.cache
      hProper.sizes_ne_nil hProper.zero_not_mem hRoom hFar
  rcases allocateLayout_of_error hCalm hProper hError with
    ⟨m', hRun, _⟩
  exact ⟨m', hRun⟩

/-
  There is a buffer, or the layout is refused and the device
  is as it was, or addresses overflow.
-/
theorem allocateLayout_cases
    (hCalm : m.faults = FaultPlan.none)
    (hBudget : m.device.IsBudgeted)
    (flags : MemoryFlags)
    (layout : List SegmentSpec) :
    ((Layout.Proper layout ∧
          m.device.HasRoom flags.target
            (Layout.size layout) ∧
          m.device.HasAddresses flags.target
            (Layout.size layout)) ∧
        ∃ b m',
          allocateLayout flags layout m = (.ok b, m') ∧
            b.LaidOut m.device.page layout ∧
              m.device.Spent m'.device flags.target
                (Layout.size layout)) ∨
      (¬ (Layout.Proper layout ∧
          m.device.HasRoom flags.target
            (Layout.size layout)) ∧
        ∃ e m',
          allocateLayout flags layout m = (.error e, m') ∧
            e ≠ .overflow ∧ m'.device = m.device) ∨
      (¬ m.device.HasAddresses flags.target
          (Layout.size layout) ∧
        ∃ m',
          allocateLayout flags layout m =
            (.error .overflow, m')) := by
  by_cases hBoth :
      Layout.Proper layout ∧
        m.device.HasRoom flags.target (Layout.size layout)
  case neg =>
    exact
      Or.inr (Or.inl ⟨hBoth, allocateLayout_of_not hCalm hBoth⟩)
  rcases hBoth with ⟨hProper, hRoom⟩
  by_cases hAddresses :
      m.device.HasAddresses flags.target
        (Layout.size layout)
  · have hAdmits :=
      Device.admits_of_room hBudget hProper.sizes_ne_nil
        hProper.zero_not_mem hRoom hAddresses
    exact
      Or.inl
        ⟨⟨hProper, hRoom, hAddresses⟩,
          allocateLayout_of_admits hCalm hProper hAdmits⟩
  · exact
      Or.inr
        (Or.inr
          ⟨hAddresses,
            allocateLayout_of_far hCalm hBudget hProper hRoom
              hAddresses⟩)

/-
  Without planned failures a buffer of segments is allocated
  exactly if its layout is proper, its window has room for it
  and there are addresses for it. The buffer is laid out as
  asked for, and only the use of its target grows. If there
  is none, the device is as it was, unless there were no
  addresses and one overflowed.
-/
theorem allocSegments_exact
    {a : Allocator}
    (hKind : a.kind = .segmented)
    {m : Platform}
    (hCalm : m.faults = FaultPlan.none)
    (hBudget : m.device.IsBudgeted)
    (flags : MemoryFlags)
    (layout : List SegmentSpec) :
    ((∃ b m', a.allocSegments flags layout m = (.ok b, m')) ↔
      Layout.Proper layout ∧
        m.device.HasRoom flags.target
          (Layout.size layout) ∧
        m.device.HasAddresses flags.target
          (Layout.size layout)) ∧
      (∀ b m',
        a.allocSegments flags layout m = (.ok b, m') →
          b.LaidOut m.device.page layout ∧
            m.device.Spent m'.device flags.target
              (Layout.size layout)) ∧
      ∀ e m',
        a.allocSegments flags layout m = (.error e, m') →
          (e ≠ .overflow ∧ m'.device = m.device) ∨
            (e = .overflow ∧
              ¬ m.device.HasAddresses flags.target
                (Layout.size layout)) := by
  have hSame :
      a.allocSegments flags layout =
        allocateLayout flags layout := by
    rw [allocSegments, hKind]
  rcases allocateLayout_cases hCalm hBudget flags layout with
    ⟨hAll, b, m', hRun, hLaidOut, hSpent⟩ |
    ⟨hNot, e, m', hRun, hRefused⟩ | ⟨hFar, m', hRun⟩
  · rw [hSame, hRun]
    refine ⟨iff_of_true ⟨b, m', rfl⟩ hAll, ?_, ?_⟩
    · intro b' m'' hOk
      cases hOk
      exact ⟨hLaidOut, hSpent⟩
    · intro e m'' hError
      cases hError
  · rw [hSame, hRun]
    refine ⟨iff_of_false ?_ ?_, ?_, ?_⟩
    · rintro ⟨b, m'', hOk⟩
      cases hOk
    · exact fun hAll => hNot ⟨hAll.1, hAll.2.1⟩
    · intro b m'' hOk
      cases hOk
    · intro e' m'' hError
      cases hError
      exact Or.inl hRefused
  · rw [hSame, hRun]
    refine ⟨iff_of_false ?_ ?_, ?_, ?_⟩
    · rintro ⟨b, m'', hOk⟩
      cases hOk
    · exact fun hAll => hFar hAll.2.2
    · intro b m'' hOk
      cases hOk
    · intro e m'' hError
      cases hError
      exact Or.inr ⟨rfl, hFar⟩

/- A platform on which 5000 bytes of the chip are in use. -/
def chipInUse : Platform :=
  { Platform.fresh Device.defaultCapacity with
    device :=
      Device.step (.allocate .onChip .uncached [5000])
        (Device.fresh .usual Device.defaultCapacity) }

/- The rest of the chip in two pieces. -/
def restOfChip : List SegmentSpec :=
  [⟨"head", 4 * 1024 * 1024 - 5000 - 1⟩, ⟨"tail", 1⟩]

/- All the rest of the chip can be had, and not a byte more. -/
theorem rest_of_chip_allocated :
    (∃ b m',
      (⟨"a", .segmented⟩ : Allocator).allocSegments
          (.ofTarget .onChip) restOfChip chipInUse =
        (.ok b, m') ∧
        b.LaidOut .usual restOfChip ∧
          chipInUse.device.Spent m'.device .onChip
            (4 * 1024 * 1024 - 5000)) ∧
      ∃ e m',
        (⟨"a", .segmented⟩ : Allocator).allocSegments
            (.ofTarget .onChip) (⟨"more", 1⟩ :: restOfChip)
            chipInUse =
          (.error e, m') ∧
          m'.device = chipInUse.device := by
  have hBudget : chipInUse.device.IsBudgeted := by
    intro t
    cases t <;> decide
  have hProper : Layout.Proper restOfChip := by
    constructor <;> decide
  have hExact :=
    allocSegments_exact (a := ⟨"a", .segmented⟩) rfl
      (m := chipInUse) rfl hBudget (.ofTarget .onChip)
  constructor
  · rcases
        (hExact restOfChip).1.mpr
          ⟨hProper, by decide, by decide⟩ with
      ⟨b, m', hRun⟩
    exact ⟨b, m', hRun, (hExact _).2.1 b m' hRun⟩
  · rcases hRun :
        (⟨"a", .segmented⟩ : Allocator).allocSegments
          (.ofTarget .onChip) (⟨"more", 1⟩ :: restOfChip)
          chipInUse with
      ⟨e | b, m'⟩
    · rcases (hExact _).2.2 e m' hRun with
        ⟨_, hDevice⟩ | ⟨_, hFar⟩
      · exact ⟨e, m', rfl, hDevice⟩
      · exact absurd (by decide) hFar
    · have hBoth := (hExact _).1.mp ⟨b, m', hRun⟩
      exact absurd hBoth.2.1 (by decide)

end Allocator

------------------------------------------------------------
-- The End of the Addresses
------------------------------------------------------------

namespace Device

/- Allocate and free a whole window that others lie before. -/
def wholeWindow
    (n : Nat) : List Call :=
  [.allocate .generic .uncached [windowStride],
   .free
     ⟨windowBase + windowStride * n, windowStride, .generic,
       .uncached⟩]

/- Allocate and free a whole window again and again. -/
def sweeps
    (n : Nat) : List Call :=
  (List.range n).flatMap wholeWindow

/-
  A device whose budgets are whole windows. Nothing is in use
  on the first target, but the cursor has moved as far as
  some windows reach.
-/
structure Swept
    (d : Device)
    (n : Nat) : Prop where
  page : d.page = .usual
  budget : ∀ t, (d.windows t).capacity = windowStride
  used : d.used .generic = 0
  next :
    (d.windows .generic).next = windowBase + windowStride * n

theorem swept_fresh :
    (fresh .usual fun _ => windowStride).Swept 0 :=
  ⟨rfl, fun _ => rfl, rfl, rfl⟩

/- Windows consist of whole pages. -/
theorem Swept.up_next
    {d : Device}
    {n : Nat}
    (h : d.Swept n) :
    d.page.up (d.windows .generic).next =
      windowBase + windowStride * n := by
  rw [h.page, h.next]
  simp only [PageSize.up, PageSize.usual, Word.alignUp,
    windowBase, windowStride]
  omega

/- As long as addresses are words, a whole window is free. -/
theorem Swept.admits
    {d : Device}
    {n : Nat}
    (h : d.Swept n)
    (hEnd :
      windowBase + windowStride * (n + 1) < Word.limit) :
    d.Admits .generic [windowStride] := by
  have hBudget : d.IsBudgeted := fun t =>
    Nat.le_of_eq (h.budget t)
  apply admits_of_room hBudget
  · exact List.cons_ne_nil _ _
  · decide
  · unfold HasRoom
    rw [h.used, h.budget]
    decide
  · unfold HasAddresses
    rw [h.up_next]
    simpa [Nat.mul_add, Nat.add_assoc] using hEnd

/- One more window is swept. -/
theorem Swept.again
    {d : Device}
    {n : Nat}
    (h : d.Swept n)
    (hEnd :
      windowBase + windowStride * (n + 1) < Word.limit) :
    (Run.after step (wholeWindow n) d).Swept (n + 1) := by
  have hAllocate :
      step (.allocate .generic .uncached [windowStride]) d =
        d.grown .generic .uncached [windowStride] := by
    apply step_of_ok
    rw [perform,
      allocate_eq_ok_iff.mpr ⟨h.admits hEnd, rfl, rfl⟩]
    rfl
  have hCarved :
      d.carvedBy .generic .uncached [windowStride] =
        [(0, ⟨windowBase + windowStride * n, windowStride,
          .generic, .uncached⟩)] := by
    simp only [carvedBy, h.up_next, carve, Nat.add_zero]
  have hFound :
      (d.grown .generic .uncached [windowStride]).region?
          (windowBase + windowStride * n) =
        some
          ⟨d.files.next, 0, windowStride, .generic, .uncached,
            0, false⟩ := by
    simp only [grown, hCarved, region?, enter, lookup_put,
      if_true, liveOf, Table.insert]
  let region : Region :=
    ⟨windowBase + windowStride * n, windowStride, .generic,
      .uncached⟩
  have hRegion :
      (d.grown .generic .uncached [windowStride]).region?
          region.addr = _ := hFound
  rcases free_entry hRegion rfl with ⟨d', hFree, hUsed, _⟩
  rcases free_ok hFree with ⟨_, _, hUpdated⟩
  have hRun : Run.after step (wholeWindow n) d = d' := by
    simp only [Run.after, wholeWindow, List.foldl_cons,
      List.foldl_nil, hAllocate]
    apply step_of_ok
    rw [perform, hFree]
    rfl
  rw [hRun]
  constructor
  · exact hUpdated.page.trans h.page
  · intro t
    rw [hUpdated.capacities, capacity_grown, h.budget]
  · rw [hUsed, used_grown, h.used]
    simp
  · rw [hUpdated.cursors, next_grown, if_pos rfl, h.up_next]
    simp [Nat.mul_add, Nat.add_assoc]

/- As long as addresses are words, windows can be swept. -/
theorem swept_sweeps
    (n : Nat)
    (hEnd : windowBase + windowStride * n < Word.limit) :
    (Run.after step (sweeps n)
      (fresh .usual fun _ => windowStride)).Swept n := by
  induction n with
  | zero => exact swept_fresh
  | succ n ih =>
      have hSplit :
          sweeps (n + 1) = sweeps n ++ wholeWindow n := by
        simp [sweeps, List.range_succ]
      have hBefore :
          windowBase + windowStride * n < Word.limit :=
        Nat.lt_of_le_of_lt
          (Nat.add_le_add_left
            (Nat.mul_le_mul_left _ (Nat.le_succ n)) _)
          hEnd
      rw [hSplit, Run.after_append]
      exact (ih hBefore).again hEnd

end Device

namespace Allocator

/- A platform whose budgets are whole windows, swept. -/
def sweptPlatform
    (n : Nat) : Platform :=
  { Platform.fresh fun _ => Device.windowStride with
    device :=
      Run.after Device.step (Device.sweeps n)
        (Device.fresh .usual fun _ => Device.windowStride) }

theorem swept_sweptPlatform
    (n : Nat)
    (hEnd :
      Device.windowBase + Device.windowStride * n <
        Word.limit) :
    (sweptPlatform n).device.Swept n :=
  Device.swept_sweeps n hEnd

/- A whole window in two parts. -/
def wholeInTwo : List SegmentSpec :=
  [⟨"head", Device.windowStride - Device.windowBase⟩,
   ⟨"tail", Device.windowBase⟩]

theorem wholeInTwo_proper : Layout.Proper wholeInTwo := by
  constructor <;> decide +kernel

theorem size_wholeInTwo :
    Layout.size wholeInTwo = Device.windowStride := by
  decide +kernel

/- Behind the last window that has addresses none is left. -/
theorem allocSegments_of_swept
    {n : Nat}
    (hSwept : m.device.Swept n)
    (hCalm : m.faults = FaultPlan.none)
    (hEnd :
      Word.limit ≤
        Device.windowBase + Device.windowStride * (n + 1)) :
    m.device.IsBudgeted ∧
      m.device.HasRoom .generic (Layout.size wholeInTwo) ∧
      ∃ m',
        (⟨"a", .segmented⟩ : Allocator).allocSegments
            (.ofTarget .generic) wholeInTwo m =
          (.error .overflow, m') := by
  have hBudget : m.device.IsBudgeted := fun t =>
    Nat.le_of_eq (hSwept.budget t)
  have hRoom :
      m.device.HasRoom .generic (Layout.size wholeInTwo) := by
    unfold Device.HasRoom
    rw [hSwept.used, hSwept.budget, size_wholeInTwo]
    exact Nat.le_of_eq (Nat.zero_add _)
  have hFar :
      ¬ m.device.HasAddresses .generic
        (Layout.size wholeInTwo) := by
    unfold Device.HasAddresses
    rw [hSwept.up_next, size_wholeInTwo]
    rw [Nat.mul_succ] at hEnd
    omega
  exact
    ⟨hBudget, hRoom,
      allocateLayout_of_far hCalm hBudget wholeInTwo_proper
        hRoom hFar⟩

/-
  Nothing is at fault with a layout of a whole window, and
  there is room for it. Where the addresses end it does not
  become a buffer.
-/
theorem last_window_overflows :
    let m := sweptPlatform (2 ^ 28 - 1)
    m.faults = FaultPlan.none ∧
      Layout.Proper wholeInTwo ∧
      m.device.IsBudgeted ∧
      m.device.HasRoom .generic (Layout.size wholeInTwo) ∧
      ∃ m',
        (⟨"a", .segmented⟩ : Allocator).allocSegments
            (.ofTarget .generic) wholeInTwo m =
          (.error .overflow, m') := by
  have hSwept :=
    swept_sweptPlatform (2 ^ 28 - 1) (by decide +kernel)
  exact
    ⟨rfl, wholeInTwo_proper,
      allocSegments_of_swept hSwept rfl (by decide +kernel)⟩

end Allocator

end Offload
