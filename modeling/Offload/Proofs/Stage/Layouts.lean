import Offload.Dispatch.Dispatcher
import Offload.Proofs.Memory.Allocations
import Offload.Proofs.Memory.PoolOperations

/-
  Which layouts of its outputs a stage can have.

  A configuration, a pool and an allocator each look at the
  layout of the outputs. What the configuration lets pass
  the pool takes, and the allocator takes it as well as long
  as it has no more segments than the allocator can give a
  buffer. That number is not among the things that a
  configuration looks at.

  Key definitions include:
    * `Error.OfDevice`
    * `AllocatorKind.most`
    * `OutputLayout.Sound`
    * `OutputLayout.allocatorIn`
    * `PoolPlan.Accepted`

  Main results:
    * `StageConfig.sound_of_validate`
    * `StageResources.prepare_ok`
    * `PoolPlan.accepted_iff`
    * `StageConfig.outputs_accepted_iff`
    * `StageConfig.crowded_opens_runtime`
-/

namespace Offload

------------------------------------------------------------
-- Errors of Devices
------------------------------------------------------------

/-
  The errors a device answers allocating and mapping with,
  and the end of its addresses.
-/
inductive Error.OfDevice : Error → Prop where
  | exhausted
      (target : MemoryTarget) (size : Nat) (reason : String) :
      OfDevice (.allocationFailed target size reason)
  | unmapped (reason : String) :
      OfDevice (.mappingFailed reason)
  | unfiled (cause : SystemFault) :
      OfDevice (.system cause)
  | overflow : OfDevice .overflow

/- No device error is about an argument. -/
theorem Error.OfDevice.ne_invalidArgument
    {e : Error}
    (h : e.OfDevice)
    (text : String) : e ≠ .invalidArgument text := by
  cases h with
  | exhausted target size reason => exact Error.noConfusion
  | unmapped reason => exact Error.noConfusion
  | unfiled cause => exact Error.noConfusion
  | overflow => exact Error.noConfusion

------------------------------------------------------------
-- Checked Layouts
------------------------------------------------------------

namespace Layout

/-
  A configuration and an allocator find the same segments at
  fault.
-/
theorem firstFault_eq_none_iff
    (seen : List String)
    (layout : List SegmentSpec) :
    firstFault seen layout = none ↔
      StageConfig.badSegment? seen layout = none := by
  induction layout generalizing seen with
  | nil => simp [firstFault, StageConfig.badSegment?]
  | cons spec rest ih =>
      unfold firstFault StageConfig.badSegment? segmentFault
      by_cases hSize : spec.size = 0
      · simp [hSize]
      by_cases hName : spec.name = ""
      · simp [hSize, hName]
      by_cases hSeen : spec.name ∈ seen
      · simp [hSize, hName, hSeen]
      · simp [hSize, hName, hSeen, ih]

end Layout

------------------------------------------------------------
-- Layouts of Outputs
------------------------------------------------------------

/- The most segments an allocator can give a buffer. -/
def AllocatorKind.most : AllocatorKind → Nat
  | .contiguous => 1
  | .segmented => SegmentSpec.maxCount

theorem AllocatorKind.one_le_most
    (kind : AllocatorKind) : 1 ≤ kind.most := by
  cases kind <;> decide

theorem AllocatorKind.most_le
    (kind : AllocatorKind) :
    kind.most ≤ SegmentSpec.maxCount := by
  cases kind <;> decide

namespace OutputLayout

/- The segments of an output buffer. -/
def specs : OutputLayout → List SegmentSpec
  | .single size => [⟨SegmentSpec.parentName, size⟩]
  | .segments specs => specs

/- The allocator of a layout once it is asked for. -/
def allocatorIn
    (layout : OutputLayout)
    (r : Registry) : Allocator :=
  if layout.isSegmented then
    (r.get? Registry.segmentName).getD
      ⟨Registry.segmentName, .segmented⟩
  else
    (r.get? Registry.contiguousName).getD
      ⟨Registry.contiguousName, .contiguous⟩

/-
  What a configuration makes sure of: there are segments,
  none is at fault, and their sizes add up to a word.
-/
structure Sound
    (layout : OutputLayout) : Prop where
  inhabited : layout.specs ≠ []
  faultless : Layout.firstFault [] layout.specs = none
  fits :
    Word.total (layout.specs.map SegmentSpec.size) <
      Word.limit

theorem sizes_eq
    (layout : OutputLayout) :
    layout.sizes = layout.specs.map SegmentSpec.size := by
  cases layout <;> rfl

/- Layouts that are sound are what a pool makes of them. -/
theorem Sound.layoutOf_eq
    {layout : OutputLayout}
    (h : layout.Sound) :
    Pool.layoutOf layout.names layout.sizes =
      layout.specs := by
  cases layout with
  | single size => rfl
  | segments specs =>
      have hNames : (specs.map SegmentSpec.name) ≠ [] :=
        fun hNil => h.inhabited (List.map_eq_nil_iff.mp hNil)
      unfold Pool.layoutOf names sizes
      rw [if_neg (by simpa using hNames)]
      simp [OutputLayout.specs, List.zipWith_map]

end OutputLayout

namespace StageConfig

/- Nothing is wrong with a configuration that is valid. -/
theorem faults_of_validate
    {c : StageConfig}
    (hValid : c.validate = .ok ()) :
    c.outputFault = none ∧ c.batchFault = none ∧
      c.timeoutFault = none ∧ c.acceleratorFault = none ∧
        c.vectorFault = none := by
  unfold validate at hValid
  cases hFault : c.fault with
  | some e => simp [hFault] at hValid
  | none =>
      unfold fault at hFault
      split at hFault
      · cases hFault
      · simpa using hFault

/- There is always a buffer to hand out. -/
theorem outputBufferCount_pos
    (c : StageConfig) : 0 < c.outputBufferCount := by
  unfold outputBufferCount
  split
  · decide
  · rename_i hEnough
    exact Nat.lt_of_lt_of_le (by decide) (Nat.not_lt.mp hEnough)

/- What a valid configuration says of its outputs. -/
theorem sound_of_validate
    {c : StageConfig}
    (hValid : c.validate = .ok ())
    (hWord : c.output.totalSize < Word.limit) :
    c.output.Sound := by
  have hFault := (faults_of_validate hValid).1
  unfold outputFault at hFault
  cases hOutput : c.output with
  | single size =>
      rw [hOutput] at hFault hWord
      have hSize : size ≠ 0 := by
        intro hZero
        simp [hZero] at hFault
      refine ⟨List.cons_ne_nil _ _, ?_, hWord⟩
      simp [OutputLayout.specs, Layout.firstFault,
        Layout.segmentFault, hSize, SegmentSpec.parentName]
  | segments specs =>
      simp only [hOutput] at hFault
      split at hFault
      · cases hFault
      · rename_i hSpecs
        split at hFault
        · cases hFault
        · rename_i hBad
          split at hFault
          · cases hFault
          · rename_i total hSum
            refine ⟨?_, ?_, ?_⟩
            · exact fun hNil =>
                hSpecs (List.isEmpty_iff.mpr hNil)
            · exact (Layout.firstFault_eq_none_iff _ _).mpr hBad
            · unfold Word.sum? Word.check at hSum
              split at hSum
              · assumption
              · cases hSum

end StageConfig

------------------------------------------------------------
-- Allocations
------------------------------------------------------------

theorem Device.map_ofDevice
    {d : Device}
    {region : Region}
    {e : Error}
    (h : d.map region = .error e) : e.OfDevice := by
  unfold map at h
  split at h
  · cases h
    exact .unmapped _
  · cases h

theorem Device.place_ofDevice
    {d : Device}
    {target : MemoryTarget}
    {total : Nat}
    {e : Error}
    (h : d.place target total = .error e) : e.OfDevice := by
  unfold place at h
  dsimp only at h
  split at h
  · cases h
    exact .overflow
  · split at h
    · cases h
      exact .unfiled _
    · split at h
      · cases h
        exact .overflow
      · cases h

/- Sizes that are not at fault can only be too large. -/
theorem Device.allocate_ofDevice
    {d : Device}
    {target : MemoryTarget}
    {cache : CachePolicy}
    {sizes : List Nat}
    {e : Error}
    (hSizes : sizes ≠ [])
    (hZero : 0 ∉ sizes)
    (hTotal : Word.total sizes < Word.limit)
    (h : d.allocate target cache sizes = .error e) :
    e.OfDevice := by
  unfold allocate Word.sum? Word.check at h
  rw [if_neg (by simp [hSizes, hZero]), if_pos hTotal] at h
  dsimp only at h
  split at h
  · split at h
    · rename_i hPlace
      cases h
      exact place_ofDevice hPlace
    · cases h
  · cases h
    exact .exhausted _ _ _

namespace Platform

variable {α : Type}

/- What fails behind a look for a failure. -/
theorem pass_bind_error
    {call : DeviceCall}
    {x : Op Error Platform α}
    {m : Platform}
    {e : Error}
    (h : ((pass call >>= fun _ => x) m).1 = .error e) :
    e = injected call ∨ (x (m.struck call)).1 = .error e := by
  simp only [bind, Op.bind] at h
  rcases pass_cases call m with hRefused | hPassed
  · rw [hRefused] at h
    cases h
    exact Or.inl rfl
  · rw [hPassed] at h
    exact Or.inr h

theorem call_error
    {f : Device → Except Error (α × Device)}
    {m : Platform}
    {e : Error}
    (h : (call f m).1 = .error e) : f m.device = .error e := by
  simp only [call, Op.change] at h
  cases hDevice : f m.device with
  | error cause =>
      rw [hDevice] at h
      cases h
      rfl
  | ok p =>
      rw [hDevice] at h
      cases h

theorem map_ofDevice
    {region : Region}
    {m : Platform}
    {e : Error}
    (h : (map region m).1 = .error e) : e.OfDevice := by
  rcases pass_bind_error h with rfl | hCall
  · exact .unmapped _
  · exact Device.map_ofDevice (call_error hCall)

/-
  How an allocation of sizes that are not at fault can end,
  on a device that never answers with nothing.
-/
theorem allocate_ends
    {target : MemoryTarget}
    {cache : CachePolicy}
    {sizes : List Nat}
    {m m' : Platform}
    {answer : Except Error (List Region)}
    (hSizes : sizes ≠ [])
    (hZero : 0 ∉ sizes)
    (hTotal : Word.total sizes < Word.limit)
    (hSpare : m.faults .allocEmpty = [])
    (hRun :
      allocate target cache sizes m = (answer, m')) :
    (∀ e, answer = .error e → e.OfDevice) ∧
      ∀ regions, answer = .ok regions →
        regions.length = sizes.length := by
  rw [allocate_of_spared hSpare] at hRun
  constructor
  · rintro e rfl
    rcases pass_bind_error (congrArg Prod.fst hRun) with
      rfl | hCall
    · exact .unmapped _
    · exact
        Device.allocate_ofDevice hSizes hZero hTotal
          (call_error hCall)
  · rintro regions rfl
    have hCalled :=
      Called.of_pass
        (call_called fun d => d.allocate target cache sizes)
        .alloc m
    rw [hRun] at hCalled
    cases hCalled with
    | answered _ hDone =>
        have hSame := congrArg List.length
          (Device.sizes_carve
            (m.device.page.up
              (m.device.windows target).next)
            target cache sizes 0)
        rw [(Device.allocate_answer hDone).1, List.length_map]
        rw [List.length_map] at hSame
        exact hSame

end Platform

theorem Handle.map_ofDevice
    {h : Handle}
    {m : Platform}
    {e : Error}
    (hError : (h.map m).1 = .error e) : e.OfDevice := by
  unfold map at hError
  cases hMapping : h.mapping with
  | some _ =>
      rw [hMapping] at hError
      cases hError
  | none =>
      simp only [hMapping, bind, Op.bind] at hError
      rcases hRun : Platform.map h.region m with
        ⟨cause | mapping, m'⟩
      · rw [hRun] at hError
        cases hError
        exact Platform.map_ofDevice (congrArg Prod.fst hRun)
      · rw [hRun] at hError
        cases hError

/- Segments of a right number only fail to be mapped. -/
theorem Buffer.assemble_ofDevice
    {segments : List Segment}
    {flags : MemoryFlags}
    {m : Platform}
    {e : Error}
    (hSegments : segments ≠ [])
    (hCount : segments.length ≤ SegmentSpec.maxCount)
    (hError : (assemble segments flags m).1 = .error e) :
    e.OfDevice := by
  cases segments with
  | nil => exact absurd rfl hSegments
  | cons parent rest =>
      simp only [assemble, if_neg (Nat.not_lt.mpr hCount),
        bind, Op.bind, Op.attempt] at hError
      rcases hMap : parent.handle.map m with ⟨cause | h, m'⟩
      · have hFailed :=
          Op.run_bind_of_ok
            (releaseAll_ok (ε := Error) (parent :: rest) m')
            fun _ => (Op.fail cause : Op Error _ Buffer)
        simp only [bind] at hFailed
        simp only [hMap, hFailed] at hError
        cases hError
        exact Handle.map_ofDevice (congrArg Prod.fst hMap)
      · simp only [hMap] at hError
        cases hError

namespace Allocator

/- A layout that passes its check fails on the device only. -/
theorem allocateLayout_ofDevice
    {flags : MemoryFlags}
    {layout : List SegmentSpec}
    {m : Platform}
    {e : Error}
    (hFault : Layout.fault layout = none)
    (hSpare : m.faults .allocEmpty = [])
    (hError : (allocateLayout flags layout m).1 = .error e) :
    e.OfDevice := by
  have hProper :=
    (Layout.fault_eq_none_iff_proper layout).mp hFault
  have hSizes := hProper.sizes_ne_nil
  have hZero := hProper.zero_not_mem
  have hCheck : Layout.check layout = .ok () := by
    unfold Layout.check
    rw [hFault]
  simp only [allocateLayout, bind, Op.bind, Op.ofExcept,
    Op.attempt, hCheck] at hError
  rcases hAllocate :
      Platform.allocate flags.target flags.cache
        (layout.map SegmentSpec.size) m with
    ⟨cause | regions, m'⟩
  · rcases Platform.allocate_ends hSizes hZero hProper.fits
      hSpare hAllocate with ⟨hEnds, _⟩
    rw [hAllocate] at hError
    cases hError
    exact hEnds _ rfl
  · rcases Platform.allocate_ends hSizes hZero hProper.fits
      hSpare hAllocate with ⟨_, hLength⟩
    have hSame :
        (segmentsOf regions layout).length =
          layout.length := by
      have hRegions := hLength regions rfl
      rw [List.length_map] at hRegions
      simp [segmentsOf, hRegions]
    have hMade : segmentsOf regions layout ≠ [] := by
      intro hNil
      rw [hNil] at hSame
      exact
        hProper.inhabited
          (List.length_eq_zero_iff.mp hSame.symm)
    rw [hAllocate] at hError
    simp only [Op.bind, Op.attempt] at hError
    rcases hAssemble :
        Buffer.assemble (segmentsOf regions layout) flags m'
      with ⟨cause | b, m''⟩
    · rw [hAssemble] at hError
      cases hError
      exact
        Buffer.assemble_ofDevice hMade (hSame ▸ hProper.few)
          (congrArg Prod.fst hAssemble)
    · rw [hAssemble] at hError
      cases hError

end Allocator

------------------------------------------------------------
-- Pools of Outputs
------------------------------------------------------------

namespace OutputLayout

/- The plan of a pool for a layout. -/
def planFor
    (layout : OutputLayout)
    (allocator : Allocator)
    (flags : MemoryFlags)
    (count : Nat) : PoolPlan where
  name := allocator.name ++ "-pool"
  allocator := allocator
  flags := flags
  layout := layout.specs
  isNamed := layout.isSegmented
  least := count
  most := count

/- A pool that was just made. -/
def poolFor
    (layout : OutputLayout)
    (allocator : Allocator)
    (flags : MemoryFlags)
    (count : Nat) : Pool where
  plan := layout.planFor allocator flags count
  active := false
  idle := []
  allocated := 0
  acquisitions := 0
  waits := 0

variable {layout : OutputLayout}

/- A pool can be made for every layout that is sound. -/
theorem Sound.create_ok
    (h : layout.Sound)
    (allocator : Allocator)
    (flags : MemoryFlags)
    {count : Nat}
    (hCount : 0 < count) :
    Pool.create allocator count count flags layout.sizes
        layout.names =
      .ok (layout.poolFor allocator flags count) := by
  have hSizes : layout.sizes ≠ [] := by
    rw [sizes_eq]
    exact fun hNil => h.inhabited (List.map_eq_nil_iff.mp hNil)
  have hSum : Word.sum? layout.sizes ≠ none := by
    rw [sizes_eq, Word.sum?, Word.check, if_pos h.fits]
    exact Option.some_ne_none _
  have hNamed : (!layout.names.isEmpty) = layout.isSegmented := by
    cases layout with
    | single size => rfl
    | segments specs =>
        have hSpecs : specs ≠ [] := h.inhabited
        simp [names, isSegmented, hSpecs]
  have hFault :
      Pool.requestFault count count layout.sizes
        layout.names = none := by
    unfold Pool.requestFault
    rw [if_neg (by omega), if_neg (by simpa using hSizes),
      if_neg, if_neg]
    · cases hTotal : Word.sum? layout.sizes with
      | none => exact absurd hTotal hSum
      | some total => rfl
    · cases layout with
      | single size => simp [sizes]
      | segments specs =>
          have hSpecs : specs ≠ [] := h.inhabited
          simp [names, hSpecs]
    · cases layout with
      | single size => simp [names]
      | segments specs => simp [names, sizes]
  simp only [Pool.create, hFault, h.layoutOf_eq, hNamed]
  rfl

end OutputLayout

namespace PoolPlan

/-
  Whether nothing but the device can make an allocation of a
  pool fail, on a device that never answers with nothing.
-/
def Accepted
    (plan : PoolPlan) : Prop :=
  ∀ m : Platform, m.faults .allocEmpty = [] →
    ∀ e, (plan.allocate m).1 = .error e → e.OfDevice

variable {layout : OutputLayout}

/- A pool whose allocator can give buffers enough segments. -/
theorem allocate_of_le
    {allocator : Allocator}
    (hSound : layout.Sound)
    (hCount : layout.specs.length ≤ allocator.kind.most)
    (flags : MemoryFlags)
    (count : Nat) :
    (layout.planFor allocator flags count).allocate =
      Allocator.allocateLayout flags layout.specs := by
  unfold allocate
  cases layout with
  | single size => rfl
  | segments specs =>
      change allocator.allocSegments flags specs = _
      unfold Allocator.allocSegments
      cases hKind : allocator.kind with
      | segmented => rfl
      | contiguous =>
          rw [hKind] at hCount
          have hOne : specs.length = 1 := by
            have hPos :=
              List.length_pos_iff.mpr hSound.inhabited
            change specs.length ≤ 1 at hCount
            change 0 < specs.length at hPos
            omega
          exact if_pos hOne

/- A pool whose allocator cannot refuses every allocation. -/
theorem allocate_of_lt
    {allocator : Allocator}
    (hCount : allocator.kind.most < layout.specs.length)
    (flags : MemoryFlags)
    (count : Nat)
    (m : Platform) :
    ∃ text,
      ((layout.planFor allocator flags count).allocate m).1 =
        .error (.invalidArgument text) := by
  unfold allocate
  cases layout with
  | single size =>
      exact
        absurd hCount
          (Nat.not_lt.mpr allocator.kind.one_le_most)
  | segments specs =>
      change
        ∃ text,
          (allocator.allocSegments flags specs m).1 =
            .error (.invalidArgument text)
      unfold Allocator.allocSegments
      cases hKind : allocator.kind with
      | contiguous =>
          rw [hKind] at hCount
          have hMany : ¬ specs.length = 1 :=
            Nat.ne_of_gt hCount
          simp only [if_neg hMany]
          exact ⟨_, rfl⟩
      | segmented =>
          rw [hKind] at hCount
          cases hFault : Layout.fault specs with
          | none =>
              have hFits :=
                ((Layout.fault_eq_none_iff specs).mp
                  hFault).2.2.2
              exact absurd hFits (Nat.not_le.mpr hCount)
          | some text =>
              exact
                ⟨text, congrArg Prod.fst
                  (Allocator.allocateLayout_refused hFault m)⟩

/-
  The allocations of a pool of outputs are accepted exactly
  if the allocator can give a buffer as many segments as the
  layout has.
-/
theorem accepted_iff
    (hSound : layout.Sound)
    (allocator : Allocator)
    (flags : MemoryFlags)
    (count : Nat) :
    (layout.planFor allocator flags count).Accepted ↔
      layout.specs.length ≤ allocator.kind.most := by
  constructor
  · intro hAccepted
    by_contra hCount
    let m := Platform.fresh Device.defaultCapacity
    rcases allocate_of_lt (Nat.not_le.mp hCount) flags count m
      with ⟨text, hError⟩
    exact (hAccepted m rfl _ hError).ne_invalidArgument text rfl
  · intro hCount m hSpare e hError
    rw [allocate_of_le hSound hCount] at hError
    have hMost :=
      Nat.le_trans hCount allocator.kind.most_le
    have hFault :=
      (Layout.fault_eq_none_iff layout.specs).mpr
        ⟨hSound.inhabited, hSound.faultless, hSound.fits,
          hMost⟩
    exact
      Allocator.allocateLayout_ofDevice hFault hSpare hError

end PoolPlan

------------------------------------------------------------
-- Preparing a Stage
------------------------------------------------------------

/- The allocator that a name stands for from now on. -/
theorem Registry.getOrCreate_run
    {ε : Type}
    (name : String)
    (make : Allocator)
    (s : Registry × Platform) :
    ∃ isNew t,
      (getOrCreate name make :
          Op ε (Registry × Platform) (Bool × Allocator)) s =
        (.ok (isNew, (s.1.get? name).getD make), t) ∧
        t.2.device = s.2.device := by
  simp only [getOrCreate, bind, Op.bind, Op.get]
  cases s.1.get? name with
  | some a => exact ⟨_, _, rfl, rfl⟩
  | none => exact ⟨_, _, rfl, rfl⟩

namespace StageResources

/- The allocator that a stage gets for its outputs. -/
theorem allocatorFor_run
    {ε : Type}
    (layout : OutputLayout)
    (m : Machine) :
    ∃ m',
      (allocatorFor layout : Op ε Machine Allocator) m =
          (.ok (layout.allocatorIn m.registry), m') ∧
        m'.platform.device = m.platform.device := by
  unfold allocatorFor OutputLayout.allocatorIn
  simp only [Machine.onRegistry, Op.within]
  cases layout.isSegmented with
  | true =>
      rcases Registry.getOrCreate_run (ε := ε)
          Registry.segmentName
          ⟨Registry.segmentName, .segmented⟩
          (m.registry, m.platform) with
        ⟨isNew, t, hRun, hDevice⟩
      simp only [if_true, Registry.segmented, bind, Op.bind,
        Lens.both, Machine.registryPart,
        Machine.platformPart, hRun]
      exact ⟨_, rfl, hDevice⟩
  | false =>
      rcases Registry.getOrCreate_run (ε := ε)
          Registry.contiguousName
          ⟨Registry.contiguousName, .contiguous⟩
          (m.registry, m.platform) with
        ⟨isNew, t, hRun, hDevice⟩
      simp only [Bool.false_eq_true, if_false,
        Registry.contiguous, bind, Op.bind, Lens.both,
        Machine.registryPart, Machine.platformPart, hRun]
      exact ⟨_, rfl, hDevice⟩

/-
  The resources of a stage whose layout is sound can always
  be prepared, and nothing is allocated for it.
-/
theorem prepare_ok
    {c : StageConfig}
    (hSound : c.output.Sound)
    (m : Machine) :
    ∃ r m' key,
      prepare c m = (.ok r, m') ∧ r.pool = some key ∧
        m'.pools.get? key =
          some (c.output.poolFor
            (c.output.allocatorIn m.registry) c.outputFlags
            c.outputBufferCount) ∧
        m'.platform.device = m.platform.device := by
  rcases allocatorFor_run (ε := Error) c.output
      (Machine.logged c.bufferWarning m) with
    ⟨m', hAllocator, hDevice⟩
  have hRegistry :
      (Machine.logged c.bufferWarning m).registry =
        m.registry := by
    cases c.bufferWarning <;> rfl
  have hSame :
      (Machine.logged c.bufferWarning m).platform.device =
        m.platform.device := by
    cases c.bufferWarning <;> rfl
  rw [hRegistry] at hAllocator
  rw [hSame] at hDevice
  have hCreate :=
    hSound.create_ok (c.output.allocatorIn m.registry)
      c.outputFlags c.outputBufferCount_pos
  simp only [prepare, preparePool, bind, Op.bind,
    Machine.logMaybe, Op.modify, hAllocator, Op.ofExcept,
    hCreate]
  refine ⟨_, _, _, rfl, rfl, ?_, hDevice⟩
  exact List.lookup_cons_self

end StageResources

------------------------------------------------------------
-- Accepted Outputs
------------------------------------------------------------

namespace StageConfig

/-
  A stage that is valid gets a pool, and nothing is
  allocated for it yet. Exactly if the allocator of the pool
  can give buffers as many segments as the layout has, its
  allocations fail on the device only; otherwise each of
  them is refused as an invalid argument.
-/
theorem outputs_accepted_iff
    {c : StageConfig}
    (hValid : c.validate = .ok ())
    (hWord : c.output.totalSize < Word.limit)
    (m : Machine) :
    ∃ r m' key pool,
      StageResources.prepare c m = (.ok r, m') ∧
        r.pool = some key ∧
        m'.pools.get? key = some pool ∧
        m'.platform.device = m.platform.device ∧
        pool.plan.layout = c.output.specs ∧
        (pool.plan.Accepted ↔
          c.output.specs.length ≤
            (c.output.allocatorIn m.registry).kind.most) ∧
        ((c.output.allocatorIn m.registry).kind.most <
            c.output.specs.length →
          ∀ platform, ∃ text,
            (pool.plan.allocate platform).1 =
              .error (.invalidArgument text)) := by
  have hSound := sound_of_validate hValid hWord
  rcases StageResources.prepare_ok hSound m with
    ⟨r, m', key, hPrepare, hPool, hRow, hDevice⟩
  refine
    ⟨r, m', key, _, hPrepare, hPool, hRow, hDevice, rfl, ?_,
      ?_⟩
  · exact PoolPlan.accepted_iff hSound _ _ _
  · intro hCount platform
    exact PoolPlan.allocate_of_lt hCount _ _ platform

/- A stage with outputs of so many segments. -/
def ofSegments
    (count : Nat) : StageConfig :=
  { StageConfig.of "stage" .host with
    output := .segments
      ((List.range count).map fun i => ⟨toString i, 64⟩) }

/- Sixteen segments are accepted. -/
theorem sixteen_accepted :
    (ofSegments 16).validate = .ok () ∧
      ∃ r m' key pool,
        StageResources.prepare (ofSegments 16)
            (Machine.fresh Device.defaultCapacity) =
          (.ok r, m') ∧
          r.pool = some key ∧
          m'.pools.get? key = some pool ∧
          pool.plan.Accepted := by
  have hValid : (ofSegments 16).validate = .ok () := by
    decide +kernel
  rcases outputs_accepted_iff hValid (by decide +kernel)
      (Machine.fresh Device.defaultCapacity) with
    ⟨r, m', key, pool, hPrepare, hPool, hRow, _, _, hIff, _⟩
  exact
    ⟨hValid, r, m', key, pool, hPrepare, hPool, hRow,
      hIff.mpr (by decide +kernel)⟩

/- A stage with seventeen segments that is not used yet. -/
def crowded : Dispatcher ScriptedRuntime × Machine :=
  (⟨ofSegments 17,
    ScriptedRuntime.create .host ⟨[], [], [], []⟩, none,
    .uninitialized, none⟩,
   Machine.fresh Device.defaultCapacity)

/-
  A configuration with seventeen segments is valid, but
  initializing the stage fails with an invalid argument, and
  only once its runtime was opened.
-/
theorem crowded_opens_runtime :
    (ofSegments 17).validate = .ok () ∧
      (Dispatcher.init crowded).1 =
        .error (.invalidArgument
          "17 segments requested, at most 16 allowed") ∧
      (Dispatcher.init crowded).2.1.runtime.calls.map
          RuntimeCall.method =
        ["init", "fini"] := by
  decide +kernel

end StageConfig

end Offload
