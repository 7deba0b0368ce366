import Offload.Proofs.Job.Bindings
import Offload.Proofs.Memory.PoolLife
import Offload.Proofs.Stage.Layouts

/-
  Jobs of an accelerator stage and the sizes of its outputs.

  A configuration compares what a job writes with a whole
  output buffer. A job is compared with the first region it
  writes, and that is the first segment of the buffer. The
  two agree for buffers of one segment; of others only those
  are of use whose first segment has room for everything.

  Key definitions include:
    * `OutputLayout.firstSize`
    * `StageConfig.jobOn`

  Main results:
    * `Job.primary_of_bindOutputs`
    * `AcceleratorRuntime.planBatch_of_room`
    * `AcceleratorRuntime.plans_iff`
    * `AcceleratorRuntime.split_outputs_refused`
-/

namespace Offload

------------------------------------------------------------
-- Bindings of a Job
------------------------------------------------------------

namespace Job

/-
  A job that has one binding to read, under another name
  than those of the segments, writes to the first segment
  before all others.
-/
theorem primary_of_bindOutputs
    {job : Job}
    {name : String}
    (input : Binding)
    {b : Buffer}
    (hNone : job.bindings = [])
    (hNodup : b.names.Nodup)
    (hName : name ∉ b.names) :
    let bound := (job.bindInput name input).bindOutputs b
    bound.primaryInput? =
        some ⟨name, { input with direction := .input }⟩ ∧
      bound.primaryOutput? = some (outputOf b.parent) ∧
      bound.payload = job.payload := by
  have hNames :
      (b.segments.map outputOf).map NamedBinding.name =
        b.names := by
    rw [List.map_map]
    rfl
  have hFresh :
      ∀ m ∈ b.segments.map outputOf,
        m.name ∉
          (job.bindInput name input).bindings.map
            NamedBinding.name := by
    intro m hMem hBound
    have hSame : m.name = name := by
      simpa [bindInput, bind, hNone, place] using hBound
    rw [← hSame, ← hNames] at hName
    exact hName (List.mem_map_of_mem hMem)
  have hPlaced :=
    placeAll_of_fresh (by rw [hNames]; exact hNodup) hFresh
  have hBindings :=
    bindBy_eq (.outputs b) (job.bindInput name input)
  simp only [bindBy, BindCall.mentions, hPlaced] at hBindings
  have hOutputs : ∀ ss : List Segment,
      (ss.map outputOf).filter (isBoundAs .input) = [] := by
    intro ss
    rw [List.filter_eq_nil_iff]
    intro x hMem
    rcases List.mem_map.mp hMem with ⟨s, _, rfl⟩
    exact Bool.false_ne_true
  rw [hBindings]
  refine ⟨?_, ?_, rfl⟩
  · simp [primaryInput?, inputs, bindInput, bind, hNone,
      place, isBoundAs]
  · simp [primaryOutput?, outputs, bindInput, bind, hNone,
      place, Buffer.segments, outputOf, isBoundAs,
      Binding.ofSegment]

end Job

------------------------------------------------------------
-- Batches between Two Bindings
------------------------------------------------------------

namespace AcceleratorRuntime

variable {shape : BatchShape}
variable (input output : Binding)

/- A batch that both bindings have room for is planned. -/
theorem planBatch_of_room
    (hBatch : shape.batchSize ≠ 0)
    (hModel : shape.batchModel ≠ 0)
    (hInput : shape.batchSize * shape.inSize ≤ input.size)
    (hOutput : shape.batchSize * shape.outSize ≤ output.size)
    (hInputEnd :
      input.addr + shape.batchSize * shape.inSize <
        Word.limit)
    (hOutputEnd :
      output.addr + shape.batchSize * shape.outSize <
        Word.limit) :
    ∃ runs, planBatch shape input output = .ok runs := by
  have hAddressable :
      (⟨shape, input.addr, output.addr⟩ :
        BatchSpec).isAddressable = true := by
    simp [BatchSpec.isAddressable, BatchSpec.rangeEnd,
      BatchSpec.inputBytes, BatchSpec.outputBytes, Word.mul?,
      Word.add?, Word.check, hInputEnd, hOutputEnd,
      Nat.lt_of_le_of_lt (Nat.le_add_left _ _) hInputEnd,
      Nat.lt_of_le_of_lt (Nat.le_add_left _ _) hOutputEnd]
  have hPlan :
      ∃ runs,
        (⟨shape, input.addr, output.addr⟩ :
          BatchSpec).plan = .ok runs := by
    unfold BatchSpec.plan
    rw [if_neg (not_or.mpr ⟨hBatch, hModel⟩),
      if_neg (by rw [hAddressable]; exact Bool.false_ne_true)]
    split
    · exact ⟨_, rfl⟩
    · split
      · exact ⟨_, rfl⟩
      · exact ⟨_, rfl⟩
  rcases hPlan with ⟨runs, hRuns⟩
  refine ⟨runs, ?_⟩
  simp only [planBatch, BatchSpec.inputBytes,
    BatchSpec.outputBytes, Word.mul?, Word.check,
    if_pos (Nat.lt_of_le_of_lt (Nat.le_add_left _ _)
      hInputEnd),
    if_pos (Nat.lt_of_le_of_lt (Nat.le_add_left _ _)
      hOutputEnd),
    if_neg (not_or.mpr
      ⟨Nat.not_lt.mpr hInput, Nat.not_lt.mpr hOutput⟩),
    hRuns]

/- A batch that a binding is too small for is malformed. -/
theorem planBatch_of_short
    (hOutput : output.size < shape.batchSize * shape.outSize) :
    ∃ refusal,
      planBatch shape input output = .error refusal ∧
        refusal.cause = .malformedJob := by
  simp only [planBatch]
  split
  · rename_i needIn needOut _ hOut
    have hNeed : needOut = shape.batchSize * shape.outSize := by
      simp only [BatchSpec.outputBytes, Word.mul?,
        Word.check] at hOut
      split at hOut
      · exact (Option.some.inj hOut).symm
      · cases hOut
    rw [if_pos (Or.inr (hNeed ▸ hOutput))]
    exact ⟨_, rfl, rfl⟩
  · exact ⟨_, rfl, rfl⟩

end AcceleratorRuntime

------------------------------------------------------------
-- Jobs of a Stage
------------------------------------------------------------

/- The size of the first segment of an output buffer. -/
def OutputLayout.firstSize
    (layout : OutputLayout) : Nat :=
  (layout.sizes.head?).getD 0

/- A buffer of a layout has the layout's first segment. -/
theorem OutputLayout.firstSize_eq
    {layout : OutputLayout}
    {b : Buffer}
    (h : b.layout = layout.specs) :
    layout.firstSize = b.parent.size := by
  unfold firstSize
  rw [sizes_eq, ← h]
  rfl

namespace StageConfig

/-
  The job of a stage that reads one binding and writes to a
  buffer.
-/
def jobOn
    (c : StageConfig)
    (id : RequestId)
    (name : String)
    (input : Binding)
    (b : Buffer) : Job :=
  ((Job.ofConfig c id).bindInput name input).bindOutputs b

/- What a valid accelerator stage says of its batches. -/
theorem batch_of_validate
    {c : StageConfig}
    (hValid : c.validate = .ok ()) :
    c.batch.batchSize ≠ 0 ∧ c.batch.batchModel ≠ 0 := by
  have hFault := (faults_of_validate hValid).2.1
  unfold batchFault at hFault
  split at hFault
  · cases hFault
  · rename_i hBatch
    exact not_or.mp hBatch

end StageConfig

/-
  The buffers that the pool of a valid stage hands out, in
  whatever order threads use it, have the stage's layout.
-/
theorem StageConfig.layout_of_out
    {c : StageConfig}
    (hSound : c.output.Sound)
    {m m' : Machine}
    {r : StageResources}
    {key : Nat}
    {pool : Pool}
    (hPrepare : StageResources.prepare c m = (.ok r, m'))
    (hKey : r.pool = some key)
    (hRow : m'.pools.get? key = some pool)
    (platform : Platform)
    (es : List BackedPool.Event)
    {s : BackedPool}
    (hState :
      s ∈ Run.states BackedPool.step es
        (BackedPool.of pool platform))
    {b : Buffer}
    (hOut : b ∈ s.shared.out) : b.layout = c.output.specs := by
  rcases StageResources.prepare_ok hSound m with
    ⟨r', m'', key', hRun, hKey', hRow', _⟩
  rw [hPrepare] at hRun
  cases hRun
  rw [hKey] at hKey'
  cases hKey'
  rw [hRow] at hRow'
  cases hRow'
  have hBacked :=
    BackedPool.backed_run
      (hSound.create_ok _ _ c.outputBufferCount_pos)
      platform es s hState
  rw [(hBacked.1.lawful.shaped b hOut).2, hBacked.2]
  rfl

/- The segments of an output buffer have names of their own. -/
theorem OutputLayout.Sound.nodup_names
    {layout : OutputLayout}
    (h : layout.Sound)
    {b : Buffer}
    (hLayout : b.layout = layout.specs) : b.names.Nodup := by
  have hNames : b.names = b.layout.map SegmentSpec.name := by
    simp [Buffer.names, Buffer.layout, Segment.spec]
  rw [hNames, hLayout]
  exact ((Layout.firstFault_none_iff _ _).mp h.faultless).2

namespace AcceleratorRuntime

/-
  A job of an accelerator stage is planned as a batch from
  the binding it reads to the first segment of its buffer.
-/
theorem plan_jobOn
    {c : StageConfig}
    (hDomain : c.domain = .accelerator)
    {runtime : AcceleratorRuntime}
    {model : UInt64}
    (hModel : runtime.model = some model)
    (id : RequestId)
    {name : String}
    {b : Buffer}
    (hNodup : b.names.Nodup)
    (hName : name ∉ b.names)
    (input : Binding) :
    runtime.plan (c.jobOn id name input b) =
      (planBatch c.batch { input with direction := .input }
          (.ofSegment b.parent .output)).map
        fun runs => (model, runs) := by
  have hUnbound : (Job.ofConfig c id).bindings = [] := rfl
  rcases Job.primary_of_bindOutputs input hUnbound hNodup
      hName with
    ⟨hPrimary, hWritten, hPayload⟩
  have hOwn :
      (c.jobOn id name input b).payload =
        .accelerator none c.batch := by
    change Job.payload _ = _ at hPayload
    unfold StageConfig.jobOn
    rw [hPayload]
    simp only [Job.ofConfig, Payload.ofConfig, hDomain]
  unfold plan
  rw [hOwn]
  simp only [Option.orElse_eq_orElse, Option.orElse, hModel]
  rw [StageConfig.jobOn, hPrimary, hWritten]
  rfl

/-
  A job of a valid accelerator stage, which reads as much as
  the stage says and writes to a buffer of the stage's pool,
  is planned exactly if all it writes fits into the first
  segment of the buffer; otherwise it is malformed.
-/
theorem plans_iff
    {c : StageConfig}
    (hDomain : c.domain = .accelerator)
    (hValid : c.validate = .ok ())
    (hWord : c.output.totalSize < Word.limit)
    {m m' : Machine}
    {r : StageResources}
    {key : Nat}
    {pool : Pool}
    (hPrepare : StageResources.prepare c m = (.ok r, m'))
    (hKey : r.pool = some key)
    (hRow : m'.pools.get? key = some pool)
    (platform : Platform)
    (es : List BackedPool.Event)
    {s : BackedPool}
    (hState :
      s ∈ Run.states BackedPool.step es
        (BackedPool.of pool platform))
    {b : Buffer}
    (hOut : b ∈ s.shared.out)
    (hEnd : b.addr + b.size < Word.limit)
    {runtime : AcceleratorRuntime}
    {model : UInt64}
    (hModel : runtime.model = some model)
    (id : RequestId)
    {name : String}
    (hName : name ∉ b.names)
    {input : Binding}
    (hInput :
      c.batch.batchSize * c.batch.inSize ≤ input.size)
    (hInputEnd :
      input.addr + c.batch.batchSize * c.batch.inSize <
        Word.limit) :
    ((∃ runs,
        runtime.plan (c.jobOn id name input b) =
          .ok (model, runs)) ↔
      c.batch.batchSize * c.batch.outSize ≤
        c.output.firstSize) ∧
    ((∃ refusal,
        runtime.plan (c.jobOn id name input b) =
            .error refusal ∧
          refusal.cause = .malformedJob) ↔
      c.output.firstSize <
        c.batch.batchSize * c.batch.outSize) := by
  have hSound := StageConfig.sound_of_validate hValid hWord
  have hLayout :=
    StageConfig.layout_of_out hSound hPrepare hKey hRow
      platform es hState hOut
  have hNodup := hSound.nodup_names hLayout
  let read : Binding := { input with direction := .input }
  let written : Binding := .ofSegment b.parent .output
  have hPlan :
      runtime.plan (c.jobOn id name input b) =
        (planBatch c.batch read written).map
          fun runs => (model, runs) :=
    plan_jobOn hDomain hModel id hNodup hName input
  have hBatch := StageConfig.batch_of_validate hValid
  have hFirst := OutputLayout.firstSize_eq hLayout
  have hWithin : b.parent.size ≤ b.size := Nat.le_add_right _ _
  have hReads :
      c.batch.batchSize * c.batch.inSize ≤ read.size := hInput
  rw [hPlan, hFirst]
  rcases Nat.lt_or_ge b.parent.size
      (c.batch.batchSize * c.batch.outSize) with
    hShort | hRoom
  · rcases planBatch_of_short read written hShort with
      ⟨refusal, hRefused, hCause⟩
    rw [hRefused]
    refine
      ⟨⟨?_, fun hRoom => absurd hRoom (Nat.not_le.mpr hShort)⟩,
        ⟨fun _ => hShort, fun _ => ⟨refusal, rfl, hCause⟩⟩⟩
    rintro ⟨_, hRuns⟩
    cases hRuns
  · have hWrittenEnd :=
      Nat.lt_of_le_of_lt
        (Nat.add_le_add_left (Nat.le_trans hRoom hWithin)
          b.addr)
        hEnd
    rcases planBatch_of_room read written hBatch.1 hBatch.2
        hReads hRoom hInputEnd hWrittenEnd with
      ⟨runs, hRuns⟩
    rw [hRuns]
    refine
      ⟨⟨fun _ => hRoom, fun _ => ⟨runs, rfl⟩⟩,
        ⟨?_, fun hShort =>
          absurd hRoom (Nat.not_le.mpr hShort)⟩⟩
    rintro ⟨_, hRefused, _⟩
    cases hRefused

/-
  An accelerator stage that makes eight bytes per job, with
  outputs of two segments.
-/
def twoSegments
    (first second : Nat) : StageConfig :=
  { StageConfig.of "stage" .accelerator with
    output := .segments [⟨"first", first⟩, ⟨"second", second⟩]
    modelPath := some "model"
    batch := ⟨1, 1, 4, 8⟩ }

/- A mapped buffer of such a stage in a page of its own. -/
def pageOf
    (first second page : Nat) : Buffer :=
  let addr := Device.windowBase + page * PageSize.usual.bytes
  ⟨⟨"first",
      ⟨⟨addr, first, .generic, .uncached⟩, .allocated,
        some ⟨page, page, 0, PageSize.usual.bytes, 0⟩⟩⟩,
    [⟨"second",
      ⟨⟨addr + first, second, .generic, .uncached⟩,
        .allocated, none⟩⟩],
    MemoryFlags.of .generic .uncached⟩

/- Both buffers of a stage are made and one is taken. -/
def takeOne
    (first second : Nat) : List BackedPool.Event :=
  [.claim, .finish 0, .claim, .finish 0,
    .activate [pageOf first second 1, pageOf first second 0],
    .take]

/- An open runtime whose model is loaded. -/
def loaded : AcceleratorRuntime :=
  ⟨0, some 0x1000, some 0x1001, StageConfig.jobTimeout⟩

/- The job of a stage on one input and a taken buffer. -/
def sampleJob
    (c : StageConfig)
    (b : Buffer) : Job :=
  c.jobOn ⟨7⟩ "input" (.input 0x1000 4) b

/- A first segment of eight bytes has room for the job. -/
theorem roomy_outputs_planned :
    ∃ runs,
      loaded.plan
          (sampleJob (twoSegments 8 4) (pageOf 8 4 1)) =
        .ok (0x1001, runs) := by
  have hValid : (twoSegments 8 4).validate = .ok () := by
    decide +kernel
  have hWord :
      (twoSegments 8 4).output.totalSize < Word.limit := by
    decide +kernel
  rcases StageResources.prepare_ok
      (StageConfig.sound_of_validate hValid hWord)
      (Machine.fresh Device.defaultCapacity) with
    ⟨r, m', key, hPrepare, hKey, hRow, _⟩
  have hModel : loaded.model = some 0x1001 := rfl
  have hInput :
      (twoSegments 8 4).batch.batchSize *
          (twoSegments 8 4).batch.inSize ≤
        (Binding.input 0x1000 4).size := by
    decide +kernel
  exact
    (plans_iff rfl hValid hWord hPrepare hKey hRow
      (Platform.fresh Device.defaultCapacity) (takeOne 8 4)
      (Run.after_mem_states _ _) (b := pageOf 8 4 1)
      (by decide +kernel) (by decide +kernel) hModel ⟨7⟩
      (by decide +kernel) hInput (by decide +kernel)).1.mpr
    (by decide +kernel)

/-
  A stage whose two segments of four bytes have room for
  eight together is valid, but a job on a buffer from its
  pool is malformed.
-/
theorem split_outputs_refused :
    (twoSegments 4 4).validate = .ok () ∧
      ∃ r m' key pool,
        StageResources.prepare (twoSegments 4 4)
            (Machine.fresh Device.defaultCapacity) =
          (.ok r, m') ∧
          r.pool = some key ∧
          m'.pools.get? key = some pool ∧
          pageOf 4 4 1 ∈
            (Run.after BackedPool.step (takeOne 4 4)
              (BackedPool.of pool
                (Platform.fresh
                  Device.defaultCapacity))).shared.out ∧
          ∃ refusal,
            loaded.plan
                (sampleJob (twoSegments 4 4)
                  (pageOf 4 4 1)) =
              .error refusal ∧
            refusal.cause = .malformedJob := by
  have hValid : (twoSegments 4 4).validate = .ok () := by
    decide +kernel
  rcases StageResources.prepare_ok
      (StageConfig.sound_of_validate hValid
        (by decide +kernel))
      (Machine.fresh Device.defaultCapacity) with
    ⟨r, m', key, hPrepare, hKey, hRow, _⟩
  exact
    ⟨hValid, r, m', key, _, hPrepare, hKey, hRow,
      by decide +kernel, _, rfl, rfl⟩

end AcceleratorRuntime

end Offload
