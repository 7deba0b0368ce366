import Offload.Dispatch.Runtime.Accelerator
import Offload.Proofs.Dispatch.SampleCopies
import Offload.Proofs.Machine.RestingCalls

/-
  The runs that a batch is cut into.

  Whatever the shape of a batch, its runs taken together
  have each sample once and in order, and none has more
  samples than the model takes. The requests for such runs
  fit into frames, and firmware that knows the model counts
  them as runs.

  Key definitions include:
    * `ModelRun.pairs`
    * `ModelRun.Sized`
    * `BatchSpec.placeOf`
    * `BatchSpec.CutInto`
    * `BatchSpec.Planned`

  Main results:
    * `BatchSpec.plan_ok`
    * `BatchSpec.cutInto_of_plan`
    * `BatchSpec.CutInto.apart`
    * `AcceleratorRuntime.runRequest_ok`
-/

namespace Offload

------------------------------------------------------------
-- Runs
------------------------------------------------------------

namespace ModelRun

/- Where the samples of a run are read and written. -/
def pairs
    (run : ModelRun) : List (Nat × Nat) :=
  run.inputs.zip run.outputs

/- A run with two addresses for each of its few samples. -/
structure Sized
    (most : Nat)
    (run : ModelRun) : Prop where
  inputs : run.inputs.length = run.samples
  outputs : run.outputs.length = run.samples
  single : run.kind = .single → run.samples = 1
  few : run.samples ≤ most

end ModelRun

namespace BatchSpec

/- Where a sample is read and written. -/
def placeOf
    (s : BatchSpec)
    (i : Nat) : Nat × Nat :=
  (s.inputBase + i * s.shape.inSize,
    s.outputBase + i * s.shape.outSize)

theorem pairs_nativeRun
    (s : BatchSpec)
    (first count : Nat) :
    (s.nativeRun first count).pairs =
      (List.range' first count).map s.placeOf :=
  List.zip_map'

theorem sized_nativeRun
    (s : BatchSpec)
    (first : Nat)
    {count most : Nat}
    (hFew : count ≤ most) :
    (s.nativeRun first count).Sized most where
  inputs := by
    simp [nativeRun, addresses]
  outputs := by
    simp [nativeRun, addresses]
  single := fun hSingle => by cases hSingle
  few := hFew

/- The samples before one and those from it on. -/
theorem range_add
    (first count : Nat) :
    List.range (first + count) =
      List.range first ++ List.range' first count := by
  rw [List.range_eq_range', List.range_eq_range',
    ← List.range'_append_1, Nat.zero_add]

/- Full runs have the samples up to where they end. -/
theorem pairs_fullRuns
    (s : BatchSpec)
    (count : Nat) :
    (s.fullRuns count).flatMap ModelRun.pairs =
      (List.range (count * s.shape.batchModel)).map
        s.placeOf := by
  induction count with
  | zero => simp [fullRuns]
  | succ count ih =>
      have hRuns :
          s.fullRuns (count + 1) =
            s.fullRuns count ++
              [s.nativeRun (count * s.shape.batchModel)
                s.shape.batchModel] := by
        simp [fullRuns, List.range_succ]
      rw [hRuns, List.flatMap_append, ih,
        List.flatMap_singleton, pairs_nativeRun,
        Nat.succ_mul, range_add, List.map_append]

theorem fullRuns_ne_nil
    (s : BatchSpec)
    {count : Nat}
    (hSome : 0 < count) : s.fullRuns count ≠ [] := by
  simp only [fullRuns, ne_eq, List.map_eq_nil_iff,
    List.range_eq_nil]
  exact Nat.ne_of_gt hSome

/- A last run has the samples that full runs leave over. -/
theorem pairs_lastRun
    (s : BatchSpec) :
    s.lastRun.flatMap ModelRun.pairs =
      (List.range'
          (s.shape.batchSize / s.shape.batchModel *
            s.shape.batchModel)
          (s.shape.batchSize % s.shape.batchModel)).map
        s.placeOf := by
  simp only [lastRun]
  split
  · rw [List.flatMap_singleton, pairs_nativeRun]
  · rename_i hNone
    rw [Nat.eq_zero_of_not_pos hNone]
    rfl

theorem samples_fullRuns
    {s : BatchSpec}
    {count : Nat}
    {run : ModelRun}
    (hMem : run ∈ s.fullRuns count) :
    run.samples = s.shape.batchModel := by
  rcases List.mem_map.mp hMem with ⟨k, _, rfl⟩
  rfl

theorem sized_fullRuns
    (s : BatchSpec)
    {count : Nat}
    {run : ModelRun}
    (hMem : run ∈ s.fullRuns count) :
    run.Sized s.shape.batchModel := by
  rcases List.mem_map.mp hMem with ⟨k, _, rfl⟩
  exact s.sized_nativeRun _ (Nat.le_refl _)

theorem sized_lastRun
    {s : BatchSpec}
    (hModel : s.shape.batchModel ≠ 0)
    {run : ModelRun}
    (hMem : run ∈ s.lastRun) :
    run.Sized s.shape.batchModel := by
  simp only [lastRun] at hMem
  split at hMem
  · cases List.mem_singleton.mp hMem
    exact
      s.sized_nativeRun _
        (Nat.le_of_lt
          (Nat.mod_lt _ (Nat.pos_of_ne_zero hModel)))
  · cases hMem

/-
  Runs that together have all samples of a batch once and in
  order, at addresses that are words, none of them too
  large.
-/
structure CutInto
    (s : BatchSpec)
    (runs : List ModelRun) : Prop where
  some_run : runs ≠ []
  sized :
    ∀ run ∈ runs,
      run.Sized (min s.shape.batchSize s.shape.batchModel)
  pairs :
    runs.flatMap ModelRun.pairs =
      (List.range s.shape.batchSize).map s.placeOf
  input_end :
    s.inputBase + s.shape.batchSize * s.shape.inSize <
      Word.limit
  output_end :
    s.outputBase + s.shape.batchSize * s.shape.outSize <
      Word.limit

theorem rangeEnd_isSome_iff
    {base a b : Nat} :
    (rangeEnd base (Word.mul? a b)).isSome = true ↔
      base + a * b < Word.limit := by
  unfold rangeEnd Word.mul? Word.check
  by_cases hProduct : a * b < Word.limit
  · rw [if_pos hProduct, Option.bind_some, Word.add?,
      Word.check]
    split
    · rename_i hEnd
      exact iff_of_true rfl hEnd
    · rename_i hEnd
      exact iff_of_false Bool.false_ne_true hEnd
  · rw [if_neg hProduct, Option.bind_none]
    exact iff_of_false Bool.false_ne_true (by omega)

/- Both ranges of a batch end at addresses that are words. -/
structure InRange
    (s : BatchSpec) : Prop where
  input :
    s.inputBase + s.shape.batchSize * s.shape.inSize <
      Word.limit
  output :
    s.outputBase + s.shape.batchSize * s.shape.outSize <
      Word.limit

theorem isAddressable_iff
    {s : BatchSpec} : s.isAddressable = true ↔ s.InRange := by
  rw [isAddressable, Bool.and_eq_true, inputBytes, outputBytes,
    rangeEnd_isSome_iff, rangeEnd_isSome_iff]
  exact ⟨fun h => ⟨h.1, h.2⟩, fun h => ⟨h.input, h.output⟩⟩

/- The forms that the runs of a batch can have. -/
inductive Planned
    (s : BatchSpec) : List ModelRun → Prop
  where
  | single :
      s.shape.batchSize = 1 →
        Planned s
          [⟨.single, 1, [s.inputBase], [s.outputBase]⟩]
  | native :
      1 < s.shape.batchSize →
        s.shape.batchSize ≤ s.shape.batchModel →
          Planned s [s.nativeRun 0 s.shape.batchSize]
  | full :
      s.shape.batchModel < s.shape.batchSize →
        Planned s
          (s.fullRuns
              (s.shape.batchSize / s.shape.batchModel) ++
            s.lastRun)

/- A plan has one of the forms there are. -/
theorem plan_ok
    {s : BatchSpec}
    {runs : List ModelRun}
    (hPlan : s.plan = .ok runs) :
    s.shape.batchSize ≠ 0 ∧ s.shape.batchModel ≠ 0 ∧
      s.InRange ∧ s.Planned runs := by
  unfold plan at hPlan
  split at hPlan
  · cases hPlan
  rename_i hPositive
  rcases not_or.mp hPositive with ⟨hSize, hModel⟩
  split at hPlan
  · cases hPlan
  rename_i hAddressable
  rw [Bool.not_eq_true, Bool.not_eq_false', isAddressable_iff]
    at hAddressable
  refine ⟨hSize, hModel, hAddressable, ?_⟩
  split at hPlan
  · rename_i hOne
    cases hPlan
    exact .single hOne
  rename_i hSome
  split at hPlan
  · rename_i hSmall
    cases hPlan
    exact .native (by omega) hSmall
  · rename_i hLarge
    cases hPlan
    exact .full (Nat.lt_of_not_le hLarge)

/- A plan cuts the batch into runs. -/
theorem cutInto_of_plan
    {s : BatchSpec}
    {runs : List ModelRun}
    (hPlan : s.plan = .ok runs) : s.CutInto runs := by
  rcases plan_ok hPlan with ⟨hSize, hModel, hRange, hPlanned⟩
  cases hPlanned with
  | single hOne =>
      refine
        ⟨List.cons_ne_nil _ _, ?_, ?_, hRange.input,
          hRange.output⟩
      · rw [List.forall_mem_singleton]
        exact ⟨rfl, rfl, fun _ => rfl, by simp only; omega⟩
      · rw [hOne]
        simp [ModelRun.pairs, placeOf]
  | native hMany hSmall =>
      refine
        ⟨List.cons_ne_nil _ _, ?_, ?_, hRange.input,
          hRange.output⟩
      · rw [List.forall_mem_singleton]
        exact s.sized_nativeRun 0 (by omega)
      · rw [List.flatMap_singleton, pairs_nativeRun,
          List.range_eq_range']
  | full hLarge =>
      have hFull :
          0 < s.shape.batchSize / s.shape.batchModel :=
        Nat.div_pos (Nat.le_of_lt hLarge)
          (Nat.pos_of_ne_zero hModel)
      have hSamples :
          s.shape.batchSize =
            s.shape.batchSize / s.shape.batchModel *
                s.shape.batchModel +
              s.shape.batchSize % s.shape.batchModel :=
        (Nat.div_add_mod' _ _).symm
      refine ⟨?_, ?_, ?_, hRange.input, hRange.output⟩
      · exact
          List.append_ne_nil_of_left_ne_nil
            (s.fullRuns_ne_nil hFull) _
      · rw [Nat.min_eq_right (Nat.le_of_lt hLarge)]
        intro run hMem
        rcases List.mem_append.mp hMem with hFullRun | hLast
        · exact sized_fullRuns s hFullRun
        · exact sized_lastRun hModel hLast
      · rw [List.flatMap_append, pairs_fullRuns,
          pairs_lastRun, ← List.map_append, ← range_add,
          ← hSamples]

/- The samples are written to places apart. -/
theorem CutInto.apart
    {s : BatchSpec}
    {runs : List ModelRun}
    (hCut : s.CutInto runs)
    {count : Nat}
    (hCount : count ≤ s.shape.outSize) :
    (runs.flatMap ModelRun.pairs).Pairwise fun p q =>
      p.2 + count ≤ q.2 ∨ q.2 + count ≤ p.2 := by
  rw [hCut.pairs, List.pairwise_map]
  refine List.pairwise_lt_range.imp ?_
  intro i j hLess
  apply Or.inl
  have hNext :
      (i + 1) * s.shape.outSize ≤ j * s.shape.outSize :=
    Nat.mul_le_mul_right _ hLess
  rw [Nat.succ_mul] at hNext
  simp only [placeOf]
  omega

/- The samples of a plan lie at addresses that are words. -/
theorem CutInto.words
    {s : BatchSpec}
    {runs : List ModelRun}
    (hCut : s.CutInto runs)
    {p : Nat × Nat}
    (hMem : p ∈ runs.flatMap ModelRun.pairs) :
    p.1 < Word.limit ∧ p.2 < Word.limit := by
  rw [hCut.pairs] at hMem
  rcases List.mem_map.mp hMem with ⟨i, hRange, rfl⟩
  have hIndex : i < s.shape.batchSize :=
    List.mem_range.mp hRange
  have hIn :=
    Nat.mul_le_mul_right s.shape.inSize (Nat.le_of_lt hIndex)
  have hOut :=
    Nat.mul_le_mul_right s.shape.outSize (Nat.le_of_lt hIndex)
  have hInputEnd := hCut.input_end
  have hOutputEnd := hCut.output_end
  simp only [placeOf]
  omega

end BatchSpec

------------------------------------------------------------
-- Requests for Runs
------------------------------------------------------------

namespace ModelRun

/- The record that firmware makes of a run. -/
def recordOf
    (model : UInt64)
    (opcode : Opcode)
    (run : ModelRun) : RunRecord :=
  ⟨opcode, model, run.samples,
    run.inputs.map UInt64.ofNat,
    run.outputs.map UInt64.ofNat⟩

/- Addresses that are words come through as they are. -/
theorem pairs_recordOf
    {run : ModelRun}
    (hWords :
      ∀ p ∈ run.pairs, p.1 < Word.limit ∧ p.2 < Word.limit)
    (model : UInt64)
    (opcode : Opcode) :
    ((run.recordOf model opcode).inputs.zip
        (run.recordOf model opcode).outputs).map
        Firmware.placesOf =
      run.pairs := by
  simp only [recordOf, List.zip_map, List.map_map]
  refine (List.map_congr_left ?_).trans (List.map_id _)
  intro p hMem
  have hPlace := hWords p hMem
  exact
    Prod.ext (UInt64.toNat_ofNat_of_lt' hPlace.1)
      (UInt64.toNat_ofNat_of_lt' hPlace.2)

end ModelRun

namespace Firmware

variable {f : Firmware}
variable {opcode : Opcode}
variable {params : List Param}
variable {record : RunRecord}

/- Firmware counts a run or says why it does not. -/
theorem consider_run
    (hRun : runOf opcode params = some record)
    (files : FileTree)
    (seq : UInt64)
    (p : Platform) :
    consider files
        { Request.of opcode params with seq := seq } (f, p) =
      ((countRun opcode params f).map fun r => .run r.1,
        (match countRun opcode params f with
          | .ok r => r.2
          | .error _ => f, p)) := by
  have hOpcode :
      opcode = .runModel ∨ opcode = .runBatchModel := by
    unfold runOf at hRun
    split at hRun
    · exact Or.inl rfl
    · exact Or.inr rfl
    · cases hRun
  rcases hOpcode with rfl | rfl
  · simp only [consider, Request.of, bind, Op.bind,
      Op.within, Lens.fst, Op.change]
    cases countRun .runModel params f <;> rfl
  · simp only [consider, Request.of, bind, Op.bind,
      Op.within, Lens.fst, Op.change]
    cases countRun .runBatchModel params f <;> rfl

/-
  Firmware that knows the model of a well-formed run counts
  the run.
-/
theorem considers_run
    (hRun : runOf opcode params = some record)
    (hComplete : isComplete record = true)
    (hModel : f.hasModel record.model = true) :
    f.Considers (Request.of opcode params)
      (.ok (.run record)) { f with runs := f.runs + 1 } where
  considered := by
    intro files seq p
    have hCount :
        countRun opcode params f =
          .ok (record, { f with runs := f.runs + 1 }) := by
      simp only [countRun, hRun, hModel, hComplete,
        Bool.not_true, Bool.false_eq_true, if_false]
    rw [consider_run hRun, hCount]
    rfl
  bare := fun _ h => by cases h

/- Firmware refuses runs of models that it does not know. -/
theorem considers_unknown
    (hRun : runOf opcode params = some record)
    (hModel : f.hasModel record.model = false) :
    f.Considers (Request.of opcode params)
      (.error badValue) f where
  considered := by
    intro files seq p
    have hCount :
        countRun opcode params f = .error badValue := by
      simp only [countRun, hRun, hModel, Bool.not_false,
        if_true]
    rw [consider_run hRun, hCount]
    rfl
  bare := fun _ h => by cases h

/- Nothing is done to wait for firmware that has answered. -/
theorem considers_wait
    (f : Firmware) :
    f.Considers (Request.of .waitDone []) (.ok (.answer []))
      f where
  considered := fun _ _ _ => rfl
  bare := by
    intro outputs h
    cases h
    rfl

/- The record of a run has an address for each sample. -/
theorem isComplete_recordOf
    {run : ModelRun}
    {most : Nat}
    (hSized : run.Sized most)
    (model : UInt64)
    (opcode : Opcode) :
    isComplete (run.recordOf model opcode) = true := by
  simp [isComplete, ModelRun.recordOf, hSized.inputs,
    hSized.outputs]

end Firmware

/- The most bytes of data that an argument has. -/
def Param.dataBound : Param → Nat
  | .bytes b => b.length
  | .addrs as => 8 * as.length + 7
  | _ => 0

theorem Param.length_data_le
    (position : Nat)
    (p : Param) : (p.data position).length ≤ p.dataBound := by
  cases p with
  | word n => exact Nat.le_refl 0
  | long n => exact Nat.le_refl 0
  | bytes b => exact Nat.le_refl b.length
  | addrs as =>
      simp only [data, dataBound, List.length_append,
        length_addrBytes, Bytes.zeros, List.length_replicate,
        Word.padding, Word.alignUp]
      omega

theorem Param.length_dataOf_le
    (position : Nat)
    (params : List Param) :
    (format.dataOf position params).length ≤
      (params.map dataBound).sum := by
  induction params generalizing position with
  | nil => exact Nat.le_refl 0
  | cons p rest ih =>
      rw [CellFormat.dataOf, List.length_append, List.map_cons,
        List.sum_cons]
      exact Nat.add_le_add (p.length_data_le position) (ih _)

/- The archive of a request has little beside its data. -/
theorem Request.archiveSize_le
    (r : Request) :
    r.archiveSize ≤
      (r.params.map Param.dataBound).sum +
        16 * r.params.length + 38 := by
  have hData := Param.length_dataOf_le 0 r.params
  have hCell : Param.format.size = 16 := rfl
  simp only [archiveSize, CellFormat.archiveSize, hCell,
    Word.alignUp, CellFormat.align]
  omega

theorem Request.archiveSize_lt
    {r : Request}
    (hFew : r.params.length ≤ 4)
    (hData :
      (r.params.map Param.dataBound).sum ≤ 0x4000_0100) :
    r.archiveSize < Archive.offsetLimit := by
  have hSize := r.archiveSize_le
  unfold Archive.offsetLimit
  omega

namespace AcceleratorRuntime

/-
  The request for a run of few samples is one that firmware
  can count, and it fits into a frame.
-/
theorem runRequest_ok
    {run : ModelRun}
    {most : Nat}
    (hSized : run.Sized most)
    (hMost : most ≤ 0x400_0000)
    (model : UInt64) :
    ∃ opcode params,
      runRequest model run = .ok (opcode, params) ∧
        Firmware.runOf opcode params =
            some (run.recordOf model opcode) ∧
          Firmware.isComplete
              (run.recordOf model opcode) = true ∧
            (Request.of opcode params).archiveSize <
              Archive.offsetLimit := by
  have hFew := hSized.few
  have hIns := hSized.inputs
  have hOuts := hSized.outputs
  have hComplete :=
    Firmware.isComplete_recordOf hSized model
  cases hKind : run.kind with
  | single =>
      refine
        ⟨.runModel, _, by simp only [runRequest, hKind]; rfl,
          ?_, hComplete _, Request.archiveSize_lt ?_ ?_⟩
      · simp only [Firmware.runOf, ModelRun.recordOf,
          hSized.single hKind]
      · simp [Request.of]
      · simp [Request.of, Param.dataBound, hIns, hOuts]
        omega
  | native =>
      have hWord : run.samples < 0x1_0000_0000 := by omega
      have hNumber :
          (UInt32.ofNat run.samples).toNat = run.samples :=
        UInt32.toNat_ofNat_of_lt' hWord
      refine
        ⟨.runBatchModel, _, by
            simp only [runRequest, hKind, if_pos hWord]
            rfl,
          ?_, hComplete _, Request.archiveSize_lt ?_ ?_⟩
      · simp only [Firmware.runOf, ModelRun.recordOf,
          hNumber]
      · simp [Request.of]
      · simp [Request.of, Param.dataBound, hIns, hOuts]
        omega

end AcceleratorRuntime

end Offload
