import Offload.Proofs.Dispatch.BatchPlans

/-
  When there is a plan for a batch, and what it looks like.

  A batch without samples has no plan, and neither has one
  whose ranges cannot be addressed. Any other batch has one:
  its runs list all samples in order, and all runs but the
  last one are full. As the ranges were looked at before, no
  sum and no product in the making of a plan leaves a word.

  Key definitions include:
    * `BatchSpec.Overflows`
    * `BatchSpec.Lists`
    * `BatchSpec.plan?`

  Main results:
    * `BatchSpec.lists_of_plan`
    * `BatchSpec.plan?_eq`
    * `BatchSpec.plan_exact`
-/

namespace Offload

namespace BatchSpec

variable {s : BatchSpec}
variable {runs : List ModelRun}

------------------------------------------------------------
-- Refusals
------------------------------------------------------------

/- No samples are asked for, or the model takes none. -/
def IsEmpty
    (s : BatchSpec) : Prop :=
  s.shape.batchSize = 0 ∨ s.shape.batchModel = 0

/-
  The bytes of the samples are more than a word can say, or
  a range ends above the last address.
-/
def Overflows
    (s : BatchSpec) : Prop :=
  Word.limit ≤ s.shape.batchSize * s.shape.inSize ∨
    Word.limit ≤ s.shape.batchSize * s.shape.outSize ∨
      Word.limit ≤
          s.inputBase +
            s.shape.batchSize * s.shape.inSize ∨
        Word.limit ≤
          s.outputBase +
            s.shape.batchSize * s.shape.outSize

theorem inRange_iff_not_overflows :
    s.InRange ↔ ¬ s.Overflows := by
  constructor
  · rintro ⟨hInput, hOutput⟩ hOver
    unfold Overflows at hOver
    omega
  · intro hNot
    unfold Overflows at hNot
    exact ⟨by omega, by omega⟩

theorem plan_of_isEmpty
    (hEmpty : s.IsEmpty) :
    s.plan = .error .invalidArgument :=
  if_pos hEmpty

theorem plan_of_overflows
    (hSome : ¬ s.IsEmpty)
    (hOver : s.Overflows) :
    s.plan = .error .malformedJob := by
  have hNot : ¬ s.isAddressable = true := fun hRange =>
    inRange_iff_not_overflows.mp
      (isAddressable_iff.mp hRange) hOver
  refine (if_neg hSome).trans ?_
  rw [Bool.eq_false_iff.mpr hNot]
  rfl

theorem exists_plan
    (hSome : ¬ s.IsEmpty)
    (hNot : ¬ s.Overflows) :
    ∃ runs, s.plan = .ok runs := by
  have hRange : s.isAddressable = true :=
    isAddressable_iff.mpr (inRange_iff_not_overflows.mpr hNot)
  have hPlan :
      s.plan =
        if s.shape.batchSize = 1 then
          .ok [⟨.single, 1, [s.inputBase], [s.outputBase]⟩]
        else if s.shape.batchSize ≤ s.shape.batchModel then
          .ok [s.nativeRun 0 s.shape.batchSize]
        else
          .ok (s.fullRuns
              (s.shape.batchSize / s.shape.batchModel)
            ++ s.lastRun) := by
    refine (if_neg hSome).trans ?_
    rw [hRange]
    rfl
  rw [hPlan]
  split
  · exact ⟨_, rfl⟩
  · split <;> exact ⟨_, rfl⟩

theorem plan_eq_invalidArgument_iff :
    s.plan = .error .invalidArgument ↔ s.IsEmpty := by
  refine ⟨fun hPlan => ?_, plan_of_isEmpty⟩
  by_contra hSome
  by_cases hOver : s.Overflows
  · rw [plan_of_overflows hSome hOver] at hPlan
    cases hPlan
  · rcases exists_plan hSome hOver with ⟨runs, hOk⟩
    rw [hOk] at hPlan
    cases hPlan

theorem plan_eq_malformedJob_iff :
    s.plan = .error .malformedJob ↔
      ¬ s.IsEmpty ∧ s.Overflows := by
  constructor
  · intro hPlan
    have hSome : ¬ s.IsEmpty := by
      intro hEmpty
      rw [plan_of_isEmpty hEmpty] at hPlan
      cases hPlan
    refine ⟨hSome, ?_⟩
    by_contra hNot
    rcases exists_plan hSome hNot with ⟨runs, hOk⟩
    rw [hOk] at hPlan
    cases hPlan
  · rintro ⟨hSome, hOver⟩
    exact plan_of_overflows hSome hOver

------------------------------------------------------------
-- Lists of Samples
------------------------------------------------------------

/-
  Runs that list the addresses of all samples in order. All
  but the last one take as many samples as the model does.
-/
structure Lists
    (s : BatchSpec)
    (runs : List ModelRun) : Prop where
  some_run : runs ≠ []
  inputs :
    runs.flatMap ModelRun.inputs =
      (List.range s.shape.batchSize).map fun i =>
        s.inputBase + i * s.shape.inSize
  outputs :
    runs.flatMap ModelRun.outputs =
      (List.range s.shape.batchSize).map fun i =>
        s.outputBase + i * s.shape.outSize
  lengths :
    ∀ run ∈ runs,
      run.inputs.length = run.samples ∧
        run.outputs.length = run.samples
  full :
    ∀ run ∈ runs.dropLast,
      run.samples = s.shape.batchModel
  last :
    ∀ run ∈ runs.getLast?,
      1 ≤ run.samples ∧ run.samples ≤ s.shape.batchModel
  kinds :
    ∀ run ∈ runs,
      run.kind = .single ↔ s.shape.batchSize = 1

/- The pairs of runs have what the runs have. -/
theorem unzip_pairs
    (hSame :
      ∀ run ∈ runs,
        run.inputs.length = run.outputs.length) :
    (runs.flatMap ModelRun.pairs).map Prod.fst =
        runs.flatMap ModelRun.inputs ∧
      (runs.flatMap ModelRun.pairs).map Prod.snd =
        runs.flatMap ModelRun.outputs := by
  rw [List.map_flatMap, List.map_flatMap]
  constructor
  · refine List.flatMap_congr ?_
    intro run hMem
    exact List.map_fst_zip (Nat.le_of_eq (hSame run hMem))
  · refine List.flatMap_congr ?_
    intro run hMem
    exact
      List.map_snd_zip (Nat.le_of_eq (hSame run hMem).symm)

/- What full runs leave over is nothing or a smaller run. -/
theorem lastRun_cases
    (s : BatchSpec) :
    s.lastRun = [] ∨
      ∃ first,
        s.lastRun =
            [s.nativeRun first
              (s.shape.batchSize % s.shape.batchModel)] ∧
          0 < s.shape.batchSize % s.shape.batchModel := by
  by_cases hRest :
      0 < s.shape.batchSize % s.shape.batchModel
  · exact Or.inr ⟨_, if_pos hRest, hRest⟩
  · exact Or.inl (if_neg hRest)

theorem Planned.full_before_last
    (hPlanned : s.Planned runs) :
    ∀ run ∈ runs.dropLast,
      run.samples = s.shape.batchModel := by
  intro run hMem
  cases hPlanned with
  | single _ => cases hMem
  | native _ _ => cases hMem
  | full hLarge =>
      rcases s.lastRun_cases with hNone | ⟨_, hLast, _⟩
      · rw [hNone, List.append_nil] at hMem
        exact samples_fullRuns (List.dropLast_subset _ hMem)
      · rw [hLast, List.dropLast_concat] at hMem
        exact samples_fullRuns hMem

theorem Planned.last_not_empty
    (hPlanned : s.Planned runs)
    (hSome : ¬ s.IsEmpty) :
    ∀ run ∈ runs.getLast?,
      1 ≤ run.samples ∧
        run.samples ≤ s.shape.batchModel := by
  rcases not_or.mp hSome with ⟨hSize, hModel⟩
  intro run hMem
  cases hPlanned with
  | single hOne =>
      cases hMem
      exact ⟨Nat.le_refl 1, Nat.pos_of_ne_zero hModel⟩
  | native hMany hSmall =>
      cases hMem
      exact ⟨Nat.le_of_lt hMany, hSmall⟩
  | full hLarge =>
      rcases s.lastRun_cases with hNone | ⟨_, hLast, hRest⟩
      · rw [hNone, List.append_nil] at hMem
        rw [samples_fullRuns (List.mem_of_getLast? hMem)]
        exact ⟨Nat.pos_of_ne_zero hModel, Nat.le_refl _⟩
      · rw [hLast, List.getLast?_concat] at hMem
        cases hMem
        exact
          ⟨hRest,
            Nat.le_of_lt
              (Nat.mod_lt _ (Nat.pos_of_ne_zero hModel))⟩

theorem Planned.kinds
    (hPlanned : s.Planned runs)
    (hSome : ¬ s.IsEmpty) :
    ∀ run ∈ runs,
      run.kind = .single ↔ s.shape.batchSize = 1 := by
  rcases not_or.mp hSome with ⟨_, hModel⟩
  intro run hMem
  cases hPlanned with
  | single hOne =>
      cases List.mem_singleton.mp hMem
      exact iff_of_true rfl hOne
  | native hMany _ =>
      cases List.mem_singleton.mp hMem
      exact iff_of_false nofun (Nat.ne_of_gt hMany)
  | full hLarge =>
      have hNative : run.kind = .native := by
        rcases List.mem_append.mp hMem with hFull | hLast
        · rcases List.mem_map.mp hFull with ⟨_, _, rfl⟩
          rfl
        · rcases s.lastRun_cases with hNone | ⟨_, hOne, _⟩
          · rw [hNone] at hLast
            cases hLast
          · rw [hOne] at hLast
            cases List.mem_singleton.mp hLast
            rfl
      rw [hNative]
      exact iff_of_false nofun (by omega)

/- A plan lists the samples of its batch. -/
theorem lists_of_plan
    (hPlan : s.plan = .ok runs) : s.Lists runs := by
  rcases plan_ok hPlan with ⟨hSize, hModel, _, hPlanned⟩
  have hSome : ¬ s.IsEmpty := not_or.mpr ⟨hSize, hModel⟩
  have hCut := cutInto_of_plan hPlan
  have hPairs :=
    unzip_pairs fun run hMem =>
      (hCut.sized run hMem).inputs.trans
        (hCut.sized run hMem).outputs.symm
  rw [hCut.pairs, List.map_map, List.map_map] at hPairs
  constructor
  · exact hCut.some_run
  · exact hPairs.1.symm
  · exact hPairs.2.symm
  · intro run hMem
    exact
      ⟨(hCut.sized run hMem).inputs,
        (hCut.sized run hMem).outputs⟩
  · exact hPlanned.full_before_last
  · exact hPlanned.last_not_empty hSome
  · exact hPlanned.kinds hSome

------------------------------------------------------------
-- Plans in Words
------------------------------------------------------------

/- The numbers of a batch are words. -/
structure InWords
    (s : BatchSpec) : Prop where
  size : s.shape.batchSize < Word.limit
  model : s.shape.batchModel < Word.limit
  inSize : s.shape.inSize < Word.limit
  outSize : s.shape.outSize < Word.limit
  inputBase : s.inputBase < Word.limit
  outputBase : s.outputBase < Word.limit

/- The address of a sample, if it can be computed in words. -/
def address?
    (base stride i : Nat) : Option Nat :=
  (Word.mul? i stride).bind fun offset =>
    Word.add? base offset

/- The addresses of `count` samples, computed in words. -/
def addresses?
    (base stride first count : Nat) : Option (List Nat) :=
  (Word.add? first count).bind fun stop =>
    (List.range' first (stop - first)).mapM
      (address? base stride)

/- The run of `count` samples, computed in words. -/
def nativeRun?
    (s : BatchSpec)
    (first count : Nat) : Option ModelRun := do
  let inputs ←
    addresses? s.inputBase s.shape.inSize first count
  let outputs ←
    addresses? s.outputBase s.shape.outSize first count
  return ⟨.native, count, inputs, outputs⟩

/- The full run with a number, computed in words. -/
def fullRun?
    (s : BatchSpec)
    (k : Nat) : Option ModelRun := do
  let first ← Word.mul? k s.shape.batchModel
  s.nativeRun? first s.shape.batchModel

/- The run for what full runs leave over, in words. -/
def lastRun?
    (s : BatchSpec) : Option (List ModelRun) :=
  let full := s.shape.batchSize / s.shape.batchModel
  let rest := s.shape.batchSize % s.shape.batchModel
  if rest > 0 then do
    let first ← Word.mul? full s.shape.batchModel
    let run ← s.nativeRun? first rest
    return [run]
  else
    some []

/-
  Cut a batch into runs. There is no answer if any sum or
  product in between leaves a word.
-/
def plan?
    (s : BatchSpec) :
    Option (Except DispatchError (List ModelRun)) :=
  if s.shape.batchSize = 0 ∨ s.shape.batchModel = 0 then
    some (.error .invalidArgument)
  else if !s.isAddressable then
    some (.error .malformedJob)
  else if s.shape.batchSize = 1 then
    some (.ok [⟨.single, 1, [s.inputBase], [s.outputBase]⟩])
  else if s.shape.batchSize ≤ s.shape.batchModel then
    (s.nativeRun? 0 s.shape.batchSize).map fun run =>
      .ok [run]
  else do
    let full ←
      (List.range
        (s.shape.batchSize / s.shape.batchModel)).mapM
          s.fullRun?
    let last ← s.lastRun?
    return .ok (full ++ last)

theorem mapM_eq_some
    {α β : Type}
    {f : α → Option β}
    {g : α → β}
    {xs : List α}
    (h : ∀ x ∈ xs, f x = some (g x)) :
    xs.mapM f = some (xs.map g) := by
  induction xs with
  | nil => rfl
  | cons x rest ih =>
      rw [List.forall_mem_cons] at h
      rw [List.mapM_cons, h.1, ih h.2]
      rfl

theorem address?_eq
    {base stride count i : Nat}
    (hEnd : base + count * stride < Word.limit)
    (hIndex : i ≤ count) :
    address? base stride i = some (base + i * stride) := by
  have hOffset := Nat.mul_le_mul_right stride hIndex
  have hProduct :
      Word.mul? i stride = some (i * stride) :=
    if_pos (by omega)
  rw [address?, hProduct]
  exact if_pos (by omega)

theorem addresses?_eq
    {base stride size first count : Nat}
    (hEnd : base + size * stride < Word.limit)
    (hSize : size < Word.limit)
    (hPart : first + count ≤ size) :
    addresses? base stride first count =
      some (addresses base stride first count) := by
  have hStop :
      Word.add? first count = some (first + count) :=
    if_pos (by omega)
  rw [addresses?, hStop, Option.bind_some,
    Nat.add_sub_cancel_left]
  apply mapM_eq_some
  intro i hMem
  have hIndex := (List.mem_range'_1.mp hMem).2
  exact address?_eq hEnd (by omega)

/- A part of a batch in range is cut in words. -/
theorem nativeRun?_eq
    (hSize : s.shape.batchSize < Word.limit)
    (hRange : s.InRange)
    {first count : Nat}
    (hPart : first + count ≤ s.shape.batchSize) :
    s.nativeRun? first count =
      some (s.nativeRun first count) := by
  simp only [nativeRun?,
    addresses?_eq hRange.input hSize hPart,
    addresses?_eq hRange.output hSize hPart]
  rfl

theorem fullRun?_eq
    (hSize : s.shape.batchSize < Word.limit)
    (hRange : s.InRange)
    {k : Nat}
    (hIndex :
      k < s.shape.batchSize / s.shape.batchModel) :
    s.fullRun? k =
      some
        (s.nativeRun (k * s.shape.batchModel)
          s.shape.batchModel) := by
  have hEnd :
      (k + 1) * s.shape.batchModel ≤ s.shape.batchSize :=
    Nat.le_trans
      (Nat.mul_le_mul_right s.shape.batchModel hIndex)
      (Nat.div_mul_le_self _ _)
  rw [Nat.succ_mul] at hEnd
  have hFirst :
      Word.mul? k s.shape.batchModel =
        some (k * s.shape.batchModel) :=
    if_pos (by omega)
  rw [fullRun?, hFirst]
  exact nativeRun?_eq hSize hRange hEnd

theorem lastRun?_eq
    (hSize : s.shape.batchSize < Word.limit)
    (hRange : s.InRange) :
    s.lastRun? = some s.lastRun := by
  have hEnd :
      s.shape.batchSize / s.shape.batchModel *
            s.shape.batchModel +
          s.shape.batchSize % s.shape.batchModel =
        s.shape.batchSize :=
    Nat.div_add_mod' _ _
  have hFirst :
      Word.mul? (s.shape.batchSize / s.shape.batchModel)
          s.shape.batchModel =
        some
          (s.shape.batchSize / s.shape.batchModel *
            s.shape.batchModel) :=
    if_pos (by omega)
  simp only [lastRun?, lastRun]
  split
  · rw [hFirst]
    simp only [Option.bind_eq_bind, Option.bind_some,
      nativeRun?_eq hSize hRange (Nat.le_of_eq hEnd)]
    rfl
  · rfl

/- No sum and no product of a plan leaves a word. -/
theorem plan?_eq
    (hSize : s.shape.batchSize < Word.limit) :
    s.plan? = some s.plan := by
  unfold plan? plan
  split
  · rfl
  split
  · rfl
  rename_i hAddressable
  rw [Bool.not_eq_true, Bool.not_eq_false', isAddressable_iff]
    at hAddressable
  split
  · rfl
  split
  · rw [nativeRun?_eq hSize hAddressable
      (Nat.le_of_eq (Nat.zero_add _))]
    rfl
  · have hFull :
        (List.range
              (s.shape.batchSize /
                s.shape.batchModel)).mapM s.fullRun? =
          some
            (s.fullRuns
              (s.shape.batchSize / s.shape.batchModel)) :=
      mapM_eq_some fun k hMem =>
        fullRun?_eq hSize hAddressable
          (List.mem_range.mp hMem)
    rw [hFull, lastRun?_eq hSize hAddressable]
    rfl

------------------------------------------------------------
-- Plans
------------------------------------------------------------

/-
  A batch is refused exactly if it has no samples or cannot
  be addressed. Otherwise it has a plan, which lists its
  samples, and which is computed in words.
-/
theorem plan_exact
    (s : BatchSpec)
    (hWords : s.InWords) :
    (s.plan = .error .invalidArgument ↔ s.IsEmpty) ∧
      (s.plan = .error .malformedJob ↔
        ¬ s.IsEmpty ∧ s.Overflows) ∧
      (¬ s.IsEmpty ∧ ¬ s.Overflows →
        ∃ runs, s.plan = .ok runs ∧ s.Lists runs) ∧
      s.plan? = some s.plan := by
  refine
    ⟨plan_eq_invalidArgument_iff, plan_eq_malformedJob_iff, ?_,
      plan?_eq hWords.size⟩
  rintro ⟨hSome, hNot⟩
  rcases exists_plan hSome hNot with ⟨runs, hPlan⟩
  exact ⟨runs, hPlan, lists_of_plan hPlan⟩

/- Seven samples that end at the last address there is. -/
def topmost : BatchSpec where
  shape := ⟨7, 3, 0x100, 0x40⟩
  inputBase := Word.limit - 1 - 7 * 0x100
  outputBase := Word.limit - 1 - 7 * 0x40

/- They take two full runs and one for a single sample. -/
theorem topmost_planned :
    topmost.InWords ∧ ¬ topmost.IsEmpty ∧
      ¬ topmost.Overflows ∧
      (∃ runs,
        topmost.plan = .ok runs ∧ topmost.Lists runs ∧
          runs.map ModelRun.samples = [3, 3, 1]) ∧
      topmost.plan? = some topmost.plan := by
  have hWords : topmost.InWords := by
    constructor <;> decide
  have hSome : ¬ topmost.IsEmpty := by
    simp [IsEmpty, topmost]
  have hNot : ¬ topmost.Overflows := by
    simp [Overflows, topmost, Word.limit]
  have hExact := plan_exact topmost hWords
  rcases hExact.2.2.1 ⟨hSome, hNot⟩ with ⟨runs, hPlan, hLists⟩
  refine
    ⟨hWords, hSome, hNot, ⟨runs, hPlan, hLists, ?_⟩,
      hExact.2.2.2⟩
  have hRuns :
      (topmost.plan.map fun runs =>
          runs.map ModelRun.samples) =
        .ok [3, 3, 1] := by
    rfl
  rw [hPlan] at hRuns
  exact Except.ok.inj hRuns

end BatchSpec

end Offload
