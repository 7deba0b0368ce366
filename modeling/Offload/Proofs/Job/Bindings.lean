import Mathlib.Data.List.Induction
import Mathlib.Data.List.Nodup
import Offload.Job
import Offload.Proofs.Run

/-
  Bindings of a job and the calls that made them.

  A call mentions names, each with a region and with the
  direction that the call stands for. A job has the names in
  the order of their first mention and what was last said of
  each. As no name is bound twice, the ways to look one up
  agree.

  Key definitions include:
    * `Job.BindCall`
    * `Job.bindBy`
    * `Job.mentions`
    * `Job.Records`
    * `Job.Bound`

  Main results:
    * `Job.named?_eq_some_iff`
    * `Job.require_eq_ok_iff`
    * `Job.records_after`
    * `Job.bound_after`
-/

namespace Offload

namespace Job

------------------------------------------------------------
-- Calls and Mentions
------------------------------------------------------------

/- The calls that bind regions to a job. -/
inductive BindCall where
  | input (name : String) (b : Binding)
  | output (name : String) (b : Binding)
  | outputs (buffer : Buffer)

/- The job after a call. -/
def bindBy
    (c : BindCall)
    (job : Job) : Job :=
  match c with
  | .input name b => job.bindInput name b
  | .output name b => job.bindOutput name b
  | .outputs buffer => job.bindOutputs buffer

/- A segment as it is bound to write. -/
def outputOf
    (s : Segment) : NamedBinding :=
  ⟨s.name, .ofSegment s .output⟩

/-
  What a call says of names. The direction is that of the
  call and not that of the binding it is given.
-/
def BindCall.mentions : BindCall → List NamedBinding
  | .input name b => [⟨name, .input b.addr b.size⟩]
  | .output name b => [⟨name, .output b.addr b.size⟩]
  | .outputs buffer => buffer.segments.map outputOf

/- What calls say of names, in order. -/
def mentions
    (calls : List BindCall) : List NamedBinding :=
  calls.flatMap BindCall.mentions

/- Bindings are put in place one after the other. -/
def placeAll
    (ms bs : List NamedBinding) : List NamedBinding :=
  ms.foldl (fun bs b => place b bs) bs

/- Calls put in place what they mention, and no more. -/
theorem bindBy_eq
    (c : BindCall)
    (job : Job) :
    job.bindBy c =
      { job with
        bindings := placeAll c.mentions job.bindings } := by
  cases c with
  | input name b => rfl
  | output name b => rfl
  | outputs buffer =>
      have hSegments :
          ∀ (segments : List Segment) (job : Job),
            segments.foldl
                (fun j s =>
                  j.bindOutput s.name (.ofSegment s .output))
                job =
              { job with
                bindings :=
                  placeAll (segments.map outputOf)
                    job.bindings } := by
        intro segments
        induction segments with
        | nil => exact fun _ => rfl
        | cons s rest ih =>
            intro job
            rw [List.foldl_cons, ih]
            rfl
      exact hSegments buffer.segments job

theorem after_bindBy
    (calls : List BindCall)
    (job : Job) :
    Run.after bindBy calls job =
      { job with
        bindings :=
          placeAll (mentions calls) job.bindings } := by
  induction calls generalizing job with
  | nil => rfl
  | cons c rest ih =>
      change Run.after bindBy rest (job.bindBy c) = _
      rw [ih, bindBy_eq, mentions, mentions,
        List.flatMap_cons, placeAll, placeAll, placeAll,
        List.foldl_append]

------------------------------------------------------------
-- Placing
------------------------------------------------------------

/- A name that is new is bound after all others. -/
theorem place_of_fresh
    {b : NamedBinding}
    {bs : List NamedBinding}
    (hFresh : b.name ∉ bs.map NamedBinding.name) :
    place b bs = bs ++ [b] := by
  induction bs with
  | nil => rfl
  | cons x rest ih =>
      rw [List.map_cons, List.mem_cons, not_or] at hFresh
      rw [place, if_neg (fun h => hFresh.1 h.symm),
        ih hFresh.2, List.cons_append]

/- New names are bound in their order. -/
theorem placeAll_of_fresh
    {ms bs : List NamedBinding}
    (hDistinct : (ms.map NamedBinding.name).Nodup)
    (hFresh : ∀ m ∈ ms, m.name ∉ bs.map NamedBinding.name) :
    placeAll ms bs = bs ++ ms := by
  induction ms generalizing bs with
  | nil => exact (List.append_nil bs).symm
  | cons m rest ih =>
      rw [List.map_cons, List.nodup_cons] at hDistinct
      have hRest :
          ∀ x ∈ rest,
            x.name ∉ (bs ++ [m]).map NamedBinding.name := by
        intro x hMem hBound
        rw [List.map_append, List.mem_append] at hBound
        rcases hBound with hBefore | hNow
        · exact hFresh x (List.mem_cons_of_mem _ hMem) hBefore
        · rw [← List.mem_singleton.mp hNow] at hDistinct
          exact hDistinct.1 (List.mem_map_of_mem hMem)
      rw [placeAll, List.foldl_cons, ← placeAll,
        place_of_fresh (hFresh m List.mem_cons_self),
        ih hDistinct.2 hRest, List.append_assoc]
      rfl

/- A name that is bound already keeps its place. -/
theorem names_place_of_mem
    {b : NamedBinding}
    {bs : List NamedBinding}
    (hMem : b.name ∈ bs.map NamedBinding.name) :
    (place b bs).map NamedBinding.name =
      bs.map NamedBinding.name := by
  induction bs with
  | nil => cases hMem
  | cons x rest ih =>
      rw [place]
      split
      · rfl
      · rename_i hOther
        have hRest : b.name ∈ rest.map NamedBinding.name := by
          rcases List.mem_cons.mp hMem with hFirst | hLater
          · exact absurd hFirst.symm hOther
          · exact hLater
        rw [List.map_cons, ih hRest, List.map_cons]

/- The name is bound anew, and all others stay. -/
theorem find?_place
    (b : NamedBinding)
    (bs : List NamedBinding)
    (name : String) :
    (place b bs).find? (fun x => x.name == name) =
      if b.name = name then some b
      else bs.find? fun x => x.name == name := by
  induction bs with
  | nil =>
      by_cases hName : b.name = name <;> simp [place, hName]
  | cons x rest ih =>
      rw [place]
      by_cases hSame : x.name = b.name
      · have hPlaced : { x with binding := b.binding } = b := by
          cases b
          cases hSame
          rfl
        rw [if_pos hSame, hPlaced]
        by_cases hName : b.name = name <;> simp [hName, hSame]
      · rw [if_neg hSame, List.find?_cons, ih,
          List.find?_cons]
        by_cases hName : b.name = name
        · have hOther : (x.name == name) = false := by
            simpa [← hName] using hSame
          simp only [hOther, if_pos hName]
        · simp only [if_neg hName]

/-
  Bindings record mentions: the names in the order of their
  first mention, each once and with what was said of it
  last.
-/
structure Records
    (ms bs : List NamedBinding) : Prop where
  distinct : (bs.map NamedBinding.name).Nodup
  mentioned :
    ∀ name,
      name ∈ bs.map NamedBinding.name ↔
        name ∈ ms.map NamedBinding.name
  inOrder :
    (bs.map NamedBinding.name).Pairwise fun a b =>
      (ms.map NamedBinding.name).idxOf a <
        (ms.map NamedBinding.name).idxOf b
  latest :
    ∀ name,
      bs.find? (fun b => b.name == name) =
        ms.reverse.find? fun b => b.name == name

theorem Records.place
    {ms bs : List NamedBinding}
    (h : Records ms bs)
    (b : NamedBinding) :
    Records (ms ++ [b]) (place b bs) := by
  have hOld :
      ∀ name ∈ bs.map NamedBinding.name,
        ((ms ++ [b]).map NamedBinding.name).idxOf name =
          (ms.map NamedBinding.name).idxOf name := by
    intro name hMem
    rw [List.map_append,
      List.idxOf_append_of_mem ((h.mentioned name).mp hMem)]
  have hKept :
      (bs.map NamedBinding.name).Pairwise fun x y =>
        ((ms ++ [b]).map NamedBinding.name).idxOf x <
          ((ms ++ [b]).map NamedBinding.name).idxOf y := by
    apply h.inOrder.imp_of_mem
    intro x y hx hy hOrder
    rw [hOld x hx, hOld y hy]
    exact hOrder
  have hLatest :
      ∀ name,
        (Job.place b bs).find? (fun x => x.name == name) =
          (ms ++ [b]).reverse.find? fun x =>
            x.name == name := by
    intro name
    rw [find?_place, h.latest, List.reverse_append]
    by_cases hName : b.name = name <;> simp [hName]
  by_cases hMem : b.name ∈ bs.map NamedBinding.name
  · have hNames := names_place_of_mem hMem
    refine ⟨?_, ?_, ?_, hLatest⟩
    · rw [hNames]
      exact h.distinct
    · intro name
      rw [hNames, h.mentioned, List.map_append, List.mem_append]
      constructor
      · exact Or.inl
      · rintro (hBefore | hNow)
        · exact hBefore
        · rw [List.mem_singleton.mp hNow]
          exact (h.mentioned _).mp hMem
    · rw [hNames]
      exact hKept
  · have hNames :
        (Job.place b bs).map NamedBinding.name =
          bs.map NamedBinding.name ++ [b.name] := by
      rw [place_of_fresh hMem, List.map_append]
      rfl
    refine ⟨?_, ?_, ?_, hLatest⟩
    · rw [hNames]
      exact List.nodup_append.mpr
        ⟨h.distinct, List.nodup_singleton _, by
          intro x hx y hy hSame
          rw [hSame, List.mem_singleton.mp hy] at hx
          exact hMem hx⟩
    · intro name
      rw [hNames, List.map_append, List.mem_append,
        List.mem_append, h.mentioned]
      rfl
    · rw [hNames]
      apply List.pairwise_append.mpr
      refine ⟨hKept, List.pairwise_singleton _ _, ?_⟩
      intro x hx y hy
      have hNew : b.name ∉ ms.map NamedBinding.name :=
        fun hBefore => hMem ((h.mentioned _).mpr hBefore)
      have hBelow :=
        List.idxOf_lt_length_iff.mpr ((h.mentioned x).mp hx)
      rw [List.mem_singleton.mp hy, hOld x hx, List.map_append,
        List.idxOf_append_of_notMem hNew]
      omega

theorem records_placeAll
    (ms : List NamedBinding) :
    Records ms (placeAll ms []) := by
  induction ms using List.reverseRecOn with
  | nil =>
      exact ⟨List.nodup_nil, fun _ => Iff.rfl, .nil,
        fun _ => rfl⟩
  | append_singleton ms b ih =>
      rw [placeAll, List.foldl_append]
      exact ih.place b

------------------------------------------------------------
-- Looking Up
------------------------------------------------------------

/- Where no name is bound twice, looking up is membership. -/
theorem named?_eq_some_iff
    {bs : List NamedBinding}
    (hDistinct : (bs.map NamedBinding.name).Nodup)
    {name : String}
    {b : Binding} :
    named? name bs = some b ↔ ⟨name, b⟩ ∈ bs := by
  unfold named?
  rw [Option.map_eq_some_iff]
  constructor
  · rintro ⟨x, hFound, rfl⟩
    have hName : x.name = name := by
      simpa using List.find?_some hFound
    subst hName
    exact List.mem_of_find?_eq_some hFound
  · intro hMem
    cases hFound : bs.find? fun x => x.name == name with
    | none =>
        have hOther := List.find?_eq_none.mp hFound _ hMem
        simp at hOther
    | some x =>
        have hName : x.name = name := by
          simpa using List.find?_some hFound
        have hSame :=
          List.inj_on_of_nodup_map hDistinct
            (List.mem_of_find?_eq_some hFound) hMem hName
        exact ⟨x, rfl, congrArg NamedBinding.binding hSame⟩

theorem mem_boundAs
    {bs : List NamedBinding}
    {direction : Direction}
    {b : NamedBinding} :
    b ∈ bs.filter (isBoundAs direction) ↔
      b ∈ bs ∧ b.binding.direction = direction := by
  rw [List.mem_filter, isBoundAs, beq_iff_eq]

/- Looking up among the bindings of one direction. -/
theorem named?_boundAs_eq_some_iff
    {bs : List NamedBinding}
    (hDistinct : (bs.map NamedBinding.name).Nodup)
    {name : String}
    {direction : Direction}
    {b : Binding} :
    named? name (bs.filter (isBoundAs direction)) = some b ↔
      ⟨name, b⟩ ∈ bs ∧ b.direction = direction := by
  have hAmong :
      ((bs.filter (isBoundAs direction)).map
        NamedBinding.name).Nodup :=
    hDistinct.sublist (List.filter_sublist.map _)
  rw [named?_eq_some_iff hAmong, mem_boundAs]

/-
  What must be there with a direction is looked for among
  all bindings and must then have the direction.
-/
theorem require_eq_ok_iff
    {job : Job}
    (hDistinct : (job.bindings.map NamedBinding.name).Nodup)
    {name : String}
    {direction : Direction}
    {b : Binding} :
    job.require name direction = .ok b ↔
      ⟨name, b⟩ ∈ job.bindings ∧ b.direction = direction := by
  rw [← named?_eq_some_iff hDistinct, require]
  cases named? name job.bindings with
  | none => simp
  | some c =>
      by_cases hDirection : c.direction = direction
      · simp only [hDirection, if_true, Except.ok.injEq,
          Option.some.injEq]
        constructor
        · rintro rfl
          exact ⟨rfl, hDirection⟩
        · exact And.left
      · simp only [hDirection, if_false, reduceCtorEq,
          Option.some.injEq, false_iff, not_and]
        rintro rfl
        exact hDirection

/- What is not there is a mismatch of configurations. -/
theorem require_error
    {job : Job}
    {name : String}
    {direction : Direction}
    {e : Error}
    (h : job.require name direction = .error e) :
    ∃ text, e = .configMismatch text := by
  unfold require at h
  split at h
  · cases h
    exact ⟨_, rfl⟩
  · split at h
    · cases h
    · cases h
      exact ⟨_, rfl⟩

/- Bindings are split by their direction. -/
theorem inputs_append_outputs_perm
    (job : Job) :
    (job.inputs ++ job.outputs).Perm job.bindings := by
  have hOther :
      isBoundAs .output = fun b => !isBoundAs .input b := by
    funext b
    unfold isBoundAs
    cases b.binding.direction <;> rfl
  rw [inputs, outputs, hOther]
  exact List.filter_append_perm _ _

------------------------------------------------------------
-- Jobs Made by Calls
------------------------------------------------------------

/- Calls on a job without bindings record their mentions. -/
theorem records_after
    {start : Job}
    (hNew : start.bindings = [])
    (calls : List BindCall) :
    Records (mentions calls)
      (Run.after bindBy calls start).bindings := by
  rw [after_bindBy, hNew]
  exact records_placeAll _

/-
  A job is bound as mentions say. Its bindings to read and
  those to write are two parts of all of them, each in their
  order, and what must be there is found where what may be
  there is.
-/
structure Bound
    (ms : List NamedBinding)
    (job : Job) : Prop where
  records : Records ms job.bindings
  reads : ∀ b ∈ job.inputs, b.binding.direction = .input
  writes : ∀ b ∈ job.outputs, b.binding.direction = .output
  inputsInOrder : job.inputs.Sublist job.bindings
  outputsInOrder : job.outputs.Sublist job.bindings
  disjoint : job.inputs.Disjoint job.outputs
  exhaustive : (job.inputs ++ job.outputs).Perm job.bindings
  input :
    ∀ name b,
      job.require name .input = .ok b ↔
        job.input? name = some b
  output :
    ∀ name b,
      job.require name .output = .ok b ↔
        job.output? name = some b

/-
  Whatever is bound to a new job, and however often a name
  is bound again or changes its direction, the job has each
  name once, in the order of first mention and as the last
  call that named it said.
-/
theorem bound_after
    (domain : ComputeDomain)
    (id : RequestId)
    (calls : List BindCall) :
    (Run.after bindBy calls (Job.of domain id)).Bound
      (mentions calls) := by
  have hNew : (Job.of domain id).bindings = [] := rfl
  have hRecords := records_after hNew calls
  generalize Run.after bindBy calls (Job.of domain id) = job
    at hRecords
  have hReads :
      ∀ b ∈ job.inputs, b.binding.direction = .input :=
    fun b hMem => (mem_boundAs.mp hMem).2
  have hWrites :
      ∀ b ∈ job.outputs, b.binding.direction = .output :=
    fun b hMem => (mem_boundAs.mp hMem).2
  constructor
  · exact hRecords
  · exact hReads
  · exact hWrites
  · exact List.filter_sublist
  · exact List.filter_sublist
  · intro b hInput hOutput
    have hBoth := (hReads b hInput).symm.trans (hWrites b hOutput)
    cases hBoth
  · exact inputs_append_outputs_perm job
  · intro name b
    exact (require_eq_ok_iff hRecords.distinct).trans
      (named?_boundAs_eq_some_iff hRecords.distinct).symm
  · intro name b
    exact (require_eq_ok_iff hRecords.distinct).trans
      (named?_boundAs_eq_some_iff hRecords.distinct).symm

/- A name that changes its direction keeps its place. -/
example :
    (Run.after bindBy
        [.input "a" (.output 1 8), .output "b" (.output 2 8),
          .output "a" (.input 3 4)]
        (Job.of .vector ⟨7⟩)).bindings =
      [⟨"a", .output 3 4⟩, ⟨"b", .output 2 8⟩] := by
  decide

end Job

end Offload
