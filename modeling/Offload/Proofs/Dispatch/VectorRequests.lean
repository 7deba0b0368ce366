import Offload.Dispatch.Runtime.Vector
import Offload.Proofs.Job.Bindings

/-
  Requests of the vector domain and the bindings of a job.

  A request has one input, one output and a list of auxiliary
  bindings, which is found by leaving two names out. As a job
  has no name twice, that leaves out two bindings: a request
  takes every binding of its job once. A job without the
  input or without an output makes no request, and nothing
  happens.

  Key definitions include:
    * `VectorRequest.Takes`
    * `VectorRuntime.Unfit`

  Main results:
    * `NamedBinding.cons_cons_filter_perm`
    * `VectorRuntime.request_cases`
    * `VectorRuntime.unfit_iff`
    * `VectorRuntime.takes_of_found`
    * `VectorRuntime.takes_all_bindings`
-/

namespace Offload

/-
  Two bindings and those under other names are all bindings,
  where no name is bound twice.
-/
theorem NamedBinding.cons_cons_filter_perm
    {bs : List NamedBinding}
    (hDistinct : (bs.map NamedBinding.name).Nodup)
    {input output : NamedBinding}
    (hInput : input ∈ bs)
    (hOutput : output ∈ bs)
    (hOther : input.name ≠ output.name) :
    (input :: output ::
      bs.filter
        (VectorRuntime.isAuxiliary input.name output.name)).Perm
      bs := by
  have hAux :
      ∀ b,
        b ∈ bs.filter
            (VectorRuntime.isAuxiliary input.name output.name) ↔
          b ∈ bs ∧ b.name ≠ input.name ∧
            b.name ≠ output.name := by
    intro b
    rw [List.mem_filter, VectorRuntime.isAuxiliary,
      Bool.and_eq_true, bne_iff_ne, bne_iff_ne]
  have hNodup : bs.Nodup := hDistinct.of_map _
  have hPicked :
      (input :: output ::
        bs.filter
          (VectorRuntime.isAuxiliary input.name
            output.name)).Nodup := by
    apply List.Nodup.cons
    · intro hMem
      rcases List.mem_cons.mp hMem with hSame | hRest
      · exact hOther (congrArg NamedBinding.name hSame)
      · exact ((hAux input).mp hRest).2.1 rfl
    · apply List.Nodup.cons
      · intro hMem
        exact ((hAux output).mp hMem).2.2 rfl
      · exact hNodup.filter _
  apply (List.perm_ext_iff_of_nodup hPicked hNodup).mpr
  intro b
  rw [List.mem_cons, List.mem_cons, hAux]
  constructor
  · rintro (rfl | rfl | hRest)
    · exact hInput
    · exact hOutput
    · exact hRest.1
  · intro hMem
    by_cases hFirst : b.name = input.name
    · exact Or.inl
        (List.inj_on_of_nodup_map hDistinct hMem hInput hFirst)
    · by_cases hSecond : b.name = output.name
      · have hSame :=
          List.inj_on_of_nodup_map hDistinct hMem hOutput
            hSecond
        exact Or.inr (Or.inl hSame)
      · exact Or.inr (Or.inr ⟨hMem, hFirst, hSecond⟩)

/-
  What a request takes from bindings: the one to read that
  has the name of the input, the first one to write, and all
  others in their order.
-/
structure VectorRequest.Takes
    (q : VectorRequest)
    (inputName : String)
    (bs : List NamedBinding)
    (output : NamedBinding) : Prop where
  input : ⟨inputName, q.input⟩ ∈ bs
  reads : q.input.direction = .input
  first :
    bs.find? (fun b => b.binding.direction = .output) =
      some output
  writes : q.output = output.binding
  different : inputName ≠ output.name
  once : (⟨inputName, q.input⟩ :: output :: q.aux).Perm bs
  inOrder : q.aux.Sublist bs

namespace VectorRuntime

variable {r : VectorRuntime}
variable {job : Job}

/-
  What makes a job one that has no request: the name of the
  input is bound to nothing that is read, or nothing is
  written.
-/
def Unfit
    (r : VectorRuntime)
    (job : Job) : Prop :=
  (∀ b ∈ job.bindings,
      b.name = r.inputName → b.binding.direction = .output) ∨
    ∀ b ∈ job.bindings, b.binding.direction = .input

/- The first binding to write, told by its direction. -/
theorem primaryOutput?_eq_find?
    (job : Job) :
    job.primaryOutput? =
      job.bindings.find? fun b =>
        b.binding.direction = .output := by
  unfold Job.primaryOutput? Job.outputs
  rw [List.head?_filter]
  congr 1

/-
  How a request for a job of the vector domain can end: the
  input and an output are there, or one is missing.
-/
theorem request_cases
    (r : VectorRuntime)
    {graph requestType : Nat}
    (hVector : job.payload = .vector graph requestType) :
    (∃ input output,
        job.require r.inputName .input = .ok input ∧
          job.primaryOutput? = some output ∧
            r.request job =
              .ok ⟨job.id, graph, input, output.binding,
                job.bindings.filter
                  (isAuxiliary r.inputName output.name),
                requestType⟩) ∨
      ((∀ input,
          job.require r.inputName .input ≠ .ok input) ∨
        job.primaryOutput? = none) ∧
        ∃ text, r.request job = .error (.configMismatch text) := by
  simp only [request, hVector, bind, Except.bind]
  cases hInput : job.require r.inputName .input with
  | error e =>
      rcases Job.require_error hInput with ⟨text, rfl⟩
      refine Or.inr ⟨Or.inl ?_, text, rfl⟩
      intro input hOk
      cases hOk
  | ok input =>
      cases hOutput : job.primaryOutput? with
      | none =>
          exact Or.inr
            ⟨Or.inr rfl, "vector job has no output", rfl⟩
      | some output =>
          exact Or.inl ⟨input, output, rfl, rfl, rfl⟩

/- A job is unfit if what a request is made of is missing. -/
theorem unfit_iff
    (hDistinct : (job.bindings.map NamedBinding.name).Nodup) :
    r.Unfit job ↔
      (∀ input, job.require r.inputName .input ≠ .ok input) ∨
        job.primaryOutput? = none := by
  unfold Unfit
  apply or_congr
  · constructor
    · intro hNone input hOk
      rcases (Job.require_eq_ok_iff hDistinct).mp hOk with
        ⟨hMem, hReads⟩
      have hWrites := hNone _ hMem rfl
      rw [hReads] at hWrites
      cases hWrites
    · intro hNone b hMem hName
      cases hDirection : b.binding.direction with
      | output => rfl
      | input =>
          refine absurd ?_ (hNone b.binding)
          apply (Job.require_eq_ok_iff hDistinct).mpr
          rw [← hName]
          exact ⟨hMem, hDirection⟩
  · rw [primaryOutput?_eq_find?, List.find?_eq_none]
    apply forall₂_congr
    intro b _
    cases b.binding.direction <;> decide

/- The bindings of an accepted job are all taken. -/
theorem takes_of_found
    (hDistinct : (job.bindings.map NamedBinding.name).Nodup)
    {input : Binding}
    {output : NamedBinding}
    (hInput : job.require r.inputName .input = .ok input)
    (hOutput : job.primaryOutput? = some output)
    (graph requestType : Nat) :
    VectorRequest.Takes
      ⟨job.id, graph, input, output.binding,
        job.bindings.filter
          (isAuxiliary r.inputName output.name),
        requestType⟩
      r.inputName job.bindings output := by
  have hRead := (Job.require_eq_ok_iff hDistinct).mp hInput
  rw [primaryOutput?_eq_find?] at hOutput
  have hMem := List.mem_of_find?_eq_some hOutput
  have hWritten : output.binding.direction = .output := by
    simpa using List.find?_some hOutput
  -- The input and the output differ in their directions.
  have hOther : r.inputName ≠ output.name := by
    intro hName
    have hSame :=
      List.inj_on_of_nodup_map hDistinct hRead.1 hMem hName
    have hBoth := hRead.2
    rw [show input = output.binding from
      congrArg NamedBinding.binding hSame, hWritten] at hBoth
    cases hBoth
  exact
    { input := hRead.1
      reads := hRead.2
      first := hOutput
      writes := rfl
      different := hOther
      once :=
        NamedBinding.cons_cons_filter_perm hDistinct hRead.1
          hMem hOther
      inOrder := List.filter_sublist }

/- A job without a request leaves everything as it was. -/
theorem submit_of_refused
    {e : Error}
    (hRequest : r.request job = .error e)
    (m : Machine) :
    submit job (r, m) = (.error e, (r, m)) := by
  simp only [submit, bind, Op.bind, Op.get, Op.ofExcept,
    hRequest]

/-
  However its bindings came about, a job of the vector
  domain is accepted unless its input is not bound to be
  read or it writes nothing. A request takes every binding
  once. A job that is not accepted reaches neither the
  engine nor the board.
-/
theorem takes_all_bindings
    (r : VectorRuntime)
    {start : Job}
    {graph requestType : Nat}
    (hNew : start.bindings = [])
    (hVector : start.payload = .vector graph requestType)
    (calls : List Job.BindCall) :
    let job := Run.after Job.bindBy calls start
    (job.bindings.map NamedBinding.name).Nodup ∧
      (∀ q,
        r.request job = .ok q →
          ∃ output, q.Takes r.inputName job.bindings output) ∧
      (¬r.Unfit job → ∃ q, r.request job = .ok q) ∧
      (r.Unfit job →
        ∃ text,
          r.request job = .error (.configMismatch text) ∧
            ∀ m : Machine,
              submit job (r, m) =
                (.error (.configMismatch text), (r, m))) := by
  intro job
  have hDistinct : (job.bindings.map NamedBinding.name).Nodup :=
    (Job.records_after hNew calls).distinct
  have hPayload : job.payload = .vector graph requestType := by
    change (Run.after Job.bindBy calls start).payload = _
    rw [Job.after_bindBy, hVector]
  refine ⟨hDistinct, ?_⟩
  rw [unfit_iff hDistinct]
  rcases r.request_cases hPayload with
    ⟨input, output, hInput, hOutput, hRequest⟩ |
      ⟨hMissing, text, hRequest⟩
  · refine ⟨?_, fun _ => ⟨_, hRequest⟩, ?_⟩
    · intro q hOk
      cases hRequest.symm.trans hOk
      exact ⟨output, takes_of_found hDistinct hInput hOutput _ _⟩
    · rintro (hNone | hNone)
      · exact absurd hInput (hNone input)
      · cases hNone.symm.trans hOutput
  · refine ⟨?_, fun hFit => absurd hMissing hFit, fun _ => ?_⟩
    · intro q hOk
      cases hRequest.symm.trans hOk
    · exact ⟨text, hRequest, submit_of_refused hRequest⟩

/- A runtime that reads what is bound to `ifm1`. -/
def secondInput : VectorRuntime :=
  ⟨0, 0, "ifm1"⟩

/- Calls that turn an output into the input. -/
def turned : List Job.BindCall :=
  [.output "ifm1" (.output 0x500 4),
    .input "ifm0" (.input 0x100 8),
    .output "ofm0" (.output 0x300 32),
    .input "ifm1" (.output 0x200 16),
    .output "ofm1" (.output 0x400 4)]

theorem turned_taken :
    let start := Job.of .vector ⟨3⟩
    let job := Run.after Job.bindBy turned start
    let q : VectorRequest :=
      ⟨⟨3⟩, 0, .input 0x200 16, .output 0x300 32,
        [⟨"ifm0", .input 0x100 8⟩, ⟨"ofm1", .output 0x400 4⟩],
        0⟩
    start.bindings = [] ∧ start.payload = .vector 0 0 ∧
      secondInput.request job = .ok q ∧
        ∃ output, q.Takes "ifm1" job.bindings output := by
  intro start job q
  have hRequest : secondInput.request job = .ok q := rfl
  have hNew : start.bindings = [] := rfl
  have hVector : start.payload = .vector 0 0 := rfl
  have hTaken :=
    secondInput.takes_all_bindings hNew hVector turned
  exact ⟨hNew, hVector, hRequest, hTaken.2.1 q hRequest⟩

end VectorRuntime

end Offload
