import Offload.Dispatch.Firmware
import Offload.Proofs.Memory.Buffers

/-
  What firmware makes of a request.

  A request gives out the next handle, is answered from what
  there is, is refused, or is a run. A run counts before
  anything can go wrong with it: it can be the one that is
  made to fail, or a sample can fail to be copied, and only
  otherwise is it entered into the log.

  Key definitions include:
    * `Op.OnlyFails`
    * `RunRecord.AskedBy`
    * `Firmware.Accepts`
    * `Firmware.Handled`

  Main results:
    * `Firmware.onlyFails_copySamples`
    * `Firmware.execute_cases`
    * `Firmware.handle_cases`
-/

namespace Offload

------------------------------------------------------------
-- Operations with One Failure
------------------------------------------------------------

namespace Op

variable {ε ε' σ τ α β : Type}
variable {e : ε}

/- An operation has no failure but one. -/
def OnlyFails
    (e : ε)
    (x : Op ε σ α) : Prop :=
  ∀ s e', (x s).1 = .error e' → e' = e

theorem OnlyFails.pure
    (a : α) : OnlyFails e (Op.pure a : Op ε σ α) := by
  intro s e' h
  cases h

theorem OnlyFails.fail : OnlyFails e (Op.fail e : Op ε σ α) := by
  intro s e' h
  cases h
  rfl

theorem OnlyFails.of_ok
    {x : Op ε σ α}
    (hOk : ∀ s, ∃ a, (x s).1 = .ok a) : OnlyFails e x := by
  intro s e' h
  rcases hOk s with ⟨a, hAnswer⟩
  cases hAnswer.symm.trans h

theorem OnlyFails.bind
    {x : Op ε σ α}
    {f : α → Op ε σ β}
    (hx : OnlyFails e x)
    (hf : ∀ a, OnlyFails e (f a)) : OnlyFails e (x >>= f) := by
  intro s e' h
  change (Op.bind x f s).1 = _ at h
  unfold Op.bind at h
  cases hRun : x s with
  | mk result t =>
      rw [hRun] at h
      cases result with
      | error e'' =>
          cases h
          exact hx s e' (congrArg Prod.fst hRun)
      | ok a => exact hf a t e' h

/- A failure that was put off is the same one later. -/
theorem OnlyFails.attempt_bind
    {x : Op ε σ α}
    {g : Except ε α → Op ε σ β}
    (hx : OnlyFails e x)
    (hg :
      ∀ r, (∀ e', r = .error e' → e' = e) → OnlyFails e (g r)) :
    OnlyFails e (x.attempt >>= g) :=
  fun s => hg _ (hx s) _

theorem OnlyFails.mapError
    (x : Op ε' σ α) :
    OnlyFails e (Op.mapError (fun _ => e) x) := by
  intro s e' h
  rw [mapError_run] at h
  cases hRun : (x s).1 with
  | error _ =>
      rw [hRun] at h
      cases h
      rfl
  | ok _ =>
      rw [hRun] at h
      cases h

end Op

namespace Firmware

theorem onlyFails_reach
    (addr : Nat) : Op.OnlyFails badValue (reach addr) := by
  intro s
  unfold reach
  simp only [bind, Op.bind, Op.get]
  cases s.device.containing? addr with
  | none => exact Op.OnlyFails.fail s
  | some base =>
      exact
        ((Op.OnlyFails.mapError _).bind fun h =>
          Op.OnlyFails.pure (h, addr - base)) s

theorem onlyFails_transfer
    (count : Nat)
    (source target : Handle × Nat) :
    Op.OnlyFails badValue (transfer count source target) := by
  have hRead :
      Op.OnlyFails badValue
        (source.1.read source.2 count : Op Status _ _) := by
    apply Op.OnlyFails.of_ok
    intro s
    unfold Handle.read
    cases source.1.mapping <;> exact ⟨_, rfl⟩
  have hWrite :
      ∀ bytes,
        Op.OnlyFails badValue
          (target.1.write target.2 bytes : Op Status _ _) := by
    intro bytes
    apply Op.OnlyFails.of_ok
    intro s
    unfold Handle.write
    cases target.1.mapping <;> exact ⟨_, rfl⟩
  unfold transfer
  split
  · apply (Op.OnlyFails.mapError _).bind
    intro _
    apply hRead.bind
    intro bytes
    apply (hWrite bytes).bind
    exact fun _ => Op.OnlyFails.mapError _
  · exact Op.OnlyFails.fail

theorem onlyFails_copySample
    (mode : CopyMode)
    (source target : UInt64) :
    Op.OnlyFails badValue (copySample mode source target) := by
  have hRelease :
      ∀ h : Handle,
        Op.OnlyFails badValue
          (h.release : Op Status Platform Unit) :=
    fun h => Op.OnlyFails.of_ok fun s => ⟨(), h.release_ok s⟩
  unfold copySample
  apply (onlyFails_reach _).bind
  intro s
  apply (onlyFails_reach _).attempt_bind
  intro r hOther
  cases r with
  | error e =>
      rw [hOther e rfl]
      exact (hRelease s.1).bind fun _ => Op.OnlyFails.fail
  | ok t =>
      apply (onlyFails_transfer _ s t).attempt_bind
      intro result hResult
      apply (hRelease t.1).bind
      intro _
      apply (hRelease s.1).bind
      exact fun _ _ => hResult

/- Whatever is wrong with a sample, the answer is the same. -/
theorem onlyFails_copySamples
    (mode : CopyMode)
    (pairs : List (UInt64 × UInt64)) :
    Op.OnlyFails badValue (copySamples mode pairs) := by
  induction pairs with
  | nil => exact Op.OnlyFails.pure ()
  | cons p rest ih =>
      exact (onlyFails_copySample mode p.1 p.2).bind fun _ => ih

end Firmware

------------------------------------------------------------
-- Runs that Are Asked for
------------------------------------------------------------

/- A request has exactly the parameters of a run. -/
inductive RunRecord.AskedBy : RunRecord → Request → Prop
  | single
      {seq : UInt64}
      {domain : ComputeDomain}
      (model : UInt64)
      (inputs outputs : List UInt64) :
      AskedBy ⟨.runModel, model, 1, inputs, outputs⟩
        ⟨seq, domain, .runModel,
          [.long model, .addrs inputs, .addrs outputs]⟩
  | batch
      {seq : UInt64}
      {domain : ComputeDomain}
      (model : UInt64)
      (samples : UInt32)
      (inputs outputs : List UInt64) :
      AskedBy
        ⟨.runBatchModel, model, samples.toNat, inputs, outputs⟩
        ⟨seq, domain, .runBatchModel,
          [.long model, .word samples, .addrs inputs,
            .addrs outputs]⟩

/- Whether an opcode asks for a run. -/
def Opcode.isRun : Opcode → Bool
  | .runModel => true
  | .runBatchModel => true
  | _ => false

theorem Opcode.eq_of_isRun
    {o : Opcode}
    (h : o.isRun = true) :
    o = .runModel ∨ o = .runBatchModel := by
  cases o <;> simp [isRun] at h ⊢

namespace Firmware

theorem runOf_eq_some_iff
    {r : Request}
    {record : RunRecord} :
    runOf r.opcode r.params = some record ↔
      record.AskedBy r := by
  rcases r with ⟨seq, domain, opcode, params⟩
  constructor
  · intro h
    dsimp only at h
    unfold runOf at h
    split at h
    · cases h
      exact .single _ _ _
    · cases h
      exact .batch _ _ _ _
    · cases h
  · intro h
    cases h <;> rfl

/- A run is asked for with an opcode of its own. -/
theorem isRun_of_askedBy
    {r : Request}
    {record : RunRecord}
    (h : record.AskedBy r) : r.opcode.isRun = true := by
  cases h <;> rfl

/- A run that firmware counts when it is asked for it. -/
structure Accepts
    (f : Firmware)
    (r : Request)
    (record : RunRecord) : Prop where
  asked : record.AskedBy r
  model : f.hasModel record.model = true
  inputs : record.inputs.length = record.samples
  outputs : record.outputs.length = record.samples

/- Firmware that has counted another run. -/
def counted
    (f : Firmware) : Firmware :=
  { f with runs := f.runs + 1 }

theorem countRun_of_accepts
    {f : Firmware}
    {r : Request}
    {record : RunRecord}
    (h : f.Accepts r record) :
    countRun r.opcode r.params f = .ok (record, f.counted) := by
  have hComplete : isComplete record = true := by
    simp [isComplete, h.inputs, h.outputs]
  simp only [countRun, runOf_eq_some_iff.mpr h.asked, h.model,
    hComplete, Bool.not_true, Bool.false_eq_true, if_false]
  rfl

theorem countRun_of_not_accepts
    {f : Firmware}
    {r : Request}
    (h : ∀ record, ¬f.Accepts r record) :
    ∃ status, countRun r.opcode r.params f = .error status := by
  unfold countRun
  cases hRun : runOf r.opcode r.params with
  | none => exact ⟨badShape, rfl⟩
  | some record =>
      have hAsked := runOf_eq_some_iff.mp hRun
      cases hModel : f.hasModel record.model with
      | false => exact ⟨badValue, by simp [hModel]⟩
      | true =>
          cases hComplete : isComplete record with
          | false => exact ⟨badShape, by simp [hModel, hComplete]⟩
          | true =>
              have hLengths :
                  record.inputs.length = record.samples ∧
                    record.outputs.length = record.samples := by
                simpa [isComplete] using hComplete
              exact absurd
                ⟨hAsked, hModel, hLengths.1, hLengths.2⟩
                (h record)

------------------------------------------------------------
-- Answers
------------------------------------------------------------

/-
  How a counted run can end: it is the one that fails, a
  sample cannot be copied, or it is made and logged.
-/
inductive Executed
    (f : Firmware)
    (record : RunRecord) :
    Except Status (List Param) → Firmware → Prop
  where
  | struck {status : Status} :
      f.runFault = some status →
        Executed f record (.error status) f
  | uncopied :
      f.runFault = none →
        f.setup.copy.isSome →
          Executed f record (.error badValue) f
  | made :
      f.runFault = none →
        Executed f record (.ok [])
          { f with log := record :: f.log }

theorem execute_cases
    (f : Firmware)
    (record : RunRecord)
    (p : Platform) :
    Executed f record (execute record (f, p)).1
      (execute record (f, p)).2.1 := by
  simp only [execute, bind, Op.bind, Op.get]
  cases hFault : f.runFault with
  | some status => exact .struck hFault
  | none =>
      cases hCopy : f.setup.copy with
      | none => exact .made hFault
      | some mode =>
          have hOnly :=
            onlyFails_copySamples mode
              (record.inputs.zip record.outputs)
              { p with faults := FaultPlan.none }
          simp only [Op.bind, Op.within, Lens.snd,
            Platform.direct]
          generalize
            copySamples mode
              (record.inputs.zip record.outputs)
              { p with faults := FaultPlan.none } = answer
            at hOnly
          rcases answer with ⟨e | _, p'⟩
          · have hCopies : f.setup.copy.isSome := by
              rw [hCopy]
              rfl
            rw [hOnly e rfl]
            exact .uncopied hFault hCopies
          · exact .made hFault

/-
  How a request can end, with the answer and with what the
  firmware has become.
-/
inductive Handled
    (f : Firmware)
    (r : Request) :
    Except Status (List Param) → Firmware → Prop
  where
  | opened :
      r.opcode = .getHandle →
        Handled f r (.ok [.long f.upcoming]) f.openDriver.2
  | loaded {driver : UInt64} {bytes : Bytes} (path : String) :
      r.opcode = .loadModel →
        r.params = [.long driver, .bytes bytes] →
          driver ∈ f.drivers →
            Handled f r (.ok [.long f.upcoming])
              (f.enterModel path).2
  | unloaded (status : Status) :
      r.opcode = .loadModel → Handled f r (.error status) f
  | waited :
      r.opcode = .waitDone → Handled f r (.ok []) f
  | told :
      r.opcode = .getStatus →
        Handled f r
          (.ok [.word 0, .long (UInt64.ofNat f.runs)]) f
  | refused (status : Status) :
      r.opcode.isRun = true →
        (∀ record, ¬f.Accepts r record) →
          Handled f r (.error status) f
  | ran {record : RunRecord} {outcome : _} {f' : Firmware} :
      f.Accepts r record →
        Executed f.counted record outcome f' →
          Handled f r outcome f'

/- A model is loaded for a driver handle, or not at all. -/
theorem loadModel_cases
    (f : Firmware)
    (files : FileTree)
    (params : List Param)
    (p : Platform) :
    (∃ driver bytes path,
        params = [.long driver, .bytes bytes] ∧
          driver ∈ f.drivers ∧
            loadModel files params (f, p) =
              (.ok (.answer [.long f.upcoming]),
                ((f.enterModel path).2, p))) ∨
      ∃ status p',
        loadModel files params (f, p) =
          (.error status, (f, p')) := by
  simp only [loadModel, bind, Op.bind, Op.get]
  split
  · rename_i driver bytes
    cases hDriver : f.drivers.contains driver with
    | false =>
        rw [if_pos (by rfl)]
        exact Or.inr ⟨badDriver, p, rfl⟩
    | true =>
        rw [if_neg (by decide)]
        cases Utf8.decode? bytes with
        | none => exact Or.inr ⟨badValue, p, rfl⟩
        | some path =>
            dsimp only
            cases hFile : files.isFile path with
            | false =>
                rw [if_neg (by decide)]
                exact Or.inr ⟨noFile, _, rfl⟩
            | true =>
                have hGiven : driver ∈ f.drivers := by
                  simpa using hDriver
                rw [if_pos (by rfl)]
                exact Or.inl
                  ⟨driver, bytes, path, rfl, hGiven, rfl⟩
  · exact Or.inr ⟨badShape, p, rfl⟩

/- How a request for a run ends. -/
theorem run_cases
    (f : Firmware)
    {r : Request}
    (hRun : r.opcode.isRun = true)
    (files : FileTree)
    (p : Platform) :
    Handled f r (handle files r (f, p)).1
      (handle files r (f, p)).2.1 := by
  have hConsider :
      consider files r =
        (do
          let record ← Op.within Lens.fst
            (Op.change (countRun r.opcode r.params))
          return .run record) := by
    rcases Opcode.eq_of_isRun hRun with hOpcode | hOpcode <;>
      simp only [consider, hOpcode]
  simp only [handle, hConsider, bind, Op.bind, Op.within,
    Lens.fst, Op.change]
  by_cases hAccepts : ∃ record, f.Accepts r record
  · rcases hAccepts with ⟨record, hRecord⟩
    rw [countRun_of_accepts hRecord]
    exact .ran hRecord (execute_cases f.counted record p)
  · have hNone : ∀ record, ¬f.Accepts r record :=
      fun record h => hAccepts ⟨record, h⟩
    rcases countRun_of_not_accepts hNone with ⟨status, hCount⟩
    rw [hCount]
    exact .refused status hRun hNone

theorem handle_cases
    (f : Firmware)
    (r : Request)
    (files : FileTree)
    (p : Platform) :
    Handled f r (handle files r (f, p)).1
      (handle files r (f, p)).2.1 := by
  cases hOpcode : r.opcode with
  | getHandle =>
      simp only [handle, consider, hOpcode]
      exact .opened hOpcode
  | loadModel =>
      simp only [handle, consider, hOpcode, bind, Op.bind]
      rcases f.loadModel_cases files r.params p with
        ⟨driver, bytes, path, hParams, hGiven, hRun⟩ |
          ⟨status, p', hRun⟩
      · rw [hRun]
        exact .loaded path hOpcode hParams hGiven
      · rw [hRun]
        exact .unloaded status hOpcode
  | runModel => exact f.run_cases (by rw [hOpcode]; rfl) files p
  | runBatchModel =>
      exact f.run_cases (by rw [hOpcode]; rfl) files p
  | waitDone =>
      simp only [handle, consider, hOpcode]
      exact .waited hOpcode
  | getStatus =>
      simp only [handle, consider, hOpcode]
      exact .told hOpcode

end Firmware

end Offload
