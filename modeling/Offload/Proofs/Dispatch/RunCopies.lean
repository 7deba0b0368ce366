import Offload.Proofs.Dispatch.BatchPlans

/-
  Runs of a model made by firmware that copies samples.

  A run that a client asks of firmware at rest is counted,
  made and answered: either its samples were copied and the
  firmware is at rest again, or the client is told of a
  failure. A failure has a reason: the model is not known,
  runs are made to fail, or they take longer than the client
  waits. The runs of a batch follow each other in the same
  way.

  Key definitions include:
    * `Firmware.CopiesBy`
    * `Firmware.Willing`
    * `Device.Fits`
    * `Machine.Copies`

  Main results:
    * `Firmware.run_made`
    * `AcceleratorRuntime.call_cases`
    * `AcceleratorRuntime.await_ok`
    * `AcceleratorRuntime.invoke_cases`
    * `AcceleratorRuntime.invokeAll_cases`
-/

namespace Offload

------------------------------------------------------------
-- Firmware That Copies
------------------------------------------------------------

namespace Firmware

/-
  Firmware copies samples, and a run that it is made to fail
  shows in its status.
-/
structure CopiesBy
    (mode : CopyMode)
    (f : Firmware) : Prop where
  copy : f.setup.copy = some mode
  loud :
    ∀ nth status,
      f.setup.failRun = some (nth, status) → status ≠ 0

/-
  Firmware knows a model and makes all runs of it before
  somebody who waits gives up.
-/
structure Willing
    (model : UInt64)
    (timeout : Duration)
    (f : Firmware) : Prop where
  model : f.hasModel model = true
  sound : f.setup.failRun = none
  prompt :
    ∀ delay,
      f.setup.delay = some delay →
        delay.nanos ≤ timeout.nanos

variable {f f' : Firmware}

theorem CopiesBy.of_setup
    {mode : CopyMode}
    (h : f.CopiesBy mode)
    (hSetup : f'.setup = f.setup) : f'.CopiesBy mode := by
  constructor
  · rw [hSetup]
    exact h.copy
  · rw [hSetup]
    exact h.loud

theorem Willing.of_setup
    {model : UInt64}
    {timeout : Duration}
    (h : f.Willing model timeout)
    (hSetup : f'.setup = f.setup)
    (hModels : f'.models = f.models) :
    f'.Willing model timeout := by
  constructor
  · unfold hasModel
    rw [hModels]
    exact h.model
  · rw [hSetup]
    exact h.sound
  · rw [hSetup]
    exact h.prompt

/- A run that firmware fails is one that it is made to fail. -/
theorem failRun_of_runFault
    {status : Status}
    (h : f.runFault = some status) :
    ∃ nth, f.setup.failRun = some (nth, status) := by
  unfold runFault at h
  split at h
  · rename_i nth planned hFail
    split at h
    · cases h
      exact ⟨nth, hFail⟩
    · cases h
  · cases h

end Firmware

/-
  Samples that lie within two regions, at addresses that are
  words, and are written to places apart.
-/
structure Device.Fits
    (d : Device)
    (count source target : Nat)
    (pairs : List (Nat × Nat)) : Prop where
  spans :
    ∀ p ∈ pairs,
      d.Spans source p.1 count ∧ d.Spans target p.2 count
  words :
    ∀ p ∈ pairs, p.1 < Word.limit ∧ p.2 < Word.limit
  apart :
    pairs.Pairwise fun p q =>
      p.2 + count ≤ q.2 ∨ q.2 + count ≤ p.2

theorem Device.Fits.of_restored
    {d d' : Device}
    {count source target : Nat}
    {pairs : List (Nat × Nat)}
    (h : d.Fits count source target pairs)
    (hRestored : d.Restored d') :
    d'.Fits count source target pairs where
  spans := fun p hMem =>
    ⟨(h.spans p hMem).1.of_restored hRestored,
      (h.spans p hMem).2.of_restored hRestored⟩
  words := h.words
  apart := h.apart

/- Samples that fit together fit one part after the other. -/
theorem Device.fits_append
    {d : Device}
    {count source target : Nat}
    {ps qs : List (Nat × Nat)} :
    d.Fits count source target (ps ++ qs) ↔
      d.Fits count source target ps ∧
        d.Fits count source target qs ∧
          ∀ p ∈ ps, ∀ q ∈ qs,
            p.2 + count ≤ q.2 ∨ q.2 + count ≤ p.2 := by
  constructor
  · intro h
    have hSpans := List.forall_mem_append.mp h.spans
    have hWords := List.forall_mem_append.mp h.words
    have hApart := List.pairwise_append.mp h.apart
    exact
      ⟨⟨hSpans.1, hWords.1, hApart.1⟩,
        ⟨hSpans.2, hWords.2, hApart.2.1⟩, hApart.2.2⟩
  · rintro ⟨hFirst, hNext, hApart⟩
    constructor
    · exact
        List.forall_mem_append.mpr
          ⟨hFirst.spans, hNext.spans⟩
    · exact
        List.forall_mem_append.mpr
          ⟨hFirst.words, hNext.words⟩
    · exact
        List.pairwise_append.mpr
          ⟨hFirst.apart, hNext.apart, hApart⟩

/- The samples of a run that fit can be copied. -/
theorem Device.Fits.copyable
    {d : Device}
    {count source target : Nat}
    {run : ModelRun}
    (h : d.Fits count source target run.pairs)
    (model : UInt64)
    (opcode : Opcode) :
    Firmware.Copyable d count source target
      ((run.recordOf model opcode).inputs.zip
        (run.recordOf model opcode).outputs) := by
  have hPairs := ModelRun.pairs_recordOf h.words model opcode
  constructor
  · rw [hPairs]
    exact h.spans
  · rw [hPairs]
    exact h.apart

------------------------------------------------------------
-- Machines That Copy
------------------------------------------------------------

namespace Machine

/-
  Firmware that is at rest again has copied samples between
  two regions, and nothing else was changed.
-/
structure Copies
    (key count source target : Nat)
    (pairs : List (Nat × Nat))
    (f : Firmware)
    (m : Machine)
    (f' : Firmware)
    (m' : Machine) : Prop where
  rest : m'.AtRest key f'
  setup : f'.setup = f.setup
  models : f'.models = f.models
  faults : m'.platform.faults = m.platform.faults
  restored : m.platform.device.Restored m'.platform.device
  laid : m'.platform.device.Laid
  copied :
    Device.Copied count source target pairs
      m.platform.device m'.platform.device

section Copies

variable {key count source target : Nat}
variable {ps qs : List (Nat × Nat)}
variable {f f' f'' : Firmware}
variable {m m' m'' : Machine}

theorem Copies.append
    (hFirst : Copies key count source target ps f m f' m')
    (hNext : Copies key count source target qs f' m' f'' m'')
    (hOther : source ≠ target)
    (hApart :
      ∀ p ∈ ps, ∀ q ∈ qs,
        p.2 + count ≤ q.2 ∨ q.2 + count ≤ p.2) :
    Copies key count source target (ps ++ qs) f m f''
      m'' where
  rest := hNext.rest
  setup := hNext.setup.trans hFirst.setup
  models := hNext.models.trans hFirst.models
  faults := hNext.faults.trans hFirst.faults
  restored := hFirst.restored.trans hNext.restored
  laid := hNext.laid
  copied := hFirst.copied.append hNext.copied hOther hApart

/- Only the device, its faults and the setup matter before. -/
theorem Copies.from_same
    {g : Firmware}
    {n : Machine}
    (h : Copies key count source target ps f m f' m')
    (hSetup : f.setup = g.setup)
    (hModels : f.models = g.models)
    (hDevice : m.platform.device = n.platform.device)
    (hFaults : m.platform.faults = n.platform.faults) :
    Copies key count source target ps g n f' m' where
  rest := h.rest
  setup := h.setup.trans hSetup
  models := h.models.trans hModels
  faults := h.faults.trans hFaults
  restored := hDevice ▸ h.restored
  laid := h.laid
  copied := hDevice ▸ h.copied

end Copies

end Machine

/-
  What firmware made of a run that it counted: the samples
  were copied, or the run was made to fail.
-/
theorem Firmware.run_made
    {key : Nat}
    {mode : CopyMode}
    {record : RunRecord}
    {f f' : Firmware}
    {m m' : Machine}
    {outcome : Except Status (List Param)}
    (hMade :
      Machine.Made (.ok (.run record)) f m outcome f' m')
    (hCopies : f.CopiesBy mode)
    (hLaid : m.platform.device.Laid)
    (hCount : 0 < min mode.inSize mode.outSize)
    {source target : Nat}
    (hOther : source ≠ target)
    (hSamples :
      Copyable m.platform.device
        (min mode.inSize mode.outSize) source target
        (record.inputs.zip record.outputs))
    (hRest : m'.AtRest key f') :
    outcome = .ok [] ∧
        Machine.Copies key (min mode.inSize mode.outSize)
          source target
          ((record.inputs.zip record.outputs).map placesOf)
          f m f' m' ∨
      ∃ status,
        outcome = .error status ∧ status ≠ 0 ∧
          f.setup.failRun ≠ none := by
  rcases hMade with
    ⟨p, p', hDevice, hFaults, hSettle, hDevice', hFaults', _⟩
  cases hFault : f.runFault with
  | some status =>
      simp only [settle, execute, bind, Op.bind, Op.get,
        hFault, Op.fail] at hSettle
      cases hSettle
      rcases failRun_of_runFault hFault with ⟨nth, hFail⟩
      refine
        Or.inr
          ⟨status, rfl, hCopies.loud nth status hFail, ?_⟩
      rw [hFail]
      exact Option.some_ne_none _
  | none =>
      rw [← hDevice] at hLaid hSamples
      rcases execute_ok hCopies.copy hFault hLaid hCount
          hOther hSamples with
        ⟨q, hRun, hPlanned, hRestored, hLaid', hCopied⟩
      cases hRun.symm.trans hSettle
      rw [hDevice, ← hDevice'] at hRestored hCopied
      rw [← hDevice'] at hLaid'
      refine
        Or.inl
          ⟨rfl, hRest, rfl, rfl, ?_, hRestored, hLaid',
            hCopied⟩
      rw [hFaults', hPlanned, hFaults]

------------------------------------------------------------
-- Calls
------------------------------------------------------------

namespace AcceleratorRuntime

section Calls

variable {r : AcceleratorRuntime}
variable {f f' : Firmware}
variable {m : Machine}
variable {opcode : Opcode}
variable {params : List Param}
variable {decision : Except Status Decision}

/-
  A call to firmware at rest ends as the firmware says, or
  the client gives up too early.
-/
theorem call_cases
    (hRest : m.AtRest r.transport f)
    (hConsiders :
      f.Considers (Request.of opcode params) decision f')
    (hSmall :
      (Request.of opcode params).archiveSize <
        Archive.offsetLimit)
    (timeout : Duration) :
    (∃ seq outcome f'' m',
      r.call opcode params timeout m =
          ((Link.responseTo seq outcome).result.mapError
            Error.dispatch, m') ∧
        Machine.Made decision f' m outcome f'' m' ∧
          m'.AtRest r.transport f'') ∨
      ¬ Firmware.InTime decision f' timeout ∧
        ∃ e m',
          r.call opcode params timeout m =
            (.error e, m') := by
  rcases id hRest with ⟨l, _, hAttends⟩
  have hRpc :
      Machine.rpc r.transport (Request.of opcode params)
          timeout m =
        Machine.rpcChannel r.transport
          (Request.of opcode params) timeout m := by
    simp only [Machine.rpc, hAttends.here]
  rcases hRest.rpcChannel hConsiders timeout with
    ⟨seq, outcome, f'', m', hAnswer, hMade, hEnd⟩ |
      ⟨hLate, e, m', hError⟩
  · refine
      Or.inl ⟨seq, outcome, f'', m', ?_, hMade, hEnd⟩
    simp only [call, DomainRuntime.dispatched, Op.mapError,
      Machine.call, bind, Op.bind, hRpc, hAnswer,
      Op.ofExcept]
    cases (Link.responseTo seq outcome).result <;> rfl
  · refine
      Or.inr
        ⟨fun hInTime => hLate ⟨hSmall, hInTime⟩,
          .dispatch e, m', ?_⟩
    simp only [call, DomainRuntime.dispatched, Op.mapError,
      Machine.call, bind, Op.bind, hRpc, hError]

/- To wait for firmware at rest changes nothing. -/
theorem await_ok
    (hRest : m.AtRest r.transport f)
    (hLaid : m.platform.device.Laid)
    (count source target : Nat)
    (timeout : Duration) :
    ∃ m',
      r.await timeout m = (.ok (), m') ∧
        Machine.Copies r.transport count source target [] f m
          f m' := by
  rcases call_cases hRest f.considers_wait (by decide)
      timeout with
    ⟨seq, outcome, f'', m', hCall, hMade, hEnd⟩ |
      ⟨hLate, _⟩
  · rcases hMade with
      ⟨p, p', hDevice, hFaults, hSettle, hDevice', hFaults',
        _⟩
    cases hSettle
    have hSame := hDevice'.trans hDevice
    refine ⟨m', ?_, hEnd, rfl, rfl, ?_, ?_, ?_, ?_⟩
    · simp only [await, bind, Op.bind, hCall]
      rfl
    · exact hFaults'.trans hFaults
    · rw [hSame]
      exact .refl _
    · rw [hSame]
      exact hLaid
    · rw [hSame]
      exact .nil _ _ _ _
  · exact absurd (fun _ _ hRun => by cases hRun) hLate

section Runs

variable {mode : CopyMode}
variable {source target : Nat}
variable {most : Nat}

/- A run is begun with a call for it. -/
theorem invoke_run
    {model : UInt64}
    {run : ModelRun}
    (hRequest : runRequest model run = .ok (opcode, params))
    (timeout : Duration)
    (m : Machine) :
    ∃ n : Machine,
      n.transports = m.transports ∧
        n.platform.device = m.platform.device ∧
          n.platform.faults = m.platform.faults ∧
            r.invoke model timeout run m =
              ((r.call opcode params timeout n).1.map
                  fun _ => (),
                (r.call opcode params timeout n).2) := by
  refine
    ⟨((Machine.log .trace "running model"
        [("opcode", opcode.name),
          ("samples", toString run.samples)] :
        Op Error Machine Unit) m).2,
      rfl, rfl, rfl, ?_⟩
  simp only [invoke, hRequest]
  exact Op.discard_run (r.call opcode params timeout) _

/- Firmware makes no run of a model that it does not know. -/
theorem invoke_unknown
    (hRest : m.AtRest r.transport f)
    {run : ModelRun}
    (hSized : run.Sized most)
    (hMost : most ≤ 0x400_0000)
    {model : UInt64}
    (hModel : f.hasModel model = false)
    (timeout : Duration) :
    ∃ e m', r.invoke model timeout run m = (.error e, m') := by
  rcases runRequest_ok hSized hMost model with
    ⟨opcode, params, hRequest, hRun, _, hSmall⟩
  rcases invoke_run (r := r) hRequest timeout m with
    ⟨n, hTransports, _, _, hInvoke⟩
  rw [hInvoke]
  rcases call_cases (hRest.of_transports hTransports)
      (Firmware.considers_unknown hRun hModel) hSmall
      timeout with
    ⟨seq, outcome, f', m', hCall, hMade, _⟩ |
      ⟨_, e, m', hCall⟩
  · rcases hMade with ⟨p, p', _, _, hSettle, _⟩
    cases hSettle
    rw [hCall]
    exact ⟨_, m', rfl⟩
  · rw [hCall]
    exact ⟨e, m', rfl⟩

/-
  A run is made and its samples are copied, or firmware is
  not willing to make it.
-/
theorem invoke_cases
    (hRest : m.AtRest r.transport f)
    (hLaid : m.platform.device.Laid)
    (hCopies : f.CopiesBy mode)
    (hCount : 0 < min mode.inSize mode.outSize)
    (hOther : source ≠ target)
    {run : ModelRun}
    (hSized : run.Sized most)
    (hMost : most ≤ 0x400_0000)
    (hFits :
      m.platform.device.Fits (min mode.inSize mode.outSize)
        source target run.pairs)
    (model : UInt64)
    (timeout : Duration) :
    (∃ f' m',
      r.invoke model timeout run m = (.ok (), m') ∧
        Machine.Copies r.transport
          (min mode.inSize mode.outSize) source target
          run.pairs f m f' m') ∨
      ¬ f.Willing model timeout ∧
        ∃ e m',
          r.invoke model timeout run m = (.error e, m') := by
  cases hModel : f.hasModel model with
  | false =>
      refine
        Or.inr
          ⟨?_,
            invoke_unknown hRest hSized hMost hModel timeout⟩
      intro hWilling
      cases hModel.symm.trans hWilling.model
  | true =>
      rcases runRequest_ok hSized hMost model with
        ⟨opcode, params, hRequest, hRun, hComplete, hSmall⟩
      rcases invoke_run (r := r) hRequest timeout m with
        ⟨n, hTransports, hDevice, hFaults, hInvoke⟩
      rw [hInvoke]
      rcases call_cases (hRest.of_transports hTransports)
          (Firmware.considers_run hRun hComplete hModel)
          hSmall timeout with
        ⟨seq, outcome, f', m', hCall, hMade, hEnd⟩ |
          ⟨hLate, e, m', hCall⟩
      · rw [← hDevice] at hLaid hFits
        rw [hCall]
        rcases Firmware.run_made hMade (hCopies.of_setup rfl)
            hLaid hCount hOther (hFits.copyable model opcode)
            hEnd with
          ⟨rfl, hCopied⟩ | ⟨status, rfl, hStatus, hFault⟩
        · rw [ModelRun.pairs_recordOf hFits.words]
            at hCopied
          exact
            Or.inl
              ⟨f', m', rfl,
                hCopied.from_same rfl rfl hDevice hFaults⟩
        · have hResult :
              (Link.responseTo seq (.error status)).result =
                .error (.ofStatus status) :=
            if_neg hStatus
          rw [hResult]
          exact
            Or.inr
              ⟨fun hWilling => hFault hWilling.sound, _, m',
                rfl⟩
      · rw [hCall]
        refine Or.inr ⟨?_, e, m', rfl⟩
        intro hWilling
        exact hLate fun _ delay _ => hWilling.prompt delay

/-
  All runs are made one after the other, or firmware is not
  willing to make them.
-/
theorem invokeAll_cases
    (hRest : m.AtRest r.transport f)
    (hLaid : m.platform.device.Laid)
    (hCopies : f.CopiesBy mode)
    (hCount : 0 < min mode.inSize mode.outSize)
    (hOther : source ≠ target)
    {runs : List ModelRun}
    (hSome : runs ≠ [])
    (hSized : ∀ run ∈ runs, run.Sized most)
    (hMost : most ≤ 0x400_0000)
    (hFits :
      m.platform.device.Fits (min mode.inSize mode.outSize)
        source target (runs.flatMap ModelRun.pairs))
    (model : UInt64)
    (timeout : Duration) :
    (∃ f' m',
      r.invokeAll model timeout runs m = (.ok (), m') ∧
        Machine.Copies r.transport
          (min mode.inSize mode.outSize) source target
          (runs.flatMap ModelRun.pairs) f m f' m') ∨
      ¬ f.Willing model timeout ∧
        ∃ e m',
          r.invokeAll model timeout runs m =
            (.error e, m') := by
  induction runs generalizing m f with
  | nil => exact absurd rfl hSome
  | cons run rest ih =>
      rw [List.forall_mem_cons] at hSized
      rw [List.flatMap_cons, Device.fits_append] at hFits
      rcases hFits with ⟨hFitsFirst, hFitsRest, hApart⟩
      have hFirst :=
        invoke_cases hRest hLaid hCopies hCount hOther
          hSized.1 hMost hFitsFirst model timeout
      cases rest with
      | nil =>
          rw [List.flatMap_cons, List.flatMap_nil,
            List.append_nil]
          exact hFirst
      | cons next later =>
          rcases hFirst with
            ⟨f₁, m₁, hInvoke, hDone⟩ |
              ⟨hNot, e, m₁, hInvoke⟩
          · rcases await_ok hDone.rest hDone.laid
                (min mode.inSize mode.outSize) source target
                timeout with
              ⟨m₂, hAwait, hWaited⟩
            have hBegun :=
              hDone.append hWaited hOther fun _ _ _ hMem =>
                absurd hMem List.not_mem_nil
            rw [List.append_nil] at hBegun
            rcases ih hBegun.rest hBegun.laid
                (hCopies.of_setup hBegun.setup)
                (List.cons_ne_nil _ _) hSized.2
                (hFitsRest.of_restored hBegun.restored) with
              ⟨f₃, m₃, hLater, hEnd⟩ |
                ⟨hNot, e, m₃, hLater⟩
            · refine
                Or.inl
                  ⟨f₃, m₃, ?_,
                    hBegun.append hEnd hOther hApart⟩
              simp only [invokeAll, bind, Op.bind, hInvoke,
                hAwait, hLater]
            · refine Or.inr ⟨?_, e, m₃, ?_⟩
              · intro hWilling
                exact
                  hNot
                    (hWilling.of_setup hBegun.setup
                      hBegun.models)
              · simp only [invokeAll, bind, Op.bind, hInvoke,
                  hAwait, hLater]
          · refine Or.inr ⟨hNot, e, m₁, ?_⟩
            simp only [invokeAll, bind, Op.bind, hInvoke]

end Runs

end Calls

end AcceleratorRuntime

end Offload
