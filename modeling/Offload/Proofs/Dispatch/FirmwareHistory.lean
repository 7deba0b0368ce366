import Mathlib.Data.List.Nodup
import Offload.Proofs.Dispatch.FirmwareAnswers
import Offload.Proofs.Run

/-
  Firmware and all that it was asked for.

  What firmware knows is told by the requests it answered:
  the handles it gave out, the models that were loaded for
  driver handles, the runs that counted and those that were
  made. Between two requests the files and the device can
  change in any way.

  Key definitions include:
    * `AskedFirmware`
    * `AskedFirmware.ask`
    * `AskedFirmware.Loaded`
    * `AskedFirmware.Counts`
    * `AskedFirmware.Tally`
    * `AskedFirmware.Told`

  Main results:
    * `AskedFirmware.Told.ask`
    * `AskedFirmware.lawful_after`
-/

namespace Offload

------------------------------------------------------------
-- Requests and Answers
------------------------------------------------------------

/- A request with what it was answered. -/
structure AskedFirmware.Entry where
  request : Request
  outcome : Except Status (List Param)
deriving DecidableEq

/- Firmware with what it was asked for, newest first. -/
structure AskedFirmware where
  firmware : Firmware
  past : List AskedFirmware.Entry

namespace AskedFirmware

/- A request with what the firmware finds when it comes. -/
structure Asking where
  files : FileTree
  platform : Platform
  request : Request

/- Firmware that was not asked for anything yet. -/
def fresh
    (setup : FirmwareSetup) : AskedFirmware :=
  ⟨Firmware.fresh setup, []⟩

/- The next handle and the number of runs are words. -/
def InWords
    (f : Firmware) : Prop :=
  f.nextHandle < Word.limit ∧ f.runs < Word.limit

instance
    (f : Firmware) : Decidable (InWords f) :=
  inferInstanceAs (Decidable (_ ∧ _))

/-
  Answer a request. There is no answer, and nothing changes,
  when a number would no longer be a word.
-/
def ask
    (a : Asking)
    (s : AskedFirmware) : AskedFirmware :=
  let answer :=
    Firmware.handle a.files a.request (s.firmware, a.platform)
  if InWords answer.2.1 then
    ⟨answer.2.1, ⟨a.request, answer.1⟩ :: s.past⟩
  else
    s

------------------------------------------------------------
-- What the Past Tells
------------------------------------------------------------

/- The handle that a request was answered with. -/
def Entry.handle?
    (e : Entry) : Option UInt64 :=
  match e.request.opcode, e.outcome with
  | .getHandle, .ok [.long handle] => some handle
  | .loadModel, .ok [.long handle] => some handle
  | _, _ => none

/- Whether an answer made a run. -/
def Entry.isMade
    (e : Entry) : Bool :=
  e.request.opcode.isRun && e.outcome.isOk

/- A driver handle was given out. -/
def Opened
    (driver : UInt64)
    (past : List Entry) : Prop :=
  ∃ e ∈ past,
    e.request.opcode = .getHandle ∧
      e.outcome = .ok [.long driver]

/-
  A model handle was given out for a request that named a
  driver handle given out before.
-/
def Loaded
    (model : UInt64) : List Entry → Prop
  | [] => False
  | e :: older =>
    (e.request.opcode = .loadModel ∧
        e.outcome = .ok [.long model] ∧
          ∃ driver path,
            e.request.params = [.long driver, .bytes path] ∧
              Opened driver older) ∨
      Loaded model older

/-
  A request for a run counts: it has the shape of one, its
  model was loaded before, and there are as many addresses
  as samples.
-/
def Counts
    (r : Request)
    (past : List Entry) : Prop :=
  ∃ record : RunRecord,
    record.AskedBy r ∧ Loaded record.model past ∧
      record.inputs.length = record.samples ∧
        record.outputs.length = record.samples

/- The number of requests for runs that counted. -/
inductive Tally : List Entry → Nat → Prop
  | start : Tally [] 0
  | counted {e : Entry} {older : List Entry} {n : Nat} :
      Tally older n →
        Counts e.request older → Tally (e :: older) (n + 1)
  | passed {e : Entry} {older : List Entry} {n : Nat} :
      Tally older n →
        ¬Counts e.request older → Tally (e :: older) n

theorem Tally.unique
    {past : List Entry}
    {n m : Nat}
    (h : Tally past n)
    (h' : Tally past m) : n = m := by
  induction h generalizing m with
  | start =>
      cases h'
      rfl
  | counted _ hCounts ih =>
      cases h' with
      | counted hOlder _ => rw [ih hOlder]
      | passed _ hPassed => exact absurd hCounts hPassed
  | passed _ hPassed ih =>
      cases h' with
      | counted _ hCounts => exact absurd hCounts hPassed
      | passed hOlder _ => exact ih hOlder

/-
  What the answers to one request have to be, after others:
  a handle for who asks for one, the number of runs for who
  asks for it, an error for a run that does not count, and
  the planned error for exactly the run it is planned for.
-/
structure Fitting
    (setup : FirmwareSetup)
    (e : Entry)
    (older : List Entry) : Prop where
  handed :
    e.request.opcode = .getHandle ∨
        e.request.opcode = .loadModel →
      ∀ outputs,
        e.outcome = .ok outputs →
          ∃ handle, outputs = [.long handle]
  reported :
    ∀ n,
      Tally older n →
        e.request.opcode = .getStatus →
          e.outcome = .ok [.word 0, .long (UInt64.ofNat n)]
  refused :
    e.request.opcode.isRun = true →
      ¬Counts e.request older →
        ∃ status, e.outcome = .error status
  struck :
    ∀ n status,
      Tally older n →
        Counts e.request older →
          setup.failRun = some (n + 1, status) →
            e.outcome = .error status
  spared :
    ∀ n,
      Tally older n →
        Counts e.request older →
          (∀ status, setup.failRun ≠ some (n + 1, status)) →
            e.outcome = .ok [] ∨
              setup.copy.isSome ∧
                e.outcome = .error Firmware.badValue

/-
  What holds of firmware and its past: no handle is given
  out twice, runs are counted as they should be, the log has
  the runs that were made, and every request had the answer
  that fits.
-/
structure Lawful
    (setup : FirmwareSetup)
    (s : AskedFirmware) : Prop where
  distinct : (s.past.filterMap Entry.handle?).Nodup
  runs : Tally s.past s.firmware.runs
  log :
    List.Forall₂ RunRecord.AskedBy s.firmware.log
      ((s.past.filter Entry.isMade).map Entry.request)
  fitting :
    ∀ e older, e :: older <:+ s.past → Fitting setup e older

/- What firmware knows is what the past tells. -/
structure Told
    (setup : FirmwareSetup)
    (s : AskedFirmware) : Prop where
  setup : s.firmware.setup = setup
  drivers :
    ∀ driver,
      driver ∈ s.firmware.drivers ↔ Opened driver s.past
  models :
    ∀ model,
      s.firmware.hasModel model = true ↔ Loaded model s.past
  issued :
    ∀ handle ∈ s.past.filterMap Entry.handle?,
      handle.toNat < s.firmware.nextHandle

------------------------------------------------------------
-- One Request
------------------------------------------------------------

theorem opened_cons_of_other
    {e : Entry}
    {past : List Entry}
    (hOther : e.request.opcode ≠ .getHandle)
    (driver : UInt64) :
    Opened driver (e :: past) ↔ Opened driver past := by
  unfold Opened
  constructor
  · rintro ⟨x, hMem, hOpcode, hOutcome⟩
    rcases List.mem_cons.mp hMem with rfl | hOlder
    · exact absurd hOpcode hOther
    · exact ⟨x, hOlder, hOpcode, hOutcome⟩
  · rintro ⟨x, hMem, hBoth⟩
    exact ⟨x, List.mem_cons_of_mem _ hMem, hBoth⟩

/- Only an answer with a handle loads a model. -/
theorem loaded_cons_of_other
    {e : Entry}
    {past : List Entry}
    (hOther :
      e.request.opcode ≠ .loadModel ∨
        ∃ status, e.outcome = .error status)
    (model : UInt64) :
    Loaded model (e :: past) ↔ Loaded model past := by
  constructor
  · rintro (⟨hOpcode, hOutcome, _⟩ | hOlder)
    · rcases hOther with hNot | ⟨status, hError⟩
      · exact absurd hOpcode hNot
      · cases hOutcome.symm.trans hError
    · exact hOlder
  · exact Or.inr

variable {setup : FirmwareSetup}
variable {s : AskedFirmware}

/- Firmware accepts the runs that count. -/
theorem Told.accepts_iff
    (h : s.Told setup)
    (r : Request) :
    (∃ record, s.firmware.Accepts r record) ↔
      Counts r s.past := by
  apply exists_congr
  intro record
  rw [← h.models]
  constructor
  · rintro ⟨hAsked, hModel, hInputs, hOutputs⟩
    exact ⟨hAsked, hModel, hInputs, hOutputs⟩
  · rintro ⟨hAsked, hModel, hInputs, hOutputs⟩
    exact ⟨hAsked, hModel, hInputs, hOutputs⟩

/- Only a request for a run counts as one. -/
theorem not_counts_of_other
    {r : Request}
    (hOther : r.opcode.isRun = false)
    (past : List Entry) : ¬Counts r past := by
  rintro ⟨record, hAsked, _⟩
  have hRun := Firmware.isRun_of_askedBy hAsked
  rw [hOther] at hRun
  cases hRun

/- The state once a request was answered. -/
def answered
    (s : AskedFirmware)
    (e : Entry)
    (f : Firmware) : AskedFirmware :=
  ⟨f, e :: s.past⟩

/-
  An answer without a handle leaves what is known of handles
  as it was.
-/
theorem Told.keep
    {e : Entry}
    {f : Firmware}
    (h : s.Told setup)
    (hSetup : f.setup = s.firmware.setup)
    (hNext : f.nextHandle = s.firmware.nextHandle)
    (hDrivers : f.drivers = s.firmware.drivers)
    (hModels : f.models = s.firmware.models)
    (hHandle : e.handle? = none)
    (hOpened : e.request.opcode ≠ .getHandle)
    (hLoaded :
      e.request.opcode ≠ .loadModel ∨
        ∃ status, e.outcome = .error status) :
    (s.answered e f).Told setup where
  setup := hSetup.trans h.setup
  drivers := by
    intro driver
    change driver ∈ f.drivers ↔ Opened driver (e :: s.past)
    rw [hDrivers, h.drivers, opened_cons_of_other hOpened]
  models := by
    intro model
    change f.hasModel model = true ↔ Loaded model (e :: s.past)
    rw [loaded_cons_of_other hLoaded, ← h.models,
      Firmware.hasModel, Firmware.hasModel, hModels]
  issued := by
    change
      ∀ handle ∈ (e :: s.past).filterMap Entry.handle?,
        handle.toNat < f.nextHandle
    rw [List.filterMap_cons_none hHandle, hNext]
    exact h.issued

/- The next handle is a word above all that were given out. -/
theorem Told.upcoming_fresh
    (h : s.Told setup)
    (hWords : s.firmware.nextHandle + 1 < Word.limit) :
    s.firmware.upcoming.toNat = s.firmware.nextHandle ∧
      s.firmware.upcoming ∉
        s.past.filterMap Entry.handle? := by
  have hNat :
      s.firmware.upcoming.toNat = s.firmware.nextHandle :=
    UInt64.toNat_ofNat_of_lt' (Nat.lt_of_succ_lt hWords)
  refine ⟨hNat, fun hMem => ?_⟩
  have hBelow := h.issued _ hMem
  omega

theorem Told.issued_cons
    {e : Entry}
    (h : s.Told setup)
    (hWords : s.firmware.nextHandle + 1 < Word.limit)
    (hHandle : e.handle? = some s.firmware.upcoming) :
    ∀ handle ∈ (e :: s.past).filterMap Entry.handle?,
      handle.toNat < s.firmware.nextHandle + 1 := by
  intro handle hMem
  rw [List.filterMap_cons_some hHandle, List.mem_cons] at hMem
  rcases hMem with rfl | hOlder
  · rw [(h.upcoming_fresh hWords).1]
    exact Nat.lt_succ_self _
  · exact Nat.lt_succ_of_lt (h.issued handle hOlder)

/- Opening the driver. -/
theorem Told.opened
    {r : Request}
    (h : s.Told setup)
    (hOpcode : r.opcode = .getHandle)
    (hWords : s.firmware.nextHandle + 1 < Word.limit) :
    (s.answered ⟨r, .ok [.long s.firmware.upcoming]⟩
      s.firmware.openDriver.2).Told setup where
  setup := h.setup
  drivers := by
    intro driver
    change
      driver ∈ s.firmware.upcoming :: s.firmware.drivers ↔
        Opened driver
          (⟨r, .ok [.long s.firmware.upcoming]⟩ :: s.past)
    rw [List.mem_cons, h.drivers]
    simp [Opened, hOpcode, eq_comm]
  models := by
    intro model
    have hOther : r.opcode ≠ .loadModel := by
      rw [hOpcode]
      decide
    exact (h.models model).trans
      (loaded_cons_of_other (Or.inl hOther) model).symm
  issued := by
    apply h.issued_cons hWords
    simp only [Entry.handle?, hOpcode]

/- Loading a model. -/
theorem Told.loaded
    {r : Request}
    {driver : UInt64}
    {bytes : Bytes}
    (path : String)
    (h : s.Told setup)
    (hOpcode : r.opcode = .loadModel)
    (hParams : r.params = [.long driver, .bytes bytes])
    (hGiven : driver ∈ s.firmware.drivers)
    (hWords : s.firmware.nextHandle + 1 < Word.limit) :
    (s.answered ⟨r, .ok [.long s.firmware.upcoming]⟩
      (s.firmware.enterModel path).2).Told setup where
  setup := h.setup
  drivers := by
    intro d
    have hOther : r.opcode ≠ .getHandle := by
      rw [hOpcode]
      decide
    exact (h.drivers d).trans
      (opened_cons_of_other hOther d).symm
  models := by
    intro model
    have hEntered :
        (s.firmware.enterModel path).2.hasModel model = true ↔
          s.firmware.upcoming = model ∨
            s.firmware.hasModel model = true := by
      simp [Firmware.enterModel, Firmware.hasModel]
    have hOpened := (h.drivers driver).mp hGiven
    refine hEntered.trans ?_
    rw [h.models]
    apply or_congr_left
    constructor
    · rintro rfl
      exact ⟨hOpcode, rfl, driver, bytes, hParams, hOpened⟩
    · rintro ⟨_, hOutcome, _⟩
      cases hOutcome
      rfl
  issued := by
    apply h.issued_cons hWords
    simp only [Entry.handle?, hOpcode]

/- Runs change neither handles nor models. -/
theorem Executed.keeps
    {f f' : Firmware}
    {record : RunRecord}
    {outcome : Except Status (List Param)}
    (h : Firmware.Executed f record outcome f') :
    f'.setup = f.setup ∧ f'.nextHandle = f.nextHandle ∧
      f'.drivers = f.drivers ∧ f'.models = f.models ∧
        f'.runs = f.runs := by
  cases h <;> exact ⟨rfl, rfl, rfl, rfl, rfl⟩

/- An answered request keeps what is known up to date. -/
theorem Told.handled
    {r : Request}
    {outcome : Except Status (List Param)}
    {f : Firmware}
    (h : s.Told setup)
    (hHandled : s.firmware.Handled r outcome f)
    (hWords : InWords f) :
    (s.answered ⟨r, outcome⟩ f).Told setup := by
  cases hHandled with
  | opened hOpcode => exact h.opened hOpcode hWords.1
  | loaded path hOpcode hParams hGiven =>
      exact h.loaded path hOpcode hParams hGiven hWords.1
  | unloaded status hOpcode =>
      refine h.keep rfl rfl rfl rfl ?_ ?_ (Or.inr ⟨_, rfl⟩)
      · simp only [Entry.handle?, hOpcode]
      · simp [hOpcode]
  | waited hOpcode =>
      refine h.keep rfl rfl rfl rfl ?_ ?_ (Or.inl ?_)
      · simp only [Entry.handle?, hOpcode]
      · simp [hOpcode]
      · simp [hOpcode]
  | told hOpcode =>
      refine h.keep rfl rfl rfl rfl ?_ ?_ (Or.inl ?_)
      · simp only [Entry.handle?, hOpcode]
      · simp [hOpcode]
      · simp [hOpcode]
  | refused status hRun _ =>
      rcases Opcode.eq_of_isRun hRun with hOpcode | hOpcode <;>
        exact h.keep rfl rfl rfl rfl
          (by simp only [Entry.handle?, hOpcode])
          (by simp [hOpcode]) (Or.inl (by simp [hOpcode]))
  | ran hAccepts hExecuted =>
      rcases Executed.keeps hExecuted with
        ⟨hSetup, hNext, hDrivers, hModels, _⟩
      have hRun := Firmware.isRun_of_askedBy hAccepts.asked
      rcases Opcode.eq_of_isRun hRun with hOpcode | hOpcode <;>
        exact h.keep hSetup hNext hDrivers hModels
          (by simp only [Entry.handle?, hOpcode])
          (by simp [hOpcode]) (Or.inl (by simp [hOpcode]))

/- An answer has the next handle or none. -/
theorem handle?_of_handled
    {f f' : Firmware}
    {r : Request}
    {outcome : Except Status (List Param)}
    (h : f.Handled r outcome f') :
    Entry.handle? ⟨r, outcome⟩ = none ∨
      Entry.handle? ⟨r, outcome⟩ = some f.upcoming ∧
        f'.nextHandle = f.nextHandle + 1 := by
  have hOfRun :
      r.opcode.isRun = true →
        Entry.handle? ⟨r, outcome⟩ = none := by
    intro hRun
    rcases Opcode.eq_of_isRun hRun with hOpcode | hOpcode <;>
      simp only [Entry.handle?, hOpcode]
  cases h with
  | opened hOpcode =>
      exact Or.inr ⟨by simp only [Entry.handle?, hOpcode], rfl⟩
  | loaded path hOpcode _ _ =>
      exact Or.inr ⟨by simp only [Entry.handle?, hOpcode], rfl⟩
  | unloaded status hOpcode =>
      exact Or.inl (by simp only [Entry.handle?, hOpcode])
  | waited hOpcode =>
      exact Or.inl (by simp only [Entry.handle?, hOpcode])
  | told hOpcode =>
      exact Or.inl (by simp only [Entry.handle?, hOpcode])
  | refused status hRun _ => exact Or.inl (hOfRun hRun)
  | ran hAccepts _ =>
      exact Or.inl
        (hOfRun (Firmware.isRun_of_askedBy hAccepts.asked))

theorem Lawful.distinct_handled
    {r : Request}
    {outcome : Except Status (List Param)}
    {f : Firmware}
    (h : s.Lawful setup)
    (hTold : s.Told setup)
    (hHandled : s.firmware.Handled r outcome f)
    (hWords : InWords f) :
    ((⟨r, outcome⟩ :: s.past).filterMap Entry.handle?).Nodup := by
  rcases handle?_of_handled hHandled with
    hNone | ⟨hSome, hNext⟩
  · rw [List.filterMap_cons_none hNone]
    exact h.distinct
  · rw [List.filterMap_cons_some hSome]
    have hRoom : s.firmware.nextHandle + 1 < Word.limit :=
      hNext ▸ hWords.1
    exact h.distinct.cons (hTold.upcoming_fresh hRoom).2

/- What is not made changes neither the log nor the runs made. -/
theorem Lawful.log_of_unmade
    {e : Entry}
    {f : Firmware}
    (h : s.Lawful setup)
    (hLog : f.log = s.firmware.log)
    (hUnmade : e.isMade = false) :
    List.Forall₂ RunRecord.AskedBy f.log
      (((e :: s.past).filter Entry.isMade).map
        Entry.request) := by
  rw [hLog, List.filter_cons_of_neg (by rw [hUnmade]; decide)]
  exact h.log

/- The counter and the log after a request. -/
theorem Lawful.runs_handled
    {r : Request}
    {outcome : Except Status (List Param)}
    {f : Firmware}
    (h : s.Lawful setup)
    (hTold : s.Told setup)
    (hHandled : s.firmware.Handled r outcome f) :
    Tally (⟨r, outcome⟩ :: s.past) f.runs ∧
      List.Forall₂ RunRecord.AskedBy f.log
        (((⟨r, outcome⟩ :: s.past).filter Entry.isMade).map
          Entry.request) := by
  have hOther :
      r.opcode.isRun = false →
        f.runs = s.firmware.runs →
          f.log = s.firmware.log →
            Tally (⟨r, outcome⟩ :: s.past) f.runs ∧
              List.Forall₂ RunRecord.AskedBy f.log
                (((⟨r, outcome⟩ :: s.past).filter
                  Entry.isMade).map Entry.request) := by
    intro hRun hRuns hLog
    rw [hRuns]
    refine ⟨.passed h.runs (not_counts_of_other hRun _), ?_⟩
    apply h.log_of_unmade hLog
    simp only [Entry.isMade, hRun, Bool.false_and]
  cases hHandled with
  | opened hOpcode => exact hOther (by rw [hOpcode]; rfl) rfl rfl
  | loaded path hOpcode _ _ =>
      exact hOther (by rw [hOpcode]; rfl) rfl rfl
  | unloaded status hOpcode =>
      exact hOther (by rw [hOpcode]; rfl) rfl rfl
  | waited hOpcode => exact hOther (by rw [hOpcode]; rfl) rfl rfl
  | told hOpcode => exact hOther (by rw [hOpcode]; rfl) rfl rfl
  | refused status hRun hNone =>
      have hPassed : ¬Counts r s.past := fun hCounts =>
        ((hTold.accepts_iff r).mpr hCounts).elim hNone
      refine ⟨.passed h.runs hPassed, ?_⟩
      apply h.log_of_unmade rfl
      exact Bool.and_false _
  | @ran record _ _ hAccepts hExecuted =>
      have hCounts := (hTold.accepts_iff r).mp ⟨record, hAccepts⟩
      rw [(Executed.keeps hExecuted).2.2.2.2]
      refine ⟨.counted h.runs hCounts, ?_⟩
      cases hExecuted with
      | struck _ => exact h.log_of_unmade rfl (Bool.and_false _)
      | uncopied _ _ =>
          exact h.log_of_unmade rfl (Bool.and_false _)
      | made _ =>
          have hRun := Firmware.isRun_of_askedBy hAccepts.asked
          rw [List.filter_cons_of_pos
            (by simp only [Entry.isMade, hRun]; rfl)]
          exact .cons hAccepts.asked h.log

/- Whether the run that was just counted is the planned one. -/
theorem runFault_counted
    (f : Firmware)
    (status : Status) :
    f.counted.runFault = some status ↔
      f.setup.failRun = some (f.runs + 1, status) := by
  simp only [Firmware.runFault, Firmware.counted]
  cases f.setup.failRun with
  | none => simp
  | some planned =>
      by_cases hNow : planned.1 = f.runs + 1
      · simp [hNow, Prod.ext_iff]
      · simp [hNow, Prod.ext_iff]

/- What an answer to anything but a run has to be. -/
theorem Fitting.of_other
    {e : Entry}
    {older : List Entry}
    (hRun : e.request.opcode.isRun = false)
    (hHanded :
      e.request.opcode = .getHandle ∨
          e.request.opcode = .loadModel →
        ∀ outputs,
          e.outcome = .ok outputs →
            ∃ handle, outputs = [.long handle])
    (hReported :
      ∀ n,
        Tally older n →
          e.request.opcode = .getStatus →
            e.outcome = .ok [.word 0, .long (UInt64.ofNat n)]) :
    Fitting setup e older where
  handed := hHanded
  reported := hReported
  refused := by
    intro hSome
    rw [hRun] at hSome
    cases hSome
  struck := fun _ _ _ hCounts =>
    absurd hCounts (not_counts_of_other hRun older)
  spared := fun _ _ hCounts =>
    absurd hCounts (not_counts_of_other hRun older)

/- Who asks for a run asks for no handle and no number. -/
theorem Fitting.of_run
    {e : Entry}
    {older : List Entry}
    (hRun : e.request.opcode.isRun = true)
    (hRefused :
      ¬Counts e.request older →
        ∃ status, e.outcome = .error status)
    (hCounted :
      ∀ n,
        Tally older n →
          Counts e.request older →
            (∀ status,
                setup.failRun = some (n + 1, status) →
                  e.outcome = .error status) ∧
              ((∀ status,
                  setup.failRun ≠ some (n + 1, status)) →
                e.outcome = .ok [] ∨
                  setup.copy.isSome ∧
                    e.outcome = .error Firmware.badValue)) :
    Fitting setup e older where
  handed := by
    intro hOpcode
    rcases Opcode.eq_of_isRun hRun with hSome | hSome <;>
      simp [hSome] at hOpcode
  reported := by
    intro _ _ hOpcode
    rw [hOpcode] at hRun
    cases hRun
  refused := fun _ => hRefused
  struck := fun n status hTally hCounts =>
    (hCounted n hTally hCounts).1 status
  spared := fun n hTally hCounts =>
    (hCounted n hTally hCounts).2

/- Every answer is one that fits. -/
theorem Lawful.fitting_handled
    {r : Request}
    {outcome : Except Status (List Param)}
    {f : Firmware}
    (h : s.Lawful setup)
    (hTold : s.Told setup)
    (hHandled : s.firmware.Handled r outcome f) :
    Fitting setup ⟨r, outcome⟩ s.past := by
  cases hHandled with
  | opened hOpcode =>
      refine .of_other (by simp [hOpcode, Opcode.isRun]) ?_ ?_
      · rintro _ _ ⟨⟩
        exact ⟨_, rfl⟩
      · simp [hOpcode]
  | loaded path hOpcode _ _ =>
      refine .of_other (by simp [hOpcode, Opcode.isRun]) ?_ ?_
      · rintro _ _ ⟨⟩
        exact ⟨_, rfl⟩
      · simp [hOpcode]
  | unloaded status hOpcode =>
      refine .of_other (by simp [hOpcode, Opcode.isRun]) ?_ ?_
      · rintro _ _ ⟨⟩
      · simp [hOpcode]
  | waited hOpcode =>
      refine .of_other (by simp [hOpcode, Opcode.isRun]) ?_ ?_
      · simp [hOpcode]
      · simp [hOpcode]
  | told hOpcode =>
      refine .of_other (by simp [hOpcode, Opcode.isRun]) ?_ ?_
      · simp [hOpcode]
      · intro n hTally _
        rw [hTally.unique h.runs]
  | refused status hRun hNone =>
      refine .of_run hRun (fun _ => ⟨status, rfl⟩) ?_
      intro _ _ hCounts
      exact
        (((hTold.accepts_iff r).mpr hCounts).elim hNone).elim
  | @ran record _ _ hAccepts hExecuted =>
      have hCounts := (hTold.accepts_iff r).mp ⟨record, hAccepts⟩
      have hRun := Firmware.isRun_of_askedBy hAccepts.asked
      refine .of_run hRun (fun hNot => absurd hCounts hNot) ?_
      intro n hTally _
      rw [hTally.unique h.runs, ← hTold.setup]
      cases hExecuted with
      | @struck status hFault =>
          have hPlanned :=
            (runFault_counted s.firmware status).mp hFault
          refine ⟨?_, fun hSpared => absurd hPlanned (hSpared _)⟩
          intro other hOther
          cases hPlanned.symm.trans hOther
          rfl
      | uncopied hFault hCopies =>
          refine ⟨?_, fun _ => Or.inr ⟨hCopies, rfl⟩⟩
          intro status hPlanned
          cases hFault.symm.trans
            ((runFault_counted s.firmware status).mpr hPlanned)
      | made hFault =>
          refine ⟨?_, fun _ => Or.inl rfl⟩
          intro status hPlanned
          cases hFault.symm.trans
            ((runFault_counted s.firmware status).mpr hPlanned)

------------------------------------------------------------
-- All Requests
------------------------------------------------------------

theorem lawful_fresh
    (setup : FirmwareSetup) : (fresh setup).Lawful setup where
  distinct := List.nodup_nil
  runs := .start
  log := .nil
  fitting := by
    intro e older hSuffix
    cases List.suffix_nil.mp hSuffix

theorem told_fresh
    (setup : FirmwareSetup) : (fresh setup).Told setup where
  setup := rfl
  drivers := by
    intro driver
    simp [fresh, Firmware.fresh, Opened]
  models := by
    intro model
    simp [fresh, Firmware.fresh, Firmware.hasModel, Loaded]
  issued := by
    intro handle hMem
    cases hMem

/- One more request leaves everything as it should be. -/
theorem lawful_ask
    (a : Asking)
    (h : s.Told setup ∧ s.Lawful setup) :
    (ask a s).Told setup ∧ (ask a s).Lawful setup := by
  rcases h with ⟨hTold, hLawful⟩
  have hHandled :=
    s.firmware.handle_cases a.request a.files a.platform
  unfold ask
  dsimp only
  split
  · rename_i hWords
    rcases hLawful.runs_handled hTold hHandled with
      ⟨hRuns, hLog⟩
    refine ⟨hTold.handled hHandled hWords, ?_⟩
    constructor
    · exact hLawful.distinct_handled hTold hHandled hWords
    · exact hRuns
    · exact hLog
    · intro e older hSuffix
      rcases List.suffix_cons_iff.mp hSuffix with
        hNow | hBefore
      · cases hNow
        exact hLawful.fitting_handled hTold hHandled
      · exact hLawful.fitting e older hBefore
  · exact ⟨hTold, hLawful⟩

/-
  Whatever firmware is asked for, and whatever happens to
  files and device meanwhile, no handle is given out twice,
  the runs that count are those of models loaded before, and
  the log has the runs that were made.
-/
theorem lawful_after
    (setup : FirmwareSetup)
    (es : List Asking) :
    (Run.after ask es (fresh setup)).Lawful setup := by
  have hReaches :
      Run.Reaches ask (fresh setup)
        (Run.after ask es (fresh setup)) :=
    ⟨es, rfl⟩
  exact
    (Run.Reaches.keep
      (P := fun s => s.Told setup ∧ s.Lawful setup)
      (fun _ a h => lawful_ask a h) hReaches
      ⟨told_fresh setup, lawful_fresh setup⟩).2

/- A refused run does not bring the planned failure nearer. -/
example :
    let found : Request → Asking :=
      fun r =>
        ⟨⟨[(["tmp"], .directory),
            (FileTree.workingPlace, .directory),
            (FileTree.workingPlace ++ ["m"], .file [])]⟩,
          Platform.fresh Device.defaultCapacity, r⟩
    let run : UInt64 → Request := fun model =>
      .of .runModel [.long model, .addrs [7], .addrs [8]]
    ((Run.after ask
        [found (.of .getHandle []),
          found (.of .loadModel [.long 1, .bytes [109]]),
          found (run 9), found (run 2), found (run 2)]
        (fresh ⟨none, some (2, 5), none⟩)).past.map
      Entry.outcome) =
      [.error 5, .ok [], .error 22, .ok [.long 2],
        .ok [.long 1]] := by
  cbv

end AskedFirmware

end Offload
