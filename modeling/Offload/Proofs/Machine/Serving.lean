import Offload.Proofs.Dispatch.Delivery
import Offload.Proofs.Machine.QuietTransports
import Offload.Proofs.Wire.Frames

/-
  Firmware that serves a request.

  What firmware makes of a request depends on nothing but
  the request and its own state. It answers at once, or it
  sleeps before a run and answers when it wakes up. As long
  as no other firmware is at work, what it made of the
  request is all that happened to the device.

  Key definitions include:
    * `Firmware.settle`
    * `Firmware.Considers`
    * `Machine.Made`
    * `Machine.Answers`
    * `Machine.Sleeps`

  Main results:
    * `Machine.serveFirmware_cases`
    * `Machine.Attends.settle_sent`
    * `Machine.Attends.arrive`
-/

namespace Offload

------------------------------------------------------------
-- What Firmware Makes of Requests
------------------------------------------------------------

namespace Firmware

/- Go on from what a request comes to. -/
def settle :
    Except Status Decision →
      Op Status (Firmware × Platform) (List Param)
  | .error status => Op.fail status
  | .ok (.answer outputs) => Op.pure outputs
  | .ok (.run record) => execute record

/-
  What a request comes to, whatever its number, and with no
  regard to files and the platform. An answer given at once
  has no outputs.
-/
structure Considers
    (f : Firmware)
    (r : Request)
    (decision : Except Status Decision)
    (f' : Firmware) : Prop where
  considered :
    ∀ files seq p,
      consider files { r with seq := seq } (f, p) =
        (decision, (f', p))
  bare :
    ∀ outputs,
      decision = .ok (.answer outputs) → outputs = []

/- Whoever waits for what a request comes to is patient. -/
def InTime
    (decision : Except Status Decision)
    (f : Firmware)
    (timeout : Duration) : Prop :=
  ∀ record delay,
    decision = .ok (.run record) →
      f.setup.delay = some delay →
        delay.nanos ≤ timeout.nanos

/- A run has no outputs. -/
theorem execute_bare
    {record : RunRecord}
    {s s' : Firmware × Platform}
    {outputs : List Param}
    (h : execute record s = (.ok outputs, s')) :
    outputs = [] := by
  rcases s with ⟨f, p⟩
  simp only [execute, bind, Op.bind, Op.get] at h
  cases hFault : f.runFault with
  | some status =>
      simp only [hFault, Op.fail] at h
      cases h
  | none =>
      simp only [hFault] at h
      cases hCopy : f.setup.copy with
      | none =>
          cases (Prod.mk.inj (hCopy ▸ h)).1
          rfl
      | some mode =>
          simp only [hCopy, Op.bind] at h
          split at h
          · cases h
            rfl
          · cases h

end Firmware

/- A request whose archive is small fits into a frame. -/
theorem Request.encode_of_small
    {r : Request}
    (hSmall : r.archiveSize < Archive.offsetLimit) :
    ∃ frame, r.encode = .ok frame := by
  have hExact :
      Frame.Exact Request.encode Request.decode
        Request.archiveSize :=
    Frame.exact_of_root Request.length_root
      Request.root_of_lt Request.decode_encode
  exact hExact.encodes hSmall

/- An answer without outputs fits into a frame. -/
theorem Response.encode_of_bare
    (seq : UInt64)
    (outcome : Except Status (List Param))
    (hBare : ∀ outputs, outcome = .ok outputs → outputs = []) :
    ∃ frame,
      (Link.responseTo seq outcome).encode = .ok frame := by
  have hExact :
      Frame.Exact Response.encode Response.decode
        Response.archiveSize :=
    Frame.exact_of_root Response.length_root
      Response.root_of_lt Response.decode_encode
  have hOutputs :
      (Link.responseTo seq outcome).outputs = [] := by
    cases outcome with
    | error status => rfl
    | ok outputs => exact hBare outputs rfl
  apply hExact.encodes
  unfold Response.archiveSize
  rw [hOutputs]
  decide

------------------------------------------------------------
-- Links at Work
------------------------------------------------------------

/- A link whose worker serves a request. -/
def Link.serving
    (l : Link)
    (r : Request) : Link :=
  { l with phase := .serving r }

/- A link whose worker has answered with a frame. -/
def Link.answered
    (l : Link)
    (frame : Bytes) : Link :=
  { l with
    responses := l.responses ++ [frame]
    phase := .idle }

namespace Machine

------------------------------------------------------------
-- Serving
------------------------------------------------------------

/-
  What firmware made of a request on the device and with the
  files of a machine.
-/
def Made
    (decision : Except Status Decision)
    (f : Firmware)
    (m : Machine)
    (outcome : Except Status (List Param))
    (f' : Firmware)
    (m' : Machine) : Prop :=
  ∃ p p' : Platform,
    p.device = m.platform.device ∧
      p.faults = m.platform.faults ∧
        Firmware.settle decision (f, p) =
            (outcome, (f', p')) ∧
          m'.platform.device = p'.device ∧
            m'.platform.faults = p'.faults ∧
              m'.files = m.files

section Made

variable {decision : Except Status Decision}
variable {f f' : Firmware}
variable {outcome : Except Status (List Param)}
variable {m m' n : Machine}

theorem Made.after
    (h : Made decision f m outcome f' m')
    (hStill : n.Still m) :
    Made decision f n outcome f' m' := by
  rcases h with
    ⟨p, p', hDevice, hFaults, hSettle, hDevice', hFaults',
      hFiles⟩
  exact
    ⟨p, p', hDevice.trans hStill.device,
      hFaults.trans hStill.faults, hSettle, hDevice',
      hFaults', hFiles.trans hStill.files⟩

theorem Made.before
    (h : Made decision f m outcome f' m')
    (hStill : m'.Still n) :
    Made decision f m outcome f' n := by
  rcases h with
    ⟨p, p', hDevice, hFaults, hSettle, hDevice', hFaults',
      hFiles⟩
  exact
    ⟨p, p', hDevice, hFaults, hSettle,
      hStill.device.trans hDevice',
      hStill.faults.trans hFaults',
      hStill.files.trans hFiles⟩

end Made

/-
  The worker replied to a request and is free again, and
  nothing was done to the transports.
-/
def Replies
    (l : Link)
    (seq : UInt64)
    (decision : Except Status Decision)
    (f : Firmware)
    (m : Machine)
    (run : Channel × Machine) : Prop :=
  ∃ outcome f' frame,
    (Link.responseTo seq outcome).encode = .ok frame ∧
      run.1 = ⟨l.answered frame, .accelerator f', .free⟩ ∧
        Made decision f m outcome f' run.2 ∧
          run.2.transports = m.transports

section Serving

variable {l : Link}
variable {r : Request}
variable {f f' : Firmware}
variable {decision : Except Status Decision}
variable {m : Machine}

/- The outcome of a request is replied as it is. -/
theorem answerChannel_replies
    {outcome : Except Status (List Param)}
    (hBare : ∀ outputs, outcome = .ok outputs → outputs = [])
    {n : Machine}
    (hMade : Made decision f m outcome f' n)
    (hSame : n.transports = m.transports)
    (stall : Stall) :
    Replies l r.seq decision f m
      (n.answerChannel
        ⟨l.serving r, .accelerator f', stall⟩ outcome) := by
  rcases Response.encode_of_bare r.seq outcome hBare with
    ⟨frame, hEncode⟩
  have hAnswer :
      n.answerChannel ⟨l.serving r, .accelerator f', stall⟩
          outcome =
        (⟨l.answered frame, .accelerator f', .free⟩, n) := by
    simp only [answerChannel, Link.answer, Link.serving,
      hEncode]
    rfl
  rw [hAnswer]
  exact ⟨outcome, f', frame, hEncode, rfl, hMade, hSame⟩

/- A run that was counted is made and replied to. -/
theorem finishRun_replies
    (service : Service)
    (stall : Stall)
    (record : RunRecord)
    (m : Machine) :
    Replies l r.seq (.ok (.run record)) f m
      (m.finishRun ⟨l.serving r, service, stall⟩ f
        record) := by
  unfold finishRun
  cases hRun : Firmware.execute record (f, m.platform) with
  | mk outcome s =>
      rcases s with ⟨f', p⟩
      apply answerChannel_replies
        (n := { m with platform := p })
      · intro outputs hOk
        rw [hOk] at hRun
        exact Firmware.execute_bare hRun
      · exact
          ⟨m.platform, p, rfl, rfl, hRun, rfl, rfl, rfl⟩
      · rfl

/-
  Firmware replies to a request at once, or sleeps before it
  makes a run.
-/
theorem serveFirmware_cases
    (hConsiders : f.Considers r decision f')
    (m : Machine) :
    Replies l r.seq decision f' m
        (m.serveFirmware ⟨l.serving r, .accelerator f, .free⟩
          f r) ∨
      ∃ record delay,
        decision = .ok (.run record) ∧
          f'.setup.delay = some delay ∧
            m.serveFirmware
                ⟨l.serving r, .accelerator f, .free⟩ f r =
              (⟨l.serving r, .accelerator f',
                .asleep (m.now + delay.nanos) record⟩, m) := by
  have hConsidered :
      Firmware.consider m.files r (f, m.platform) =
        (decision, (f', m.platform)) :=
    hConsiders.considered m.files r.seq m.platform
  have hAtOnce :
      ∀ outcome,
        (∀ outputs, outcome = .ok outputs → outputs = []) →
          Firmware.settle decision (f', m.platform) =
              (outcome, (f', m.platform)) →
            Replies l r.seq decision f' m
              ({ m with platform := m.platform }.answerChannel
                ⟨l.serving r, .accelerator f', .free⟩
                outcome) := by
    intro outcome hBare hSettle
    exact
      answerChannel_replies hBare
        ⟨m.platform, m.platform, rfl, rfl, hSettle, rfl, rfl,
          rfl⟩
        rfl .free
  rcases decision with status | ⟨outputs | record⟩
  · apply Or.inl
    simp only [serveFirmware, hConsidered]
    exact hAtOnce _ (fun _ h => by cases h) rfl
  · apply Or.inl
    simp only [serveFirmware, hConsidered]
    apply hAtOnce _ _ rfl
    intro answer h
    cases h
    exact hConsiders.bare _ rfl
  · simp only [serveFirmware, hConsidered]
    cases hDelay : f'.setup.delay with
    | none =>
        exact
          Or.inl
            (finishRun_replies (.accelerator f) .free record
              m)
    | some delay =>
        exact Or.inr ⟨record, delay, rfl, rfl, rfl⟩

end Serving

------------------------------------------------------------
-- Letting the Worker Run
------------------------------------------------------------

section Requests

variable {key : Nat}
variable {l : Link}
variable {seq : UInt64}
variable {r : Request}
variable {f f' : Firmware}
variable {decision : Except Status Decision}
variable {m : Machine}

/-
  The worker has answered the request with a number, and how
  it did.
-/
def Answers
    (key : Nat)
    (l : Link)
    (seq : UInt64)
    (decision : Except Status Decision)
    (f : Firmware)
    (m m' : Machine) : Prop :=
  ∃ outcome f' frame,
    (Link.responseTo seq outcome).encode = .ok frame ∧
      m'.Attends key
          ⟨l.answered frame, .accelerator f', .free⟩ ∧
        Made decision f m outcome f' m'

/- The worker sleeps before the run that a request asks. -/
def Sleeps
    (key : Nat)
    (l : Link)
    (r : Request)
    (decision : Except Status Decision)
    (f : Firmware)
    (m m' : Machine) : Prop :=
  ∃ record delay,
    decision = .ok (.run record) ∧
      f.setup.delay = some delay ∧
        m'.Attends key
            ⟨l.serving r, .accelerator f,
              .asleep (m.now + delay.nanos) record⟩ ∧
          m.Still m'

theorem Answers.after
    {n m' : Machine}
    (h : Answers key l seq decision f m m')
    (hStill : n.Still m) :
    Answers key l seq decision f n m' := by
  rcases h with
    ⟨outcome, f', frame, hEncode, hAttends, hMade⟩
  exact
    ⟨outcome, f', frame, hEncode, hAttends,
      hMade.after hStill⟩

theorem Sleeps.after
    {n m' : Machine}
    (h : Sleeps key l r decision f m m')
    (hStill : n.Still m) :
    Sleeps key l r decision f n m' := by
  rcases h with ⟨record, delay, hRun, hDelay, hAttends, hRest⟩
  rw [hStill.now] at hAttends
  exact
    ⟨record, delay, hRun, hDelay, hAttends,
      hStill.trans hRest⟩

/- A worker that has replied has nothing more to do. -/
theorem Replies.runs_on
    {run : Channel × Machine}
    (h : Replies l seq decision f m run)
    (hRequests : l.requests = [])
    (fuel : Nat) : runChannel fuel run.1 run.2 = run := by
  rcases h with ⟨_, _, _, _, hChannel, _⟩
  apply runChannel_idle
  rw [hChannel]
  exact Channel.step_of_idle rfl hRequests

/- A channel that runs on up to a reply has answered. -/
theorem Attends.settle_replies
    {c : Channel}
    (h : m.Attends key c)
    {run : Channel × Machine}
    (hRun :
      runChannel (2 * c.link.requests.length + 3) c m = run)
    (hReplies : Replies l seq decision f m run) :
    Answers key l seq decision f m
      (m.settleTransport key) := by
  rcases hReplies with
    ⟨outcome, f', frame, hEncode, hChannel, hMade, hSame⟩
  rcases h.settle_self hRun hSame with ⟨hAttends, hStill⟩
  rw [hChannel] at hAttends
  exact
    ⟨outcome, f', frame, hEncode, hAttends,
      hMade.before hStill⟩

/- A sleeper whose time has come replies. -/
theorem runChannel_awake
    (hRequests : l.requests = [])
    {wake : Nat}
    (hWake : wake ≤ m.now)
    (record : RunRecord)
    (fuel : Nat) :
    Replies l r.seq (.ok (.run record)) f m
      (runChannel (fuel + 1)
        ⟨l.serving r, .accelerator f, .asleep wake record⟩
        m) := by
  have hStep :
      m.channelStep
          ⟨l.serving r, .accelerator f,
            .asleep wake record⟩ =
        some
          (m.finishRun
            ⟨l.serving r, .accelerator f,
              .asleep wake record⟩ f record) := by
    simp only [channelStep, resumeAsleep, if_pos hWake]
  have hReplies :=
    finishRun_replies (l := l) (r := r) (f := f)
      (.accelerator f) (.asleep wake record) record m
  rw [runChannel_next hStep, hReplies.runs_on hRequests]
  exact hReplies

/- A request that is sent is answered or waits for time. -/
theorem Attends.settle_sent
    (hPhase : l.phase = .idle)
    (hRequests : l.requests = [])
    {frame : Bytes}
    (h :
      m.Attends key ⟨l.send frame, .accelerator f, .free⟩)
    (hDecode : Request.decode frame = .ok r)
    (hConsiders : f.Considers r decision f') :
    Answers key l r.seq decision f' m
        (m.settleTransport key) ∨
      Sleeps key l r decision f' m
        (m.settleTransport key) := by
  have hTake :
      (l.send frame).take = some (none, l.serving r) := by
    rcases l with ⟨next, requests, responses, phase⟩
    cases hPhase
    cases hRequests
    simp only [Link.take, Link.send, List.nil_append,
      hDecode]
    rfl
  have hBegin :
      m.channelStep
          ⟨l.send frame, .accelerator f, .free⟩ =
        some (m.serveFirmware
          ⟨l.serving r, .accelerator f, .free⟩ f r) := by
    simp only [channelStep, takeRequest, hTake]
    rfl
  have hFuel :
      2 * (l.send frame).requests.length + 3 = 4 + 1 := by
    simp only [Link.send, hRequests]
    rfl
  have hRun := runChannel_next hBegin 4
  rw [← hFuel] at hRun
  rcases serveFirmware_cases (l := l) hConsiders m with
    hReplies | ⟨record, delay, rfl, hDelay, hServe⟩
  · rw [hReplies.runs_on hRequests] at hRun
    exact Or.inl (h.settle_replies hRun hReplies)
  · rw [hServe] at hRun
    by_cases hWake : m.now + delay.nanos ≤ m.now
    · exact
        Or.inl
          (h.settle_replies hRun
            (runChannel_awake hRequests hWake record 3))
    · have hAsleep :
          m.channelStep
              ⟨l.serving r, .accelerator f',
                .asleep (m.now + delay.nanos) record⟩ =
            none := by
        simp only [channelStep, resumeAsleep, if_neg hWake]
      rw [runChannel_idle hAsleep] at hRun
      exact
        Or.inr
          ⟨record, delay, rfl, hDelay,
            h.settle_self hRun rfl⟩

/- While transports run on, a sleeper wakes up. -/
theorem Attends.settle_all_awake
    (hRequests : l.requests = [])
    {wake : Nat}
    {record : RunRecord}
    (h :
      m.Attends key
        ⟨l.serving r, .accelerator f, .asleep wake record⟩)
    (hWake : wake ≤ m.now)
    {keys : List Nat}
    (hKey : key ∈ keys) :
    Answers key l r.seq (.ok (.run record)) f m
      (keys.foldl settleTransport m) := by
  induction keys generalizing m with
  | nil => cases hKey
  | cons k keys ih =>
      rw [List.foldl_cons]
      by_cases hSelf : k = key
      · rcases h.settle_replies rfl
            (runChannel_awake hRequests hWake record
              (2 * l.requests.length + 2)) with
          ⟨outcome, f', frame, hEncode, hAttends, hMade⟩
        rcases hAttends.settle_all_idle
            (fun n => Channel.step_of_idle rfl hRequests)
            keys with
          ⟨hEnd, hRest⟩
        rw [hSelf]
        exact
          ⟨outcome, f', frame, hEncode, hEnd,
            hMade.before hRest⟩
      · rcases h.settle_other hSelf with ⟨hAttends, hStill⟩
        have hLater :
            Answers key l r.seq (.ok (.run record)) f
              (m.settleTransport k)
              (keys.foldl settleTransport
                (m.settleTransport k)) :=
          ih hAttends (hStill.now.symm ▸ hWake)
            ((List.mem_cons.mp hKey).resolve_left
              fun hSame => hSelf hSame.symm)
        exact hLater.after hStill

/- When its time comes, a sleeper wakes up and answers. -/
theorem Attends.arrive
    (hRequests : l.requests = [])
    {wake : Nat}
    {record : RunRecord}
    (h :
      m.Attends key
        ⟨l.serving r, .accelerator f, .asleep wake record⟩) :
    Answers key l r.seq (.ok (.run record)) f m
      (m.arriveAt wake) := by
  have hKey : key ∈ m.transports.keys := by
    rcases List.lookup_eq_some_iff.mp h.here with
      ⟨before, behind, hRows, _⟩
    unfold Table.keys
    rw [hRows]
    simp
  have hLater :
      ({ m with now := max m.now wake } : Machine).Attends key
        ⟨l.serving r, .accelerator f, .asleep wake record⟩ :=
    h.of_transports rfl
  exact
    hLater.settle_all_awake hRequests (Nat.le_max_right _ _)
      hKey

end Requests

end Machine

end Offload
