import Offload.Proofs.Machine.Serving

/-
  Calls to firmware that has nothing else to do.

  A call to a worker at rest is answered with what the
  firmware makes of the request, and the worker is at rest
  again. The only other ends of a call are that the request
  does not fit into a frame and that the client does not
  wait long enough.

  Key definitions include:
    * `Link.AtRest`
    * `Machine.AtRest`
    * `Machine.Answered`

  Main results:
    * `Machine.Attends.drain`
    * `Machine.AtRest.rpcChannel`
-/

namespace Offload

------------------------------------------------------------
-- Links and Channels at Rest
------------------------------------------------------------

/-
  The worker waits for a request. What is left in the queue
  are answers to earlier requests.
-/
structure Link.AtRest
    (l : Link) : Prop where
  phase : l.phase = .idle
  requests : l.requests = []
  stale :
    ∀ frame ∈ l.responses,
      ∃ seq, judge l.nextSeq frame = .stale seq

namespace Machine

/-
  The channel with a number leads to firmware that has
  nothing to do, and no other firmware has.
-/
def AtRest
    (key : Nat)
    (f : Firmware)
    (m : Machine) : Prop :=
  ∃ l : Link,
    l.AtRest ∧ m.Attends key ⟨l, .accelerator f, .free⟩

theorem AtRest.of_transports
    {key : Nat}
    {f : Firmware}
    {m m' : Machine}
    (h : m.AtRest key f)
    (hSame : m'.transports = m.transports) :
    m'.AtRest key f := by
  rcases h with ⟨l, hLink, hAttends⟩
  exact ⟨l, hLink, hAttends.of_transports hSame⟩

------------------------------------------------------------
-- Waiting for Answers
------------------------------------------------------------

section Waiting

variable {key : Nat}
variable {l : Link}
variable {service : Service}
variable {stall : Stall}
variable {m : Machine}

/- Answers to earlier requests are thrown away. -/
theorem Attends.drain
    {r : Request}
    {old rest : List Bytes}
    (h : m.Attends key ⟨l, service, stall⟩)
    (hQueue : l.responses = old ++ rest)
    (hOld :
      ∀ frame ∈ old,
        ∃ seq, Link.judge r.seq frame = .stale seq)
    (deadline : Option Nat)
    (fuel : Nat) :
    ∃ m',
      awaitAnswer key r deadline (old.length + fuel) m =
          awaitAnswer key r deadline fuel m' ∧
        m'.Attends key
            ⟨{ l with responses := rest }, service, stall⟩ ∧
          m.Still m' := by
  induction old generalizing m l with
  | nil =>
      cases hQueue
      rw [List.length_nil, Nat.zero_add]
      exact ⟨m, rfl, h, .refl m⟩
  | cons frame old ih =>
      rcases hOld frame List.mem_cons_self with ⟨seq, hStale⟩
      rcases h.setLink { l with responses := old ++ rest }
        with ⟨hAttends, hStill⟩
      rcases ih
          (hAttends.of_transports
            (transports_logged (some (staleAnswer r seq)) _))
          rfl
          (fun frame hMem =>
            hOld frame (List.mem_cons_of_mem _ hMem)) with
        ⟨m', hAwait, hEnd, hRest⟩
      refine
        ⟨m', ?_, hEnd,
          (hStill.trans (still_logged _ _)).trans hRest⟩
      rw [← hAwait, List.length_cons, Nat.succ_add]
      simp only [awaitAnswer, h.channel?, Link.receive,
        hQueue, List.cons_append, hStale]

/- An answer that is there is taken. -/
theorem Attends.receive
    {r : Request}
    {frame : Bytes}
    {a : Response}
    (h : m.Attends key ⟨l, service, stall⟩)
    (hQueue : l.responses = [frame])
    (hAnswer : Link.judge r.seq frame = .answer a)
    (deadline : Option Nat)
    (fuel : Nat) :
    ∃ m',
      awaitAnswer key r deadline (fuel + 1) m =
          (.ok a, m') ∧
        m'.Attends key
            ⟨{ l with responses := [] }, service, stall⟩ ∧
          m.Still m' := by
  refine ⟨_, ?_, h.setLink { l with responses := [] }⟩
  simp only [awaitAnswer, h.channel?, Link.receive, hQueue,
    hAnswer]

/- A client waits for a wake-up, or it comes too late. -/
theorem wakeBy?_cases
    {wake : Nat}
    (hNext : m.nextWake? = some wake)
    (deadline : Option Nat) :
    m.wakeBy? deadline = some wake ∨
      m.wakeBy? deadline = none ∧
        ∃ d, deadline = some d ∧ d < wake := by
  cases deadline with
  | none =>
      apply Or.inl
      simp only [wakeBy?, hNext]
  | some d =>
      by_cases hSoon : wake ≤ d
      · apply Or.inl
        simp only [wakeBy?, hNext, if_pos hSoon]
      · refine
          Or.inr ⟨?_, d, rfl, Nat.lt_of_not_le hSoon⟩
        simp only [wakeBy?, hNext, if_neg hSoon]

end Waiting

------------------------------------------------------------
-- Calls
------------------------------------------------------------

section Calls

variable {key : Nat}
variable {l : Link}
variable {r : Request}
variable {f f' : Firmware}
variable {decision : Except Status Decision}
variable {timeout : Duration}
variable {m m' : Machine}

/-
  A call ended with an answer to its request, and the worker
  is at rest again.
-/
def Answered
    (key : Nat)
    (decision : Except Status Decision)
    (f : Firmware)
    (m : Machine)
    (run : Except DispatchError Response × Machine) : Prop :=
  ∃ seq outcome f' m',
    run = (.ok (Link.responseTo seq outcome), m') ∧
      Made decision f m outcome f' m' ∧ m'.AtRest key f'

/- There is time to take all answers in the queue. -/
theorem Answers.answerBound
    {seq : UInt64}
    (h : Answers key l seq decision f m m') :
    ∃ fuel,
      m'.answerBound key =
        l.responses.length + (fuel + 1) := by
  rcases h with ⟨outcome, f', frame, _, hAttends, _⟩
  refine ⟨2 * m'.wakeBound, ?_⟩
  simp only [Machine.answerBound, hAttends.channel?,
    Link.answered, List.length_append, List.length_singleton]
  omega

/- There is time to wake up, too. -/
theorem Sleeps.answerBound
    (h : Sleeps key l r decision f m m') :
    ∃ fuel,
      m'.answerBound key =
        l.responses.length + (fuel + 2) := by
  rcases h with ⟨record, delay, _, _, hAttends, _⟩
  refine ⟨8 * m'.transports.rows.length + 6, ?_⟩
  simp only [Machine.answerBound, hAttends.channel?,
    Link.serving, wakeBound]
  omega

/- The answer to a request is taken. -/
theorem Answers.taken
    (h : Answers key l r.seq decision f m m')
    (hRequests : l.requests = [])
    (hStale :
      ∀ frame ∈ l.responses,
        ∃ seq, Link.judge r.seq frame = .stale seq)
    (deadline : Option Nat)
    (fuel : Nat) :
    Answered key decision f m
      (awaitAnswer key r deadline
        (l.responses.length + (fuel + 1)) m') := by
  rcases h with
    ⟨outcome, f', frame, hEncode, hAttends, hMade⟩
  have hSeq : (Link.responseTo r.seq outcome).seq = r.seq := by
    cases outcome <;> rfl
  have hJudge := Link.judge_encode hEncode
  rw [hSeq] at hJudge
  rcases hAttends.drain rfl hStale deadline (fuel + 1) with
    ⟨m₁, hDrain, hAttends₁, hStill₁⟩
  rcases hAttends₁.receive rfl hJudge deadline fuel with
    ⟨m₂, hReceive, hAttends₂, hStill₂⟩
  have hAtRest : m₂.AtRest key f' :=
    ⟨{ l.answered frame with responses := [] },
      ⟨rfl, hRequests,
        fun _ hMem => absurd hMem List.not_mem_nil⟩,
      hAttends₂⟩
  exact
    ⟨r.seq, outcome, f', m₂, hDrain.trans hReceive,
      hMade.before (hStill₁.trans hStill₂), hAtRest⟩

/- A sleeper answers unless the client is impatient. -/
theorem Sleeps.taken
    (h : Sleeps key l r decision f m m')
    (hRequests : l.requests = [])
    (hStale :
      ∀ frame ∈ l.responses,
        ∃ seq, Link.judge r.seq frame = .stale seq)
    (timeout : Duration)
    (fuel : Nat) :
    Answered key decision f m
        (awaitAnswer key r (timeout.deadline m.now)
          (l.responses.length + (fuel + 2)) m') ∨
      ¬ Firmware.InTime decision f timeout ∧
        ∃ m'',
          awaitAnswer key r (timeout.deadline m.now)
              (l.responses.length + (fuel + 2)) m' =
            (.error .timeout, m'') := by
  rcases h with ⟨record, delay, rfl, hDelay, hAttends, hStill⟩
  have hQueue :
      (l.serving r).responses = l.responses ++ [] :=
    (List.append_nil _).symm
  rcases hAttends.drain hQueue hStale
      (timeout.deadline m.now) (fuel + 2) with
    ⟨m₁, hDrain, hAttends₁, hStill₁⟩
  rw [hDrain]
  rcases wakeBy?_cases (hAttends₁.nextWake? rfl)
      (timeout.deadline m.now) with
    hWake | ⟨hLate, d, hDeadline, hPast⟩
  · apply Or.inl
    have hArrive :=
      (hAttends₁.arrive (l := { l with responses := [] })
        hRequests).after (hStill.trans hStill₁)
    have hTaken :=
      hArrive.taken hRequests
        (fun _ hMem => absurd hMem List.not_mem_nil)
        (timeout.deadline m.now) fuel
    rw [List.length_nil, Nat.zero_add] at hTaken
    unfold awaitAnswer
    simp only [hAttends₁.channel?, Link.receive, hWake]
    exact hTaken
  · refine Or.inr ⟨?_, ?_⟩
    · intro hInTime
      have hSoon := hInTime record delay rfl hDelay
      unfold Duration.deadline at hDeadline
      split at hDeadline
      · cases hDeadline
      · cases hDeadline
        omega
    · refine
        ⟨{ m₁ with
            now :=
              max m₁.now
                ((timeout.deadline m.now).getD 0) }.logged
            (some (callExpired r)), ?_⟩
      simp only [awaitAnswer, hAttends₁.channel?,
        Link.receive, hLate]
      rfl

/- There is room for a request to a worker at rest. -/
theorem Attends.send
    (h : m.Attends key ⟨l, .accelerator f, .free⟩)
    (hPhase : l.phase = .idle)
    (hRequests : l.requests = [])
    (frame : Bytes) :
    sendFrame key frame m.wakeBound m =
      (.ok (),
        (m.setLink key (l.send frame)).settleTransport
          key) := by
  have hOpen : l.hasEnded = false := by
    unfold Link.hasEnded
    rw [hPhase]
    rfl
  have hRoom : l.hasRoom = true := by
    unfold Link.hasRoom
    rw [hRequests]
    rfl
  simp only [wakeBound, sendFrame, h.channel?, hOpen, hRoom,
    Bool.false_eq_true, if_false, if_true]

/-
  A call to a worker at rest is answered, unless it cannot
  be sent or the client is impatient.
-/
theorem AtRest.rpcChannel
    (h : m.AtRest key f)
    (hConsiders : f.Considers r decision f')
    (timeout : Duration) :
    Answered key decision f' m
        (rpcChannel key r timeout m) ∨
      ¬ (r.archiveSize < Archive.offsetLimit ∧
          Firmware.InTime decision f' timeout) ∧
        ∃ e m',
          Machine.rpcChannel key r timeout m =
            (.error e, m') := by
  rcases h with ⟨l, hLink, hAttends⟩
  have hNumber := numberRequest_ok hAttends.channel? r
  rcases hAttends.setLink l.number.2 with ⟨hNumbered, hStill⟩
  cases hEncode : (SharedLink.withNumber r l).encode with
  | error e =>
      refine Or.inr ⟨?_, e, m.setLink key l.number.2, ?_⟩
      · intro hSmall
        rcases Request.encode_of_small
            (r := SharedLink.withNumber r l) hSmall.1 with
          ⟨frame, hFrame⟩
        cases hEncode.symm.trans hFrame
      · simp only [Machine.rpcChannel, bind, Op.bind,
          hNumber, Op.ofExcept, hEncode]
  | ok frame =>
      rcases hNumbered.setLink (l.number.2.send frame) with
        ⟨hSent, hStill'⟩
      have hDecode :
          Request.decode frame =
            .ok (SharedLink.withNumber r l) :=
        Request.decode_encode hEncode
      have hConsiders' :
          f.Considers (SharedLink.withNumber r l) decision
            f' :=
        ⟨hConsiders.considered, hConsiders.bare⟩
      have hBegun := hStill.trans hStill'
      simp only [Machine.rpcChannel, bind, Op.bind, hNumber,
        Op.ofExcept, hEncode, Op.get,
        hNumbered.send hLink.phase hLink.requests frame,
        hStill.now]
      rcases hSent.settle_sent (l := l.number.2) hLink.phase
          hLink.requests hDecode hConsiders' with
        hAnswers | hSleeps
      · apply Or.inl
        rcases hAnswers.answerBound with ⟨fuel, hBound⟩
        rw [hBound]
        exact
          (hAnswers.after hBegun).taken hLink.requests
            hLink.stale _ fuel
      · rcases hSleeps.answerBound with ⟨fuel, hBound⟩
        rw [hBound]
        rcases (hSleeps.after hBegun).taken hLink.requests
            hLink.stale timeout fuel with
          hAnswered | ⟨hLate, m', hExpired⟩
        · exact Or.inl hAnswered
        · exact
            Or.inr
              ⟨fun hPrompt => hLate hPrompt.2, .timeout, m',
                hExpired⟩

end Calls

end Machine

end Offload
