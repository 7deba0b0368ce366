import Mathlib.Data.List.Basic
import Offload.Machine.Channels
import Offload.Proofs.Run
import Offload.Proofs.Table
import Offload.Proofs.Dispatch.Answers

/-
  Calls of a machine as runs of a shared link.

  While a call waits, the machine lets services run on and
  time pass. To the link of the call's channel all that is
  some events of its worker, whatever service it has.

  Key definitions include:
    * `SharedLink.Works`
    * `Link.Served`
    * `Machine.Shows`
    * `Machine.Returns`

  Main results:
    * `Machine.channelStep_works`
    * `Machine.settleTransports_works`
    * `Machine.rpcChannel_returns`
    * `Machine.rpcChannel_ok`
-/

namespace Offload

------------------------------------------------------------
-- What a Worker Does
------------------------------------------------------------

namespace SharedLink

/- Events that are not the client's lead to a state. -/
def Works
    (s t : SharedLink) : Prop :=
  Run.Reaches step s t ∧ t.client = s.client ∧
    t.results = s.results

theorem Works.refl
    (s : SharedLink) : s.Works s :=
  ⟨Run.Reaches.refl s, rfl, rfl⟩

theorem Works.trans
    {s t u : SharedLink}
    (hst : s.Works t)
    (htu : t.Works u) : s.Works u :=
  ⟨hst.1.trans htu.1, htu.2.1.trans hst.2.1,
    htu.2.2.trans hst.2.2⟩

end SharedLink

/- A link whose worker may have finished its request. -/
inductive Link.Served
    (l : Link) : Link → Prop where
  | unchanged : Served l l
  | answered (outcome : Except Status (List Param)) :
      Served l (l.answer outcome).2
  | ended : Served l l.stop

namespace SharedLink

theorem works_of_served
    {s : SharedLink}
    {l : Link}
    (h : s.link.Served l) :
    ∃ t, s.Works t ∧ t.link = l := by
  cases h with
  | unchanged => exact ⟨s, Works.refl s, rfl⟩
  | answered outcome =>
      refine
        ⟨s.answer outcome,
          ⟨Run.reaches_step (Event.answer outcome) s, ?_,
            ?_⟩, ?_⟩
      · unfold answer
        cases s.link.phase <;> rfl
      · unfold answer
        cases s.link.phase <;> rfl
      · unfold answer Link.answer
        cases s.link.phase <;> simp
  | ended =>
      exact
        ⟨_, ⟨Run.reaches_step Event.stop s, rfl, rfl⟩, rfl⟩

theorem works_of_take
    {s : SharedLink}
    {event : Option LogEvent}
    {l : Link}
    (h : s.link.take = some (event, l)) :
    s.Works { s with link := l } := by
  refine ⟨⟨[.take], ?_⟩, rfl, rfl⟩
  simp [Run.after, step, take, h]

end SharedLink

------------------------------------------------------------
-- Services
------------------------------------------------------------

namespace Machine

/-
  What serving a request has to do with the channel and with
  the tables of the machine.
-/
def Serves
    (c : Channel)
    (m : Machine)
    (result : Channel × Machine) : Prop :=
  c.link.Served result.1.link ∧
    result.2.transports = m.transports

@[simp]
theorem transports_logged
    (event : Option LogEvent)
    (m : Machine) :
    (m.logged event).transports = m.transports := by
  cases event <;> rfl

theorem serves_answerChannel
    (c : Channel)
    (outcome : Except Status (List Param))
    (m : Machine) :
    Serves c m (m.answerChannel c outcome) :=
  ⟨.answered outcome, transports_logged _ m⟩

theorem serves_serveEcho
    (c : Channel)
    (e : Echo)
    (r : Request)
    (m : Machine) : Serves c m (m.serveEcho c e r) := by
  unfold serveEcho
  cases e.handle r with
  | some outcome => exact serves_answerChannel c outcome m
  | none => exact ⟨.ended, rfl⟩

theorem serves_finishRun
    (c : Channel)
    (f : Firmware)
    (record : RunRecord)
    (m : Machine) :
    Serves c m (m.finishRun c f record) :=
  ⟨.answered _, transports_logged _ _⟩

theorem serves_serveFirmware
    (c : Channel)
    (f : Firmware)
    (r : Request)
    (m : Machine) : Serves c m (m.serveFirmware c f r) := by
  unfold serveFirmware
  rcases Firmware.consider m.files r (f, m.platform) with
    ⟨status | outputs | record, f, p⟩
  · exact ⟨.answered _, transports_logged _ _⟩
  · exact ⟨.answered _, transports_logged _ _⟩
  · dsimp only
    cases f.setup.delay with
    | none => exact ⟨.answered _, transports_logged _ _⟩
    | some delay => exact ⟨.unchanged, rfl⟩

theorem serves_beginService
    (c : Channel)
    (r : Request)
    (m : Machine) : Serves c m (m.beginService c r) := by
  unfold beginService
  cases c.service with
  | accelerator f => exact serves_serveFirmware c f r m
  | echo e =>
      dsimp only
      cases e.gate with
      | none => exact serves_serveEcho c e r m
      | some g => exact ⟨.unchanged, rfl⟩

/- A channel goes on with the request it is held up at. -/
theorem resumeAtGate_serves
    {c : Channel}
    {g : String}
    {m : Machine}
    {result : Channel × Machine}
    (h : m.resumeAtGate c g = some result) :
    Serves c m result := by
  unfold resumeAtGate passGate? at h
  cases hPass : (m.gate g).pass? with
  | none => simp [hPass] at h
  | some gate =>
      simp only [hPass, Option.map_some] at h
      split at h
      · rename_i e r _ _
        cases h
        exact serves_serveEcho c e r (m.setGate g gate)
      · cases h
        exact ⟨.unchanged, rfl⟩

theorem resumeAsleep_serves
    {c : Channel}
    {wake : Nat}
    {record : RunRecord}
    {m : Machine}
    {result : Channel × Machine}
    (h : m.resumeAsleep c wake record = some result) :
    Serves c m result := by
  unfold resumeAsleep at h
  split at h
  · cases hService : c.service with
    | accelerator f =>
        rw [hService] at h
        cases h
        exact serves_finishRun c f record m
    | echo e =>
        rw [hService] at h
        cases h
        exact ⟨.unchanged, rfl⟩
  · cases h

------------------------------------------------------------
-- Channels
------------------------------------------------------------

/- What a service does next is the work of a worker. -/
theorem channelStep_works
    {c c' : Channel}
    {m m' : Machine}
    {s : SharedLink}
    (hLink : s.link = c.link)
    (h : m.channelStep c = some (c', m')) :
    m'.transports = m.transports ∧
      ∃ t, s.Works t ∧ t.link = c'.link := by
  have hResume :
      Serves c m (c', m') →
        m'.transports = m.transports ∧
          ∃ t, s.Works t ∧ t.link = c'.link := by
    intro hServes
    refine ⟨hServes.2, SharedLink.works_of_served ?_⟩
    rw [hLink]
    exact hServes.1
  unfold channelStep at h
  cases hStall : c.stall with
  | atGate g =>
      rw [hStall] at h
      exact hResume (resumeAtGate_serves h)
  | asleep wake record =>
      rw [hStall] at h
      exact hResume (resumeAsleep_serves h)
  | free =>
      rw [hStall] at h
      simp only [takeRequest] at h
      cases hTake : c.link.take with
      | none =>
          rw [hTake] at h
          cases h
      | some taken =>
          rcases taken with ⟨event, l⟩
          rw [hTake] at h
          have hTaken : s.Works { s with link := l } :=
            SharedLink.works_of_take (by rw [hLink, hTake])
          simp only at h
          split at h
          · rename_i r hPhase
            have hServes :=
              serves_beginService { c with link := l } r
                (m.logged event)
            rw [Option.some.inj h] at hServes
            rcases SharedLink.works_of_served
                (s := { s with link := l }) hServes.1 with
              ⟨t, hWorks, hEnd⟩
            refine ⟨?_, t, hTaken.trans hWorks, hEnd⟩
            rw [hServes.2, transports_logged]
          · cases h
            exact
              ⟨transports_logged event m, _, hTaken, rfl⟩

theorem runChannel_works
    (fuel : Nat)
    (c : Channel)
    (m : Machine)
    {s : SharedLink}
    (hLink : s.link = c.link) :
    (runChannel fuel c m).2.transports = m.transports ∧
      ∃ t,
        s.Works t ∧ t.link = (runChannel fuel c m).1.link := by
  induction fuel generalizing c m s with
  | zero => exact ⟨rfl, s, SharedLink.Works.refl s, hLink⟩
  | succ fuel ih =>
      unfold runChannel
      cases hStep : m.channelStep c with
      | none => exact ⟨rfl, s, SharedLink.Works.refl s, hLink⟩
      | some next =>
          rcases next with ⟨c', m'⟩
          rcases channelStep_works hLink hStep with
            ⟨hTables, t, hFirst, hMiddle⟩
          rcases ih c' m' hMiddle with
            ⟨hRest, u, hLater, hEnd⟩
          exact
            ⟨hRest.trans hTables, u, hFirst.trans hLater,
              hEnd⟩

/- A channel of a machine has the link of a shared one. -/
def Shows
    (key : Nat)
    (m : Machine)
    (s : SharedLink) : Prop :=
  ∃ c, m.channel? key = some c ∧ s.link = c.link

theorem channel?_eq_some
    {m : Machine}
    {key : Nat}
    {c : Channel} :
    m.channel? key = some c ↔
      m.transports.get? key = some (.channel c) := by
  unfold channel?
  cases hRow : m.transports.get? key with
  | none => simp
  | some row => cases row <;> simp

theorem settleTransport_works
    {key : Nat}
    (k : Nat)
    {m : Machine}
    {s : SharedLink}
    (h : Shows key m s) :
    ∃ t, s.Works t ∧ Shows key (m.settleTransport k) t := by
  unfold settleTransport
  split
  · rename_i c hRow
    rcases h with ⟨d, hChannel, hLink⟩
    have hHere := channel?_eq_some.mp hChannel
    by_cases hKey : key = k
    · subst hKey
      have hSame : c = d := by
        rw [hHere] at hRow
        cases hRow
        rfl
      subst hSame
      rcases runChannel_works
          (2 * c.link.requests.length + 3) c m hLink with
        ⟨hTables, t, hWorks, hEnd⟩
      refine ⟨t, hWorks, _, ?_, hEnd⟩
      apply channel?_eq_some.mpr
      apply Table.get?_set_self (a := .channel c)
      rw [hTables]
      exact hHere
    · have hTables :=
        (runChannel_works
          (2 * c.link.requests.length + 3) c m
          (s := ⟨c.link, s.client, s.served, s.results⟩)
          rfl).1
      refine
        ⟨s, SharedLink.Works.refl s, d, ?_, hLink⟩
      apply channel?_eq_some.mpr
      rw [← hHere, ← hTables]
      exact Table.get?_set_other hKey _ _
  · exact ⟨s, SharedLink.Works.refl s, h⟩

/- Services run on together, whichever there are. -/
theorem settleTransports_works
    {key : Nat}
    {m : Machine}
    {s : SharedLink}
    (h : Shows key m s) :
    ∃ t, s.Works t ∧ Shows key m.settleTransports t := by
  unfold settleTransports
  generalize m.transports.keys = keys
  induction keys generalizing m s with
  | nil => exact ⟨s, SharedLink.Works.refl s, h⟩
  | cons k rest ih =>
      rcases settleTransport_works k h with
        ⟨t, hFirst, hMiddle⟩
      rcases ih hMiddle with ⟨u, hLater, hEnd⟩
      exact ⟨u, hFirst.trans hLater, hEnd⟩

theorem arriveAt_works
    {key : Nat}
    (time : Nat)
    {m : Machine}
    {s : SharedLink}
    (h : Shows key m s) :
    ∃ t, s.Works t ∧ Shows key (m.arriveAt time) t :=
  settleTransports_works (m := { m with now := max m.now time }) h

------------------------------------------------------------
-- Calls
------------------------------------------------------------

theorem shows_setLink
    {key : Nat}
    {m : Machine}
    {s : SharedLink}
    (h : Shows key m s)
    {t : SharedLink}
    {l : Link}
    (hLink : t.link = l) :
    Shows key (m.setLink key l) t := by
  rcases h with ⟨c, hChannel, _⟩
  refine ⟨{ c with link := l }, ?_, hLink⟩
  unfold setLink
  rw [hChannel]
  apply channel?_eq_some.mpr
  exact
    Table.get?_set_self (channel?_eq_some.mp hChannel) _

/- A log entry changes nothing about a channel. -/
theorem shows_logged
    {key : Nat}
    {m : Machine}
    {s : SharedLink}
    (h : Shows key m s)
    (event : Option LogEvent) :
    Shows key (m.logged event) s := by
  rcases h with ⟨c, hChannel, hLink⟩
  refine ⟨c, ?_, hLink⟩
  apply channel?_eq_some.mpr
  rw [transports_logged]
  exact channel?_eq_some.mp hChannel

/-
  The call of a request came to an end: the state after some
  events has its result, and no call in progress.
-/
def Returns
    (key : Nat)
    (r : Request)
    (s : SharedLink)
    (outcome :
      Except DispatchError Response × Machine) : Prop :=
  ∃ t,
    Run.Reaches SharedLink.step s t ∧
      Shows key outcome.2 t ∧
        t.client = .idle ∧
          t.results = (r, outcome.1) :: s.results

/- What happens before a call ends is part of the call. -/
theorem Returns.of_reaches
    {key : Nat}
    {r : Request}
    {s t : SharedLink}
    {outcome : Except DispatchError Response × Machine}
    (h : Returns key r t outcome)
    (hReaches : Run.Reaches SharedLink.step s t)
    (hResults : t.results = s.results) :
    Returns key r s outcome := by
  rcases h with ⟨u, hLater, hShows, hIdle, hEnd⟩
  refine ⟨u, hReaches.trans hLater, hShows, hIdle, ?_⟩
  rw [hEnd, hResults]

/- A call that has the client can lose the worker. -/
theorem returns_lost
    {key : Nat}
    {r : Request}
    {m : Machine}
    {s : SharedLink}
    (h : Shows key m s)
    (hClient : s.client.request? = some r) :
    Returns key r s (.error .messageLost, m) := by
  refine
    ⟨s.finish r (.error .messageLost), ⟨[.lose], ?_⟩, h, rfl,
      rfl⟩
  simp [Run.after, SharedLink.step, SharedLink.lose, hClient]

/- A call that waits can give up. -/
theorem returns_expired
    {key : Nat}
    {r : Request}
    {m : Machine}
    {s : SharedLink}
    (h : Shows key m s)
    (hClient : s.client = .waiting r) :
    Returns key r s (.error .timeout, m) := by
  refine
    ⟨s.finish r (.error .timeout), ⟨[.expire], ?_⟩, h, rfl,
      rfl⟩
  simp [Run.after, SharedLink.step, SharedLink.expire,
    hClient]

/- Receiving a frame is an event of the call. -/
theorem returns_received
    {key : Nat}
    {r : Request}
    {m : Machine}
    {s t : SharedLink}
    {result : Except DispatchError Response}
    (h : Shows key m t)
    (hReceive : s.receive = t.finish r result)
    (hResults : t.results = s.results) :
    Returns key r s (result, m) := by
  refine
    ⟨t.finish r result, ⟨[.receive], hReceive⟩, h, rfl, ?_⟩
  rw [SharedLink.finish, hResults]

theorem awaitAnswer_returns
    {key : Nat}
    {r : Request}
    (deadline : Option Nat)
    (fuel : Nat)
    {m : Machine}
    {s : SharedLink}
    (h : Shows key m s)
    (hClient : s.client = .waiting r) :
    Returns key r s (awaitAnswer key r deadline fuel m) := by
  induction fuel generalizing m s with
  | zero => exact returns_expired h hClient
  | succ fuel ih =>
      rcases id h with ⟨c, hChannel, hLink⟩
      simp only [awaitAnswer, hChannel]
      cases hResponses : c.link.responses with
      | cons frame rest =>
          have hTaken :
              Shows key
                (m.setLink key
                  { c.link with responses := rest })
                (s.withResponses rest) :=
            shows_setLink h (by
              rw [SharedLink.withResponses, hLink])
          have hFrames :
              s.link.responses = frame :: rest := by
            rw [hLink, hResponses]
          have hReceive :=
            SharedLink.receive_cons hClient hFrames
          simp only [Link.receive, hResponses]
          cases hJudge : Link.judge r.seq frame with
          | answer a =>
              rw [hJudge] at hReceive
              exact returns_received hTaken hReceive rfl
          | lost =>
              rw [hJudge] at hReceive
              exact returns_received hTaken hReceive rfl
          | stale seq =>
              rw [hJudge] at hReceive
              have hLogged :=
                shows_logged hTaken (some (staleAnswer r seq))
              exact
                (ih hLogged hClient).of_reaches
                  ⟨[.receive], hReceive⟩ rfl
      | nil =>
          simp only [Link.receive, hResponses]
          split
          · exact returns_lost h (by rw [hClient]; rfl)
          · split
            · rename_i wake _
              rcases arriveAt_works wake h with
                ⟨t, hWorks, hShows⟩
              have hWaiting : t.client = .waiting r := by
                rw [hWorks.2.1, hClient]
              exact
                (ih hShows hWaiting).of_reaches hWorks.1
                  hWorks.2.2
            · have hLate :
                  Shows key
                    { m with
                      now := max m.now (deadline.getD 0) }
                    s :=
                h
              exact
                returns_expired (shows_logged hLate _) hClient

/-
  How sending a frame ends: the call waits for its answer,
  or it has lost the worker.
-/
theorem sendFrame_cases
    {key : Nat}
    {r : Request}
    {frame : Bytes}
    (fuel : Nat)
    {m : Machine}
    {s : SharedLink}
    (h : Shows key m s)
    (hClient : s.client = .sending r frame) :
    (∃ m' t,
      sendFrame key frame fuel m = (.ok (), m') ∧
        Run.Reaches SharedLink.step s t ∧
          Shows key m' t ∧
            t.client = .waiting r ∧
              t.results = s.results) ∨
    ∃ m' t,
      sendFrame key frame fuel m =
          (.error .messageLost, m') ∧
        s.Works t ∧ Shows key m' t := by
  induction fuel generalizing m s with
  | zero =>
      exact
        Or.inr
          ⟨m, s, rfl, SharedLink.Works.refl s, h⟩
  | succ fuel ih =>
      rcases id h with ⟨c, hChannel, hLink⟩
      simp only [sendFrame, hChannel]
      by_cases hEnded : c.link.hasEnded
      · rw [if_pos hEnded]
        exact
          Or.inr
            ⟨m, s, rfl, SharedLink.Works.refl s, h⟩
      rw [if_neg hEnded]
      by_cases hRoom : c.link.hasRoom
      · rw [if_pos hRoom]
        have hSend :
            SharedLink.step .send s =
              { s with
                link := c.link.send frame
                client := .waiting r } := by
          simp [SharedLink.step, SharedLink.send, hClient,
            hLink, hEnded, hRoom]
        have hSent :
            Shows key (m.setLink key (c.link.send frame))
              { s with
                link := c.link.send frame
                client := .waiting r } :=
          shows_setLink h rfl
        rcases settleTransport_works key hSent with
          ⟨t, hWorks, hShows⟩
        apply Or.inl
        refine
          ⟨_, t, rfl, ?_, hShows, hWorks.2.1, hWorks.2.2⟩
        exact
          Run.Reaches.trans ⟨[.send], hSend⟩ hWorks.1
      · rw [if_neg hRoom]
        cases m.nextWake? with
        | none =>
            exact
              Or.inr
                ⟨m, s, rfl, SharedLink.Works.refl s, h⟩
        | some wake =>
            rcases arriveAt_works wake h with
              ⟨t, hWorks, hShows⟩
            have hSending : t.client = .sending r frame := by
              rw [hWorks.2.1, hClient]
            rcases ih hShows hSending with
              ⟨m', u, hOk, hReaches, hEnd, hWaiting, hSame⟩ |
                ⟨m', u, hLost, hLater, hEnd⟩
            · apply Or.inl
              refine
                ⟨m', u, hOk, hWorks.1.trans hReaches, hEnd,
                  hWaiting, ?_⟩
              rw [hSame, hWorks.2.2]
            · exact
                Or.inr
                  ⟨m', u, hLost, hWorks.trans hLater, hEnd⟩

theorem numberRequest_ok
    {key : Nat}
    {m : Machine}
    {c : Channel}
    (hChannel : m.channel? key = some c)
    (r : Request) :
    numberRequest key r m =
      (.ok (SharedLink.withNumber r c.link),
        m.setLink key c.link.number.2) := by
  rw [numberRequest, hChannel]
  rfl

/-
  A call over a channel is a run of the link that the
  channel has, up to the end of the call.
-/
theorem rpcChannel_returns
    {key : Nat}
    {m : Machine}
    {s : SharedLink}
    (h : Shows key m s)
    (hIdle : s.client = .idle)
    (hNumber : SharedLink.HasNumber s.link)
    (r : Request)
    (timeout : Duration) :
    Returns key (SharedLink.withNumber r s.link) s
      (rpcChannel key r timeout m) := by
  rcases id h with ⟨c, hChannel, hLink⟩
  have hCall := SharedLink.call_idle hIdle hNumber r
  simp only [rpcChannel, bind, Op.bind, Op.ofExcept, Op.get,
    numberRequest_ok hChannel, ← hLink]
  cases hEncode : (SharedLink.withNumber r s.link).encode with
  | error cause =>
      rw [hEncode] at hCall
      exact
        ⟨_, ⟨[.call r], hCall⟩,
          shows_setLink h rfl, rfl, rfl⟩
  | ok frame =>
      rw [hEncode] at hCall
      have hBegun :
          Shows key (m.setLink key s.link.number.2)
            { s with
              link := s.link.number.2
              client :=
                .sending (SharedLink.withNumber r s.link)
                  frame } :=
        shows_setLink h rfl
      refine
        Returns.of_reaches ?_ ⟨[.call r], hCall⟩ rfl
      rcases sendFrame_cases
          (m.setLink key s.link.number.2).wakeBound hBegun
          rfl with
        ⟨m', t, hSent, hReaches, hShows, hClient, hSame⟩ |
          ⟨m', t, hLost, hWorks, hShows⟩
      · simp only [hSent]
        exact
          (awaitAnswer_returns _ _ hShows hClient).of_reaches
            hReaches hSame
      · simp only [hLost]
        have hSending :
            t.client.request? =
              some (SharedLink.withNumber r s.link) := by
          rw [hWorks.2.1]
          rfl
        exact
          (returns_lost hShows hSending).of_reaches hWorks.1
            hWorks.2.2

/-
  What a call over a channel answers is what its service
  made of the very request.
-/
theorem rpcChannel_ok
    {key : Nat}
    {m m' : Machine}
    {s : SharedLink}
    (h : Shows key m s)
    (hOrdered : s.Ordered)
    (hRecorded : s.Recorded)
    (hIdle : s.client = .idle)
    (hNumber : SharedLink.HasNumber s.link)
    {r : Request}
    {timeout : Duration}
    {a : Response}
    (hOk : rpcChannel key r timeout m = (.ok a, m')) :
    ∃ t outcome,
      Run.Reaches SharedLink.step s t ∧ Shows key m' t ∧
        (SharedLink.withNumber r s.link, outcome) ∈
            t.served ∧
          a = Link.responseTo s.link.nextSeq outcome := by
  rcases rpcChannel_returns h hIdle hNumber r timeout with
    ⟨t, hReaches, hShows, _, hResults⟩
  have hEnd :=
    SharedLink.ordered_recorded_of_reaches hReaches
      ⟨hOrdered, hRecorded⟩
  rw [hOk] at hShows hResults
  have hResult :
      (SharedLink.withNumber r s.link, Except.ok a) ∈
        t.results := by
    rw [hResults]
    exact List.mem_cons_self
  rcases hEnd.2.returned _ a hResult with
    ⟨outcome, hServed, hAnswer⟩
  exact ⟨t, outcome, hReaches, hShows, hServed, hAnswer⟩

end Machine

end Offload
