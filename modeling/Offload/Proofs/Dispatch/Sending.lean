import Mathlib.Data.List.Basic
import Offload.Dispatch.Link
import Offload.Proofs.Run
import Offload.Proofs.Dispatch.Answers

/-
  Room for the frames of calls.

  The queue to the worker has room for one frame. A call that
  gives up leaves its frame where it is. If the worker has
  not taken it by the time of the next call, that call finds
  the queue full, and waits for the worker: not for its own
  answer, and not under its own deadline.

  Key definitions include:
    * `SharedLink.Roomy`
    * `SharedLink.Begins`
    * `SharedLink.Strands`
    * `SharedLink.Left`
    * `SharedLink.Stuck`

  Main results:
    * `SharedLink.left_step`
    * `SharedLink.stuck_after`
    * `SharedLink.roomy_iff_taken`
    * `SharedLink.roomy_fails_after_two_expiries`
-/

namespace Offload

namespace Link

/- There is room exactly while the queue is empty. -/
theorem hasRoom_iff
    {l : Link} :
    l.hasRoom = true ↔ l.requests = [] := by
  rw [hasRoom, decide_eq_true_eq, capacity, Nat.lt_one_iff,
    List.length_eq_zero_iff]

end Link

namespace SharedLink

------------------------------------------------------------
-- Room
------------------------------------------------------------

/- A call that is about to send has room for its frame. -/
def Roomy
    (s : SharedLink) : Prop :=
  ∀ r frame,
    s.client = .sending r frame → s.link.hasRoom = true

/- A call of a request would begin, with a frame to send. -/
def Begins
    (r : Request)
    (s : SharedLink) : Prop :=
  s.client = .idle ∧ HasNumber s.link ∧
    ∃ frame, (withNumber r s.link).encode = .ok frame

theorem roomy_of_not_sending
    {s : SharedLink}
    (h : ∀ r frame, s.client ≠ .sending r frame) :
    s.Roomy := by
  intro r frame hClient
  exact absurd hClient (h r frame)

theorem roomy_finish
    (s : SharedLink)
    (r : Request)
    (result : Except DispatchError Response) :
    (s.finish r result).Roomy := by
  apply roomy_of_not_sending
  intro q frame hClient
  cases hClient

/- What a call that begins has to send. -/
theorem Begins.call_eq
    {s : SharedLink}
    {r : Request}
    (h : s.Begins r) :
    ∃ frame,
      s.call r =
        { s with
          link := s.link.number.2
          client := .sending (withNumber r s.link) frame } := by
  rcases h with ⟨hIdle, hNumber, frame, hEncode⟩
  refine ⟨frame, ?_⟩
  rw [call_idle hIdle hNumber, hEncode]

/- A call that does not begin has nothing to send. -/
theorem Roomy.call
    {s : SharedLink}
    (h : s.Roomy)
    {r : Request}
    (hTaken : s.Begins r → s.link.requests = []) :
    (s.call r).Roomy := by
  rcases call_cases r s with hSame | ⟨hIdle, hNumber⟩
  · rw [hSame]
    exact h
  · rw [call_idle hIdle hNumber]
    cases hEncode : (withNumber r s.link).encode with
    | ok frame =>
        intro q f _
        exact
          Link.hasRoom_iff.mpr
            (hTaken ⟨hIdle, hNumber, frame, hEncode⟩)
    | error cause => exact roomy_finish _ _ _

theorem Roomy.send
    {s : SharedLink}
    (h : s.Roomy) : s.send.Roomy := by
  unfold SharedLink.send
  cases hClient : s.client with
  | sending r frame =>
      dsimp only
      split
      · apply roomy_of_not_sending
        intro q f hq
        cases hq
      · exact h
  | _ => exact h

theorem Roomy.receive
    {s : SharedLink}
    (h : s.Roomy) : s.receive.Roomy := by
  rcases receive_cases s with
    hSame | ⟨r, frame, rest, hClient, hResponses⟩
  · rw [hSame]
    exact h
  · rw [receive_cons hClient hResponses]
    cases Link.judge r.seq frame with
    | answer a => exact roomy_finish _ _ _
    | stale seq => exact h
    | lost => exact roomy_finish _ _ _

/- A worker that takes a request makes room. -/
theorem Roomy.take
    {s : SharedLink}
    (h : s.Roomy) : s.take.Roomy := by
  unfold SharedLink.take
  cases hTake : s.link.take with
  | none => exact h
  | some taken =>
      rcases taken with ⟨event, l⟩
      rcases Link.take_some hTake with
        ⟨frame, rest, _, hRequests, hKind⟩
      intro r f hClient
      have hEmpty := Link.hasRoom_iff.mp (h r f hClient)
      rw [hRequests] at hEmpty
      cases hEmpty

theorem Roomy.answer
    {s : SharedLink}
    (h : s.Roomy)
    (outcome : Outcome) : (s.answer outcome).Roomy := by
  unfold SharedLink.answer
  cases hPhase : s.link.phase with
  | serving r =>
      rcases Link.answer_serving hPhase outcome with
        ⟨frames, hAnswer, _⟩
      dsimp only
      rw [hAnswer]
      exact h
  | _ => exact h

/- Only a call that begins can come to want room. -/
theorem roomy_step
    {s : SharedLink}
    {e : Event}
    (h : s.Roomy)
    (hTaken :
      ∀ r, e = .call r → s.Begins r → s.link.requests = []) :
    (step e s).Roomy := by
  cases e with
  | call r => exact h.call (hTaken r rfl)
  | send => exact h.send
  | receive => exact h.receive
  | expire =>
      simp only [step, expire]
      cases s.client with
      | waiting r => exact roomy_finish _ _ _
      | _ => exact h
  | lose =>
      simp only [step, lose]
      cases s.client.request? with
      | some r => exact roomy_finish _ _ _
      | none => exact h
  | take => exact h.take
  | answer outcome => exact h.answer outcome
  | stop =>
      intro r frame _
      exact Link.hasRoom_iff.mpr rfl

/- A call that begins with room found the queue empty. -/
theorem Begins.taken
    {s : SharedLink}
    {r : Request}
    (h : s.Begins r)
    (hRoomy : (s.call r).Roomy) : s.link.requests = [] := by
  rcases h.call_eq with ⟨frame, hCall⟩
  rw [hCall] at hRoomy
  exact Link.hasRoom_iff.mp (hRoomy _ _ rfl)

------------------------------------------------------------
-- Whose Frames the Queue Has
------------------------------------------------------------

/- How a call ends whose frame may be left in the queue. -/
def Strands
    (result : Except DispatchError Response) : Prop :=
  result = .error .timeout ∨ result = .error .messageLost

/-
  The queue has at most one frame. Its call still waits, or
  it gave up.
-/
structure Left
    (s : SharedLink) : Prop where
  few : s.link.requests.length ≤ Link.capacity
  owned :
    ∀ q ∈ queued s.link.requests,
      s.client = .waiting q ∨
        ∃ result, (q, result) ∈ s.results ∧ Strands result

theorem left_fresh : fresh.Left where
  few := Nat.zero_le _
  owned := by
    intro q hq
    cases hq

/-
  A call that comes to an end leaves its frame behind unless
  it is answered; and then the worker has taken the frame.
-/
theorem Left.finish
    {s : SharedLink}
    (h : s.Left)
    {r : Request}
    {result : Except DispatchError Response}
    (hWaiting : ∀ q, s.client = .waiting q → q = r)
    (hEnd : Strands result ∨ r ∉ queued s.link.requests) :
    (s.finish r result).Left where
  few := h.few
  owned := by
    intro q hq
    apply Or.inr
    rcases h.owned q hq with hClient | ⟨old, hOld, hStrands⟩
    · have hSame := hWaiting q hClient
      subst hSame
      rcases hEnd with hStrands | hTaken
      · exact ⟨result, List.mem_cons_self, hStrands⟩
      · exact absurd hq hTaken
    · exact ⟨old, List.mem_cons_of_mem _ hOld, hStrands⟩

/- Without a call that waits there is none to leave. -/
theorem Left.of_not_waiting
    {s s' : SharedLink}
    (h : s.Left)
    (hClient : ∀ q, s.client ≠ .waiting q)
    (hRequests : s'.link.requests = s.link.requests)
    (hResults : ∀ p ∈ s.results, p ∈ s'.results) :
    s'.Left where
  few := by
    rw [hRequests]
    exact h.few
  owned := by
    intro q hq
    rw [hRequests] at hq
    rcases h.owned q hq with hOwn | ⟨result, hOld, hStrands⟩
    · exact absurd hOwn (hClient q)
    · exact Or.inr ⟨result, hResults _ hOld, hStrands⟩

/- Nobody else's frames join those in the queue. -/
theorem Left.shrink
    {s s' : SharedLink}
    (h : s.Left)
    (hRequests :
      s'.link.requests.Sublist s.link.requests)
    (hClient : s'.client = s.client)
    (hResults : s'.results = s.results) : s'.Left where
  few := Nat.le_trans hRequests.length_le h.few
  owned := by
    intro q hq
    rw [hClient, hResults]
    exact h.owned q ((hRequests.filterMap _).subset hq)

theorem Left.call
    {s : SharedLink}
    (h : s.Left)
    (r : Request) : (s.call r).Left := by
  rcases call_cases r s with hSame | ⟨hIdle, hNumber⟩
  · rw [hSame]
    exact h
  · have hNobody : ∀ q, s.client ≠ .waiting q := by
      intro q hq
      rw [hIdle] at hq
      cases hq
    rw [call_idle hIdle hNumber]
    cases (withNumber r s.link).encode with
    | ok frame =>
        exact h.of_not_waiting hNobody rfl fun _ hp => hp
    | error cause =>
        exact
          h.of_not_waiting hNobody rfl fun _ hp =>
            List.mem_cons_of_mem _ hp

/- The frame that is sent is the only one in the queue. -/
theorem Left.send
    {s : SharedLink}
    (h : s.Left)
    (hOrdered : s.Ordered) : s.send.Left := by
  unfold SharedLink.send
  cases hClient : s.client with
  | sending r frame =>
      dsimp only
      split
      · rename_i hRoom
        have hEmpty : s.link.requests = [] :=
          Link.hasRoom_iff.mp (Bool.and_eq_true_iff.mp hRoom).2
        have hDecode := hOrdered.framed r frame hClient
        have hQueue :
            (s.link.send frame).requests = [frame] := by
          rw [Link.send, hEmpty, List.nil_append]
        constructor
        · simp [hQueue, Link.capacity]
        · intro q hq
          change
            q ∈ queued (s.link.send frame).requests at hq
          rw [hQueue, queued_cons hDecode] at hq
          rw [List.mem_singleton.mp hq]
          exact Or.inl rfl
      · exact h
  | _ => exact h

/- A request in the queue was not served. -/
theorem Ordered.not_served_of_queued
    {s : SharedLink}
    (h : s.Ordered)
    {q : Request}
    (hQueued : q ∈ queued s.link.requests) :
    q ∉ s.served.map Prod.fst := by
  intro hServed
  have hLine := h.falling
  simp only [line, List.append_assoc] at hLine
  have hAfter :=
    (List.pairwise_append.mp
      (List.pairwise_append.mp hLine).2.1).2.2
  exact
    Nat.lt_irrefl _
      (hAfter q (List.mem_reverse.mpr hQueued) q
        (List.mem_append_right _ hServed))

theorem Left.receive
    {s : SharedLink}
    (h : s.Left)
    (hOrdered : s.Ordered) : s.receive.Left := by
  rcases receive_cases s with
    hSame | ⟨r, frame, rest, hClient, hResponses⟩
  · rw [hSame]
    exact h
  · have hRest : (s.withResponses rest).Left :=
      h.shrink (List.Sublist.refl _) rfl rfl
    have hOwn : ∀ q, s.client = .waiting q → q = r := by
      intro q hq
      rw [hClient] at hq
      cases hq
      rfl
    rw [receive_cons hClient hResponses]
    cases hJudge : Link.judge r.seq frame with
    | answer a =>
        have hFrame : frame ∈ s.link.responses := by
          rw [hResponses]
          exact List.mem_cons_self
        rcases hOrdered.served_of_answer hClient hFrame hJudge
          with ⟨outcome, hServed, _⟩
        apply hRest.finish hOwn
        apply Or.inr
        intro hQueued
        exact
          hOrdered.not_served_of_queued hQueued
            (List.mem_map_of_mem hServed)
    | stale seq => exact hRest
    | lost =>
        exact hRest.finish hOwn (Or.inl (Or.inr rfl))

theorem Left.take
    {s : SharedLink}
    (h : s.Left) : s.take.Left := by
  unfold SharedLink.take
  cases hTake : s.link.take with
  | none => exact h
  | some taken =>
      rcases taken with ⟨event, l⟩
      rcases Link.take_some hTake with
        ⟨frame, rest, _, hRequests, hKind⟩
      have hRest : l.requests = rest := by
        rcases hKind with ⟨r, _, rfl⟩ | ⟨_, rfl⟩
        · rfl
        · rfl
      refine h.shrink ?_ rfl rfl
      change l.requests.Sublist s.link.requests
      rw [hRest, hRequests]
      exact List.sublist_cons_self frame rest

theorem Left.answer
    {s : SharedLink}
    (h : s.Left)
    (outcome : Outcome) : (s.answer outcome).Left := by
  unfold SharedLink.answer
  cases hPhase : s.link.phase with
  | serving r =>
      rcases Link.answer_serving hPhase outcome with
        ⟨frames, hAnswer, _⟩
      dsimp only
      rw [hAnswer]
      exact h.shrink (List.Sublist.refl _) rfl rfl
  | _ => exact h

theorem left_step
    {s : SharedLink}
    (e : Event)
    (hOrdered : s.Ordered)
    (h : s.Left) : (step e s).Left := by
  cases e with
  | call r => exact h.call r
  | send => exact h.send hOrdered
  | receive => exact h.receive hOrdered
  | expire =>
      simp only [step, expire]
      cases hClient : s.client with
      | waiting r =>
          apply h.finish _ (Or.inl (Or.inl rfl))
          intro q hq
          rw [hClient] at hq
          cases hq
          rfl
      | _ => exact h
  | lose =>
      simp only [step, lose]
      cases hClient : s.client.request? with
      | some r =>
          apply h.finish _ (Or.inl (Or.inr rfl))
          intro q hq
          rw [hq] at hClient
          cases hClient
          rfl
      | none => exact h
  | take => exact h.take
  | answer outcome => exact h.answer outcome
  | stop =>
      refine h.shrink ?_ rfl rfl
      exact List.nil_sublist _

------------------------------------------------------------
-- Calls Without Room
------------------------------------------------------------

/- What neither takes a request nor ends the worker. -/
def Event.leavesQueue : Event → Bool
  | .take => false
  | .stop => false
  | .lose => false
  | _ => true

/- A call is about to send, and the queue is full. -/
def Stuck
    (r : Request)
    (frame : Bytes)
    (s : SharedLink) : Prop :=
  s.client = .sending r frame ∧ s.link.hasRoom = false

/-
  Neither its deadline nor an answer to another call helps a
  call that has no room.
-/
theorem stuck_step
    {r : Request}
    {frame : Bytes}
    {s : SharedLink}
    {e : Event}
    (he : e.leavesQueue = true)
    (h : s.Stuck r frame) :
    (step e s).Stuck r frame ∧
      (step e s).results = s.results := by
  rcases id h with ⟨hClient, hFull⟩
  cases e with
  | call q => simp [step, call, hClient, h]
  | send => simp [step, send, hClient, hFull, h]
  | receive => simp [step, receive, hClient, h]
  | expire => simp [step, expire, hClient, h]
  | answer outcome =>
      simp only [step, answer]
      cases hPhase : s.link.phase with
      | serving q =>
          rcases Link.answer_serving hPhase outcome with
            ⟨frames, hAnswer, _⟩
          dsimp only
          rw [hAnswer]
          exact ⟨⟨hClient, hFull⟩, rfl⟩
      | _ => exact ⟨h, rfl⟩
  | lose => cases he
  | take => cases he
  | stop => cases he

/- A call that has no room waits until the worker acts. -/
theorem stuck_after
    {r : Request}
    {frame : Bytes}
    {s : SharedLink}
    (h : s.Stuck r frame)
    {es : List Event}
    (hEvents : ∀ e ∈ es, e.leavesQueue = true) :
    (Run.after step es s).Stuck r frame ∧
      (Run.after step es s).results = s.results := by
  induction es generalizing s with
  | nil => exact ⟨h, rfl⟩
  | cons e rest ih =>
      rcases stuck_step (hEvents e List.mem_cons_self) h with
        ⟨hNext, hSame⟩
      rcases ih hNext
          (fun f hf => hEvents f (List.mem_cons_of_mem _ hf))
        with ⟨hEnd, hRest⟩
      exact ⟨hEnd, hRest.trans hSame⟩

------------------------------------------------------------
-- Whole Runs
------------------------------------------------------------

/- What is known of all states of a run. -/
theorem ordered_recorded_left_of_mem_states
    {es : List Event}
    {s : SharedLink}
    (hState : s ∈ Run.states step es fresh) :
    s.Ordered ∧ s.Recorded ∧ s.Left := by
  apply
    Run.forall_states
      (P := fun u => u.Ordered ∧ u.Recorded ∧ u.Left)
      _ es ⟨ordered_fresh, recorded_fresh, left_fresh⟩ s
      hState
  intro u e ⟨hOrdered, hRecorded, hLeft⟩
  exact
    ⟨ordered_step e hOrdered,
      recorded_step e hOrdered hRecorded,
      left_step e hOrdered hLeft⟩

/- A full queue has one frame, and its request can be read. -/
theorem Left.full
    {s : SharedLink}
    (h : s.Left)
    (hOrdered : s.Ordered)
    (hFull : s.link.hasRoom = false) :
    ∃ q, queued s.link.requests = [q] := by
  have hFew := h.few
  rw [Link.capacity] at hFew
  match hRequests : s.link.requests with
  | [] =>
      rw [Link.hasRoom_iff.mpr hRequests] at hFull
      cases hFull
  | [frame] =>
      rcases hOrdered.readable frame
          (by rw [hRequests]; exact List.mem_singleton_self _)
        with ⟨q, hDecode⟩
      exact ⟨q, by rw [queued_cons hDecode]; rfl⟩
  | _ :: _ :: rest =>
      rw [hRequests] at hFew
      simp at hFew

/- Who stands in the way of a call that has no room. -/
theorem Stuck.behind
    {r : Request}
    {frame : Bytes}
    {s : SharedLink}
    (h : s.Stuck r frame)
    (hOrdered : s.Ordered)
    (hLeft : s.Left) :
    ∃ q result,
      queued s.link.requests = [q] ∧
        (q, result) ∈ s.results ∧ Strands result ∧
          ∀ o, (q, o) ∉ s.served := by
  rcases hLeft.full hOrdered h.2 with ⟨q, hQueued⟩
  have hMem : q ∈ queued s.link.requests := by
    rw [hQueued]
    exact List.mem_singleton_self q
  rcases hLeft.owned q hMem with
    hWaiting | ⟨result, hResult, hStrands⟩
  · rw [h.1] at hWaiting
    cases hWaiting
  · refine ⟨q, result, hQueued, hResult, hStrands, ?_⟩
    intro o hServed
    exact
      hOrdered.not_served_of_queued hMem
        (List.mem_map_of_mem hServed)

/-
  After a call that was answered the queue is empty: no
  request is newer than that of the newest result.
-/
theorem taken_of_answered
    {s : SharedLink}
    (hOrdered : s.Ordered)
    (hRecorded : s.Recorded)
    (hLeft : s.Left)
    {r : Request}
    {a : Response}
    (hIdle : s.client = .idle)
    (hNewest : s.results.head? = some (r, .ok a)) :
    s.link.requests = [] := by
  by_contra hFull
  have hNoRoom : s.link.hasRoom = false := by
    rw [← Bool.not_eq_true, Link.hasRoom_iff]
    exact hFull
  rcases hLeft.full hOrdered hNoRoom with ⟨q, hQueued⟩
  have hMem : q ∈ queued s.link.requests := by
    rw [hQueued]
    exact List.mem_singleton_self q
  rcases List.head?_eq_some_iff.mp hNewest with ⟨rest, hResults⟩
  rcases hRecorded.returned r a
      (by rw [hResults]; exact List.mem_cons_self) with
    ⟨outcome, hServed, _⟩
  have hLine := hOrdered.falling
  simp only [line, List.append_assoc] at hLine
  have hNewer : r.seq.toNat < q.seq.toNat :=
    (List.pairwise_append.mp
      (List.pairwise_append.mp hLine).2.1).2.2 q
      (List.mem_reverse.mpr hMem) r
      (List.mem_append_right _ (List.mem_map_of_mem hServed))
  rcases hLeft.owned q hMem with
    hWaiting | ⟨result, hResult, hStrands⟩
  · rw [hIdle] at hWaiting
    cases hWaiting
  · have hFalling := hRecorded.falling
    rw [hResults] at hResult hFalling
    rcases List.mem_cons.mp hResult with hHead | hOld
    · cases hHead
      rcases hStrands with hLate | hLost
      · cases hLate
      · cases hLost
    · have hOlder :=
        (List.pairwise_cons.mp hFalling).1 _ hOld
      exact Nat.lt_asymm hNewer hOlder

/-
  On every run of a link, all calls have room for their
  frames when they are about to send exactly if the worker
  has taken all earlier requests whenever a call begins. That
  is so after a call that was answered. A call without room
  is behind a request that nobody waits for any more; as long
  as the worker does not take it, whatever else happens, the
  call stays where it is, its deadline included.
-/
theorem roomy_iff_taken
    (es : List Event) :
    ((∀ s ∈ Run.states step es fresh, s.Roomy) ↔
      ∀ s r,
        (s, Event.call r) ∈ Run.moves step es fresh →
          s.Begins r → s.link.requests = []) ∧
    (∀ s ∈ Run.states step es fresh,
      ∀ r a,
        s.client = .idle →
          s.results.head? = some (r, .ok a) →
            s.link.requests = []) ∧
    ∀ s ∈ Run.states step es fresh,
      ∀ r frame,
        s.Stuck r frame →
          (∃ q result,
            queued s.link.requests = [q] ∧
              (q, result) ∈ s.results ∧ Strands result ∧
                ∀ o, (q, o) ∉ s.served) ∧
          ∀ later : List Event,
            (∀ e ∈ later, e.leavesQueue = true) →
              (Run.after step later s).Stuck r frame ∧
                (Run.after step later s).results =
                  s.results := by
  refine ⟨⟨?_, ?_⟩, ?_, ?_⟩
  · intro hRoomy s r hMove hBegins
    exact
      hBegins.taken
        (hRoomy _ (Run.mem_states_of_mem_moves hMove).2)
  · intro hTaken
    apply Run.forall_states_of_moves
    · apply roomy_of_not_sending
      intro r frame hClient
      cases hClient
    · intro s e hMove hRoomy
      apply roomy_step hRoomy
      rintro r rfl hBegins
      exact hTaken s r hMove hBegins
  · intro s hState r a hIdle hNewest
    rcases ordered_recorded_left_of_mem_states hState with
      ⟨hOrdered, hRecorded, hLeft⟩
    exact
      taken_of_answered hOrdered hRecorded hLeft hIdle hNewest
  · intro s hState r frame hStuck
    rcases ordered_recorded_left_of_mem_states hState with
      ⟨hOrdered, _, hLeft⟩
    exact
      ⟨hStuck.behind hOrdered hLeft,
        fun later hLater => stuck_after hStuck hLater⟩

/-
  Two calls that give up while the worker is busy with the
  first, and a third.
-/
def impatient : List Event :=
  [.call (.of .runModel []), .send, .take, .expire,
    .call (.of .getStatus []), .send, .expire,
    .call (.of .getHandle []), .send, .expire]

/-
  The third call is about to send and has no room. It has
  not ended when its time is over, as the two before it have.
-/
theorem roomy_fails_after_two_expiries :
    (¬∀ s ∈ Run.states step impatient fresh, s.Roomy) ∧
      (∃ frame,
        (Run.after step impatient fresh).Stuck
          ⟨3, .accelerator, .getHandle, []⟩ frame) ∧
      (Run.after step impatient fresh).results =
        [(⟨2, .accelerator, .getStatus, []⟩,
            .error .timeout),
          (⟨1, .accelerator, .runModel, []⟩,
            .error .timeout)] := by
  have hStuck :
      ∃ frame,
        (Run.after step impatient fresh).Stuck
          ⟨3, .accelerator, .getHandle, []⟩ frame :=
    ⟨_, rfl, by decide +kernel⟩
  refine ⟨?_, hStuck, by decide +kernel⟩
  intro hRoomy
  rcases hStuck with ⟨frame, hClient, hFull⟩
  have hRoom :=
    hRoomy _ (Run.after_mem_states impatient fresh) _ frame
      hClient
  rw [hFull] at hRoom
  cases hRoom

end SharedLink

end Offload
