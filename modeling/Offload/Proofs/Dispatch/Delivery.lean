import Mathlib.Data.List.Basic
import Mathlib.Data.List.Nodup
import Offload.Dispatch.Link
import Offload.Proofs.Run
import Offload.Proofs.Dispatch.Answers

/-
  Answers reach the calls that wait for them.

  While a call waits, the answer to its request stays in the
  queue. The call skips what lies ahead of it, and takes it.

  Key definitions include:
    * `SharedLink.Kept`

  Main results:
    * `SharedLink.kept_step`
    * `SharedLink.answered_of_served`
-/

namespace Offload

namespace Link

/- A client knows the answer to its request. -/
theorem judge_encode
    {a : Response}
    {frame : Bytes}
    (h : a.encode = .ok frame) :
    judge a.seq frame = .answer a := by
  have hSelf : ¬ a.seq < a.seq := UInt64.lt_irrefl a.seq
  simp only [judge, Response.decode_encode h, if_neg hSelf,
    if_true]

/- A client is not lost with a frame that is not ahead. -/
theorem judge_ne_lost
    {seq : UInt64}
    {frame : Bytes}
    {a : Response}
    (hDecode : Response.decode frame = .ok a)
    (hSeq : a.seq ≤ seq) :
    judge seq frame ≠ .lost := by
  simp only [judge, hDecode]
  intro hLost
  split at hLost
  · cases hLost
  · rename_i hStale
    have hSame : a.seq = seq :=
      UInt64.le_antisymm hSeq (UInt64.not_lt.mp hStale)
    rw [if_pos hSame] at hLost
    cases hLost

end Link

namespace SharedLink

------------------------------------------------------------
-- Answers in the Queue
------------------------------------------------------------

/- The answer that the waiting call is for is in the queue. -/
def Kept
    (s : SharedLink) : Prop :=
  ∀ r outcome frame,
    s.client = .waiting r →
      (r, outcome) ∈ s.served →
        (Link.responseTo r.seq outcome).encode = .ok frame →
          frame ∈ s.link.responses

/- Without a call that waits there is nothing to keep. -/
theorem kept_of_not_waiting
    {s : SharedLink}
    (h : ∀ r, s.client ≠ .waiting r) : s.Kept := by
  intro r outcome frame hClient
  exact absurd hClient (h r)

theorem kept_fresh : fresh.Kept := by
  apply kept_of_not_waiting
  intro r hClient
  cases hClient

theorem kept_finish
    (s : SharedLink)
    (r : Request)
    (result : Except DispatchError Response) :
    (s.finish r result).Kept := by
  apply kept_of_not_waiting
  intro q hClient
  cases hClient

theorem Kept.call
    {s : SharedLink}
    (h : s.Kept)
    (r : Request) : (s.call r).Kept := by
  rcases call_cases r s with hSame | ⟨hIdle, hNumber⟩
  · rw [hSame]
    exact h
  · rw [call_idle hIdle hNumber]
    cases (withNumber r s.link).encode with
    | ok frame =>
        apply kept_of_not_waiting
        intro q hClient
        cases hClient
    | error cause => exact kept_finish _ _ _

/- A request that is just sent is not served yet. -/
theorem Kept.send
    {s : SharedLink}
    (h : s.Kept)
    (hOrdered : s.Ordered) : s.send.Kept := by
  unfold SharedLink.send
  cases hClient : s.client with
  | sending r frame =>
      dsimp only
      split
      · intro q outcome f hWaiting hServed
        cases hWaiting
        have hFalling := hOrdered.falling
        simp only [line, hClient, Client.unsent,
          List.cons_append, List.nil_append,
          List.pairwise_cons] at hFalling
        have hInLine : r ∈ s.served.map Prod.fst :=
          List.mem_map_of_mem hServed
        have hBelow :=
          hFalling.1 r (List.mem_append_right _ hInLine)
        exact absurd hBelow (Nat.lt_irrefl _)
      · exact h
  | _ => exact h

/- What a client skips is not the answer that it is for. -/
theorem Kept.withResponses
    {s : SharedLink}
    (h : s.Kept)
    {r : Request}
    {frame : Bytes}
    {rest : List Bytes}
    (hClient : s.client = .waiting r)
    (hResponses : s.link.responses = frame :: rest)
    {seq : UInt64}
    (hJudge : Link.judge r.seq frame = .stale seq) :
    (s.withResponses rest).Kept := by
  intro q outcome f hWaiting hServed hEncode
  have hOwn := Link.judge_encode hEncode
  have hKept := h q outcome f hWaiting hServed hEncode
  change s.client = .waiting q at hWaiting
  rw [hClient] at hWaiting
  cases hWaiting
  rw [hResponses] at hKept
  rcases List.mem_cons.mp hKept with rfl | hRest
  · rw [Link.responseTo_seq, hJudge] at hOwn
    cases hOwn
  · exact hRest

theorem Kept.receive
    {s : SharedLink}
    (h : s.Kept) : s.receive.Kept := by
  rcases receive_cases s with
    hSame | ⟨r, frame, rest, hClient, hResponses⟩
  · rw [hSame]
    exact h
  · rw [receive_cons hClient hResponses]
    cases hJudge : Link.judge r.seq frame with
    | answer a => exact kept_finish _ _ _
    | stale seq =>
        exact h.withResponses hClient hResponses hJudge
    | lost => exact kept_finish _ _ _

theorem Kept.take
    {s : SharedLink}
    (h : s.Kept) : s.take.Kept := by
  unfold SharedLink.take
  cases hTake : s.link.take with
  | none => exact h
  | some taken =>
      rcases taken with ⟨event, l⟩
      rcases Link.take_some hTake with
        ⟨frame, rest, _, _, ⟨r, _, rfl⟩ | ⟨_, rfl⟩⟩
      · exact h
      · exact h

theorem Kept.answer
    {s : SharedLink}
    (h : s.Kept)
    (outcome : Outcome) : (s.answer outcome).Kept := by
  unfold SharedLink.answer
  cases hPhase : s.link.phase with
  | serving r =>
      rcases Link.answer_serving hPhase outcome with
        ⟨frames, hAnswer, hFrames⟩
      dsimp only
      rw [hAnswer]
      intro q o f hClient hServed hEncode
      rcases List.mem_cons.mp hServed with hNew | hOld
      · cases hNew
        exact
          List.mem_append_right _ ((hFrames f).mpr hEncode)
      · exact
          List.mem_append_left _
            (h q o f hClient hOld hEncode)
  | _ => exact h

theorem kept_step
    {s : SharedLink}
    (e : Event)
    (hOrdered : s.Ordered)
    (h : s.Kept) : (step e s).Kept := by
  cases e with
  | call r => exact h.call r
  | send => exact h.send hOrdered
  | receive => exact h.receive
  | expire =>
      simp only [step, expire]
      cases s.client with
      | waiting r => exact kept_finish _ _ _
      | _ => exact h
  | lose =>
      simp only [step, lose]
      cases s.client.request? with
      | some r => exact kept_finish _ _ _
      | none => exact h
  | take => exact h.take
  | answer outcome => exact h.answer outcome
  | stop => exact h

------------------------------------------------------------
-- Delivery
------------------------------------------------------------

/-
  A call that receives on gets the answer to its request.
  The induction is on the frames ahead of the answer.
-/
theorem Ordered.answered_of_kept
    {s : SharedLink}
    (h : s.Ordered)
    (hKept : s.Kept)
    {r : Request}
    {outcome : Outcome}
    {frame : Bytes}
    (hClient : s.client = .waiting r)
    (hServed : (r, outcome) ∈ s.served)
    (hEncode :
      (Link.responseTo r.seq outcome).encode = .ok frame) :
    ∃ n,
      (Run.after step (List.replicate n .receive) s).results =
        (r, .ok (Link.responseTo r.seq outcome)) ::
          s.results := by
  have hQueue := hKept r outcome frame hClient hServed hEncode
  generalize hResponses : s.link.responses = responses
    at hQueue
  induction responses generalizing s with
  | nil => cases hQueue
  | cons first rest ih =>
      have hReceive := receive_cons hClient hResponses
      have hFirst : first ∈ s.link.responses := by
        rw [hResponses]
        exact List.mem_cons_self
      cases hJudge : Link.judge r.seq first with
      | answer a =>
          rcases h.served_of_answer hClient hFirst hJudge with
            ⟨o, hOther, rfl⟩
          have hSame :=
            List.inj_on_of_nodup_map h.served_unique hOther
              hServed rfl
          cases hSame
          refine ⟨1, ?_⟩
          change s.receive.results = _
          rw [hReceive, hJudge]
          rfl
      | stale seq =>
          have hKeptRest :=
            hKept.withResponses hClient hResponses hJudge
          rcases ih (h.withResponses hResponses) hKeptRest
              hClient hServed rfl
              (hKeptRest r outcome frame hClient hServed
                hEncode) with
            ⟨n, hResults⟩
          refine ⟨n + 1, ?_⟩
          change
            (Run.after step (List.replicate n .receive)
              s.receive).results = _
          rw [hReceive, hJudge]
          exact hResults
      | lost =>
          rcases h.seq_le_of_mem_responses hClient hFirst with
            ⟨a, hDecode, hSeq⟩
          exact
            absurd hJudge (Link.judge_ne_lost hDecode hSeq)

/- What keeps the line in order keeps answers as well. -/
theorem ordered_kept_step
    (s : SharedLink)
    (e : Event)
    (h : s.Ordered ∧ s.Kept) :
    (step e s).Ordered ∧ (step e s).Kept :=
  ⟨ordered_step e h.1, kept_step e h.1 h.2⟩

/-
  Once its request is served and the answer fits a frame, a
  call that still waits gets the answer if it receives on,
  however many answers to earlier calls lie ahead.
-/
theorem answered_of_served
    (es : List Event)
    {r : Request}
    {outcome : Outcome}
    {frame : Bytes}
    (hClient :
      (Run.after step es fresh).client = .waiting r)
    (hServed :
      (r, outcome) ∈ (Run.after step es fresh).served)
    (hEncode :
      (Link.responseTo r.seq outcome).encode = .ok frame) :
    ∃ n,
      (Run.after step (List.replicate n .receive)
          (Run.after step es fresh)).results =
        (r, .ok (Link.responseTo r.seq outcome)) ::
          (Run.after step es fresh).results := by
  have hReaches :
      Run.Reaches step fresh (Run.after step es fresh) :=
    ⟨es, rfl⟩
  have hBoth :=
    hReaches.keep (P := fun u => u.Ordered ∧ u.Kept)
      ordered_kept_step ⟨ordered_fresh, kept_fresh⟩
  exact
    hBoth.1.answered_of_kept hBoth.2 hClient hServed hEncode

end SharedLink

end Offload
