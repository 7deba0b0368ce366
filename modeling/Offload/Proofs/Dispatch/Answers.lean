import Mathlib.Data.List.Basic
import Mathlib.Data.List.Nodup
import Offload.Dispatch.Link
import Offload.Proofs.Run
import Offload.Proofs.Dispatch.SharedLink

/-
  Whose answer a call gets.

  A call that gives up leaves its answer behind, and any
  number of such answers can lie ahead of the one that a
  later call waits for. As requests go through the link in
  order, all of them have smaller numbers.

  Key definitions include:
    * `SharedLink.Recorded`
    * `SharedLink.OwnAnswers`

  Main results:
    * `SharedLink.recorded_step`
    * `SharedLink.ownAnswers_after`
-/

namespace Offload

namespace SharedLink

------------------------------------------------------------
-- Results
------------------------------------------------------------

/-
  Calls end in the order of their numbers, before those that
  are still to come. An answer is what was made of the very
  request that it is the result of.
-/
structure Recorded
    (s : SharedLink) : Prop where
  falling :
    s.results.Pairwise fun p q =>
      q.1.seq.toNat < p.1.seq.toNat
  numbered :
    ∀ p ∈ s.results,
      p.1.seq.toNat < s.link.nextSeq.toNat
  earlier :
    ∀ r, s.client.request? = some r →
      ∀ p ∈ s.results, p.1.seq.toNat < r.seq.toNat
  returned :
    ∀ r a, (r, Except.ok a) ∈ s.results →
      ∃ outcome,
        (r, outcome) ∈ s.served ∧
          a = Link.responseTo r.seq outcome

theorem recorded_fresh : fresh.Recorded where
  falling := List.Pairwise.nil
  numbered := by
    intro p hp
    cases hp
  earlier := by
    intro r hr
    cases hr
  returned := by
    intro r a hResult
    cases hResult

/- What adds no result keeps the results in order. -/
theorem Recorded.keep
    {s s' : SharedLink}
    (h : s.Recorded)
    (hResults : s'.results = s.results)
    (hNext : s'.link.nextSeq = s.link.nextSeq)
    (hClient :
      s'.client.request? = s.client.request?)
    (hServed : ∀ p ∈ s.served, p ∈ s'.served) :
    s'.Recorded where
  falling := by
    rw [hResults]
    exact h.falling
  numbered := by
    rw [hResults, hNext]
    exact h.numbered
  earlier := by
    rw [hResults, hClient]
    exact h.earlier
  returned := by
    rw [hResults]
    intro r a hResult
    rcases h.returned r a hResult with
      ⟨outcome, hOld, hAnswer⟩
    exact ⟨outcome, hServed _ hOld, hAnswer⟩

/- The result of the newest call is the newest result. -/
theorem Recorded.finish
    {s : SharedLink}
    (h : s.Recorded)
    {r : Request}
    {result : Except DispatchError Response}
    (hNewest :
      ∀ p ∈ s.results, p.1.seq.toNat < r.seq.toNat)
    (hNumbered : r.seq.toNat < s.link.nextSeq.toNat)
    (hAnswer :
      ∀ a, result = .ok a →
        ∃ outcome,
          (r, outcome) ∈ s.served ∧
            a = Link.responseTo r.seq outcome) :
    (s.finish r result).Recorded where
  falling := List.Pairwise.cons hNewest h.falling
  numbered := by
    intro p hp
    rcases List.mem_cons.mp hp with rfl | hOld
    · exact hNumbered
    · exact h.numbered p hOld
  earlier := by
    intro q hq
    cases hq
  returned := by
    intro q a hResult
    rcases List.mem_cons.mp hResult with hNew | hOld
    · cases hNew
      exact hAnswer a rfl
    · exact h.returned q a hOld

/- A call that fails leaves the earlier results in order. -/
theorem Recorded.fail
    {s : SharedLink}
    (h : s.Recorded)
    (hOrdered : s.Ordered)
    {r : Request}
    (hClient : s.client.request? = some r)
    (cause : DispatchError) :
    (s.finish r (.error cause)).Recorded := by
  apply h.finish (h.earlier r hClient)
    (hOrdered.newest r hClient).1
  intro a ha
  cases ha

theorem Recorded.call
    {s : SharedLink}
    (h : s.Recorded)
    (r : Request) : (s.call r).Recorded := by
  rcases call_cases r s with hSame | ⟨hIdle, hNumber⟩
  · rw [hSame]
    exact h
  · have hNext := toNat_next hNumber
    have hLater :
        ∀ p ∈ s.results,
          p.1.seq.toNat < (s.link.nextSeq + 1).toNat := by
      intro p hp
      rw [hNext]
      exact Nat.lt_succ_of_lt (h.numbered p hp)
    rw [call_idle hIdle hNumber]
    cases hEncode : (withNumber r s.link).encode with
    | ok frame =>
        refine ⟨h.falling, hLater, ?_, h.returned⟩
        intro q hq
        cases hq
        exact h.numbered
    | error cause =>
        have hSkip :
            { s with link := s.link.number.2 }.Recorded :=
          ⟨h.falling, hLater, h.earlier, h.returned⟩
        refine hSkip.finish h.numbered ?_ ?_
        · change
            s.link.nextSeq.toNat < (s.link.nextSeq + 1).toNat
          omega
        · intro a ha
          cases ha

/-
  The answer that a waiting call takes was made of its own
  request: no other request in line has its number.
-/
theorem Ordered.served_of_answer
    {s : SharedLink}
    (h : s.Ordered)
    {r : Request}
    {frame : Bytes}
    {a : Response}
    (hClient : s.client = .waiting r)
    (hFrame : frame ∈ s.link.responses)
    (hJudge : Link.judge r.seq frame = .answer a) :
    ∃ outcome,
      (r, outcome) ∈ s.served ∧
        a = Link.responseTo r.seq outcome := by
  rcases Link.judge_answer hJudge with ⟨hDecode, hSeq⟩
  rcases h.answered frame hFrame with
    ⟨q, outcome, hServed, hMade⟩
  have hAnswer : a = Link.responseTo q.seq outcome := by
    rw [hDecode] at hMade
    cases hMade
    rfl
  have hSame : q.seq = r.seq := by
    rw [← hSeq, hAnswer, Link.responseTo_seq]
  have hInLine : q ∈ s.line :=
    List.mem_append_right _ (List.mem_map_of_mem hServed)
  rcases (h.newest r (by rw [hClient]; rfl)).2 q hInLine with
    rfl | hBelow
  · exact ⟨outcome, hServed, hAnswer⟩
  · rw [hSame] at hBelow
    exact absurd hBelow (Nat.lt_irrefl _)

theorem Recorded.receive
    {s : SharedLink}
    (h : s.Recorded)
    (hOrdered : s.Ordered) : s.receive.Recorded := by
  rcases receive_cases s with
    hSame | ⟨r, frame, rest, hClient, hResponses⟩
  · rw [hSame]
    exact h
  · have hRequest : s.client.request? = some r := by
      rw [hClient]
      rfl
    have hRest : (s.withResponses rest).Recorded :=
      h.keep rfl rfl rfl fun p hp => hp
    have hOrderedRest := hOrdered.withResponses hResponses
    rw [receive_cons hClient hResponses]
    cases hJudge : Link.judge r.seq frame with
    | answer a =>
        apply hRest.finish (h.earlier r hRequest)
          (hOrdered.newest r hRequest).1
        intro b hb
        cases hb
        exact
          hOrdered.served_of_answer hClient
            (by rw [hResponses]; exact List.mem_cons_self)
            hJudge
    | stale seq => exact hRest
    | lost => exact hRest.fail hOrderedRest hRequest _

theorem Recorded.send
    {s : SharedLink}
    (h : s.Recorded) : s.send.Recorded := by
  unfold SharedLink.send
  cases hClient : s.client with
  | sending r frame =>
      dsimp only
      split
      · have hRequest :
            (Client.waiting r).request? =
              s.client.request? := by
          rw [hClient]
          rfl
        exact h.keep rfl rfl hRequest fun p hp => hp
      · exact h
  | _ => exact h

theorem Recorded.take
    {s : SharedLink}
    (h : s.Recorded) : s.take.Recorded := by
  unfold SharedLink.take
  cases hTake : s.link.take with
  | none => exact h
  | some taken =>
      rcases taken with ⟨event, l⟩
      have hNext : l.nextSeq = s.link.nextSeq := by
        rcases Link.take_some hTake with
          ⟨frame, rest, _, _, ⟨r, _, rfl⟩ | ⟨_, rfl⟩⟩
        · rfl
        · rfl
      exact h.keep rfl hNext rfl fun p hp => hp

theorem Recorded.answer
    {s : SharedLink}
    (h : s.Recorded)
    (outcome : Outcome) : (s.answer outcome).Recorded := by
  unfold SharedLink.answer
  cases hPhase : s.link.phase with
  | serving r =>
      rcases Link.answer_serving hPhase outcome with
        ⟨frames, hAnswer, _⟩
      dsimp only
      rw [hAnswer]
      exact
        h.keep rfl rfl rfl fun p hp =>
          List.mem_cons_of_mem _ hp
  | _ => exact h

theorem recorded_step
    {s : SharedLink}
    (e : Event)
    (hOrdered : s.Ordered)
    (h : s.Recorded) : (step e s).Recorded := by
  cases e with
  | call r => exact h.call r
  | send => exact h.send
  | receive => exact h.receive hOrdered
  | expire =>
      simp only [step, expire]
      cases hClient : s.client with
      | waiting r =>
          exact h.fail hOrdered (by rw [hClient]; rfl) _
      | _ => exact h
  | lose =>
      simp only [step, lose]
      cases hClient : s.client.request? with
      | some r => exact h.fail hOrdered hClient _
      | none => exact h
  | take => exact h.take
  | answer outcome => exact h.answer outcome
  | stop => exact h.keep rfl rfl rfl fun p hp => hp

------------------------------------------------------------
-- Whole Runs
------------------------------------------------------------

theorem ordered_recorded_step
    (s : SharedLink)
    (e : Event)
    (h : s.Ordered ∧ s.Recorded) :
    (step e s).Ordered ∧ (step e s).Recorded :=
  ⟨ordered_step e h.1, recorded_step e h.1 h.2⟩

/- All that is reached from a good state is good. -/
theorem ordered_recorded_of_reaches
    {s t : SharedLink}
    (hReaches : Run.Reaches step s t)
    (h : s.Ordered ∧ s.Recorded) :
    t.Ordered ∧ t.Recorded :=
  hReaches.keep (P := fun u => u.Ordered ∧ u.Recorded)
    ordered_recorded_step h

/- Numbers that fall are numbers that differ. -/
theorem nodup_of_falling
    {α : Type}
    {number : α → UInt64}
    {items : List α}
    (h :
      items.Pairwise fun p q =>
        (number q).toNat < (number p).toNat) :
    (items.map number).Nodup := by
  rw [List.Nodup, List.pairwise_map]
  refine h.imp ?_
  intro p q hBelow hEq
  rw [hEq] at hBelow
  exact Nat.lt_irrefl _ hBelow

/- No request is served twice. -/
theorem Ordered.served_unique
    {s : SharedLink}
    (h : s.Ordered) :
    (s.served.map fun p => p.1.seq).Nodup := by
  have hServed :
      (s.served.map Prod.fst).Pairwise fun q r =>
        r.seq.toNat < q.seq.toNat :=
    h.falling.sublist (List.sublist_append_right _ _)
  rw [List.pairwise_map] at hServed
  exact nodup_of_falling hServed

/- No call ends twice. -/
theorem Recorded.results_unique
    {s : SharedLink}
    (h : s.Recorded) :
    (s.results.map fun p => p.1.seq).Nodup :=
  nodup_of_falling h.falling

/- What is in the queue for a call is not newer than it. -/
theorem Ordered.seq_le_of_mem_responses
    {s : SharedLink}
    (h : s.Ordered)
    {r : Request}
    (hClient : s.client = .waiting r)
    {frame : Bytes}
    (hFrame : frame ∈ s.link.responses) :
    ∃ a, Response.decode frame = .ok a ∧ a.seq ≤ r.seq := by
  rcases h.answered frame hFrame with
    ⟨q, outcome, hServed, hDecode⟩
  refine ⟨_, hDecode, ?_⟩
  rw [Link.responseTo_seq, UInt64.le_iff_toNat_le]
  have hInLine : q ∈ s.line :=
    List.mem_append_right _ (List.mem_map_of_mem hServed)
  rcases (h.newest r (by rw [hClient]; rfl)).2 q hInLine with
    rfl | hBelow
  · exact Nat.le_refl _
  · exact Nat.le_of_lt hBelow

/-
  Every answer is what the service made of the very request,
  which it served once. It is not the answer to a call that
  failed. And no frame that a waiting call can receive
  answers a newer request.
-/
structure OwnAnswers
    (s : SharedLink) : Prop where
  made :
    ∀ r a, (r, Except.ok a) ∈ s.results →
      ∃ outcome,
        a = Link.responseTo r.seq outcome ∧
          ∀ o, (r, o) ∈ s.served ↔ o = outcome
  fresh :
    ∀ r a t cause,
      (r, Except.ok a) ∈ s.results →
        (t, Except.error cause) ∈ s.results →
          a.seq ≠ t.seq
  next :
    ∀ r, s.client = .waiting r →
      ∀ frame ∈ s.link.responses,
        ∃ a, Response.decode frame = .ok a ∧ a.seq ≤ r.seq

/-
  However client and worker take turns, and whichever calls
  give up, every call that is answered gets its own answer.
-/
theorem ownAnswers_after
    (es : List Event) :
    (Run.after step es fresh).OwnAnswers := by
  have hReaches :
      Run.Reaches step fresh (Run.after step es fresh) :=
    ⟨es, rfl⟩
  rcases ordered_recorded_of_reaches hReaches
      ⟨ordered_fresh, recorded_fresh⟩ with
    ⟨hOrdered, hRecorded⟩
  generalize Run.after step es fresh = s
    at hOrdered hRecorded
  constructor
  · intro r a hResult
    rcases hRecorded.returned r a hResult with
      ⟨outcome, hServed, hAnswer⟩
    refine ⟨outcome, hAnswer, ?_⟩
    intro o
    constructor
    · intro hOther
      have hSame :=
        List.inj_on_of_nodup_map hOrdered.served_unique
          hOther hServed rfl
      cases hSame
      rfl
    · rintro rfl
      exact hServed
  · intro r a t cause hOk hFailed
    rcases hRecorded.returned r a hOk with
      ⟨outcome, _, hAnswer⟩
    rw [hAnswer, Link.responseTo_seq]
    intro hSeq
    have hSame :=
      List.inj_on_of_nodup_map hRecorded.results_unique
        hOk hFailed hSeq
    cases hSame
  · intro r hClient frame hFrame
    exact hOrdered.seq_le_of_mem_responses hClient hFrame

/- A call that gives up, and one that skips its answer. -/
example :
    (Run.after step
        [.call (.of .getHandle []), .send, .take, .expire,
          .call (.of .getStatus []), .send,
          .answer (.ok [.word 1]), .receive, .take,
          .answer (.error 5), .receive]
        fresh).results =
      [(⟨2, .accelerator, .getStatus, []⟩, .ok ⟨2, 5, []⟩),
        (⟨1, .accelerator, .getHandle, []⟩,
          .error .timeout)] := by
  decide +kernel

end SharedLink

end Offload
