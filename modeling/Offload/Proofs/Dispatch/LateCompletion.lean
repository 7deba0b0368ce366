import Mathlib.Data.List.Basic
import Mathlib.Logic.Function.Basic
import Offload.Dispatch.Board
import Offload.Proofs.Run
import Offload.Proofs.Dispatch.SharedBoard

/-
  Late completions of an id that was registered again.

  A board that abandoned an id discards the next completion
  for it, unless the id is registered again first: then the
  old ticket and the new one are alike to the board, and the
  first of them to be finished answers the waiter.

  Key definitions include:
    * `SharedBoard.Sole`
    * `SharedBoard.comeback`

  Main results:
    * `SharedBoard.lawful_iff_first_eq_latest`
    * `SharedBoard.lawful_fails_after_expiry`
-/

namespace Offload

namespace SharedBoard

------------------------------------------------------------
-- Ids with One Ticket
------------------------------------------------------------

/-
  No ticket but the latest of its id is open, or was
  finished since the latest registration.
-/
structure Sole
    (s : SharedBoard) : Prop where
  opened : ∀ t ∈ s.tickets, s.latest t.2 = some t.1
  finished :
    ∀ id n, s.first id = some n → s.latest id = some n

theorem sole_of
    (depth : Nat) : (of depth).Sole where
  opened := by
    intro t ht
    cases ht
  finished := by
    intro id n hFirst
    cases hFirst

theorem Sole.register
    {s : SharedBoard}
    (h : s.Sole)
    {id : RequestId}
    (hFresh : s.Admits id → ∀ t ∈ s.tickets, t.2 ≠ id) :
    (s.register id).Sole := by
  unfold SharedBoard.register
  cases hRegister : s.board.register id with
  | error cause => exact h
  | ok b =>
      have hOther := hFresh ⟨b, hRegister⟩
      constructor
      · intro t ht
        rcases List.mem_cons.mp ht with rfl | hOld
        · simp
        · simpa [hOther t hOld] using h.opened t hOld
      · intro i n hFirst
        by_cases hEq : i = id
        · simp [hEq] at hFirst
        · simp only [ne_eq, hEq, not_false_eq_true,
            Function.update_of_ne] at hFirst ⊢
          exact h.finished i n hFirst

theorem Sole.finish
    {s : SharedBoard}
    (h : s.Sole)
    (n : Nat)
    (status : Status) : (s.finish n status).Sole := by
  unfold SharedBoard.finish
  cases hTicket : s.tickets.lookup n with
  | none => exact h
  | some id =>
      constructor
      · intro t ht
        exact h.opened t (List.mem_of_mem_filter ht)
      · intro i k hFirst
        by_cases hEq : i = id
        · subst hEq
          have hLatest : s.latest i = some n :=
            h.opened (n, i) (Board.mem_of_lookup hTicket)
          cases hOld : s.first i with
          | none =>
              simp only [Function.update_self, hOld,
                Option.none_or, Option.some.injEq] at hFirst
              rw [← hFirst]
              exact hLatest
          | some m =>
              simp only [Function.update_self, hOld,
                Option.some_or, Option.some.injEq] at hFirst
              rw [← hFirst]
              exact h.finished i m hOld
        · simp only [ne_eq, hEq, not_false_eq_true,
            Function.update_of_ne] at hFirst
          exact h.finished i k hFirst

/- A wait hands out no ticket and finishes none. -/
theorem Sole.wait
    {s : SharedBoard}
    (h : s.Sole)
    (id : RequestId)
    (expired : Bool) : (s.wait id expired).Sole := by
  unfold SharedBoard.wait
  rcases Board.look_cases id s.board with
    ⟨status, _, hLook⟩ | ⟨_, hLook⟩ | hLook
  · simpa only [hLook] using ⟨h.opened, h.finished⟩
  · simp only [hLook]
    cases expired with
    | false => exact h
    | true => exact ⟨h.opened, h.finished⟩
  · simpa only [hLook] using h

theorem sole_step
    {s : SharedBoard}
    {e : Event}
    (hFresh :
      ∀ id, e = .register id → s.Admits id →
        ∀ t ∈ s.tickets, t.2 ≠ id)
    (h : s.Sole) : (step e s).Sole := by
  cases e with
  | register id => exact h.register (hFresh id rfl)
  | complete n status => exact h.finish n status
  | drop n => exact h.finish n Ticket.lostStatus
  | wait id expired => exact h.wait id expired
  | cancel id => exact ⟨h.opened, h.finished⟩

------------------------------------------------------------
-- Old Tickets
------------------------------------------------------------

/- A registration that goes through awaits a new ticket. -/
theorem register_admitted
    {s : SharedBoard}
    {id : RequestId}
    (hAdmits : s.Admits id) :
    id ∈ (s.register id).board.pending ∧
      (s.register id).latest id = some s.issued ∧
      ∀ t ∈ s.tickets, t ∈ (s.register id).tickets := by
  rcases hAdmits with ⟨b, hRegister⟩
  have hBoard := Board.register_ok hRegister
  subst hBoard
  simp only [register, hRegister]
  refine ⟨List.mem_cons_self, by simp, ?_⟩
  intro t ht
  exact List.mem_cons_of_mem _ ht

/-
  Whoever finishes a ticket of an id that is awaited answers
  the next wait for the id.
-/
theorem Traced.finish_awaited
    {s : SharedBoard}
    (h : s.Traced)
    {n : Nat}
    {id : RequestId}
    (hTicket : (n, id) ∈ s.tickets)
    (hPending : id ∈ s.board.pending)
    (status : Status) :
    (s.finish n status).IsAnswered id ∧
      (s.finish n status).first id = some n ∧
      (s.finish n status).latest = s.latest := by
  have hFirst := h.unfinished id hPending
  have hNotAbandoned := h.awaited id hPending
  unfold SharedBoard.finish IsAnswered
  rw [h.lookup_ticket hTicket]
  rcases Board.complete_cases id status s.board with
    ⟨hLate, _⟩ | ⟨_, _, hComplete⟩ | ⟨_, hUnknown, _⟩
  · exact absurd hLate hNotAbandoned
  · simp only [hComplete]
    refine ⟨⟨status, ?_⟩, by simp [hFirst], trivial⟩
    simp [Board.look]
  · exact absurd hPending hUnknown

/-
  An open ticket of an id that is registered again answers
  the new registration if it is finished first.
-/
theorem Traced.not_lawful_of_reregistered
    {s : SharedBoard}
    (h : s.Traced)
    {n : Nat}
    {id : RequestId}
    (hTicket : (n, id) ∈ s.tickets)
    (hAdmits : s.Admits id)
    (status : Status) :
    ¬(Run.after step
        [.register id, .complete n status, .wait id false]
        s).Lawful := by
  rcases register_admitted hAdmits with
    ⟨hPending, hLatest, hTickets⟩
  have hRegistered : (s.register id).Traced := h.register id
  rcases hRegistered.finish_awaited (hTickets _ hTicket)
      hPending status with ⟨hAnswered, hFirst, hSame⟩
  intro hLawful
  change
    (((s.register id).finish n status).wait id false).Lawful
    at hLawful
  rcases (hRegistered.finish n status).answers_wait id false
    with ⟨hNot, _⟩ | ⟨_, m, answer, hFinished, hAnswers⟩
  · exact hNot hAnswered
  · have hBelow : n < s.issued := h.numbered _ hTicket
    have hHead :
        ⟨id, answer, some ⟨m, answer⟩,
          ((s.register id).finish n status).latest id⟩ ∈
          (((s.register id).finish n status).wait id
            false).answers := by
      rw [hAnswers]
      exact List.mem_cons_self
    rcases hLawful _ hHead with ⟨k, hPost, hNewest⟩
    cases hPost
    rw [hFinished] at hFirst
    rw [hSame, hLatest] at hNewest
    cases hFirst
    cases hNewest
    omega

------------------------------------------------------------
-- When Answers Come from the Latest Registration
------------------------------------------------------------

theorem traced_of_mem_states
    {depth : Nat}
    {es : List Event}
    {s : SharedBoard}
    (hState : s ∈ Run.states step es (of depth)) :
    s.Traced :=
  Run.forall_states (fun _ e h => traced_step e h) es
    (traced_of depth) s hState

/- The answer of one wait. -/
theorem Traced.lawful_step
    {s : SharedBoard}
    (h : s.Traced)
    {e : Event}
    (hWait :
      ∀ id expired, e = .wait id expired →
        s.IsAnswered id → s.first id = s.latest id)
    (hLawful : s.Lawful) : (step e s).Lawful := by
  intro a ha
  rcases answers_step e s with hSame | ⟨id, expired, rfl⟩
  · exact hLawful a (hSame ▸ ha)
  · rcases h.answers_wait id expired with
      ⟨_, hSame⟩ | ⟨hAnswered, n, status, hFirst, hNew⟩
    · exact hLawful a (hSame ▸ ha)
    · have hLatest := hWait id expired rfl hAnswered
      rcases List.mem_cons.mp (hNew ▸ ha) with rfl | hOld
      · exact ⟨n, rfl, by rw [← hLatest, hFirst]⟩
      · exact hLawful a hOld

/- An answer that is lawful tells who was finished first. -/
theorem Traced.first_eq_latest
    {s : SharedBoard}
    (h : s.Traced)
    {id : RequestId}
    {expired : Bool}
    (hAnswered : s.IsAnswered id)
    (hNext : (s.wait id expired).Lawful) :
    s.first id = s.latest id := by
  rcases h.answers_wait id expired with
    ⟨hNot, _⟩ | ⟨_, n, status, hFirst, hNew⟩
  · exact absurd hAnswered hNot
  · have hHead :
        ⟨id, status, some ⟨n, status⟩, s.latest id⟩ ∈
          (s.wait id expired).answers := by
      rw [hNew]
      exact List.mem_cons_self
    rcases hNext _ hHead with ⟨k, hPost, hLatest⟩
    cases hPost
    rw [hFirst]
    exact hLatest.symm

/- With one ticket for each id nobody else can be first. -/
theorem Traced.first_eq_latest_of_sole
    {s : SharedBoard}
    (h : s.Traced)
    (hSole : s.Sole)
    {id : RequestId}
    (hAnswered : s.IsAnswered id) :
    s.first id = s.latest id := by
  rcases h.answers_wait id false with
    ⟨hNot, _⟩ | ⟨_, n, status, hFirst, _⟩
  · exact absurd hAnswered hNot
  · rw [hFirst, hSole.finished id n hFirst]

section Runs

variable {depth : Nat}
variable {es : List Event}

theorem traced_of_mem_moves
    {s : SharedBoard}
    {e : Event}
    (hMove : (s, e) ∈ Run.moves step es (of depth)) :
    s.Traced :=
  traced_of_mem_states (Run.mem_states_of_mem_moves hMove).1

theorem lawful_of_first_eq_latest
    (hWaits :
      ∀ s id expired,
        (s, Event.wait id expired) ∈
            Run.moves step es (of depth) →
          s.IsAnswered id → s.first id = s.latest id) :
    ∀ s ∈ Run.states step es (of depth), s.Lawful := by
  apply Run.forall_states_of_moves
  · intro a ha
    cases ha
  · intro s e hMove hLawful
    apply (traced_of_mem_moves hMove).lawful_step _ hLawful
    rintro id expired rfl
    exact hWaits s id expired hMove

theorem sole_of_fresh
    (hFresh :
      ∀ s id,
        (s, Event.register id) ∈
            Run.moves step es (of depth) →
          s.Admits id → ∀ t ∈ s.tickets, t.2 ≠ id) :
    ∀ s ∈ Run.states step es (of depth), s.Sole := by
  apply Run.forall_states_of_moves (sole_of depth)
  intro s e hMove hSole
  apply sole_step _ hSole
  rintro id rfl hAdmits
  exact hFresh s id hMove hAdmits

end Runs

/-
  On every run of a board, all answers came through the
  latest registration of their id exactly if every wait that
  is answered finds that of the id's tickets the latest was
  finished first. That is so if no id is registered again
  while an older ticket of it is open; and where one is, the
  older ticket can answer the new registration.
-/
theorem lawful_iff_first_eq_latest
    (depth : Nat)
    (es : List Event) :
    ((∀ s ∈ Run.states step es (of depth), s.Lawful) ↔
      ∀ s id expired,
        (s, Event.wait id expired) ∈
            Run.moves step es (of depth) →
          s.IsAnswered id → s.first id = s.latest id) ∧
    ((∀ s id,
        (s, Event.register id) ∈
            Run.moves step es (of depth) →
          s.Admits id → ∀ t ∈ s.tickets, t.2 ≠ id) →
      ∀ s ∈ Run.states step es (of depth), s.Lawful) ∧
    ∀ s ∈ Run.states step es (of depth),
      ∀ n id status,
        (n, id) ∈ s.tickets → s.Admits id →
          ¬(Run.after step
              [.register id, .complete n status,
                .wait id false]
              s).Lawful := by
  refine ⟨⟨?_, lawful_of_first_eq_latest⟩, ?_, ?_⟩
  · intro hLawful s id expired hMove hAnswered
    have hNext :=
      hLawful _ (Run.mem_states_of_mem_moves hMove).2
    exact
      (traced_of_mem_moves hMove).first_eq_latest hAnswered
        hNext
  · intro hFresh
    apply lawful_of_first_eq_latest
    intro s id expired hMove hAnswered
    have hSole :=
      sole_of_fresh hFresh s
        (Run.mem_states_of_mem_moves hMove).1
    exact
      (traced_of_mem_moves hMove).first_eq_latest_of_sole
        hSole hAnswered
  · intro s hState n id status hTicket hAdmits
    exact
      (traced_of_mem_states hState).not_lawful_of_reregistered
        hTicket hAdmits status

/- An id, given up on, and registered again. -/
def comeback : List Event :=
  [.register ⟨7⟩, .wait ⟨7⟩ true, .register ⟨7⟩,
    .complete 0 5, .complete 1 0, .wait ⟨7⟩ false]

/-
  The second registration of a request is answered with the
  late status of the first.
-/
theorem lawful_fails_after_expiry :
    (Run.after step comeback (of 64)).answers =
        [⟨⟨7⟩, 5, some ⟨0, 5⟩, some 1⟩] ∧
      ¬(Run.after step comeback (of 64)).Lawful := by
  have hAnswers :
      (Run.after step comeback (of 64)).answers =
        [⟨⟨7⟩, 5, some ⟨0, 5⟩, some 1⟩] := by
    decide
  refine ⟨hAnswers, ?_⟩
  intro hLawful
  rcases hLawful _ (by rw [hAnswers]; exact List.mem_cons_self)
    with ⟨n, hPost, hLatest⟩
  cases hPost
  cases hLatest

end SharedBoard

end Offload
