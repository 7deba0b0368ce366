import Mathlib.Data.List.Basic
import Mathlib.Data.List.Nodup
import Mathlib.Data.List.Perm.Subperm
import Mathlib.Logic.Function.Basic
import Offload.Dispatch.Board
import Offload.Proofs.Run
import Offload.Proofs.Dispatch.SharedBoard

/-
  What a completion board keeps account of.

  An id is at most in one of the three lists of a board, and
  what was not taken yet is within its depth. Whoever posts a
  status for an id takes it off the lists that wait for one;
  so an id that is left there has a ticket that was not
  finished, and no status is posted or taken twice.

  Key definitions include:
    * `Board.Tidy`
    * `SharedBoard.Held`
    * `SharedBoard.Spent`
    * `SharedBoard.InOrder`

  Main results:
    * `SharedBoard.tidy_step`
    * `SharedBoard.held_step`
    * `SharedBoard.spent_step`
    * `SharedBoard.inOrder_states`
-/

namespace Offload

------------------------------------------------------------
-- Lists of Ids
------------------------------------------------------------

namespace Board

/- The ids whose status was not taken yet. -/
def doneIds
    (b : Board) : List RequestId :=
  b.done.map Prod.fst

theorem nodup_without
    {ids : List RequestId}
    (h : ids.Nodup)
    (id : RequestId) : (without id ids).Nodup :=
  h.filter _

theorem nodup_cons_without
    {ids : List RequestId}
    (h : ids.Nodup)
    (id : RequestId) : (id :: without id ids).Nodup := by
  apply List.nodup_cons.mpr
  exact
    ⟨fun hMem => (mem_without.mp hMem).2 rfl,
      nodup_without h id⟩

theorem length_without_le
    (id : RequestId)
    (ids : List RequestId) :
    (without id ids).length ≤ ids.length :=
  List.length_filter_le _ _

/- A list without an id that was in it is shorter. -/
theorem length_without_lt
    {id : RequestId}
    {ids : List RequestId}
    (hMem : id ∈ ids) :
    (without id ids).length < ids.length :=
  List.length_filter_lt_length_iff_exists.mpr
    ⟨id, hMem, by simp⟩

theorem nodup_withoutDone
    {done : List (RequestId × Status)}
    (h : (done.map Prod.fst).Nodup)
    (id : RequestId) :
    ((withoutDone id done).map Prod.fst).Nodup :=
  h.sublist (List.filter_sublist.map Prod.fst)

theorem length_withoutDone_le
    (id : RequestId)
    (done : List (RequestId × Status)) :
    (withoutDone id done).length ≤ done.length :=
  List.length_filter_le _ _

theorem mem_doneIds_withoutDone
    {i id : RequestId}
    {done : List (RequestId × Status)} :
    i ∈ (withoutDone id done).map Prod.fst ↔
      i ∈ done.map Prod.fst ∧ i ≠ id := by
  simp only [List.mem_map, mem_withoutDone]
  constructor
  · rintro ⟨d, ⟨hMem, hNe⟩, rfl⟩
    exact ⟨⟨d, hMem, rfl⟩, hNe⟩
  · rintro ⟨⟨d, hMem, rfl⟩, hNe⟩
    exact ⟨d, ⟨hMem, hNe⟩, rfl⟩

------------------------------------------------------------
-- Tidy Boards
------------------------------------------------------------

/-
  No id is twice on a board, and what was registered and not
  taken is within the depth.
-/
structure Tidy
    (b : Board) : Prop where
  pending_nodup : b.pending.Nodup
  done_nodup : b.doneIds.Nodup
  abandoned_nodup : b.abandoned.Nodup
  pending_done : b.pending.Disjoint b.doneIds
  pending_abandoned : b.pending.Disjoint b.abandoned
  done_abandoned : b.doneIds.Disjoint b.abandoned
  within_depth :
    b.pending.length + b.done.length ≤ b.depth

theorem tidy_create
    (depth : Nat) : (create depth).Tidy where
  pending_nodup := List.nodup_nil
  done_nodup := List.nodup_nil
  abandoned_nodup := List.nodup_nil
  pending_done := nofun
  pending_abandoned := nofun
  done_abandoned := nofun
  within_depth := Nat.zero_le _

namespace Tidy

variable {b : Board}

/- A registration takes the id off the other lists. -/
theorem register
    (h : b.Tidy)
    {id : RequestId}
    {b' : Board}
    (hOk : b.register id = .ok b') : b'.Tidy := by
  have hRoom : b.pending.length + b.done.length < b.depth := by
    unfold Board.register at hOk
    split at hOk
    · cases hOk
    · omega
  rw [register_ok hOk]
  constructor
  · exact nodup_cons_without h.pending_nodup id
  · exact nodup_withoutDone h.done_nodup id
  · exact nodup_without h.abandoned_nodup id
  · intro i hPending hDone
    have hOther := mem_doneIds_withoutDone.mp hDone
    rcases List.mem_cons.mp hPending with rfl | hOld
    · exact hOther.2 rfl
    · exact
        h.pending_done (mem_without.mp hOld).1 hOther.1
  · intro i hPending hAbandoned
    have hOther := mem_without.mp hAbandoned
    rcases List.mem_cons.mp hPending with rfl | hOld
    · exact hOther.2 rfl
    · exact
        h.pending_abandoned (mem_without.mp hOld).1 hOther.1
  · intro i hDone hAbandoned
    exact
      h.done_abandoned (mem_doneIds_withoutDone.mp hDone).1
        (mem_without.mp hAbandoned).1
  · have hPending := length_without_le id b.pending
    have hDone := length_withoutDone_le id b.done
    simp only [List.length_cons]
    omega

/- A status that is awaited moves its id to the next list. -/
theorem complete
    (h : b.Tidy)
    (id : RequestId)
    (status : Status) : (b.complete id status).2.Tidy := by
  rcases complete_cases id status b with
    ⟨_, hComplete⟩ | ⟨hLate, hPending, hComplete⟩ |
      ⟨_, _, hComplete⟩
  · rw [hComplete]
    refine
      ⟨h.pending_nodup, h.done_nodup,
        nodup_without h.abandoned_nodup id, h.pending_done,
        ?_, ?_, h.within_depth⟩
    · intro i hi hAbandoned
      exact
        h.pending_abandoned hi (mem_without.mp hAbandoned).1
    · intro i hi hAbandoned
      exact
        h.done_abandoned hi (mem_without.mp hAbandoned).1
  · rw [hComplete]
    have hNotDone : id ∉ b.doneIds := h.pending_done hPending
    refine
      ⟨nodup_without h.pending_nodup id,
        List.nodup_cons.mpr ⟨hNotDone, h.done_nodup⟩,
        h.abandoned_nodup, ?_, ?_, ?_, ?_⟩
    · intro i hi hDone
      have hOther := mem_without.mp hi
      rcases List.mem_cons.mp hDone with rfl | hOld
      · exact hOther.2 rfl
      · exact h.pending_done hOther.1 hOld
    · intro i hi
      exact h.pending_abandoned (mem_without.mp hi).1
    · intro i hi hAbandoned
      rcases List.mem_cons.mp hi with rfl | hOld
      · exact hLate hAbandoned
      · exact h.done_abandoned hOld hAbandoned
    · have hShorter := length_without_lt hPending
      have hDepth := h.within_depth
      simp only [List.length_cons]
      omega
  · rw [hComplete]
    exact h

/- What was taken is not on the board any more. -/
theorem take
    (h : b.Tidy)
    (id : RequestId) :
    { b with done := withoutDone id b.done }.Tidy where
  pending_nodup := h.pending_nodup
  done_nodup := nodup_withoutDone h.done_nodup id
  abandoned_nodup := h.abandoned_nodup
  pending_done := by
    intro i hi hDone
    exact
      h.pending_done hi (mem_doneIds_withoutDone.mp hDone).1
  pending_abandoned := h.pending_abandoned
  done_abandoned := by
    intro i hi
    exact h.done_abandoned (mem_doneIds_withoutDone.mp hi).1
  within_depth := by
    have hDone := length_withoutDone_le id b.done
    have hDepth := h.within_depth
    simp only
    omega

/- An id that nobody awaits any more is not expected either. -/
theorem withoutPending
    (h : b.Tidy)
    (id : RequestId) :
    { b with pending := without id b.pending }.Tidy where
  pending_nodup := nodup_without h.pending_nodup id
  done_nodup := h.done_nodup
  abandoned_nodup := h.abandoned_nodup
  pending_done := by
    intro i hi
    exact h.pending_done (mem_without.mp hi).1
  pending_abandoned := by
    intro i hi
    exact h.pending_abandoned (mem_without.mp hi).1
  done_abandoned := h.done_abandoned
  within_depth := by
    have hPending := length_without_le id b.pending
    have hDepth := h.within_depth
    simp only
    omega

/- An id that is given up on was waited for, not answered. -/
theorem abandon
    (h : b.Tidy)
    {id : RequestId}
    (hPending : id ∈ b.pending) : (b.abandon id).Tidy := by
  have hRest := h.withoutPending id
  refine
    ⟨hRest.pending_nodup, hRest.done_nodup,
      nodup_cons_without h.abandoned_nodup id,
      hRest.pending_done, ?_, ?_, hRest.within_depth⟩
  · intro i hi hAbandoned
    have hOther := mem_without.mp hi
    rcases List.mem_cons.mp hAbandoned with rfl | hOld
    · exact hOther.2 rfl
    · exact
        h.pending_abandoned hOther.1 (mem_without.mp hOld).1
  · intro i hi hAbandoned
    rcases List.mem_cons.mp hAbandoned with rfl | hOld
    · exact h.pending_done hPending hi
    · exact h.done_abandoned hi (mem_without.mp hOld).1

theorem cancel
    (h : b.Tidy)
    (id : RequestId) : (b.cancel id).Tidy :=
  (h.take id).withoutPending id

end Tidy

end Board

------------------------------------------------------------
-- Runs of Boards
------------------------------------------------------------

namespace SharedBoard

variable {s : SharedBoard}

/- A wait takes a status, gives up, or leaves the board. -/
theorem wait_cases
    (id : RequestId)
    (expired : Bool)
    (s : SharedBoard) :
    (∃ status,
      (id, status) ∈ s.board.done ∧
        s.wait id expired =
          { s with
            board :=
              { s.board with
                done := Board.withoutDone id s.board.done }
            answers :=
              ⟨id, status, s.posts id, s.latest id⟩ ::
                s.answers }) ∨
    (id ∈ s.board.pending ∧
      s.wait id expired =
        { s with board := s.board.abandon id }) ∨
    s.wait id expired = s := by
  unfold SharedBoard.wait
  rcases Board.look_cases id s.board with
    ⟨status, hDone, hLook⟩ | ⟨hPending, hLook⟩ | hLook
  · exact Or.inl ⟨status, hDone, by rw [hLook]⟩
  · rw [hLook]
    cases expired with
    | false => exact Or.inr (Or.inr rfl)
    | true => exact Or.inr (Or.inl ⟨hPending, rfl⟩)
  · rw [hLook]
    exact Or.inr (Or.inr rfl)

/-
  A ticket that is finished has its status taken as late, put
  on the board, or thrown away.
-/
theorem finish_cases
    (n : Nat)
    (status : Status)
    (s : SharedBoard) :
    s.finish n status = s ∨
    ∃ id,
      (n, id) ∈ s.tickets ∧
        (s.finish n status).board =
          (s.board.complete id status).2 ∧
        (s.finish n status).tickets =
          s.tickets.filter (fun t => t.1 != n) ∧
        (s.finish n status).issued = s.issued ∧
        (s.finish n status).answers = s.answers ∧
        (s.finish n status).posts =
          if id ∉ s.board.abandoned ∧
              id ∈ s.board.pending then
            Function.update s.posts id (some ⟨n, status⟩)
          else
            s.posts := by
  unfold SharedBoard.finish
  cases hTicket : s.tickets.lookup n with
  | none => exact Or.inl rfl
  | some id =>
      refine
        Or.inr
          ⟨id, Board.mem_of_lookup hTicket, rfl, rfl, rfl,
            rfl, ?_⟩
      rcases Board.complete_cases id status s.board with
        ⟨hLate, hComplete⟩ | ⟨hLate, hPending, hComplete⟩ |
          ⟨_, hUnknown, hComplete⟩
      · simp [hComplete, hLate]
      · simp [hComplete, hLate, hPending]
      · simp [hComplete, hUnknown]

/- The depth of a board stays as it was made. -/
theorem depth_step
    (e : Event)
    (s : SharedBoard) :
    (step e s).board.depth = s.board.depth := by
  have hFinish :
      ∀ n status,
        (s.finish n status).board.depth = s.board.depth := by
    intro n status
    rcases finish_cases n status s with
      hSame | ⟨id, _, hBoard, _⟩
    · rw [hSame]
    · rw [hBoard]
      rcases Board.complete_cases id status s.board with
        ⟨_, hComplete⟩ | ⟨_, _, hComplete⟩ |
          ⟨_, _, hComplete⟩ <;> rw [hComplete]
  cases e with
  | register id =>
      simp only [step, register]
      cases hRegister : s.board.register id with
      | error cause => rfl
      | ok b => rw [Board.register_ok hRegister]
  | complete n status => exact hFinish n status
  | drop n => exact hFinish n Ticket.lostStatus
  | wait id expired =>
      change (s.wait id expired).board.depth = _
      rcases wait_cases id expired s with
        ⟨_, _, hWait⟩ | ⟨_, hWait⟩ | hWait <;> rw [hWait]
      rfl
  | cancel id => rfl

theorem tidy_step
    (e : Event)
    (h : s.board.Tidy) : (step e s).board.Tidy := by
  have hFinish :
      ∀ n status, (s.finish n status).board.Tidy := by
    intro n status
    rcases finish_cases n status s with
      hSame | ⟨id, _, hBoard, _⟩
    · rw [hSame]
      exact h
    · rw [hBoard]
      exact h.complete id status
  cases e with
  | register id =>
      simp only [step, register]
      cases hRegister : s.board.register id with
      | error cause => exact h
      | ok b => exact h.register hRegister
  | complete n status => exact hFinish n status
  | drop n => exact hFinish n Ticket.lostStatus
  | wait id expired =>
      change (s.wait id expired).board.Tidy
      rcases wait_cases id expired s with
        ⟨_, _, hWait⟩ | ⟨hPending, hWait⟩ | hWait
      · rw [hWait]
        exact h.take id
      · rw [hWait]
        exact h.abandon hPending
      · rw [hWait]
        exact h
  | cancel id => exact h.cancel id

------------------------------------------------------------
-- Open Tickets
------------------------------------------------------------

/- Every id that a status may still come for has a ticket. -/
def Held
    (s : SharedBoard) : Prop :=
  ∀ id,
    id ∈ s.board.pending ∨ id ∈ s.board.abandoned →
      ∃ n, (n, id) ∈ s.tickets

/-
  Whoever finishes a ticket of an id takes the id off both
  lists, so no list needs the ticket any more.
-/
theorem Held.finish
    (h : s.Held)
    (hTraced : s.Traced)
    (hTidy : s.board.Tidy)
    (n : Nat)
    (status : Status) : (s.finish n status).Held := by
  rcases finish_cases n status s with
    hSame | ⟨id, hTicket, hBoard, hTickets, _⟩
  · rw [hSame]
    exact h
  intro i hi
  have hLeft :
      (i ∈ s.board.pending ∨ i ∈ s.board.abandoned) ∧
        i ≠ id := by
    rw [hBoard] at hi
    rcases Board.complete_cases id status s.board with
      ⟨hLate, hComplete⟩ | ⟨hLate, _, hComplete⟩ |
        ⟨hLate, hUnknown, hComplete⟩
    · rw [hComplete] at hi
      rcases hi with hPending | hAbandoned
      · refine ⟨Or.inl hPending, ?_⟩
        rintro rfl
        exact hTidy.pending_abandoned hPending hLate
      · have hOther := Board.mem_without.mp hAbandoned
        exact ⟨Or.inr hOther.1, hOther.2⟩
    · rw [hComplete] at hi
      rcases hi with hPending | hAbandoned
      · have hOther := Board.mem_without.mp hPending
        exact ⟨Or.inl hOther.1, hOther.2⟩
      · refine ⟨Or.inr hAbandoned, ?_⟩
        rintro rfl
        exact hLate hAbandoned
    · rw [hComplete] at hi
      refine ⟨hi, ?_⟩
      rintro rfl
      exact hi.elim hUnknown hLate
  rcases h i hLeft.1 with ⟨k, hOpen⟩
  refine ⟨k, ?_⟩
  rw [hTickets, List.mem_filter]
  refine ⟨hOpen, ?_⟩
  have hNumber : k ≠ n := by
    rintro rfl
    have hFirst := hTraced.lookup_ticket hOpen
    rw [hTraced.lookup_ticket hTicket] at hFirst
    cases hFirst
    exact hLeft.2 rfl
  simpa using hNumber

theorem held_step
    (e : Event)
    (h : s.Held)
    (hTraced : s.Traced)
    (hTidy : s.board.Tidy) : (step e s).Held := by
  cases e with
  | register id =>
      simp only [step, register]
      cases hRegister : s.board.register id with
      | error cause => exact h
      | ok b =>
          rw [Board.register_ok hRegister]
          intro i hi
          by_cases hEq : i = id
          · subst hEq
            exact ⟨s.issued, List.mem_cons_self⟩
          · have hOld :
                i ∈ s.board.pending ∨
                  i ∈ s.board.abandoned := by
              rcases hi with hPending | hAbandoned
              · rcases List.mem_cons.mp hPending with
                  hNew | hRest
                · exact absurd hNew hEq
                · exact Or.inl (Board.mem_without.mp hRest).1
              · exact
                  Or.inr (Board.mem_without.mp hAbandoned).1
            rcases h i hOld with ⟨n, hOpen⟩
            exact ⟨n, List.mem_cons_of_mem _ hOpen⟩
  | complete n status =>
      exact h.finish hTraced hTidy n status
  | drop n => exact h.finish hTraced hTidy n _
  | wait id expired =>
      change (s.wait id expired).Held
      rcases wait_cases id expired s with
        ⟨_, _, hWait⟩ | ⟨hPending, hWait⟩ | hWait
      · rw [hWait]
        exact h
      · rw [hWait]
        rintro i (hOpen | hAbandoned)
        · exact h i (Or.inl (Board.mem_without.mp hOpen).1)
        · rcases List.mem_cons.mp hAbandoned with
            rfl | hOld
          · exact h i (Or.inl hPending)
          · exact
              h i (Or.inr (Board.mem_without.mp hOld).1)
      · rw [hWait]
        exact h
  | cancel id =>
      rintro i (hOpen | hAbandoned)
      · exact h i (Or.inl (Board.mem_without.mp hOpen).1)
      · exact h i (Or.inr hAbandoned)

/- There are no more such ids than tickets. -/
theorem Held.length_le
    (h : s.Held)
    (hTidy : s.board.Tidy) :
    s.board.pending.length + s.board.abandoned.length ≤
      s.tickets.length := by
  have hDistinct :
      (s.board.pending ++ s.board.abandoned).Nodup :=
    List.nodup_append'.mpr
      ⟨hTidy.pending_nodup, hTidy.abandoned_nodup,
        hTidy.pending_abandoned⟩
  have hCovered :
      s.board.pending ++ s.board.abandoned ⊆
        s.tickets.map Prod.snd := by
    intro id hMem
    rcases h id (List.mem_append.mp hMem) with ⟨n, hOpen⟩
    exact List.mem_map_of_mem hOpen
  have hLength :=
    (List.subperm_of_subset hDistinct hCovered).length_le
  rwa [List.length_append, List.length_map] at hLength

------------------------------------------------------------
-- Spent Tickets
------------------------------------------------------------

/- The ticket that an answer came through. -/
def Answer.ticket?
    (a : Answer) : Option Nat :=
  a.post.map Post.ticket

/- Whether a ticket was drawn and finished. -/
def Finished
    (s : SharedBoard)
    (n : Nat) : Prop :=
  n < s.issued ∧ ∀ t ∈ s.tickets, t.1 ≠ n

/-
  Every status that was taken or can be taken was posted
  through a finished ticket, and each through another one.
-/
structure Spent
    (s : SharedBoard) : Prop where
  answered :
    ∀ a ∈ s.answers,
      ∃ n, a.post = some ⟨n, a.status⟩ ∧ s.Finished n
  posted :
    ∀ d ∈ s.board.done,
      ∃ n,
        s.posts d.1 = some ⟨n, d.2⟩ ∧ s.Finished n ∧
          ∀ a ∈ s.answers, a.ticket? ≠ some n
  distinct :
    ∀ d ∈ s.board.done, ∀ e ∈ s.board.done, d.1 ≠ e.1 →
      (s.posts d.1).map Post.ticket ≠
        (s.posts e.1).map Post.ticket
  once :
    s.answers.Pairwise fun a b => a.ticket? ≠ b.ticket?

theorem spent_of
    (depth : Nat) : (of depth).Spent where
  answered := nofun
  posted := nofun
  distinct := nofun
  once := .nil

/- Only what is on the board and who holds tickets counts. -/
theorem Spent.of_fewer
    {t : SharedBoard}
    (h : s.Spent)
    (hAnswers : t.answers = s.answers)
    (hPosts : t.posts = s.posts)
    (hDone : ∀ d ∈ t.board.done, d ∈ s.board.done)
    (hFinished : ∀ n, s.Finished n → t.Finished n) :
    t.Spent := by
  constructor
  · intro a ha
    rw [hAnswers] at ha
    rcases h.answered a ha with ⟨n, hPost, hEnd⟩
    exact ⟨n, hPost, hFinished n hEnd⟩
  · intro d hd
    rcases h.posted d (hDone d hd) with
      ⟨n, hPost, hEnd, hNew⟩
    rw [hPosts, hAnswers]
    exact ⟨n, hPost, hFinished n hEnd, hNew⟩
  · intro d hd e he hNe
    rw [hPosts]
    exact h.distinct d (hDone d hd) e (hDone e he) hNe
  · rw [hAnswers]
    exact h.once

theorem Spent.register
    (h : s.Spent)
    (id : RequestId) : (s.register id).Spent := by
  unfold SharedBoard.register
  cases hRegister : s.board.register id with
  | error cause => exact h
  | ok b =>
      rw [Board.register_ok hRegister]
      refine Spent.of_fewer h rfl rfl ?_ ?_
      · intro d hd
        exact (Board.mem_withoutDone.mp hd).1
      · rintro n ⟨hBelow, hClosed⟩
        refine ⟨Nat.lt_succ_of_lt hBelow, ?_⟩
        intro t ht
        rcases List.mem_cons.mp ht with rfl | hOld
        · exact Nat.ne_of_gt hBelow
        · exact hClosed t hOld

/- A status is posted through a ticket of its own. -/
theorem Spent.post
    {t : SharedBoard}
    {id : RequestId}
    {p : Post}
    (h : s.Spent)
    (hAnswers : t.answers = s.answers)
    (hPosts : t.posts = Function.update s.posts id (some p))
    (hDone :
      t.board.done = (id, p.status) :: s.board.done)
    (hNew : id ∉ s.board.doneIds)
    (hUnused : ¬ s.Finished p.ticket)
    (hStays : ∀ n, s.Finished n → t.Finished n)
    (hNow : t.Finished p.ticket) : t.Spent := by
  have hFirst : t.posts id = some p := by
    rw [hPosts, Function.update_self]
  -- the statuses of other ids are those posted before
  have hOther :
      ∀ d ∈ s.board.done, t.posts d.1 = s.posts d.1 := by
    intro d hd
    have hNe : d.1 ≠ id := by
      intro hEq
      exact hNew (hEq ▸ List.mem_map_of_mem hd)
    rw [hPosts, Function.update_of_ne hNe]
  have hFresh :
      ∀ d ∈ s.board.done,
        (s.posts d.1).map Post.ticket ≠ some p.ticket := by
    intro d hd hEq
    rcases h.posted d hd with ⟨n, hPost, hEnd, _⟩
    rw [hPost] at hEq
    exact hUnused (Option.some.inj hEq ▸ hEnd)
  constructor
  · intro a ha
    rw [hAnswers] at ha
    rcases h.answered a ha with ⟨n, hPost, hEnd⟩
    exact ⟨n, hPost, hStays n hEnd⟩
  · intro d hd
    rw [hDone] at hd
    rw [hAnswers]
    rcases List.mem_cons.mp hd with rfl | hOld
    · refine ⟨p.ticket, hFirst, hNow, ?_⟩
      intro a ha hEq
      rcases h.answered a ha with ⟨n, hPost, hEnd⟩
      rw [Answer.ticket?, hPost] at hEq
      exact hUnused (Option.some.inj hEq ▸ hEnd)
    · rcases h.posted d hOld with ⟨n, hPost, hEnd, hNone⟩
      exact
        ⟨n, by rw [hOther d hOld, hPost], hStays n hEnd,
          hNone⟩
  · intro d hd e he hNe
    rw [hDone] at hd he
    rcases List.mem_cons.mp hd with rfl | hd
    · rcases List.mem_cons.mp he with rfl | he
      · exact absurd rfl hNe
      · rw [hFirst, hOther e he]
        exact (hFresh e he).symm
    · rcases List.mem_cons.mp he with rfl | he
      · rw [hFirst, hOther d hd]
        exact hFresh d hd
      · rw [hOther d hd, hOther e he]
        exact h.distinct d hd e he hNe
  · rw [hAnswers]
    exact h.once

/- A ticket that is finished now was not finished before. -/
theorem Spent.finish
    (h : s.Spent)
    (hTraced : s.Traced)
    (hTidy : s.board.Tidy)
    (n : Nat)
    (status : Status) : (s.finish n status).Spent := by
  rcases finish_cases n status s with
    hSame |
      ⟨id, hTicket, hBoard, hTickets, hIssued, hAnswers,
        hPosts⟩
  · rw [hSame]
    exact h
  have hStays :
      ∀ k, s.Finished k → (s.finish n status).Finished k := by
    rintro k ⟨hBelow, hClosed⟩
    refine ⟨by rw [hIssued]; exact hBelow, ?_⟩
    intro t ht
    rw [hTickets] at ht
    exact hClosed t (List.mem_of_mem_filter ht)
  have hNow : (s.finish n status).Finished n := by
    refine
      ⟨by rw [hIssued]; exact hTraced.numbered _ hTicket, ?_⟩
    intro t ht
    rw [hTickets] at ht
    simpa using (List.mem_filter.mp ht).2
  have hUnused : ¬ s.Finished n := by
    rintro ⟨_, hClosed⟩
    exact hClosed _ hTicket rfl
  rcases Board.complete_cases id status s.board with
    ⟨hLate, hComplete⟩ | ⟨hLate, hPending, hComplete⟩ |
      ⟨_, hUnknown, hComplete⟩
  · rw [if_neg (fun hBoth => hBoth.1 hLate)] at hPosts
    apply h.of_fewer hAnswers hPosts _ hStays
    rw [hBoard, hComplete]
    exact fun d hd => hd
  · rw [if_pos ⟨hLate, hPending⟩] at hPosts
    apply
      h.post hAnswers hPosts _ (hTidy.pending_done hPending)
        hUnused hStays hNow
    rw [hBoard, hComplete]
  · rw [if_neg (fun hBoth => hUnknown hBoth.2)] at hPosts
    apply h.of_fewer hAnswers hPosts _ hStays
    rw [hBoard, hComplete]
    exact fun d hd => hd

/- A status that is taken leaves the board with its ticket. -/
theorem Spent.wait
    (h : s.Spent)
    (id : RequestId)
    (expired : Bool) : (s.wait id expired).Spent := by
  rcases wait_cases id expired s with
    ⟨status, hDone, hWait⟩ | ⟨_, hWait⟩ | hWait
  · rw [hWait]
    rcases h.posted (id, status) hDone with
      ⟨n, hPost, hEnd, hNew⟩
    dsimp only at hPost
    constructor
    · intro a ha
      rcases List.mem_cons.mp ha with rfl | hOld
      · exact ⟨n, hPost, hEnd⟩
      · exact h.answered a hOld
    · intro d hd
      have hOther := Board.mem_withoutDone.mp hd
      rcases h.posted d hOther.1 with
        ⟨k, hOld, hEnd', hNew'⟩
      refine ⟨k, hOld, hEnd', ?_⟩
      intro a ha
      rcases List.mem_cons.mp ha with rfl | hBefore
      · have hApart :=
          h.distinct d hOther.1 (id, status) hDone hOther.2
        rw [hOld] at hApart
        exact hApart.symm
      · exact hNew' a hBefore
    · intro d hd e he hNe
      exact
        h.distinct d (Board.mem_withoutDone.mp hd).1 e
          (Board.mem_withoutDone.mp he).1 hNe
    · apply List.pairwise_cons.mpr
      refine ⟨?_, h.once⟩
      intro a ha
      change (s.posts id).map Post.ticket ≠ a.ticket?
      rw [hPost]
      exact (hNew a ha).symm
  · rw [hWait]
    exact h.of_fewer rfl rfl (fun _ hd => hd) fun _ hk => hk
  · rw [hWait]
    exact h

theorem spent_step
    (e : Event)
    (h : s.Spent)
    (hTraced : s.Traced)
    (hTidy : s.board.Tidy) : (step e s).Spent := by
  cases e with
  | register id => exact h.register id
  | complete n status =>
      exact h.finish hTraced hTidy n status
  | drop n => exact h.finish hTraced hTidy n _
  | wait id expired => exact h.wait id expired
  | cancel id =>
      refine Spent.of_fewer h rfl rfl ?_ fun _ hk => hk
      intro d hd
      exact (Board.mem_withoutDone.mp hd).1

------------------------------------------------------------
-- Boards in Order
------------------------------------------------------------

/-
  The account of a board with a depth: what it tracks is on
  one list only and within the depth, an id that is still to
  be completed has an open ticket, so that there are no more
  of them than tickets, and every answer is the status of a
  ticket that gave no other answer.
-/
structure InOrder
    (depth : Nat)
    (s : SharedBoard) : Prop where
  tidy : s.board.Tidy
  within_depth :
    s.board.pending.length + s.board.done.length ≤
      max depth 1
  held :
    ∀ id,
      id ∈ s.board.pending ∨ id ∈ s.board.abandoned →
        ∃ n, (n, id) ∈ s.tickets
  no_more :
    s.board.pending.length + s.board.abandoned.length ≤
      s.tickets.length
  answered :
    ∀ a ∈ s.answers, ∃ n, a.post = some ⟨n, a.status⟩
  once :
    s.answers.Pairwise fun a b => a.ticket? ≠ b.ticket?

/- All that a run keeps, with what it needs for that. -/
structure Accounted
    (depth : Nat)
    (s : SharedBoard) : Prop where
  traced : s.Traced
  tidy : s.board.Tidy
  held : s.Held
  spent : s.Spent
  depth_eq : s.board.depth = max depth 1

theorem accounted_of
    (depth : Nat) : (of depth).Accounted depth where
  traced := traced_of depth
  tidy := Board.tidy_create depth
  held := by
    rintro id (hPending | hAbandoned)
    · cases hPending
    · cases hAbandoned
  spent := spent_of depth
  depth_eq := rfl

theorem accounted_step
    {depth : Nat}
    (e : Event)
    (h : s.Accounted depth) : (step e s).Accounted depth where
  traced := traced_step e h.traced
  tidy := tidy_step e h.tidy
  held := held_step e h.held h.traced h.tidy
  spent := spent_step e h.spent h.traced h.tidy
  depth_eq := (depth_step e s).trans h.depth_eq

/- Every board is in order after every event. -/
theorem inOrder_states
    (depth : Nat)
    (es : List Event) :
    ∀ s ∈ Run.states step es (of depth), s.InOrder depth := by
  intro s hState
  have h : s.Accounted depth :=
    Run.forall_states (fun _ e h => accounted_step e h) es
      (accounted_of depth) s hState
  exact
    { tidy := h.tidy
      within_depth := h.depth_eq ▸ h.tidy.within_depth
      held := h.held
      no_more := h.held.length_le h.tidy
      answered := by
        intro a ha
        rcases h.spent.answered a ha with ⟨n, hPost, _⟩
        exact ⟨n, hPost⟩
      once := h.spent.once }

/-
  One id is answered, one given up on, one waits for its
  answer to be taken, and one is registered twice.
-/
def crowded : List Event :=
  [.register ⟨6⟩, .complete 0 1, .wait ⟨6⟩ false,
    .register ⟨7⟩, .wait ⟨7⟩ true, .register ⟨8⟩,
    .complete 2 3, .register ⟨9⟩, .register ⟨9⟩]

/- A board with something in each of its lists is in order. -/
theorem crowded_inOrder :
    Run.after step crowded (of 3) ∈
        Run.states step crowded (of 3) ∧
      (Run.after step crowded (of 3)).InOrder 3 ∧
      (Run.after step crowded (of 3)).board.pending = [⟨9⟩] ∧
      (Run.after step crowded (of 3)).board.done =
        [(⟨8⟩, 3)] ∧
      (Run.after step crowded (of 3)).board.abandoned =
        [⟨7⟩] ∧
      (Run.after step crowded (of 3)).tickets =
        [(4, ⟨9⟩), (3, ⟨9⟩), (1, ⟨7⟩)] := by
  have hLast :
      Run.after step crowded (of 3) ∈
        Run.states step crowded (of 3) :=
    Run.after_mem_states crowded (of 3)
  exact
    ⟨hLast, inOrder_states 3 crowded _ hLast, by decide,
      by decide, by decide, by decide⟩

end SharedBoard

end Offload
