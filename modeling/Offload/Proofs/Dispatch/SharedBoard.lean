import Mathlib.Data.List.Basic
import Mathlib.Data.List.Nodup
import Mathlib.Logic.Function.Basic
import Offload.Dispatch.Board
import Offload.Proofs.Run

/-
  A completion board that threads share.

  Tickets are numbered in the order in which they are drawn,
  which the board itself does not do: it knows requests by
  their id only. The state keeps, beside the board, who drew
  which ticket and who posted which status, so that an
  answer can be traced to a registration.

  Key definitions include:
    * `SharedBoard`
    * `SharedBoard.Event`
    * `SharedBoard.step`
    * `SharedBoard.Answer.FromLatest`
    * `SharedBoard.Traced`

  Main results:
    * `SharedBoard.traced_step`
    * `SharedBoard.answers_step`
-/

namespace Offload

------------------------------------------------------------
-- What a Board Does
------------------------------------------------------------

namespace Board

theorem mem_without
    {i id : RequestId}
    {ids : List RequestId} :
    i ∈ without id ids ↔ i ∈ ids ∧ i ≠ id := by
  simp [without, List.mem_filter]

theorem mem_withoutDone
    {d : RequestId × Status}
    {id : RequestId}
    {done : List (RequestId × Status)} :
    d ∈ withoutDone id done ↔ d ∈ done ∧ d.1 ≠ id := by
  simp [withoutDone, List.mem_filter]

/- What a look-up finds is an entry of the list. -/
theorem mem_of_lookup
    {κ υ : Type}
    [BEq κ]
    [LawfulBEq κ]
    {k : κ}
    {v : υ}
    {entries : List (κ × υ)}
    (h : entries.lookup k = some v) : (k, v) ∈ entries := by
  rcases List.lookup_eq_some_iff.mp h with
    ⟨before, behind, hSplit, _⟩
  rw [hSplit]
  exact List.mem_append_right before List.mem_cons_self

/- A registration goes through if the board has room. -/
theorem register_ok
    {id : RequestId}
    {b b' : Board}
    (h : b.register id = .ok b') :
    b' =
      { b with
        pending := id :: without id b.pending
        done := withoutDone id b.done
        abandoned := without id b.abandoned } := by
  unfold register at h
  split at h
  · cases h
  · cases h
    rfl

/-
  All that a completion can come to: it is late, it is
  awaited, or the board does not know the id.
-/
theorem complete_cases
    (id : RequestId)
    (status : Status)
    (b : Board) :
    (id ∈ b.abandoned ∧
      b.complete id status =
        (some (stray "discarding late completion" id status),
          { b with
            abandoned := without id b.abandoned })) ∨
    (id ∉ b.abandoned ∧ id ∈ b.pending ∧
      b.complete id status =
        (none,
          { b with
            pending := without id b.pending
            done := (id, status) :: b.done })) ∨
    (id ∉ b.abandoned ∧ id ∉ b.pending ∧
      b.complete id status =
        (some
          (stray "completion for unknown request" id status),
          b)) := by
  unfold complete
  by_cases hAbandoned : id ∈ b.abandoned
  · apply Or.inl
    exact ⟨hAbandoned, by rw [if_pos (by simpa)]⟩
  · apply Or.inr
    by_cases hPending : id ∈ b.pending
    · apply Or.inl
      refine ⟨hAbandoned, hPending, ?_⟩
      rw [if_neg (by simpa), if_pos (by simpa)]
    · apply Or.inr
      refine ⟨hAbandoned, hPending, ?_⟩
      rw [if_neg (by simpa), if_neg (by simpa)]

/- All that a look at the board can come to. -/
theorem look_cases
    (id : RequestId)
    (b : Board) :
    (∃ status,
      (id, status) ∈ b.done ∧
        b.look id =
          (.done status,
            { b with done := withoutDone id b.done })) ∨
    (id ∈ b.pending ∧ b.look id = (.pending, b)) ∨
    b.look id = (.unknown, b) := by
  unfold look
  cases hDone : b.done.lookup id with
  | some status =>
      apply Or.inl
      exact ⟨status, mem_of_lookup hDone, rfl⟩
  | none =>
      apply Or.inr
      by_cases hPending : id ∈ b.pending
      · exact Or.inl ⟨hPending, by simp [hPending]⟩
      · exact Or.inr (by simp [hPending])

end Board

------------------------------------------------------------
-- States and Events
------------------------------------------------------------

namespace SharedBoard

/- A status as the holder of a ticket posted it. -/
structure Post where
  ticket : Nat
  status : Status
deriving DecidableEq

/-
  What a wait was answered with: the status, how it came to
  the board, and the newest ticket of the id at that time.
-/
structure Answer where
  id : RequestId
  status : Status
  post : Option Post
  latest : Option Nat
deriving DecidableEq

/-
  The status was posted through the ticket that the latest
  registration of the id drew.
-/
def Answer.FromLatest
    (a : Answer) : Prop :=
  ∃ n, a.post = some ⟨n, a.status⟩ ∧ a.latest = some n

/-
  What a thread does to a board in one go. A wait looks at
  the board, and gives up if its time has expired. A ticket
  is named by its number; whoever drops one completes it as
  lost.
-/
inductive Event where
  | register (id : RequestId)
  | complete (ticket : Nat) (status : Status)
  | drop (ticket : Nat)
  | wait (id : RequestId) (expired : Bool)
  | cancel (id : RequestId)

end SharedBoard

/-
  A board with the number of tickets drawn, the tickets not
  finished yet, for each id the latest ticket, the ticket
  that was finished first since that was drawn, and the last
  post that the board accepted, and all answers to waits.
-/
structure SharedBoard where
  board : Board
  issued : Nat
  tickets : List (Nat × RequestId)
  latest : RequestId → Option Nat
  first : RequestId → Option Nat
  posts : RequestId → Option SharedBoard.Post
  answers : List SharedBoard.Answer

namespace SharedBoard

/- A board that nobody has used. -/
def of
    (depth : Nat) : SharedBoard where
  board := Board.create depth
  issued := 0
  tickets := []
  latest := fun _ => none
  first := fun _ => none
  posts := fun _ => none
  answers := []

/- Register an id and draw a ticket for it. -/
def register
    (id : RequestId)
    (s : SharedBoard) : SharedBoard :=
  match s.board.register id with
  | .error _ => s
  | .ok b =>
    { s with
      board := b
      issued := s.issued + 1
      tickets := (s.issued, id) :: s.tickets
      latest :=
        Function.update s.latest id (some s.issued)
      first := Function.update s.first id none }

/-
  Finish a ticket. A status is posted unless the board says
  that nobody waits for it.
-/
def finish
    (n : Nat)
    (status : Status)
    (s : SharedBoard) : SharedBoard :=
  match s.tickets.lookup n with
  | none => s
  | some id =>
    match s.board.complete id status with
    | (event, b) =>
      { s with
        board := b
        tickets := s.tickets.filter fun t => t.1 != n
        first :=
          Function.update s.first id
            ((s.first id).or (some n))
        posts :=
          if event.isNone then
            Function.update s.posts id (some ⟨n, status⟩)
          else
            s.posts }

/- Look for the status of an id, for the last time or not. -/
def wait
    (id : RequestId)
    (expired : Bool)
    (s : SharedBoard) : SharedBoard :=
  match s.board.look id with
  | (.done status, b) =>
    { s with
      board := b
      answers :=
        ⟨id, status, s.posts id, s.latest id⟩ :: s.answers }
  | (.pending, _) =>
    if expired then
      { s with board := s.board.abandon id }
    else
      s
  | (.unknown, _) => s

/- The state after an event. -/
def step
    (e : Event)
    (s : SharedBoard) : SharedBoard :=
  match e with
  | .register id => s.register id
  | .complete n status => s.finish n status
  | .drop n => s.finish n Ticket.lostStatus
  | .wait id expired => s.wait id expired
  | .cancel id => { s with board := s.board.cancel id }

/- Whether a registration of an id goes through. -/
def Admits
    (s : SharedBoard)
    (id : RequestId) : Prop :=
  ∃ b, s.board.register id = .ok b

/- Whether a wait for an id is answered. -/
def IsAnswered
    (s : SharedBoard)
    (id : RequestId) : Prop :=
  ∃ status, (s.board.look id).1 = .done status

/- All answers came from the latest registration. -/
def Lawful
    (s : SharedBoard) : Prop :=
  ∀ a ∈ s.answers, a.FromLatest

------------------------------------------------------------
-- Tracing
------------------------------------------------------------

/-
  Tickets have numbers of their own. An id that is awaited
  has no finished ticket since its latest registration and
  is not abandoned. Every status on the board was posted
  through the ticket that was finished first.
-/
structure Traced
    (s : SharedBoard) : Prop where
  numbered : ∀ t ∈ s.tickets, t.1 < s.issued
  distinct : (s.tickets.map Prod.fst).Nodup
  unfinished : ∀ id ∈ s.board.pending, s.first id = none
  awaited : ∀ id ∈ s.board.pending, id ∉ s.board.abandoned
  posted :
    ∀ d ∈ s.board.done,
      ∃ n,
        s.posts d.1 = some ⟨n, d.2⟩ ∧
          s.first d.1 = some n

theorem traced_of
    (depth : Nat) : (of depth).Traced where
  numbered := by
    intro t ht
    cases ht
  distinct := List.nodup_nil
  unfinished := by
    intro id hid
    cases hid
  awaited := by
    intro id hid
    cases hid
  posted := by
    intro d hd
    cases hd

/- The holder of a ticket that is not finished is known. -/
theorem Traced.lookup_ticket
    {s : SharedBoard}
    (h : s.Traced)
    {n : Nat}
    {id : RequestId}
    (hTicket : (n, id) ∈ s.tickets) :
    s.tickets.lookup n = some id := by
  rcases List.append_of_mem hTicket with
    ⟨before, behind, hSplit⟩
  apply List.lookup_eq_some_iff.mpr
  refine ⟨before, behind, hSplit, ?_⟩
  intro t ht
  have hDistinct := h.distinct
  rw [hSplit, List.map_append, List.map_cons] at hDistinct
  have hNotMem :=
    (List.nodup_append.mp hDistinct).2.2 t.1
      (List.mem_map_of_mem ht) n List.mem_cons_self
  simpa using hNotMem.symm

theorem Traced.register
    {s : SharedBoard}
    (h : s.Traced)
    (id : RequestId) : (s.register id).Traced := by
  unfold SharedBoard.register
  cases hRegister : s.board.register id with
  | error cause => exact h
  | ok b =>
      have hBoard := Board.register_ok hRegister
      subst hBoard
      constructor
      · intro t ht
        rcases List.mem_cons.mp ht with rfl | hOld
        · exact Nat.lt_succ_self _
        · exact Nat.lt_succ_of_lt (h.numbered t hOld)
      · apply List.nodup_cons.mpr
        refine ⟨?_, h.distinct⟩
        intro hMem
        rcases List.mem_map.mp hMem with ⟨t, ht, hEq⟩
        have hBelow := h.numbered t ht
        omega
      · intro i hi
        rcases List.mem_cons.mp hi with rfl | hOld
        · simp
        · have hOther := Board.mem_without.mp hOld
          simpa [hOther.2] using h.unfinished i hOther.1
      · intro i hi hAbandoned
        have hStill := Board.mem_without.mp hAbandoned
        rcases List.mem_cons.mp hi with rfl | hOld
        · exact hStill.2 rfl
        · exact
            h.awaited i (Board.mem_without.mp hOld).1
              hStill.1
      · intro d hd
        have hOther := Board.mem_withoutDone.mp hd
        simpa [hOther.2] using h.posted d hOther.1

/- Who was first stays so when another ticket is finished. -/
theorem Traced.posted_first
    {s : SharedBoard}
    (h : s.Traced)
    (n : Nat)
    (id : RequestId) :
    ∀ d ∈ s.board.done,
      ∃ k,
        s.posts d.1 = some ⟨k, d.2⟩ ∧
          Function.update s.first id
              ((s.first id).or (some n)) d.1 =
            some k := by
  intro d hd
  rcases h.posted d hd with ⟨k, hPost, hFirst⟩
  refine ⟨k, hPost, ?_⟩
  by_cases hEq : d.1 = id
  · rw [hEq] at hFirst
    simp [hEq, hFirst]
  · simpa [hEq] using hFirst

/- Ids other than that of a finished ticket are awaited on. -/
theorem Traced.unfinished_other
    {s : SharedBoard}
    (h : s.Traced)
    (n : Nat)
    (id : RequestId) :
    ∀ i ∈ s.board.pending, i ≠ id →
      Function.update s.first id
          ((s.first id).or (some n)) i =
        none := by
  intro i hi hNe
  simpa [hNe] using h.unfinished i hi

theorem Traced.finish
    {s : SharedBoard}
    (h : s.Traced)
    (n : Nat)
    (status : Status) : (s.finish n status).Traced := by
  unfold SharedBoard.finish
  cases hTicket : s.tickets.lookup n with
  | none => exact h
  | some id =>
      have hNumbered :
          ∀ t ∈ s.tickets.filter fun t => t.1 != n,
            t.1 < s.issued := by
        intro t ht
        exact h.numbered t (List.mem_of_mem_filter ht)
      have hDistinct :
          ((s.tickets.filter fun t => t.1 != n).map
            Prod.fst).Nodup :=
        h.distinct.sublist
          (List.filter_sublist.map Prod.fst)
      have hPosted := h.posted_first n id
      have hUnfinished := h.unfinished_other n id
      rcases Board.complete_cases id status s.board with
        ⟨hLate, hComplete⟩ | ⟨_, hPending, hComplete⟩ |
          ⟨_, hUnknown, hComplete⟩
      · simp only [hComplete]
        refine
          ⟨hNumbered, hDistinct, ?_, ?_, by simpa using hPosted⟩
        · intro i hi
          apply hUnfinished i hi
          rintro rfl
          exact h.awaited i hi hLate
        · intro i hi hAbandoned
          exact
            h.awaited i hi
              (Board.mem_without.mp hAbandoned).1
      · have hFirst := h.unfinished id hPending
        simp only [hComplete]
        refine ⟨hNumbered, hDistinct, ?_, ?_, ?_⟩
        · intro i hi
          have hOther := Board.mem_without.mp hi
          exact hUnfinished i hOther.1 hOther.2
        · intro i hi
          exact
            h.awaited i (Board.mem_without.mp hi).1
        · intro d hd
          rcases List.mem_cons.mp hd with rfl | hOld
          · exact ⟨n, by simp, by simp [hFirst]⟩
          · by_cases hEq : d.1 = id
            · rcases h.posted d hOld with ⟨k, _, hDone⟩
              rw [hEq, hFirst] at hDone
              cases hDone
            · simpa [hEq] using hPosted d hOld
      · simp only [hComplete]
        refine
          ⟨hNumbered, hDistinct, ?_, h.awaited,
            by simpa using hPosted⟩
        intro i hi
        apply hUnfinished i hi
        rintro rfl
        exact hUnknown hi

/- Giving up on an id forgets no status. -/
theorem Traced.abandon
    {s : SharedBoard}
    (h : s.Traced)
    (id : RequestId) :
    { s with board := s.board.abandon id }.Traced where
  numbered := h.numbered
  distinct := h.distinct
  unfinished := by
    intro i hi
    exact h.unfinished i (Board.mem_without.mp hi).1
  awaited := by
    intro i hi hAbandoned
    have hOther := Board.mem_without.mp hi
    rcases List.mem_cons.mp hAbandoned with hEq | hOld
    · exact hOther.2 hEq
    · exact
        h.awaited i hOther.1 (Board.mem_without.mp hOld).1
  posted := h.posted

theorem Traced.cancel
    {s : SharedBoard}
    (h : s.Traced)
    (id : RequestId) :
    { s with board := s.board.cancel id }.Traced where
  numbered := h.numbered
  distinct := h.distinct
  unfinished := by
    intro i hi
    exact h.unfinished i (Board.mem_without.mp hi).1
  awaited := by
    intro i hi
    exact h.awaited i (Board.mem_without.mp hi).1
  posted := by
    intro d hd
    exact h.posted d (Board.mem_withoutDone.mp hd).1

theorem Traced.wait
    {s : SharedBoard}
    (h : s.Traced)
    (id : RequestId)
    (expired : Bool) : (s.wait id expired).Traced := by
  unfold SharedBoard.wait
  rcases Board.look_cases id s.board with
    ⟨status, _, hLook⟩ | ⟨_, hLook⟩ | hLook
  · simp only [hLook]
    refine
      ⟨h.numbered, h.distinct, h.unfinished, h.awaited, ?_⟩
    intro d hd
    exact h.posted d (Board.mem_withoutDone.mp hd).1
  · simp only [hLook]
    cases expired with
    | false => exact h
    | true => exact h.abandon id
  · simpa only [hLook] using h

theorem traced_step
    {s : SharedBoard}
    (e : Event)
    (h : s.Traced) : (step e s).Traced := by
  cases e with
  | register id => exact h.register id
  | complete n status => exact h.finish n status
  | drop n => exact h.finish n Ticket.lostStatus
  | wait id expired => exact h.wait id expired
  | cancel id => exact h.cancel id

------------------------------------------------------------
-- Answers
------------------------------------------------------------

/-
  Only a wait adds an answer: the status that was posted
  through the ticket that was finished first.
-/
theorem Traced.answers_wait
    {s : SharedBoard}
    (h : s.Traced)
    (id : RequestId)
    (expired : Bool) :
    (¬s.IsAnswered id ∧
      (s.wait id expired).answers = s.answers) ∨
    (s.IsAnswered id ∧
      ∃ n status,
        s.first id = some n ∧
          (s.wait id expired).answers =
            ⟨id, status, some ⟨n, status⟩, s.latest id⟩ ::
              s.answers) := by
  unfold SharedBoard.wait IsAnswered
  rcases Board.look_cases id s.board with
    ⟨status, hDone, hLook⟩ | ⟨_, hLook⟩ | hLook
  · apply Or.inr
    rcases h.posted (id, status) hDone with
      ⟨n, hPost, hFirst⟩
    refine ⟨⟨status, by rw [hLook]⟩, n, status, hFirst, ?_⟩
    simp only [hLook, hPost]
  · apply Or.inl
    cases expired <;> simp [hLook]
  · apply Or.inl
    simp [hLook]

/- Whatever is not a wait leaves the answers alone. -/
theorem answers_step
    (e : Event)
    (s : SharedBoard) :
    (step e s).answers = s.answers ∨
      ∃ id expired, e = .wait id expired := by
  cases e with
  | register id =>
      apply Or.inl
      simp only [step, register]
      cases s.board.register id <;> rfl
  | complete n status =>
      apply Or.inl
      simp only [step, finish]
      cases s.tickets.lookup n <;> rfl
  | drop n =>
      apply Or.inl
      simp only [step, finish]
      cases s.tickets.lookup n <;> rfl
  | wait id expired => exact Or.inr ⟨id, expired, rfl⟩
  | cancel id => exact Or.inl rfl

end SharedBoard

end Offload
