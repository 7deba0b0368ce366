import Offload.Proofs.Dispatch.BoardSlots
import Offload.Proofs.Machine.EngineMoves

/-
  What is done to a board while nobody registers on it.

  Statuses are posted, and what a board tracks stays the
  same: an id that was awaited is answered. The engines of a
  machine do no more than that to a board, and the passing
  of time nothing at all.

  Key definitions include:
    * `Board.tracked`
    * `Machine.OnlyPosts`
    * `Machine.Tracks`

  Main results:
    * `Board.tracked_complete`
    * `Machine.Tracks.posts`
    * `Machine.boards_advanceBy`
    * `Machine.posts_submit`
-/

namespace Offload

------------------------------------------------------------
-- What a Board Tracks
------------------------------------------------------------

namespace Board

/- The ids that take up room: awaited, or not taken yet. -/
def tracked
    (b : Board) : List RequestId :=
  b.pending ++ b.doneIds

/- Post some statuses in order. -/
def completeAll
    (posts : List (RequestId × Status))
    (b : Board) : Board :=
  posts.foldl (fun b p => (b.complete p.1 p.2).2) b

variable {b : Board}
variable {id : RequestId}

theorem tracked_eq_nil :
    b.tracked = [] ↔ b.pending = [] ∧ b.done = [] := by
  simp [tracked, doneIds]

/- The one id that is tracked is awaited or was answered. -/
theorem tracked_eq_singleton :
    b.tracked = [id] ↔
      b.pending = [id] ∧ b.done = [] ∨
        b.pending = [] ∧
          ∃ status, b.done = [(id, status)] := by
  unfold tracked doneIds
  rw [List.append_eq_singleton_iff, List.map_eq_nil_iff,
    List.map_eq_singleton_iff]
  constructor
  · rintro (⟨hPending, ⟨i, status⟩, hDone, rfl⟩ | hAwaited)
    · exact Or.inr ⟨hPending, status, hDone⟩
    · exact Or.inl hAwaited
  · rintro (hAwaited | ⟨hPending, status, hDone⟩)
    · exact Or.inr hAwaited
    · exact Or.inl ⟨hPending, _, hDone, rfl⟩

/- A status that is posted takes the place of its id. -/
theorem tracked_complete
    (hFew : b.tracked.length ≤ 1)
    (id : RequestId)
    (status : Status) :
    (b.complete id status).2.tracked = b.tracked := by
  rcases complete_cases id status b with
    ⟨_, hComplete⟩ | ⟨_, hPending, hComplete⟩ |
      ⟨_, _, hComplete⟩
  · rw [hComplete]
    rfl
  · have hOnly : b.tracked = [id] := by
      have hMem : id ∈ b.tracked :=
        List.mem_append_left _ hPending
      rcases List.length_eq_one_iff.mp
          (Nat.le_antisymm hFew (List.length_pos_of_mem hMem))
        with ⟨i, hTracked⟩
      rw [hTracked] at hMem ⊢
      rw [List.eq_of_mem_singleton hMem]
    rw [hComplete]
    rcases tracked_eq_singleton.mp hOnly with
      ⟨hAwaited, hDone⟩ | ⟨hNone, _⟩
    · rw [hOnly]
      simp [tracked, doneIds, hAwaited, hDone, without]
    · rw [hNone] at hPending
      cases hPending
  · rw [hComplete]

theorem depth_complete
    (id : RequestId)
    (status : Status)
    (b : Board) :
    (b.complete id status).2.depth = b.depth := by
  rcases complete_cases id status b with
    ⟨_, hComplete⟩ | ⟨_, _, hComplete⟩ |
      ⟨_, _, hComplete⟩ <;> rw [hComplete]

theorem tracked_completeAll
    (hFew : b.tracked.length ≤ 1)
    (posts : List (RequestId × Status)) :
    (b.completeAll posts).tracked = b.tracked := by
  induction posts generalizing b with
  | nil => rfl
  | cons p rest ih =>
      have hFirst := tracked_complete hFew p.1 p.2
      exact (ih (by rwa [hFirst])).trans hFirst

theorem depth_completeAll
    (posts : List (RequestId × Status))
    (b : Board) : (b.completeAll posts).depth = b.depth := by
  induction posts generalizing b with
  | nil => rfl
  | cons p rest ih =>
      exact (ih _).trans (depth_complete p.1 p.2 b)

/- A board that tracks nothing has room for any id. -/
theorem register_of_tracked
    (hNone : b.tracked = [])
    (hDepth : 0 < b.depth)
    (id : RequestId) :
    ∃ b',
      b.register id = .ok b' ∧
        b'.depth = b.depth ∧ b'.tracked = [id] := by
  rcases tracked_eq_nil.mp hNone with ⟨hPending, hDone⟩
  refine ⟨_, if_neg ?_, rfl, ?_⟩
  · rw [hPending, hDone]
    exact Nat.not_le_of_lt hDepth
  · simp [tracked, doneIds, hPending, hDone, without,
      withoutDone]

theorem tracked_cancel
    (hOnly : b.tracked = [id]) :
    (b.cancel id).tracked = [] := by
  rcases tracked_eq_singleton.mp hOnly with
    ⟨hPending, hDone⟩ | ⟨hPending, status, hDone⟩
  · simp [tracked, doneIds, cancel, without, withoutDone,
      hPending, hDone]
  · simp [tracked, doneIds, cancel, without, withoutDone,
      hPending, hDone]

/- The id that is tracked is known to the board. -/
theorem look_of_tracked
    (hOnly : b.tracked = [id]) :
    (∃ status b',
      b.look id = (.done status, b') ∧
        b'.depth = b.depth ∧ b'.tracked = []) ∨
    (b.look id = (.pending, b) ∧
      (b.abandon id).tracked = []) := by
  rcases tracked_eq_singleton.mp hOnly with
    ⟨hPending, hDone⟩ | ⟨hPending, status, hDone⟩
  · refine Or.inr ⟨?_, ?_⟩
    · simp [look, hPending, hDone]
    · simp [tracked, doneIds, abandon, without, hPending,
        hDone]
  · refine
      Or.inl
        ⟨status, { b with done := withoutDone id b.done }, ?_,
          rfl, ?_⟩
    · simp only [look, hDone, List.lookup_cons_self]
    · simp [tracked, doneIds, withoutDone, hPending, hDone]

end Board

------------------------------------------------------------
-- Posts on a Board
------------------------------------------------------------

namespace Machine

variable {key : Nat}
variable {m m' m'' : Machine}

/-
  Nothing but statuses that were posted changed the board
  with a number.
-/
def OnlyPosts
    (key : Nat)
    (m m' : Machine) : Prop :=
  ∃ posts,
    m'.boards.get? key =
      (m.boards.get? key).map (Board.completeAll posts)

theorem OnlyPosts.of_same
    (h : m'.boards = m.boards) : OnlyPosts key m m' := by
  refine ⟨[], ?_⟩
  rw [h]
  cases m.boards.get? key <;> rfl

theorem OnlyPosts.trans
    (hFirst : OnlyPosts key m m')
    (hNext : OnlyPosts key m' m'') : OnlyPosts key m m'' := by
  rcases hFirst with ⟨posts, hFirst⟩
  rcases hNext with ⟨posts', hNext⟩
  refine ⟨posts ++ posts', ?_⟩
  rw [hNext, hFirst, Option.map_map]
  congr 1
  funext b
  simp [Board.completeAll, List.foldl_append]

instance : Std.Refl (OnlyPosts key) where
  refl _ := .of_same rfl

instance : IsTrans Machine (OnlyPosts key) where
  trans _ _ _ := OnlyPosts.trans

/-
  The board with a number is there, it takes requests, and
  it tracks just these ids.
-/
def Tracks
    (key : Nat)
    (ids : List RequestId)
    (m : Machine) : Prop :=
  ∃ b,
    m.boards.get? key = some b ∧
      0 < b.depth ∧ b.tracked = ids

/- Posts keep what is tracked, if that is one id at most. -/
theorem Tracks.posts
    {ids : List RequestId}
    (h : m.Tracks key ids)
    (hFew : ids.length ≤ 1)
    (hPosts : OnlyPosts key m m') : m'.Tracks key ids := by
  rcases h with ⟨b, hBoard, hDepth, rfl⟩
  rcases hPosts with ⟨posts, hPosts⟩
  refine ⟨b.completeAll posts, ?_, ?_, ?_⟩
  · rw [hPosts, hBoard]
    rfl
  · rw [Board.depth_completeAll]
    exact hDepth
  · exact Board.tracked_completeAll hFew posts

------------------------------------------------------------
-- Time
------------------------------------------------------------

/- No board is another one. -/
def SameBoards
    (m m' : Machine) : Prop :=
  m'.boards = m.boards

instance : Std.Refl SameBoards where
  refl _ := rfl

instance : IsTrans Machine SameBoards where
  trans _ _ _ h h' := Eq.trans h' h

instance : Services SameBoards where
  serving :=
    have := Platform.Frame.of_all
      (R := Through SameBoards) fun _ _ _ => rfl
    inferInstance
  aside _ _ _ _ := rfl

/- While time passes nothing is done to any board. -/
theorem boards_advanceBy
    (d : Duration)
    (m : Machine) : (m.advanceBy d).boards = m.boards :=
  advanceBy_moves (R := SameBoards) d m

------------------------------------------------------------
-- Engines
------------------------------------------------------------

/- Nothing that is done on the platform is a post. -/
instance : Platform.Frame (Through (OnlyPosts key)) :=
  .of_all fun _ _ _ => .of_same rfl

instance : Services (OnlyPosts key) where
  serving := inferInstance
  aside _ _ _ _ := .of_same rfl

/- A ticket that is finished posts a status, or none. -/
theorem posts_completeTicket
    (t : Ticket)
    (status : Status)
    (m : Machine) :
    OnlyPosts key m (m.completeTicket t status) := by
  unfold completeTicket
  cases hBoard : m.boards.get? t.board with
  | none => exact .of_same rfl
  | some b =>
      have hPosted :
          OnlyPosts key m
            { m with
              boards :=
                m.boards.set t.board
                  (b.complete t.id status).2 } := by
        by_cases hKey : key = t.board
        · subst hKey
          refine ⟨[(t.id, status)], ?_⟩
          rw [hBoard]
          exact Table.get?_set_self hBoard _
        · refine ⟨[], ?_⟩
          rw [Table.get?_set_other hKey]
          cases m.boards.get? key <;> rfl
      exact hPosted.trans (logged_moves _ _)

instance : Engines (OnlyPosts key) where
  frame := inferInstance
  beside _ _ _ := .of_same rfl
  ticketed := posts_completeTicket

/- An engine of the machine, whether it takes a request. -/
theorem posts_submit
    (engine : Nat)
    (s : Submission) :
    Op.Moves (OnlyPosts key) (submit engine s) :=
  submit_moves engine s

end Machine

end Offload
