import Offload.Proofs.Machine.BoardPosts

/-
  Who registers on a board, and waits there.

  The engine that gets a registered request need not be one
  of the machine: whatever it is, all it can do to the board
  is to post statuses. So what it posts at any time, before
  it refuses a request or while a wait goes on, leaves the
  board tracking one id, or none once the request is refused
  or waited for.

  Key definitions include:
    * `Deed`
    * `FreeEngine`
    * `Machine.submitThrough`
    * `Machine.lookAmid`
    * `Machine.waitAmid`

  Main results:
    * `Machine.submitThrough_tracks`
    * `Machine.lookAmid_tracks`
    * `Machine.waitFor_eq`
-/

namespace Offload

------------------------------------------------------------
-- Engines
------------------------------------------------------------

/-
  Something that happens to a machine, and to one board at
  most some statuses that are posted.
-/
structure Deed (board : Nat) where
  act : Machine → Machine
  posts : ∀ m, Machine.OnlyPosts board m (act m)

/-
  An engine of any kind. It takes requests with their tickets
  or refuses them, and does what it likes while somebody
  waits for so long. The tickets let it post statuses, and
  nothing else, on the board.
-/
structure FreeEngine (board : Nat) where
  take : Submission → Op DispatchError Machine Unit
  meanwhile : Duration → List (Deed board)
  posts : ∀ s, Op.Moves (Machine.OnlyPosts board) (take s)

/- An engine of the machine. While it waits, time passes. -/
def FreeEngine.ofMachine
    (engine board : Nat) : FreeEngine board where
  take := Machine.submit engine
  meanwhile := fun d =>
    [⟨Machine.advanceBy d,
      fun m => .of_same (Machine.boards_advanceBy d m)⟩]
  posts := Machine.posts_submit engine

namespace Machine

variable {ε : Type}
variable {key : Nat}
variable {id : RequestId}
variable {m : Machine}

------------------------------------------------------------
-- Submitting
------------------------------------------------------------

/-
  Register a request and hand it to whoever takes it. A
  refused request leaves nothing on the board.
-/
def submitThrough
    (take : Submission → Op DispatchError Machine Unit)
    (board : Nat)
    (r : EngineRequest) : Op DispatchError Machine Unit := do
  let ticket ← registerTicket board r.id
  match ← (take ⟨r, ticket⟩).attempt with
  | .ok _ => return ()
  | .error cause =>
    cancelTicket board r.id
    Op.fail cause

/- The requests to an engine are submitted so. -/
theorem submitThrough_submit
    (engine board : Nat)
    (r : EngineRequest) :
    submitThrough (submit engine) board r =
      submitRegistered engine board r :=
  rfl

/- The board has room for any request. -/
theorem registerTicket_tracks
    (hNone : m.Tracks key [])
    (id : RequestId) :
    ∃ t,
      registerTicket key id m = (.ok ⟨key, id⟩, t) ∧
        t.Tracks key [id] := by
  rcases hNone with ⟨b, hBoard, hDepth, hTracked⟩
  rcases Board.register_of_tracked hTracked hDepth id with
    ⟨b', hRegister, hSame, hOnly⟩
  refine
    ⟨{ m with boards := m.boards.set key b' }, ?_, b',
      Table.get?_set_self hBoard b', ?_, hOnly⟩
  · simp only [registerTicket, hBoard, hRegister]
  · rw [hSame]
    exact hDepth

theorem cancelTicket_tracks
    (hOnly : m.Tracks key [id]) :
    ((cancelTicket key id : Op ε Machine Unit)
      m).2.Tracks key [] := by
  rcases hOnly with ⟨b, hBoard, hDepth, hTracked⟩
  simp only [cancelTicket, Op.modify, hBoard]
  exact
    ⟨b.cancel id, Table.get?_set_self hBoard _, hDepth,
      Board.tracked_cancel hTracked⟩

/- What is tracked of a request after the engine's answer. -/
def idsTaken
    (id : RequestId) :
    Except DispatchError Unit → List RequestId
  | .ok _ => [id]
  | .error _ => []

/-
  What a submission answers is the answer of the engine, and
  the board tracks the request if the engine took it.
-/
theorem submitThrough_tracks
    {take : Submission → Op DispatchError Machine Unit}
    (hTake : ∀ s, Op.Moves (OnlyPosts key) (take s))
    (hNone : m.Tracks key [])
    (r : EngineRequest) :
    ∃ t,
      registerTicket key r.id m = (.ok ⟨key, r.id⟩, t) ∧
        (submitThrough take key r m).1 =
          (take ⟨r, ⟨key, r.id⟩⟩ t).1 ∧
        (submitThrough take key r m).2.Tracks key
          (idsTaken r.id (take ⟨r, ⟨key, r.id⟩⟩ t).1) := by
  rcases registerTicket_tracks hNone r.id with
    ⟨t, hRegister, hOnly⟩
  have hTaken :=
    hOnly.posts Nat.le.refl (hTake ⟨r, ⟨key, r.id⟩⟩ t)
  refine ⟨t, hRegister, ?_⟩
  simp only [submitThrough, bind, Op.bind, hRegister,
    Op.attempt]
  cases (take ⟨r, ⟨key, r.id⟩⟩ t).1 with
  | ok _ => exact ⟨rfl, hTaken⟩
  | error cause =>
      exact
        ⟨rfl, cancelTicket_tracks (ε := DispatchError) hTaken⟩

------------------------------------------------------------
-- Waiting
------------------------------------------------------------

/-
  How a wait ends: with a status, without one in time, or
  with an id that the board does not know.
-/
inductive WaitEnd where
  | answered (status : Status)
  | expired
  | unknown

/- The answer to a wait that ends so. -/
def WaitEnd.answer : WaitEnd → Except DispatchError Status
  | .answered status => .ok status
  | .expired => .error .timeout
  | .unknown => .error .messageLost

/-
  Look for the status of a request before each of some deeds,
  and then for the last time.
-/
def lookAmid
    (board : Nat)
    (id : RequestId) :
    List (Deed key) → Op DispatchError Machine WaitEnd
  | [] => do
    match ← lookOnBoard board id with
    | .done status => return .answered status
    | .unknown => return .unknown
    | .pending =>
      abandon board id
      return .expired
  | d :: rest => do
    match ← lookOnBoard board id with
    | .done status => return .answered status
    | .unknown => return .unknown
    | .pending =>
      Op.modify d.act
      lookAmid board id rest

/- Wait for the status of a request while things happen. -/
def waitAmid
    (board : Nat)
    (id : RequestId)
    (deeds : List (Deed key)) :
    Op DispatchError Machine Status := do
  let e ← lookAmid board id deeds
  Op.ofExcept e.answer

/- A board is looked at that is there. -/
theorem lookOnBoard_run
    {b : Board}
    (hBoard : m.boards.get? key = some b)
    (id : RequestId) :
    (lookOnBoard key id : Op ε Machine Look) m =
      (.ok (b.look id).1,
        { m with
          boards := m.boards.set key (b.look id).2 }) := by
  simp only [lookOnBoard, Op.update, hBoard]

/-
  Whoever looks for the id finds it answered or awaited, and
  can give up on it then.
-/
theorem lookOnBoard_tracks
    (hOnly : m.Tracks key [id]) :
    (∃ status t,
      (lookOnBoard key id : Op ε Machine Look) m =
          (.ok (.done status), t) ∧
        t.Tracks key []) ∨
    ∃ t,
      (lookOnBoard key id : Op ε Machine Look) m =
          (.ok .pending, t) ∧
        t.Tracks key [id] ∧
        ((abandon key id : Op ε Machine Unit)
          t).2.Tracks key [] := by
  rcases hOnly with ⟨b, hBoard, hDepth, hTracked⟩
  have hRun := lookOnBoard_run (ε := ε) hBoard id
  have hSet := Table.get?_set_self hBoard
  rcases Board.look_of_tracked hTracked with
    ⟨status, b', hLook, hSame, hNone⟩ | ⟨hLook, hNone⟩
  · rw [hLook] at hRun
    exact
      Or.inl
        ⟨status, _, hRun, b', hSet b', hSame ▸ hDepth, hNone⟩
  · rw [hLook] at hRun
    refine
      Or.inr
        ⟨_, hRun, ⟨b, hSet b, hDepth, hTracked⟩,
          b.abandon id, ?_, hDepth, hNone⟩
    simp only [abandon, Op.modify, hSet b]
    exact Table.get?_set_self (hSet b) _

/-
  The id is known whenever it is looked for, and in the end
  the board tracks it no longer.
-/
theorem lookAmid_tracks
    (hOnly : m.Tracks key [id])
    (deeds : List (Deed key)) :
    ∃ e t,
      lookAmid key id deeds m = (.ok e, t) ∧
        e ≠ .unknown ∧ t.Tracks key [] := by
  induction deeds generalizing m with
  | nil =>
      rcases lookOnBoard_tracks (ε := DispatchError) hOnly with
        ⟨status, t, hLook, hNone⟩ | ⟨t, hLook, _, hNone⟩
      · refine ⟨.answered status, t, ?_, by simp, hNone⟩
        simp only [lookAmid, bind, Op.bind, hLook]
        rfl
      · refine ⟨.expired, _, ?_, by simp, hNone⟩
        simp only [lookAmid, bind, Op.bind, hLook]
        rfl
  | cons d rest ih =>
      rcases lookOnBoard_tracks (ε := DispatchError) hOnly with
        ⟨status, t, hLook, hNone⟩ | ⟨t, hLook, hStill, _⟩
      · refine ⟨.answered status, t, ?_, by simp, hNone⟩
        simp only [lookAmid, bind, Op.bind, hLook]
        rfl
      · have hNext := hStill.posts Nat.le.refl (d.posts t)
        rcases ih hNext with ⟨e, u, hRest, hKnown, hNone⟩
        refine ⟨e, u, ?_, hKnown, hNone⟩
        simp only [lookAmid, bind, Op.bind, hLook]
        exact hRest

/- The wait on a board is one amid the passing of time. -/
theorem waitFor_eq
    (board : Nat)
    (id : RequestId)
    (timeout : Duration)
    (engine : Nat) :
    waitFor board id timeout =
      waitAmid board id
        ((FreeEngine.ofMachine engine key).meanwhile
          timeout) := by
  funext m
  simp only [waitFor, waitAmid, lookAmid, FreeEngine.ofMachine,
    bind, Op.bind]
  cases hBoard : m.boards.get? board with
  | none =>
      simp only [lookOnBoard, Op.update, hBoard]
      rfl
  | some b =>
      have hFirst :=
        lookOnBoard_run (ε := DispatchError) hBoard id
      rcases Board.look_cases id b with
        ⟨status, _, hLook⟩ | ⟨_, hLook⟩ | hLook
      · rw [hLook] at hFirst
        simp only [hFirst]
        rfl
      · rw [hLook] at hFirst
        -- the board is still the same when time has passed
        have hLater :
            (advanceBy timeout
                { m with
                  boards := m.boards.set board b
                }).boards.get? board =
              some b := by
          rw [boards_advanceBy]
          exact Table.get?_set_self hBoard b
        have hSecond :=
          lookOnBoard_run (ε := DispatchError) hLater id
        rw [hLook] at hSecond
        simp only [hFirst, Op.bind, Op.modify, hSecond]
        rfl
      · rw [hLook] at hFirst
        simp only [hFirst]
        rfl

end Machine

end Offload
