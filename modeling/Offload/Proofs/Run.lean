/-
  Runs of systems whose next state an event decides.

  What several threads do to a shared thing is a run: each
  event is what one thread does in one go, and the order of
  the events is arbitrary. An event that cannot happen in a
  state leaves the state as it is.

  Key definitions include:
    * `Run.after`
    * `Run.states`
    * `Run.moves`
    * `Run.Reaches`

  Main results:
    * `Run.forall_states`
    * `Run.forall_states_of_moves`
    * `Run.countP_rises`
-/

namespace Offload

namespace Run

variable {σ ε : Type}

------------------------------------------------------------
-- Runs
------------------------------------------------------------

/- The state that a run ends in. -/
def after
    (step : ε → σ → σ)
    (es : List ε)
    (s : σ) : σ :=
  es.foldl (fun t e => step e t) s

/- The states of a run, the first and the last included. -/
def states
    (step : ε → σ → σ) : List ε → σ → List σ
  | [], s => [s]
  | e :: rest, s => s :: states step rest (step e s)

/- The events of a run, each with the state it happens in. -/
def moves
    (step : ε → σ → σ) : List ε → σ → List (σ × ε)
  | [], _ => []
  | e :: rest, s => (s, e) :: moves step rest (step e s)

------------------------------------------------------------
-- Parts of a Run
------------------------------------------------------------

variable {step : ε → σ → σ}

/- A run passes through its first state. -/
theorem start_mem_states
    (es : List ε)
    (s : σ) : s ∈ states step es s := by
  cases es with
  | nil => exact List.mem_singleton_self s
  | cons e rest => exact List.mem_cons_self

/- One run after another. -/
theorem after_append
    (front back : List ε)
    (s : σ) :
    after step (front ++ back) s =
      after step back (after step front s) :=
  List.foldl_append

/- A run passes through its last state. -/
theorem after_mem_states
    (es : List ε)
    (s : σ) :
    after step es s ∈ states step es s := by
  induction es generalizing s with
  | nil => exact List.mem_singleton_self s
  | cons e rest ih =>
      exact List.mem_cons_of_mem _ (ih (step e s))

/- A run passes through the last state of its beginning. -/
theorem after_mem_states_append
    (front back : List ε)
    (s : σ) :
    after step front s ∈ states step (front ++ back) s := by
  induction front generalizing s with
  | nil => exact start_mem_states back s
  | cons e rest ih =>
      exact List.mem_cons_of_mem _ (ih (step e s))

/- A run passes through all states of its end. -/
theorem states_append_right
    (front back : List ε)
    (s : σ)
    {t : σ}
    (hMem : t ∈ states step back (after step front s)) :
    t ∈ states step (front ++ back) s := by
  induction front generalizing s with
  | nil => exact hMem
  | cons e rest ih =>
      exact List.mem_cons_of_mem _ (ih (step e s) hMem)

/- A run passes through the states around each event. -/
theorem mem_states_of_mem_moves
    {es : List ε}
    {s t : σ}
    {e : ε}
    (hMove : (t, e) ∈ moves step es s) :
    t ∈ states step es s ∧
      step e t ∈ states step es s := by
  induction es generalizing s with
  | nil => cases hMove
  | cons f rest ih =>
      rcases List.mem_cons.mp hMove with hHere | hLater
      · cases hHere
        exact
          ⟨List.mem_cons_self,
            List.mem_cons_of_mem _
              (start_mem_states rest (step e t))⟩
      · exact
          ⟨List.mem_cons_of_mem _ (ih hLater).1,
            List.mem_cons_of_mem _ (ih hLater).2⟩

/- The events of a run are those that it is made of. -/
theorem event_mem_of_mem_moves
    {es : List ε}
    {s t : σ}
    {e : ε}
    (hMove : (t, e) ∈ moves step es s) : e ∈ es := by
  induction es generalizing s with
  | nil => cases hMove
  | cons f rest ih =>
      rcases List.mem_cons.mp hMove with hHere | hLater
      · cases hHere
        exact List.mem_cons_self
      · exact List.mem_cons_of_mem _ (ih hLater)

/- A run has the events of its end. -/
theorem moves_append_right
    (front back : List ε)
    (s : σ)
    {move : σ × ε}
    (hMove : move ∈ moves step back (after step front s)) :
    move ∈ moves step (front ++ back) s := by
  induction front generalizing s with
  | nil => exact hMove
  | cons e rest ih =>
      exact List.mem_cons_of_mem _ (ih (step e s) hMove)

------------------------------------------------------------
-- Invariants
------------------------------------------------------------

/-
  What holds at first and what every event of a run keeps
  holds in all states of the run.
-/
theorem forall_states_of_moves
    {P : σ → Prop}
    {es : List ε}
    {s : σ}
    (hStart : P s)
    (hMoves :
      ∀ t e, (t, e) ∈ moves step es s → P t → P (step e t)) :
    ∀ t ∈ states step es s, P t := by
  induction es generalizing s with
  | nil =>
      intro t ht
      rw [List.mem_singleton.mp ht]
      exact hStart
  | cons e rest ih =>
      have hNext : P (step e s) :=
        hMoves s e List.mem_cons_self hStart
      have hRest :
          ∀ t ∈ states step rest (step e s), P t :=
        ih hNext fun t f hMove =>
          hMoves t f (List.mem_cons_of_mem _ hMove)
      intro t ht
      rcases List.mem_cons.mp ht with rfl | hLater
      · exact hStart
      · exact hRest t hLater

/-
  What holds at first and what every event keeps holds in
  all states of a run.
-/
theorem forall_states
    {P : σ → Prop}
    (hStep : ∀ t e, P t → P (step e t))
    (es : List ε)
    {s : σ}
    (hStart : P s) :
    ∀ t ∈ states step es s, P t :=
  forall_states_of_moves hStart fun t e _ => hStep t e

/-
  What no event ends begins at most once, and not at all if
  it is so from the start.
-/
theorem countP_rises
    {f : σ → Bool}
    {es : List ε}
    {s : σ}
    (hKeeps :
      ∀ t e, (t, e) ∈ moves step es s →
        f t = true → f (step e t) = true) :
    (if f s then 1 else 0) +
        (moves step es s).countP
          (fun m => !f m.1 && f (step m.2 m.1)) =
      if f (after step es s) then 1 else 0 := by
  induction es generalizing s with
  | nil => rfl
  | cons e rest ih =>
      have hFirst := hKeeps s e List.mem_cons_self
      have hRest :=
        ih (s := step e s) fun t e' hMove =>
          hKeeps t e' (List.mem_cons_of_mem _ hMove)
      rw [after, List.foldl_cons, ← after, ← hRest, moves,
        List.countP_cons]
      cases hBefore : f s with
      | false => simp [Nat.add_comm]
      | true => simp [hFirst hBefore]

------------------------------------------------------------
-- Reachability
------------------------------------------------------------

/- Some events lead from one state to another. -/
def Reaches
    (step : ε → σ → σ)
    (s t : σ) : Prop :=
  ∃ es, after step es s = t

theorem Reaches.refl
    (s : σ) : Reaches step s s :=
  ⟨[], rfl⟩

theorem Reaches.trans
    {s t u : σ}
    (hst : Reaches step s t)
    (htu : Reaches step t u) : Reaches step s u := by
  rcases hst with ⟨es, rfl⟩
  rcases htu with ⟨fs, rfl⟩
  exact ⟨es ++ fs, after_append es fs s⟩

/- What every event keeps holds in all states reached. -/
theorem Reaches.keep
    {P : σ → Prop}
    (hStep : ∀ t e, P t → P (step e t))
    {s t : σ}
    (hst : Reaches step s t)
    (hStart : P s) : P t := by
  rcases hst with ⟨es, rfl⟩
  exact
    forall_states hStep es hStart _ (after_mem_states es s)

/- One event leads to the state after it. -/
theorem reaches_step
    (e : ε)
    (s : σ) : Reaches step s (step e s) :=
  ⟨[e], rfl⟩

/- A state that is reached and the one after it. -/
theorem Reaches.next
    {s t : σ}
    (hst : Reaches step s t)
    (e : ε) : Reaches step s (step e t) :=
  hst.trans (reaches_step e t)

end Run

end Offload
