import Mathlib.Order.Defs.Unbundled
import Offload.Op

/-
  What operations do to a state whatever their result.

  An operation that is built from parts which all move the
  state along a preorder moves it along the preorder. Where
  what holds between the parts is not the same all along,
  each part has a condition before and one after it. Two
  operations on different states correspond if a map between
  the states takes the steps of one to the steps of the
  other.

  Key definitions include:
    * `Op.Moves`
    * `Op.Second`
    * `Op.Ensures`
    * `Op.Follows`

  Main results:
    * `Op.Moves.bind`
    * `Op.Ensures.bind`
    * `Op.Follows.bind`
-/

namespace Offload

namespace Op

variable {ε ε' σ τ α β : Type}

/- Leaving the answer out changes nothing else. -/
theorem discard_run
    (x : Op ε σ α)
    (s : σ) :
    (discard x : Op ε σ Unit) s =
      ((x s).1.map fun _ => (), (x s).2) := by
  change Op.bind x (fun _ => Op.pure ()) s = _
  unfold Op.bind
  cases x s with
  | mk result t => cases result <;> rfl

theorem mapError_run
    (f : ε → ε')
    (x : Op ε σ α)
    (s : σ) :
    mapError f x s = ((x s).1.mapError f, (x s).2) := by
  unfold mapError
  cases x s with
  | mk result t => cases result <;> rfl

/- What follows an operation that did not fail. -/
theorem run_bind_of_ok
    {x : Op ε σ α}
    {s : σ}
    {a : α}
    (h : (x s).1 = .ok a)
    (f : α → Op ε σ β) : (x >>= f) s = f a (x s).2 := by
  change Op.bind x f s = _
  unfold Op.bind
  cases hRun : x s with
  | mk result t =>
      rw [hRun] at h
      cases h
      rfl

/- What is done one after the other to a part of a pair. -/
theorem within_snd_bind
    (x : Op ε τ α)
    (f : α → Op ε τ β) :
    (within Lens.snd (x >>= f) : Op ε (σ × τ) β) =
      within Lens.snd x >>= fun a =>
        within Lens.snd (f a) := by
  funext p
  change
    within Lens.snd (Op.bind x f) p =
      Op.bind (within Lens.snd x)
        (fun a => within Lens.snd (f a)) p
  simp only [within, Op.bind]
  cases hRun : x (Lens.snd.get p) with
  | mk result t =>
      cases result with
      | error e => rfl
      | ok a => rfl

------------------------------------------------------------
-- Moves
------------------------------------------------------------

/- The state after an operation is one that `R` allows. -/
def Moves
    (R : σ → σ → Prop)
    (x : Op ε σ α) : Prop :=
  ∀ s, R s (x s).2

section Moves

variable {R : σ → σ → Prop}

theorem Moves.of_run
    {x : Op ε σ α}
    (hx : Moves R x)
    {s t : σ}
    {result : Except ε α}
    (hRun : x s = (result, t)) : R s t := by
  have hMove := hx s
  rwa [hRun] at hMove

theorem Moves.pure
    [Std.Refl R]
    (a : α) : Moves R (Op.pure a : Op ε σ α) :=
  Std.Refl.refl

theorem Moves.fail
    [Std.Refl R]
    (e : ε) : Moves R (Op.fail e : Op ε σ α) :=
  Std.Refl.refl

theorem Moves.ofExcept
    [Std.Refl R]
    (r : Except ε α) : Moves R (Op.ofExcept r : Op ε σ α) :=
  Std.Refl.refl

theorem Moves.attempt
    {x : Op ε σ α}
    (hx : Moves R x) :
    Moves R (x.attempt : Op ε' σ (Except ε α)) :=
  hx

theorem Moves.mapError
    {x : Op ε σ α}
    (hx : Moves R x)
    (f : ε → ε') : Moves R (mapError f x) := by
  intro s
  have hFirst := hx s
  unfold Op.mapError
  cases hRun : x s with
  | mk result t =>
      rw [hRun] at hFirst
      cases result <;> exact hFirst

theorem Moves.get_bind
    {f : σ → Op ε σ α}
    (hf : ∀ s, R s (f s s).2) : Moves R (Op.get >>= f) :=
  hf

/- Whatever is seen of the state, what follows moves it. -/
theorem Moves.seeing
    {f : σ → Op ε σ α}
    (hf : ∀ s, Moves R (f s)) : Moves R (Op.get >>= f) :=
  fun s => hf s s

variable [IsTrans σ R]

theorem Moves.bind
    {x : Op ε σ α}
    {f : α → Op ε σ β}
    (hx : Moves R x)
    (hf : ∀ a, Moves R (f a)) : Moves R (x >>= f) := by
  intro s
  have hFirst := hx s
  change R s (Op.bind x f s).2
  unfold Op.bind
  cases hRun : x s with
  | mk result t =>
      rw [hRun] at hFirst
      cases result with
      | error e => exact hFirst
      | ok a => exact IsTrans.trans _ _ _ hFirst (hf a t)

theorem Moves.orElse
    {x : Op ε σ Unit}
    {onError : ε → Op ε' σ Unit}
    (hx : Moves R x)
    (hError : ∀ e, Moves R (onError e)) :
    Moves R (x.orElse onError) := by
  intro s
  have hFirst := hx s
  unfold Op.orElse
  cases hRun : x s with
  | mk result t =>
      rw [hRun] at hFirst
      cases result with
      | error e => exact IsTrans.trans _ _ _ hFirst (hError e t)
      | ok a => exact hFirst

end Moves

section Second

variable {R : σ → σ → Prop}

/- The second part of a pair moves along `R`. -/
def Second
    (R : σ → σ → Prop)
    (s t : τ × σ) : Prop :=
  R s.2 t.2

instance [Std.Refl R] : Std.Refl (Second (τ := τ) R) where
  refl s := Std.Refl.refl s.2

instance [IsTrans σ R] :
    IsTrans (τ × σ) (Second R) where
  trans _ _ _ hFirst hNext :=
    IsTrans.trans (r := R) _ _ _ hFirst hNext

theorem Moves.within_snd
    {x : Op ε σ α}
    (hx : Moves R x) :
    Moves (Second R)
      (within Lens.snd x : Op ε (τ × σ) α) :=
  fun s => hx s.2

theorem Moves.within_fst
    [Std.Refl R]
    (x : Op ε τ α) :
    Moves (Second R)
      (within Lens.fst x : Op ε (τ × σ) α) :=
  fun s => Std.Refl.refl s.2

theorem Moves.beside
    {x : Op ε (τ × σ) α}
    (hx : Moves (Second R) x)
    (t : τ) :
    Moves R
      (beside t x : Op ε' σ (Except ε α × τ)) :=
  fun s => hx (t, s)

end Second

------------------------------------------------------------
-- Conditions
------------------------------------------------------------

/-
  An operation that begins where `P` holds ends where `Q`
  holds, of its answer and of the state.
-/
def Ensures
    (P : σ → Prop)
    (x : Op ε σ α)
    (Q : Except ε α → σ → Prop) : Prop :=
  ∀ s, P s → Q (x s).1 (x s).2

section Ensures

variable {P : σ → Prop}
variable {x : Op ε σ α}
variable {f : α → Op ε σ β}

theorem Ensures.imp
    {P' : σ → Prop}
    {Q Q' : Except ε α → σ → Prop}
    (hx : Ensures P x Q)
    (hBefore : ∀ s, P' s → P s)
    (hAfter : ∀ r s, Q r s → Q' r s) : Ensures P' x Q' :=
  fun s h => hAfter _ _ (hx s (hBefore s h))

/- What is known all along is a hypothesis. -/
theorem Ensures.of_known
    {known : Prop}
    {Q : Except ε α → σ → Prop}
    (hx : known → Ensures P x Q) :
    Ensures (fun s => P s ∧ known) x Q :=
  fun s h => hx h.2 s h.1

theorem Ensures.pure
    {Q : Except ε α → σ → Prop}
    {a : α}
    (h : ∀ s, P s → Q (.ok a) s) :
    Ensures P (Op.pure a) Q :=
  h

theorem Ensures.fail
    {Q : Except ε α → σ → Prop}
    {e : ε}
    (h : ∀ s, P s → Q (.error e) s) :
    Ensures P (Op.fail e) Q :=
  h

theorem Ensures.ofExcept
    {Q : Except ε α → σ → Prop}
    {r : Except ε α}
    (h : ∀ s, P s → Q r s) : Ensures P (Op.ofExcept r) Q :=
  h

/- What follows an operation begins where that one ended. -/
theorem Ensures.bind
    {Q : Except ε α → σ → Prop}
    {R : Except ε β → σ → Prop}
    (hx : Ensures P x Q)
    (hf : ∀ a, Ensures (Q (.ok a)) (f a) R)
    (hError : ∀ e s, Q (.error e) s → R (.error e) s) :
    Ensures P (x >>= f) R := by
  intro s h
  have hFirst := hx s h
  change R (Op.bind x f s).1 (Op.bind x f s).2
  unfold Op.bind
  cases hRun : x s with
  | mk result t =>
      rw [hRun] at hFirst
      cases result with
      | error e => exact hError e t hFirst
      | ok a => exact hf a t hFirst

/- The first operation is one that does not fail. -/
theorem Ensures.bind_of_ok
    {a : α}
    {Q : Except ε α → σ → Prop}
    {R : Except ε β → σ → Prop}
    (hx : Ensures P x Q)
    (hOk : ∀ s, (x s).1 = .ok a)
    (hf : Ensures (Q (.ok a)) (f a) R) :
    Ensures P (x >>= f) R := by
  intro s h
  have hFirst := hx s h
  rw [hOk s] at hFirst
  rw [run_bind_of_ok (hOk s)]
  exact hf _ hFirst

/- A failure is looked at before anything else happens. -/
theorem Ensures.attempt_bind
    {g : Except ε α → Op ε' σ β}
    {Q : Except ε α → σ → Prop}
    {R : Except ε' β → σ → Prop}
    (hx : Ensures P x Q)
    (hg : ∀ r, Ensures (Q r) (g r) R) :
    Ensures P (x.attempt >>= g) R :=
  fun s h => hg _ _ (hx s h)

theorem Ensures.orElse
    {y : Op ε σ Unit}
    {onError : ε → Op ε' σ Unit}
    {Q : Except ε Unit → σ → Prop}
    {R : Except ε' Unit → σ → Prop}
    (hy : Ensures P y Q)
    (hOk : ∀ s, Q (.ok ()) s → R (.ok ()) s)
    (hError : ∀ e, Ensures (Q (.error e)) (onError e) R) :
    Ensures P (y.orElse onError) R := by
  intro s h
  have hFirst := hy s h
  unfold Op.orElse
  cases hRun : y s with
  | mk result t =>
      rw [hRun] at hFirst
      cases result with
      | error e => exact hError e t hFirst
      | ok a => exact hOk t hFirst

/- What follows a look at the state. -/
theorem Ensures.get_bind
    {g : σ → Op ε σ α}
    {Q : Except ε α → σ → Prop}
    (hg : ∀ s, P s → Q (g s s).1 (g s s).2) :
    Ensures P (Op.get >>= g) Q :=
  hg

/- The second part of a pair is used. -/
theorem Ensures.within_snd
    {P : τ × σ → Prop}
    {Q : Except ε α → τ × σ → Prop}
    (hx :
      ∀ t,
        Ensures (fun s => P (t, s)) x fun r s => Q r (t, s)) :
    Ensures P (Op.within Lens.snd x) Q :=
  fun p h => hx p.1 p.2 h

/- The answer of what is run beside a value has the value. -/
theorem Ensures.beside
    {y : Op ε (τ × σ) α}
    {P : τ × σ → Prop}
    {Q : Except ε α → τ × σ → Prop}
    (hy : Ensures P y Q)
    (t : τ) :
    Ensures (fun s => P (t, s))
      (Op.beside t y : Op ε' σ (Except ε α × τ))
      fun r s => ∃ a, r = .ok a ∧ Q a.1 (a.2, s) :=
  fun s h => ⟨_, rfl, hy (t, s) h⟩

end Ensures

------------------------------------------------------------
-- Correspondence
------------------------------------------------------------

/-
  What `y` does to the image of a state is the image of what
  `x` does to the state, with the same result.
-/
def Follows
    (f : σ → τ)
    (x : Op ε σ α)
    (y : Op ε τ α) : Prop :=
  ∀ s, y (f s) = ((x s).1, f (x s).2)

section Follows

variable {f : σ → τ}

theorem Follows.pure
    (a : α) :
    Follows f (Op.pure a : Op ε σ α) (Op.pure a) :=
  fun _ => rfl

theorem Follows.fail
    (e : ε) :
    Follows f (Op.fail e : Op ε σ α) (Op.fail e) :=
  fun _ => rfl

theorem Follows.bind
    {x : Op ε σ α}
    {y : Op ε τ α}
    {g : α → Op ε σ β}
    {h : α → Op ε τ β}
    (hxy : Follows f x y)
    (hgh : ∀ a, Follows f (g a) (h a)) :
    Follows f (x >>= g) (y >>= h) := by
  intro s
  change
    Op.bind y h (f s) =
      ((Op.bind x g s).1, f (Op.bind x g s).2)
  unfold Op.bind
  rw [hxy s]
  cases hRun : x s with
  | mk result t =>
      cases result with
      | error e => rfl
      | ok a => exact hgh a t

/- The state is read on both sides. -/
theorem Follows.get_bind
    {g : σ → Op ε σ α}
    {h : τ → Op ε τ α}
    (hgh : ∀ s, Follows f (g s) (h (f s))) :
    Follows f (Op.get >>= g) (Op.get >>= h) :=
  fun s => hgh s s

theorem Follows.ite
    {c : Prop}
    [Decidable c]
    {x x' : Op ε σ α}
    {y y' : Op ε τ α}
    (hThen : Follows f x y)
    (hElse : Follows f x' y') :
    Follows f (if c then x else x') (if c then y else y') := by
  by_cases hc : c
  · rw [if_pos hc, if_pos hc]
    exact hThen
  · rw [if_neg hc, if_neg hc]
    exact hElse

theorem Follows.discard
    {x : Op ε σ α}
    {y : Op ε τ α}
    (hxy : Follows f x y) :
    Follows f (discard x : Op ε σ Unit) (discard y) := by
  intro s
  rw [discard_run, discard_run, hxy s]

theorem Follows.attempt
    {x : Op ε σ α}
    {y : Op ε τ α}
    (hxy : Follows f x y) :
    Follows f (x.attempt : Op ε' σ (Except ε α))
      y.attempt := by
  intro s
  simp only [Op.attempt, hxy s]

theorem Follows.orElse
    {x : Op ε σ Unit}
    {y : Op ε τ Unit}
    {g : ε → Op ε' σ Unit}
    {h : ε → Op ε' τ Unit}
    (hxy : Follows f x y)
    (hgh : ∀ e, Follows f (g e) (h e)) :
    Follows f (x.orElse g) (y.orElse h) := by
  intro s
  unfold Op.orElse
  rw [hxy s]
  cases hRun : x s with
  | mk result t =>
      cases result with
      | error e => exact hgh e t
      | ok a => rfl

end Follows

end Op

end Offload
