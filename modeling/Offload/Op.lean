/-
  Operations on a state that outlives failure.

  A failed operation does not undo what it did before it
  failed: a fault already consumed stays consumed and a log
  entry already written stays written. The result and the
  state are therefore returned side by side.

  Key definitions include:
    * `Op`
    * `Op.fail`
    * `Op.attempt`
    * `Op.mapError`
    * `Lens`
    * `Op.within`
    * `Op.each`
-/

------------------------------------------------------------
-- Operations
------------------------------------------------------------

namespace Offload

/-
  An operation with errors in `ε` on a state `σ`.
-/
def Op
    (ε σ α : Type) : Type :=
  σ → Except ε α × σ

namespace Op

variable {ε ε' σ τ α β : Type}

/- Answer without touching the state. -/
def pure
    (a : α) : Op ε σ α :=
  fun s => (.ok a, s)

/- Run one operation and continue unless it failed. -/
def bind
    (x : Op ε σ α)
    (f : α → Op ε σ β) : Op ε σ β :=
  fun s =>
    match x s with
    | (.ok a, s') => f a s'
    | (.error e, s') => (.error e, s')

instance : Monad (Op ε σ) where
  pure := Op.pure
  bind := Op.bind

theorem bind_assoc
    {γ : Type}
    (x : Op ε σ α)
    (f : α → Op ε σ β)
    (g : β → Op ε σ γ) :
    bind (bind x f) g = bind x fun a => bind (f a) g := by
  funext s
  simp only [bind]
  cases h : x s with
  | mk r s' => cases r <;> rfl

theorem bind_pure
    (x : Op ε σ α) : bind x Op.pure = x := by
  funext s
  simp only [bind]
  cases h : x s with
  | mk r s' => cases r <;> rfl

instance : LawfulMonad (Op ε σ) :=
  LawfulMonad.mk' (Op ε σ)
    bind_pure
    (fun _ _ => rfl)
    bind_assoc

/- Fail and leave the state as it is. -/
def fail
    (e : ε) : Op ε σ α :=
  fun s => (.error e, s)

/- The state. -/
def get : Op ε σ σ :=
  fun s => (.ok s, s)

/- A function of the state. -/
def gets
    (f : σ → α) : Op ε σ α :=
  fun s => (.ok (f s), s)

/- Replace the state. -/
def set
    (s : σ) : Op ε σ Unit :=
  fun _ => (.ok (), s)

/- Change the state. -/
def modify
    (f : σ → σ) : Op ε σ Unit :=
  fun s => (.ok (), f s)

/- Change the state and answer. -/
def update
    (f : σ → α × σ) : Op ε σ α :=
  fun s => (.ok (f s).1, (f s).2)

/- A result that is already there. -/
def ofExcept
    (r : Except ε α) : Op ε σ α :=
  fun s => (r, s)

/- An optional result, with the error for its absence. -/
def ofOption
    (e : ε)
    (r : Option α) : Op ε σ α :=
  match r with
  | some a => Op.pure a
  | none => fail e

/-
  Run an operation and return its failure as a value, so
  that cleanup can follow.
-/
def attempt
    (x : Op ε σ α) : Op ε' σ (Except ε α) :=
  fun s => (.ok (x s).1, (x s).2)

/- Run an operation with its error put in other terms. -/
def mapError
    (f : ε → ε')
    (x : Op ε σ α) : Op ε' σ α :=
  fun s =>
    match x s with
    | (.ok a, s') => (.ok a, s')
    | (.error e, s') => (.error (f e), s')

/-
  Run an operation whose failure is only of interest to the
  callback, as when a resource is given back.
-/
def orElse
    (x : Op ε σ Unit)
    (onError : ε → Op ε' σ Unit) : Op ε' σ Unit :=
  fun s =>
    match x s with
    | (.ok _, s') => (.ok (), s')
    | (.error e, s') => onError e s'

/- Change the state and answer, unless the change is refused. -/
def change
    (f : σ → Except ε (α × σ)) : Op ε σ α :=
  fun s =>
    match f s with
    | .ok (a, s') => (.ok a, s')
    | .error e => (.error e, s)

/- The state after an operation. -/
def exec
    (x : Op ε σ α)
    (s : σ) : σ :=
  (x s).2

end Op

------------------------------------------------------------
-- Parts of a State
------------------------------------------------------------

/-
  A part of a state: how to read it and how to put it back.
-/
structure Lens (σ τ : Type) where
  get : σ → τ
  set : τ → σ → σ

namespace Lens

variable {σ τ ρ : Type}

/- The first component of a pair. -/
def fst : Lens (σ × τ) σ :=
  ⟨Prod.fst, fun a p => (a, p.2)⟩

/- The second component of a pair. -/
def snd : Lens (σ × τ) τ :=
  ⟨Prod.snd, fun b p => (p.1, b)⟩

/- A part of a part. -/
def comp
    (l : Lens σ τ)
    (m : Lens τ ρ) : Lens σ ρ :=
  ⟨fun s => m.get (l.get s),
   fun r s => l.set (m.set r (l.get s)) s⟩

/- Two parts seen as one pair. -/
def both
    (l : Lens σ τ)
    (m : Lens σ ρ) : Lens σ (τ × ρ) :=
  ⟨fun s => (l.get s, m.get s),
   fun p s => m.set p.2 (l.set p.1 s)⟩

end Lens

namespace Op

variable {ε σ τ ρ α : Type}

/- Run an operation on a part of the state. -/
def within
    (l : Lens σ τ)
    (x : Op ε τ α) : Op ε σ α :=
  fun s =>
    let r := x (l.get s)
    (r.1, l.set r.2 s)

/-
  Run an operation on every item of a list in order. The
  first failure ends the walk; items before it keep their
  change and the failing item keeps what it became.
-/
def eachOf
    (f : Op ε (ρ × σ) Unit) :
    List ρ → σ → Except ε Unit × (List ρ × σ)
  | [], s => (.ok (), ([], s))
  | x :: rest, s =>
    match f (x, s) with
    | (.ok _, (x', s')) =>
      let r := eachOf f rest s'
      (r.1, (x' :: r.2.1, r.2.2))
    | (.error e, (x', s')) =>
      (.error e, (x' :: rest, s'))

/- `eachOf` as an operation on the list and the state. -/
def each
    (f : Op ε (ρ × σ) Unit) : Op ε (List ρ × σ) Unit :=
  fun p => eachOf f p.1 p.2

/-
  Run an operation with a value of its own beside the state
  and return the value also after a failure.
-/
def beside
    {ε' : Type}
    (x : ρ)
    (f : Op ε (ρ × σ) α) : Op ε' σ (Except ε α × ρ) :=
  fun s =>
    match f (x, s) with
    | (r, (x', s')) => (.ok (r, x'), s')

end Op

end Offload
