import Offload.Proofs.Op
import Offload.Proofs.Memory.Turns

/-
  What becomes of handles.

  An operation is given handles, beside those that its state
  holds, and leaves handles behind. It carries the ones to
  the others if events of holdings turn the ones into the
  others. An operation that is built from parts that carry
  handles carries them, whichever way it ends.

  Key definitions include:
    * `Custodian`
    * `Custodian.beside`
    * `Custodian.Splits`
    * `Op.Carries`

  Main results:
    * `Op.Carries.bind`
    * `Op.Carries.frame`
    * `Op.Carries.part`
    * `Op.Carries.keeps`
-/

namespace Offload

open Holdings

------------------------------------------------------------
-- Custodians
------------------------------------------------------------

/-
  Where a state has its platform, which handles it holds,
  and what holds of it between operations.
-/
structure Custodian (σ : Type) where
  platform : σ → Platform
  held : σ → List Handle
  sound : σ → Prop

namespace Custodian

/- A platform on which releases go through holds nothing. -/
def ofPlatform : Custodian Platform where
  platform := id
  held := fun _ => []
  sound := fun m => Releasing m.faults

/- Something that holds handles, beside a state. -/
def beside
    {σ τ : Type}
    (held : τ → List Handle)
    (sound : τ → Prop)
    (c : Custodian σ) : Custodian (τ × σ) where
  platform := fun p => c.platform p.2
  held := fun p => held p.1 ++ c.held p.2
  sound := fun p => sound p.1 ∧ c.sound p.2

/- Something without handles, beside the platform. -/
def bystander
    {τ : Type} : Custodian (τ × Platform) :=
  .beside (fun _ => []) (fun _ => True) ofPlatform

/-
  A state has a part that is a state of its own: what the
  part holds, and the rest, is what the state holds, also
  once the part is replaced.
-/
structure Splits
    {σ τ : Type}
    (c : Custodian σ)
    (d : Custodian τ)
    (s : σ)
    (t : τ)
    (put : τ → σ)
    (rest : List Handle) : Prop where
  sound : d.sound t
  platform : d.platform t = c.platform s
  held : (c.held s).Perm (d.held t ++ rest)
  back :
    ∀ t', d.sound t' →
      c.sound (put t') ∧
        c.platform (put t') = d.platform t' ∧
          (d.held t' ++ rest).Perm (c.held (put t'))

end Custodian

------------------------------------------------------------
-- Carrying
------------------------------------------------------------

namespace Op

variable {ε ε' σ τ α β : Type}

/-
  What an operation makes, in one state, of the handles it
  is given and of those that the state holds.
-/
def CarriesAt
    (c : Custodian σ)
    (s : σ)
    (before : List Handle)
    (x : Op ε σ α)
    (after : Except ε α → List Handle) : Prop :=
  c.sound (x s).2 ∧
    Turns (c.platform s) (before ++ c.held s)
      (c.platform (x s).2)
      (after (x s).1 ++ c.held (x s).2)

/-
  An operation makes the handles of its result out of those
  it is given.
-/
def Carries
    (c : Custodian σ)
    (before : List Handle)
    (x : Op ε σ α)
    (after : Except ε α → List Handle) : Prop :=
  ∀ s, c.sound s → CarriesAt c s before x after

section Carries

variable {c : Custodian σ}
variable {before : List Handle}

theorem CarriesAt.unchanged
    {s : σ}
    {x : Op ε σ α}
    {after : Except ε α → List Handle}
    (hSound : c.sound s)
    (hSame : (x s).2 = s)
    (hPerm : before.Perm (after (x s).1)) :
    CarriesAt c s before x after := by
  unfold CarriesAt
  rw [hSame]
  exact ⟨hSound, .of_perm (hPerm.append_right _) _⟩

theorem Carries.of_result
    {x : Op ε σ α}
    {after : Except ε α → List Handle}
    (hSame : ∀ s, (x s).2 = s)
    (hPerm : ∀ s, before.Perm (after (x s).1)) :
    Carries c before x after :=
  fun s hSound => .unchanged hSound (hSame s) (hPerm s)

theorem Carries.pure
    {a : α}
    {after : Except ε α → List Handle}
    (hPerm : before.Perm (after (.ok a))) :
    Carries c before (Op.pure a) after :=
  of_result (fun _ => rfl) fun _ => hPerm

theorem Carries.fail
    {e : ε}
    {after : Except ε α → List Handle}
    (hPerm : before.Perm (after (.error e))) :
    Carries c before (Op.fail e) after :=
  of_result (fun _ => rfl) fun _ => hPerm

theorem Carries.ofExcept
    {r : Except ε α}
    {after : Except ε α → List Handle}
    (hPerm : before.Perm (after r)) :
    Carries c before (Op.ofExcept r) after :=
  of_result (fun _ => rfl) fun _ => hPerm

/- Handles may be named in another order. -/
theorem Carries.perm
    {before' : List Handle}
    {x : Op ε σ α}
    {after after' : Except ε α → List Handle}
    (hx : Carries c before x after)
    (hBefore : before'.Perm before)
    (hAfter : ∀ r, (after r).Perm (after' r)) :
    Carries c before' x after' := by
  intro s hSound
  rcases hx s hSound with ⟨hSound', hTurns⟩
  refine ⟨hSound', ?_⟩
  have hFirst :=
    Turns.of_perm (hBefore.append_right (c.held s))
      (c.platform s)
  have hLast :=
    Turns.of_perm
      ((hAfter (x s).1).append_right (c.held (x s).2))
      (c.platform (x s).2)
  exact (hFirst.trans hTurns).trans hLast

/- Handles that an operation does not know of stay. -/
theorem CarriesAt.frame
    {s : σ}
    {x : Op ε σ α}
    {after : Except ε α → List Handle}
    (hx : CarriesAt c s before x after)
    (more : List Handle) :
    CarriesAt c s (before ++ more) x fun r =>
      after r ++ more := by
  rcases hx with ⟨hSound, hTurns⟩
  refine ⟨hSound, ?_⟩
  have hFirst :=
    Turns.of_perm
      (perm_right_comm before more (c.held s))
      (c.platform s)
  exact
    (hFirst.trans (hTurns.frame more)).perm
      (perm_right_comm _ _ more)

theorem Carries.frame
    {x : Op ε σ α}
    {after : Except ε α → List Handle}
    (hx : Carries c before x after)
    (more : List Handle) :
    Carries c (before ++ more) x fun r =>
      after r ++ more :=
  fun s hSound => (hx s hSound).frame more

/- What follows an operation goes on from its state. -/
theorem CarriesAt.bind
    {s : σ}
    {x : Op ε σ α}
    {f : α → Op ε σ β}
    {between : Except ε α → List Handle}
    {after : Except ε β → List Handle}
    (hx : CarriesAt c s before x between)
    (hf :
      ∀ a, (x s).1 = .ok a →
        CarriesAt c (x s).2 (between (.ok a)) (f a) after)
    (hError :
      ∀ e, (x s).1 = .error e →
        (between (.error e)).Perm (after (.error e))) :
    CarriesAt c s before (x >>= f) after := by
  change CarriesAt c s before (Op.bind x f) after
  unfold CarriesAt Op.bind at *
  cases hRun : x s with
  | mk result t =>
      rw [hRun] at hx hf hError
      cases result with
      | error e =>
          exact
            ⟨hx.1, hx.2.perm ((hError e rfl).append_right _)⟩
      | ok a =>
          have hNext := hf a rfl
          exact ⟨hNext.1, hx.2.trans hNext.2⟩

/-
  What follows an operation may rely on what is known of its
  answer.
-/
theorem Carries.bind_of
    {P : Except ε α → Prop}
    {x : Op ε σ α}
    {f : α → Op ε σ β}
    {between : Except ε α → List Handle}
    {after : Except ε β → List Handle}
    (hx : Carries c before x between)
    (hAnswer : ∀ s, P (x s).1)
    (hf :
      ∀ a, P (.ok a) →
        Carries c (between (.ok a)) (f a) after)
    (hError :
      ∀ e, P (.error e) →
        (between (.error e)).Perm (after (.error e))) :
    Carries c before (x >>= f) after := by
  intro s hSound
  have hKnown := hAnswer s
  apply (hx s hSound).bind
  · intro a hOk
    rw [hOk] at hKnown
    exact hf a hKnown _ (hx s hSound).1
  · intro e hFailed
    rw [hFailed] at hKnown
    exact hError e hKnown

theorem Carries.bind
    {x : Op ε σ α}
    {f : α → Op ε σ β}
    {between : Except ε α → List Handle}
    {after : Except ε β → List Handle}
    (hx : Carries c before x between)
    (hf : ∀ a, Carries c (between (.ok a)) (f a) after)
    (hError :
      ∀ e, (between (.error e)).Perm (after (.error e))) :
    Carries c before (x >>= f) after :=
  hx.bind_of (P := fun _ => True) (fun _ => trivial)
    (fun a _ => hf a) fun e _ => hError e

/- The first operation is one that does not fail. -/
theorem Carries.bind_of_ok
    {a : α}
    {x : Op ε σ α}
    {f : α → Op ε σ β}
    {between : Except ε α → List Handle}
    {after : Except ε β → List Handle}
    (hx : Carries c before x between)
    (hOk : ∀ s, (x s).1 = .ok a)
    (hf : Carries c (between (.ok a)) (f a) after) :
    Carries c before (x >>= f) after := by
  apply hx.bind_of (P := fun r => r = .ok a) hOk
  · rintro b ⟨⟩
    exact hf
  · rintro e ⟨⟩

/- A failure is looked at before anything else happens. -/
theorem Carries.attempt_bind_of
    {P : Except ε α → Prop}
    {x : Op ε σ α}
    {f : Except ε α → Op ε' σ β}
    {between : Except ε α → List Handle}
    {after : Except ε' β → List Handle}
    (hx : Carries c before x between)
    (hAnswer : ∀ s, P (x s).1)
    (hf : ∀ r, P r → Carries c (between r) (f r) after) :
    Carries c before (x.attempt >>= f) after := by
  intro s hSound
  have hFirst := hx s hSound
  have hNext := hf (x s).1 (hAnswer s) (x s).2 hFirst.1
  exact ⟨hNext.1, hFirst.2.trans hNext.2⟩

theorem Carries.attempt_bind
    {x : Op ε σ α}
    {f : Except ε α → Op ε' σ β}
    {between : Except ε α → List Handle}
    {after : Except ε' β → List Handle}
    (hx : Carries c before x between)
    (hf : ∀ r, Carries c (between r) (f r) after) :
    Carries c before (x.attempt >>= f) after :=
  hx.attempt_bind_of (P := fun _ => True) (fun _ => trivial)
    fun r _ => hf r

theorem Carries.mapError
    {f : ε → ε'}
    {x : Op ε σ α}
    {between : Except ε α → List Handle}
    {after : Except ε' α → List Handle}
    (hx : Carries c before x between)
    (hOk :
      ∀ a, (between (.ok a)).Perm (after (.ok a)))
    (hError :
      ∀ e, (between (.error e)).Perm (after (.error (f e)))) :
    Carries c before (x.mapError f) after := by
  intro s hSound
  have hFirst := hx s hSound
  unfold CarriesAt Op.mapError at *
  cases hRun : x s with
  | mk result t =>
      rw [hRun] at hFirst
      cases result with
      | error e =>
          exact
            ⟨hFirst.1,
              hFirst.2.perm ((hError e).append_right _)⟩
      | ok a =>
          exact
            ⟨hFirst.1,
              hFirst.2.perm ((hOk a).append_right _)⟩

theorem Carries.orElse
    {x : Op ε σ Unit}
    {onError : ε → Op ε' σ Unit}
    {between : Except ε Unit → List Handle}
    {after : Except ε' Unit → List Handle}
    (hx : Carries c before x between)
    (hOk : (between (.ok ())).Perm (after (.ok ())))
    (hError :
      ∀ e, Carries c (between (.error e)) (onError e) after) :
    Carries c before (x.orElse onError) after := by
  intro s hSound
  have hFirst := hx s hSound
  unfold CarriesAt Op.orElse at *
  cases hRun : x s with
  | mk result t =>
      rw [hRun] at hFirst
      cases result with
      | ok a =>
          exact
            ⟨hFirst.1, hFirst.2.perm (hOk.append_right _)⟩
      | error e =>
          have hNext := hError e t hFirst.1
          exact ⟨hNext.1, hFirst.2.trans hNext.2⟩

/- What follows a look at the state. -/
theorem Carries.get_bind_at
    {f : σ → Op ε σ α}
    {after : Except ε α → List Handle}
    (hf :
      ∀ s, c.sound s → CarriesAt c s before (f s) after) :
    Carries c before (Op.get >>= f) after :=
  fun s hSound => hf s hSound

theorem Carries.get_bind
    {f : σ → Op ε σ α}
    {after : Except ε α → List Handle}
    (hf : ∀ s, Carries c before (f s) after) :
    Carries c before (Op.get >>= f) after :=
  get_bind_at fun s => hf s s

/-
  A device that accounts for the handles that an operation
  is given, among any others, accounts for those that it
  leaves, if no window is left.
-/
theorem Carries.keeps
    {x : Op ε σ α}
    {after : Except ε α → List Handle}
    (hx : Carries c before x after)
    {s : σ}
    (hSound : c.sound s)
    {rest : List Handle}
    (hKeeps :
      (c.platform s).Keeps (before ++ c.held s ++ rest))
    (hInside :
      (c.platform (x s).2).device.CursorsInside) :
    (c.platform (x s).2).Keeps
      (after (x s).1 ++ c.held (x s).2 ++ rest) :=
  (hx s hSound).2.keeps hKeeps hInside

end Carries

------------------------------------------------------------
-- On the Platform
------------------------------------------------------------

theorem Carries.of_turns
    {before : List Handle}
    {x : Op ε Platform α}
    {after : Except ε α → List Handle}
    (hTurns : ∀ m, Turns m before (x m).2 (after (x m).1)) :
    Carries .ofPlatform before x after := by
  intro m hPlan
  refine ⟨(hTurns m).releasing hPlan, ?_⟩
  simp only [Custodian.ofPlatform, List.append_nil, id]
  exact hTurns m

/- What only records leaves handles alone. -/
theorem Carries.recorded
    {before : List Handle}
    {x : Op ε Platform α}
    {after : Except ε α → List Handle}
    (hSame :
      ∀ m, (x m).2.device = m.device ∧
        (x m).2.faults = m.faults)
    (hPerm : ∀ r, before.Perm (after r)) :
    Carries .ofPlatform before x after :=
  of_turns fun m =>
    (Turns.recorded (hSame m)).perm (hPerm _)

------------------------------------------------------------
-- On Parts of a State
------------------------------------------------------------

section Parts

variable {c : Custodian σ}
variable {d : Custodian τ}
variable {before : List Handle}
variable {after : Except ε α → List Handle}

/- What is done to a part is done to the state. -/
theorem CarriesAt.of_part
    {s : σ}
    {t : τ}
    {put : τ → σ}
    {rest : List Handle}
    {x : Op ε τ α}
    {y : Op ε σ α}
    (hSplits : c.Splits d s t put rest)
    (hx : CarriesAt d t before x after)
    (hRun : y s = ((x t).1, put (x t).2)) :
    CarriesAt c s before y after := by
  rcases hx with ⟨hSound, hTurns⟩
  rcases hSplits.back _ hSound with
    ⟨hSound', hPlatform, hHeld⟩
  have hAll := hTurns.frame rest
  rw [hSplits.platform, List.append_assoc, List.append_assoc]
    at hAll
  unfold CarriesAt
  rw [hRun, hPlatform]
  have hFirst :=
    Turns.of_perm (hSplits.held.append_left before)
      (c.platform s)
  exact
    ⟨hSound',
      (hFirst.trans hAll).perm (hHeld.append_left _)⟩

theorem Carries.part
    {l : Lens σ τ}
    {x : Op ε τ α}
    (hPart :
      ∀ s, c.sound s →
        ∃ rest,
          c.Splits d s (l.get s) (fun t => l.set t s) rest)
    (hx : Carries d before x after) :
    Carries c before (Op.within l x) after := by
  intro s hSound
  rcases hPart s hSound with ⟨rest, hSplits⟩
  exact .of_part hSplits (hx _ hSplits.sound) rfl

end Parts

section Beside

variable {held : τ → List Handle}
variable {sound : τ → Prop}
variable {c : Custodian σ}
variable {before : List Handle}

/- The state is used while handles are held beside it. -/
theorem Carries.within_snd
    {x : Op ε σ α}
    {after : Except ε α → List Handle}
    (hx : Carries c before x after) :
    Carries (.beside held sound c) before
      (Op.within Lens.snd x) after := by
  apply Carries.part _ hx
  rintro ⟨t, s⟩ ⟨hSound, hState⟩
  refine ⟨held t, hState, rfl, List.perm_append_comm, ?_⟩
  intro s' hState'
  exact ⟨⟨hSound, hState'⟩, rfl, List.perm_append_comm⟩

/- The handles that are held beside the state are used. -/
theorem CarriesAt.within_snd
    {t : τ}
    {s : σ}
    {x : Op ε σ α}
    {after : Except ε α → List Handle}
    (hSound : sound t)
    (hx :
      CarriesAt c s (before ++ held t) x fun r =>
        after r ++ held t) :
    CarriesAt (.beside held sound c) (t, s) before
      (Op.within Lens.snd x) after := by
  rcases hx with ⟨hState, hTurns⟩
  rw [List.append_assoc, List.append_assoc] at hTurns
  exact ⟨⟨hSound, hState⟩, hTurns⟩

/- Handles change hands between an operation and its state. -/
theorem CarriesAt.update
    {t : τ}
    {s : σ}
    {f : τ → α × τ}
    {after : Except ε α → List Handle}
    (hState : c.sound s)
    (hSound : sound (f t).2)
    (hPerm :
      (before ++ held t).Perm
        (after (.ok (f t).1) ++ held (f t).2)) :
    CarriesAt (.beside held sound c) (t, s) before
      (Op.within Lens.fst (Op.update f)) after := by
  refine ⟨⟨hSound, hState⟩, .of_perm ?_ _⟩
  simp only [Custodian.beside]
  rw [← List.append_assoc, ← List.append_assoc]
  exact hPerm.append_right (c.held s)

theorem Carries.update
    {f : τ → α × τ}
    {after : Except ε α → List Handle}
    (hf :
      ∀ t, sound t →
        sound (f t).2 ∧
          (before ++ held t).Perm
            (after (.ok (f t).1) ++ held (f t).2)) :
    Carries (.beside held sound c) before
      (Op.within Lens.fst (Op.update f)) after := by
  rintro ⟨t, s⟩ ⟨hSound, hState⟩
  rcases hf t hSound with ⟨hSound', hPerm⟩
  exact .update hState hSound' hPerm

theorem CarriesAt.modify
    {t : τ}
    {s : σ}
    {f : τ → τ}
    {after : Except ε Unit → List Handle}
    (hState : c.sound s)
    (hSound : sound (f t))
    (hPerm :
      (before ++ held t).Perm
        (after (.ok ()) ++ held (f t))) :
    CarriesAt (.beside held sound c) (t, s) before
      (Op.within Lens.fst (Op.modify f)) after :=
  CarriesAt.update (f := fun t => ((), f t)) hState hSound
    hPerm

theorem Carries.modify
    {f : τ → τ}
    {after : Except ε Unit → List Handle}
    (hf :
      ∀ t, sound t →
        sound (f t) ∧
          (before ++ held t).Perm
            (after (.ok ()) ++ held (f t))) :
    Carries (.beside held sound c) before
      (Op.within Lens.fst (Op.modify f)) after :=
  Carries.update (f := fun t => ((), f t)) hf

/- A change that is refused leaves all handles in place. -/
theorem Carries.change
    {f : τ → Except ε (α × τ)}
    {after : Except ε α → List Handle}
    (hOk :
      ∀ t a t', sound t →
        f t = .ok (a, t') →
          sound t' ∧
            (before ++ held t).Perm
              (after (.ok a) ++ held t'))
    (hError : ∀ e, before.Perm (after (.error e))) :
    Carries (.beside held sound c) before
      (Op.within Lens.fst (Op.change f)) after := by
  rintro ⟨t, s⟩ ⟨hSound, hState⟩
  unfold CarriesAt
  simp only [Op.within, Op.change, Lens.fst, Custodian.beside]
  rw [← List.append_assoc, ← List.append_assoc]
  cases hRun : f t with
  | error e =>
      refine ⟨⟨hSound, hState⟩, .of_perm ?_ _⟩
      exact
        ((hError e).append_right _).append_right (c.held s)
  | ok r =>
      rcases hOk t r.1 r.2 hSound hRun with
        ⟨hSound', hPerm⟩
      refine ⟨⟨hSound', hState⟩, .of_perm ?_ _⟩
      exact hPerm.append_right (c.held s)

/- What holds no handles may change in any way. -/
theorem Carries.update_bystander
    (f : τ → α × τ) :
    Carries .bystander before
      (Op.within Lens.fst (Op.update f) : Op ε _ α)
      fun _ => before :=
  .update fun _ _ => ⟨trivial, List.Perm.refl _⟩

theorem Carries.modify_bystander
    (f : τ → τ) :
    Carries .bystander before
      (Op.within Lens.fst (Op.modify f) : Op ε _ Unit)
      fun _ => before :=
  .modify fun _ _ => ⟨trivial, List.Perm.refl _⟩

/- The handles in an answer that comes with what was used. -/
def handsBack
    (held : τ → List Handle)
    (after : Except ε α → List Handle)
    (answer : Except ε' (Except ε α × τ)) : List Handle :=
  match answer with
  | .ok r => after r.1 ++ held r.2
  | .error _ => []

/- What is used beside the state is handed in and back. -/
theorem Carries.beside
    {f : Op ε (τ × σ) α}
    {after : Except ε α → List Handle}
    (hf : Carries (.beside held sound c) before f after)
    {t : τ}
    (hSound : sound t) :
    Carries c (before ++ held t)
      (Op.beside t f : Op ε' σ _)
      (handsBack held after) := by
  intro s hState
  rcases hf (t, s) ⟨hSound, hState⟩ with ⟨hEnd, hTurns⟩
  unfold CarriesAt Op.beside handsBack
  simp only [Custodian.beside] at hEnd hTurns
  simp only [List.append_assoc]
  exact ⟨hEnd.2, hTurns⟩

end Beside

end Op

end Offload
