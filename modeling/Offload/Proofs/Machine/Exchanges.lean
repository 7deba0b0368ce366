import Mathlib.Data.List.Basic
import Mathlib.Data.List.Infix
import Offload.Machine.Channels
import Offload.Proofs.Op
import Offload.Proofs.Table

/-
  The calls that are made on a transport.

  What an operation asks of a transport is told by the calls
  it makes, each with its answer. Between them it may do
  anything that leaves all transports alone. A script is what
  is to be asked in order; it is performed up to the first
  call that fails.

  Key definitions include:
    * `Exchange`
    * `Machine.Exchanges`
    * `Performs`
    * `Machine.Plays`

  Main results:
    * `Machine.Exchanges.append`
    * `Machine.Exchanges.seen`
    * `Performs.append`
    * `Machine.Plays.bind`
-/

namespace Offload

------------------------------------------------------------
-- Calls and Answers
------------------------------------------------------------

/- A call on a transport and its answer. -/
structure Exchange where
  asked : Asked
  answer : Except DispatchError Response

namespace Exchange

/- What a client makes of an answer. -/
def result
    (x : Exchange) : Except DispatchError (List Param) :=
  x.answer >>= Response.result

/- The result without the outputs. -/
def outcome
    (x : Exchange) : Except DispatchError Unit :=
  x.result.map fun _ => ()

/- The call went well. -/
def Succeeds
    (x : Exchange) : Prop :=
  x.outcome = .ok ()

end Exchange

namespace Machine

/- No transport was asked anything. -/
def Unasked
    (m m' : Machine) : Prop :=
  m'.transports = m.transports

theorem Unasked.trans
    {m m' m'' : Machine}
    (hFirst : m.Unasked m')
    (hNext : m'.Unasked m'') : m.Unasked m'' :=
  Eq.trans hNext hFirst

instance : Std.Refl Unasked where
  refl _ := rfl

instance : IsTrans Machine Unasked where
  trans _ _ _ := Unasked.trans

/-
  A machine came to be another one by these calls on a
  transport, in order, and no others.
-/
def Exchanges
    (key : Nat) : List Exchange → Machine → Machine → Prop
  | [], m, m' => m.Unasked m'
  | x :: rest, m, m' =>
    ∃ n n',
      m.Unasked n ∧
        rpc key x.asked.request x.asked.timeout n =
            (x.answer, n') ∧
          Exchanges key rest n' m'

section Exchanges

variable {key : Nat}
variable {x : Exchange}
variable {xs ys : List Exchange}
variable {m m' m'' : Machine}

/- A call alone. -/
theorem exchanges_single
    (hAsk :
      rpc key x.asked.request x.asked.timeout m =
        (x.answer, m')) : Exchanges key [x] m m' :=
  ⟨m, m', rfl, hAsk, rfl⟩

theorem Exchanges.after_quiet
    (hQuiet : m.Unasked m')
    (h : Exchanges key xs m' m'') :
    Exchanges key xs m m'' := by
  cases xs with
  | nil => exact Unasked.trans hQuiet h
  | cons x rest =>
      rcases h with ⟨n, n', hFirst, hAsk, hRest⟩
      exact ⟨n, n', hQuiet.trans hFirst, hAsk, hRest⟩

theorem Exchanges.append
    (hFirst : Exchanges key xs m m')
    (hNext : Exchanges key ys m' m'') :
    Exchanges key (xs ++ ys) m m'' := by
  induction xs generalizing m with
  | nil => exact hNext.after_quiet hFirst
  | cons x rest ih =>
      rcases hFirst with ⟨n, n', hQuiet, hAsk, hRest⟩
      exact ⟨n, n', hQuiet, hAsk, ih hRest⟩

theorem Exchanges.before_quiet
    (h : Exchanges key xs m m')
    (hQuiet : m'.Unasked m'') :
    Exchanges key xs m m'' := by
  have hRest : Exchanges key [] m' m'' := hQuiet
  rw [← List.append_nil xs]
  exact h.append hRest

/-
  A scripted transport has seen the very calls that were
  made, and no others.
-/
theorem Exchanges.seen
    {s : ScriptedTransport}
    (h : Exchanges key xs m m')
    (hScripted :
      m.transports.get? key = some (.scripted s)) :
    ∃ s',
      m'.transports.get? key = some (.scripted s') ∧
        s'.seen =
          (xs.map Exchange.asked).reverse ++ s.seen ∧
            s'.answers = s.answers.drop xs.length := by
  induction xs generalizing m s with
  | nil =>
      have hSame : m'.transports = m.transports := h
      refine ⟨s, ?_, rfl, rfl⟩
      rw [hSame]
      exact hScripted
  | cons x rest ih =>
      rcases h with ⟨n, n', hQuiet, hAsk, hRest⟩
      have hHere :
          n.transports.get? key = some (.scripted s) := by
        rw [show n.transports = m.transports from hQuiet]
        exact hScripted
      simp only [rpc, hHere] at hAsk
      have hSet := Table.get?_set_self hHere
        (.scripted
          (s.rpc x.asked.request x.asked.timeout).2)
      rw [← (Prod.mk.inj hAsk).2] at hRest
      rcases ih hRest hSet with
        ⟨s', hEnd, hSeen, hAnswers⟩
      refine ⟨s', hEnd, ?_, ?_⟩
      · rw [hSeen, List.map_cons, List.reverse_cons,
          List.append_assoc]
        unfold ScriptedTransport.rpc
        cases s.answers <;> rfl
      · rw [hAnswers, List.length_cons]
        unfold ScriptedTransport.rpc
        cases hLeft : s.answers with
        | nil => simp
        | cons a answers => rfl

end Exchanges

end Machine

------------------------------------------------------------
-- Scripts
------------------------------------------------------------

/-
  Calls that perform a script up to the first call that
  fails, whose failure is the result.
-/
structure Performs
    (script : List Asked)
    (xs : List Exchange)
    (result : Except DispatchError Unit) : Prop where
  asked : xs.map Exchange.asked <+: script
  earlier : ∀ x ∈ xs.dropLast, x.Succeeds
  ok_iff : result = .ok () ↔ ∀ x ∈ xs, x.Succeeds
  whole : result = .ok () → xs.map Exchange.asked = script
  cause :
    ∀ cause, result = .error cause →
      ∃ x, xs.getLast? = some x ∧ x.outcome = .error cause

section Performs

variable {script rest : List Asked}
variable {xs ys : List Exchange}
variable {result : Except DispatchError Unit}

/- A script of one call has the outcome of the call. -/
theorem performs_single
    (x : Exchange) : Performs [x.asked] [x] x.outcome where
  asked := List.prefix_refl _
  earlier := by
    intro y hy
    cases hy
  ok_iff := by
    simp [Exchange.Succeeds]
  whole := fun _ => rfl
  cause := fun _ hCause => ⟨x, rfl, hCause⟩

/- After a call that fails the rest is not performed. -/
theorem Performs.stop
    {cause : DispatchError}
    (h : Performs script xs (.error cause))
    (rest : List Asked) :
    Performs (script ++ rest) xs (.error cause) where
  asked := h.asked.trans (List.prefix_append script rest)
  earlier := h.earlier
  ok_iff := h.ok_iff
  whole := by
    intro hOk
    cases hOk
  cause := h.cause

/- What is performed to the end can be gone on with. -/
theorem Performs.append
    (hFirst : Performs script xs (.ok ()))
    (hNext : Performs rest ys result) :
    Performs (script ++ rest) (xs ++ ys) result := by
  have hAll := hFirst.whole rfl
  have hOk := hFirst.ok_iff.mp rfl
  constructor
  · rw [List.map_append, hAll]
    exact
      (List.prefix_append_right_inj script).mpr hNext.asked
  · intro x hx
    by_cases hNone : ys = []
    · rw [hNone, List.append_nil] at hx
      exact hFirst.earlier x hx
    · rw [List.dropLast_append_of_ne_nil hNone] at hx
      rcases List.mem_append.mp hx with hOld | hNew
      · exact hOk x hOld
      · exact hNext.earlier x hNew
  · rw [hNext.ok_iff, List.forall_mem_append]
    exact ⟨fun hRest => ⟨hOk, hRest⟩, And.right⟩
  · intro hEnd
    rw [List.map_append, hAll, hNext.whole hEnd]
  · intro cause hCause
    rcases hNext.cause cause hCause with ⟨x, hLast, hFailed⟩
    refine ⟨x, ?_, hFailed⟩
    rw [List.getLast?_append, hLast]
    rfl

end Performs

------------------------------------------------------------
-- Operations That Follow a Script
------------------------------------------------------------

namespace Machine

/-
  An operation performs a script on a transport, whatever
  the answers are.
-/
def Plays
    (key : Nat)
    (script : List Asked)
    (x : Op Error Machine Unit) : Prop :=
  ∀ m, ∃ xs result,
    Exchanges key xs m (x m).2 ∧
      (x m).1 = result.mapError Error.dispatch ∧
        Performs script xs result

theorem Plays.bind
    {key : Nat}
    {script rest : List Asked}
    {x : Op Error Machine Unit}
    {y : Unit → Op Error Machine Unit}
    (hx : Plays key script x)
    (hy : Plays key rest (y ())) :
    Plays key (script ++ rest) (x >>= y) := by
  intro m
  rcases hx m with ⟨xs, result, hAsked, hResult, hFirst⟩
  change
    ∃ zs r,
      Exchanges key zs m (Op.bind x y m).2 ∧
        (Op.bind x y m).1 = r.mapError Error.dispatch ∧
          Performs (script ++ rest) zs r
  unfold Op.bind
  cases hRun : x m with
  | mk answer m' =>
      rw [hRun] at hAsked hResult
      cases result with
      | error cause =>
          change answer = .error (.dispatch cause) at hResult
          subst hResult
          exact
            ⟨xs, .error cause, hAsked, rfl, hFirst.stop rest⟩
      | ok _ =>
          change answer = .ok () at hResult
          subst hResult
          rcases hy m' with
            ⟨ys, last, hLater, hEnd, hNext⟩
          exact
            ⟨xs ++ ys, last, hAsked.append hLater, hEnd,
              hFirst.append hNext⟩

/- What asks nothing can come before. -/
theorem Plays.after_quiet
    {key : Nat}
    {script : List Asked}
    {x : Op Error Machine Unit}
    {y : Unit → Op Error Machine Unit}
    (hQuiet : Op.Moves Unasked x)
    (hOk : ∀ m, (x m).1 = .ok ())
    (hy : Plays key script (y ())) :
    Plays key script (x >>= y) := by
  intro m
  rw [Op.run_bind_of_ok (hOk m)]
  rcases hy (x m).2 with ⟨xs, result, hAsked, hEnd⟩
  exact ⟨xs, result, hAsked.after_quiet (hQuiet m), hEnd⟩

end Machine

end Offload
