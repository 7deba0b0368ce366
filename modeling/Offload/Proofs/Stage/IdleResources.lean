import Offload.Proofs.Machine.Background
import Offload.Proofs.Memory.Loans
import Offload.Proofs.Memory.PoolBound
import Offload.Stage.Resources

/-
  Resources of a stage that is not in use yet.

  The pool of a stage is not active until the stage is in
  use, so that a loaded input is all that the stage has of
  the device. Making its resources and activating them in
  vain leave it at that; throwing the resources away then
  gives back whatever was borrowed.

  Key definitions include:
    * `Machine.Lends`
    * `StageResources.Idle`

  Main results:
    * `StageResources.ensures_prepare`
    * `StageResources.ensures_activate`
    * `StageResources.ensures_drop`
-/

namespace Offload

open Holdings

------------------------------------------------------------
-- Machines
------------------------------------------------------------

/- A loan outlasts what disturbs nobody. -/
theorem Platform.Lends.undisturbed
    {o m m' : Platform}
    {hs : List Handle}
    (hLends : o.Lends hs m)
    (h : m.Undisturbed m') : o.Lends hs m' := by
  apply hLends.advance h.advances
  intro _ _ hLent
  exact hLent.of_restored h.restored

namespace Machine

/- The platform of a machine with these pools has lent. -/
def Lends
    (o : Platform)
    (pools : Table Pool)
    (hs : List Handle)
    (m : Machine) : Prop :=
  o.Lends hs m.platform ∧ m.pools = pools

section Lends

variable {ε α : Type}
variable {o : Platform}
variable {pools : Table Pool}
variable {hs : List Handle}

theorem ensures_of_undisturbed
    {x : Op ε Machine α}
    (hx : Op.Moves Undisturbed x) :
    Op.Ensures (Lends o pools hs) x
      fun _ => Lends o pools hs :=
  fun m hLends =>
    ⟨hLends.1.undisturbed (hx m).platform,
      (hx m).pools.trans hLends.2⟩

theorem ensures_onPlatform
    {x : Op ε Platform α}
    {f : Except ε α → List Handle}
    (hx : Op.Ensures (o.Lends hs) x fun r => o.Lends (f r)) :
    Op.Ensures (Lends o pools hs) (onPlatform x)
      fun r => Lends o pools (f r) :=
  fun m hLends => ⟨hx m.platform hLends.1, hLends.2⟩

end Lends

section Pools

variable {ε α : Type}
variable {key : Nat}
variable {fallback : Except ε α}
variable {x : Op ε (Pool × Platform) α}
variable {m : Machine}

/- Without the pool the fallback is the result. -/
theorem onRow_pools_none
    (hRow : m.pools.get? key = none) :
    onRow poolsPart key fallback x m = (fallback, m) := by
  simp only [onRow, poolsPart, hRow]

/- What is run on a pool that is there. -/
theorem onRow_pools_some
    {p : Pool}
    (hRow : m.pools.get? key = some p) :
    onRow poolsPart key fallback x m =
      ((x (p, m.platform)).1,
        { m with
          platform := (x (p, m.platform)).2.2
          pools :=
            m.pools.set key (x (p, m.platform)).2.1 }) := by
  simp only [onRow, poolsPart, hRow]

end Pools

/- Looking for an allocator disturbs nobody. -/
theorem onRegistry_undisturbed
    {ε : Type}
    (name : String)
    (make : Allocator) :
    Op.Moves Undisturbed
      (onRegistry (do
        let (_, a) ← Registry.getOrCreate name make
        return a) : Op ε Machine Allocator) := by
  intro m
  simp only [onRegistry, Op.within, Lens.both, registryPart,
    platformPart, Registry.getOrCreate, bind, Op.bind, Op.get]
  cases m.registry.get? name with
  | some a => exact Std.Refl.refl m
  | none => exact ⟨.recorded _ (Std.Refl.refl m.platform), rfl⟩

end Machine

------------------------------------------------------------
-- Resources
------------------------------------------------------------

namespace StageResources

open Machine

variable {ε : Type}
variable {o : Platform}
variable {pools : Table Pool}
variable {hs : List Handle}

/- The handles of the loaded input. -/
def handles
    (r : StageResources) : List Handle :=
  match r.debugInput with
  | none => []
  | some b => b.handles

/-
  The pool is not active, and the loaded input is all that
  the device has lent.
-/
structure Idle
    (o : Platform)
    (r : StageResources)
    (m : Machine) : Prop where
  lends : o.Lends r.handles m.platform
  inactive :
    ∀ key p,
      r.pool = some key →
        m.pools.get? key = some p → p.active = false

theorem Idle.undisturbed
    {r : StageResources}
    {m m' : Machine}
    (hIdle : r.Idle o m)
    (h : m.Undisturbed m') : r.Idle o m' where
  lends := hIdle.lends.undisturbed h.platform
  inactive := by
    rw [h.pools]
    exact hIdle.inactive

------------------------------------------------------------
-- Preparing
------------------------------------------------------------

theorem allocatorFor_undisturbed
    (layout : OutputLayout) :
    Op.Moves Undisturbed
      (allocatorFor layout : Op ε Machine Allocator) := by
  unfold allocatorFor
  cases layout.isSegmented with
  | true => exact onRegistry_undisturbed _ _
  | false => exact onRegistry_undisturbed _ _

/- The pool of a stage is made and not activated. -/
theorem ensures_preparePool
    (c : StageConfig) :
    Op.Ensures (fun m => o.Lends [] m.platform) (preparePool c)
      fun answer m =>
        o.Lends [] m.platform ∧
          ∀ key,
            answer = .ok key →
              ∃ p,
                m.pools.get? key = some p ∧
                  p.active = false := by
  intro m hLends
  have hLogged : m.Undisturbed _ :=
    logged_moves c.bufferWarning m
  have hLooked :=
    allocatorFor_undisturbed (ε := Error) c.output
      (logged c.bufferWarning m)
  simp only [preparePool, bind, Op.bind, logMaybe, Op.modify]
  rcases hRun :
      (allocatorFor c.output : Op Error Machine Allocator)
        (logged c.bufferWarning m) with ⟨e | allocator, m'⟩
  · rw [hRun] at hLooked
    refine ⟨?_, fun _ hOk => by cases hOk⟩
    exact hLends.undisturbed (hLogged.trans hLooked).platform
  · rw [hRun] at hLooked
    have hNow :=
      hLends.undisturbed (hLogged.trans hLooked).platform
    simp only [Op.ofExcept]
    cases hCreate :
        Pool.create allocator c.outputBufferCount
          c.outputBufferCount c.outputFlags c.output.sizes
          c.output.names with
    | error e => exact ⟨hNow, fun _ hOk => by cases hOk⟩
    | ok p =>
        rcases Pool.create_ok hCreate with
          ⟨_, _, _, _, hInactive, _⟩
        refine ⟨hNow, ?_⟩
        intro key hOk
        cases hOk
        exact
          ⟨p, Table.get?_insert_self p m'.pools, hInactive⟩

theorem ensures_prepare
    (c : StageConfig) :
    Op.Ensures (fun m => o.Lends [] m.platform) (prepare c)
      fun answer m =>
        match answer with
        | .ok r => r.Idle o m
        | .error _ => o.Lends [] m.platform := by
  refine (ensures_preparePool c).bind ?_ fun _ _ h => h.1
  intro key m h
  rcases h.2 key rfl with ⟨p, hRow, hInactive⟩
  refine Idle.undisturbed ⟨h.1, ?_⟩ (log_moves _ _ _ m)
  intro key' p' hKey hRow'
  cases hKey
  rw [hRow] at hRow'
  cases hRow'
  exact hInactive

------------------------------------------------------------
-- Loading the Input
------------------------------------------------------------

theorem readInput_undisturbed
    (path : String) :
    Op.Moves Undisturbed (readInput path) := by
  intro m
  simp only [readInput, bind, Op.bind, Op.get]
  rcases m.files.read path with fault | (_ | ⟨byte, rest⟩) <;>
    exact Std.Refl.refl m

/- A buffer is filled, as far as that does not fail. -/
theorem ensures_fill
    (bytes : Bytes) :
    Op.Ensures (Buffer.LendsTo o hs) (fill bytes)
      fun _ => Buffer.LendsTo o hs := by
  refine Buffer.ensures_map.bind ?_ fun _ _ hLends => hLends
  intro _
  refine Op.Ensures.get_bind ?_
  rintro ⟨b, m⟩ hLends
  have hWrite :
      Op.Ensures (Buffer.LendsTo o hs)
        (Op.within Lens.snd
          (b.parent.handle.write 0 bytes :
            Op Error Platform Unit))
        fun _ => Buffer.LendsTo o hs :=
    .within_snd fun _ m hLends =>
      b.parent.handle.ensures_write 0 bytes m hLends
  have hFlush :
      Op.Ensures (Buffer.LendsTo o hs)
        (Op.within Lens.snd b.flush)
        fun _ => Buffer.LendsTo o hs :=
    .within_snd fun _ m hLends => b.ensures_flush m hLends
  exact
    hWrite.bind (fun _ => hFlush) (fun _ _ hLends => hLends)
      (b, m) hLends

/- The input is loaded, or nothing is left of it. -/
theorem ensures_loadInput
    (r : StageResources)
    (path : String) :
    Op.Ensures (Lends o pools hs) (r.loadInput path)
      fun answer =>
        Lends o pools (given Buffer.handles answer ++ hs) := by
  refine
    (ensures_of_undisturbed (readInput_undisturbed path)).bind
      ?_ fun _ _ hLends => hLends
  intro bytes
  refine
    (ensures_of_undisturbed (onRegistry_undisturbed _ _)).bind
      ?_ fun _ _ hLends => hLends
  intro allocator
  refine
    (ensures_onPlatform
      (Allocator.ensures_allocateLayout _ _)).bind
      ?_ fun _ _ hLends => hLends
  intro fresh
  have hFill :
      Op.Ensures (Lends o pools (fresh.handles ++ hs))
        (onPlatform (Op.beside fresh (fill bytes)) :
          Op Error Machine (Except Error Unit × Buffer))
        fun answer m =>
          ∃ a,
            answer = .ok a ∧
              Lends o pools (a.2.handles ++ hs) m := by
    rintro m ⟨hLends, hPools⟩
    exact
      ⟨_, rfl, ensures_fill bytes (fresh, m.platform) hLends,
        hPools⟩
  refine hFill.bind ?_ ?_
  · rintro ⟨answer, b⟩
    have hFilled :
        ∀ m,
          (∃ a : Except Error Unit × Buffer,
            (.ok (answer, b) : Except Error _) = .ok a ∧
              Lends o pools (a.2.handles ++ hs) m) →
            Lends o pools (b.handles ++ hs) m := by
      rintro m ⟨a, hOk, hLends⟩
      cases hOk
      exact hLends
    refine Op.Ensures.imp ?_ hFilled fun _ _ h => h
    cases answer with
    | error e =>
        refine
          (ensures_onPlatform b.ensures_release).bind_of_ok
            (fun m => b.release_ok m.platform) ?_
        exact .fail fun _ hLends => hLends
    | ok _ =>
        refine
          (ensures_of_undisturbed
            (log_moves _ _ _)).bind_of_ok
            (fun _ => rfl) ?_
        exact .pure fun _ hLends => hLends
  · rintro e m ⟨a, hError, _⟩
    cases hError

/- The loaded input is given back. -/
theorem dropInput_run
    (r : StageResources)
    {m : Machine}
    (hLends : Lends o pools (hs ++ r.handles) m) :
    ∃ m',
      (dropInput : Op ε (StageResources × Machine) Unit)
          (r, m) =
        (.ok (), ({ r with debugInput := none }, m')) ∧
        Lends o pools hs m' := by
  have hPerm : (hs ++ r.handles).Perm (r.handles ++ hs) :=
    List.perm_append_comm
  simp only [dropInput, bind, Op.bind, Op.get, Op.within,
    Lens.fst, Op.modify]
  cases hInput : r.debugInput with
  | none =>
      simp only [handles, hInput, List.append_nil] at hLends
      exact ⟨m, rfl, hLends⟩
  | some b =>
      simp only [handles, hInput] at hPerm hLends
      have hGiven :=
        b.ensures_release (ε := ε) m.platform
          (hLends.1.perm hPerm)
      have hOk := b.release_ok (ε := ε) m.platform
      simp only [onPlatform, Op.within, platformPart, Lens.snd,
        hOk]
      exact ⟨_, rfl, hGiven, hLends.2⟩

/- The input is loaded in place of the one there was. -/
theorem ensures_activateInput :
    Op.Ensures (fun s => s.1.Idle o s.2) activateInput
      fun _ s => s.1.Idle o s.2 := by
  refine Op.Ensures.get_bind ?_
  rintro ⟨r, m⟩ ⟨hLends, hInactive⟩
  dsimp only
  cases hPath : r.debugPath with
  | none => exact ⟨hLends, hInactive⟩
  | some path =>
      have hLoad :=
        ensures_loadInput r path m
          (show Lends o m.pools r.handles m from ⟨hLends, rfl⟩)
      simp only [bind, Op.bind, Op.within, Lens.snd]
      rcases hRun : r.loadInput path m with ⟨e | b, m'⟩
      · rw [hRun] at hLoad
        rw [← hLoad.2] at hInactive
        exact ⟨hLoad.1, hInactive⟩
      · rw [hRun] at hLoad
        rcases dropInput_run (ε := Error) r hLoad with
          ⟨m'', hDrop, hLends', hPools⟩
        simp only [hDrop]
        rw [← hPools] at hInactive
        exact ⟨hLends', hInactive⟩

------------------------------------------------------------
-- Activating and Throwing Away
------------------------------------------------------------

/- Resources activated in vain are idle as before. -/
theorem ensures_activate :
    Op.Ensures (fun s => s.1.Idle o s.2) activate
      fun answer s =>
        ∀ e, answer = .error e → s.1.Idle o s.2 := by
  refine
    ensures_activateInput.bind ?_ fun _ _ hIdle _ _ => hIdle
  intro _
  refine Op.Ensures.get_bind ?_
  rintro ⟨r, m⟩ hIdle
  dsimp only at hIdle ⊢
  cases hPool : r.pool with
  | none => exact fun _ _ => hIdle
  | some key =>
      simp only [Op.within, Lens.snd, onPool]
      cases hRow : m.pools.get? key with
      | none =>
          rw [onRow_pools_none hRow]
          exact fun _ _ => hIdle
      | some p =>
          have hActivated :=
            p.ensures_activate (p, m.platform)
              ⟨rfl, hIdle.lends⟩
          rw [onRow_pools_some hRow]
          intro e hError
          rcases hActivated e hError with ⟨hSame, hLends⟩
          refine ⟨hLends, ?_⟩
          intro key' q hKey hFound
          cases hPool.symm.trans hKey
          rw [hSame] at hFound
          cases (Table.get?_set_self hRow p).symm.trans hFound
          exact hIdle.inactive key p hPool hRow

/- Idle resources that are thrown away leave nothing. -/
theorem ensures_drop
    (r : StageResources) :
    Op.Ensures (r.Idle o) (r.drop : Op ε Machine Unit)
      fun _ m => o.Lends [] m.platform := by
  rintro m ⟨hLends, hInactive⟩
  rcases dropInput_run (ε := ε) r
      (show Lends o m.pools ([] ++ r.handles) m from
        ⟨hLends, rfl⟩) with ⟨m', hDrop, hLends', hPools⟩
  simp only [drop, release, bind, Op.bind, hDrop, Op.get,
    Op.within, Lens.fst, Op.modify]
  cases hPool : r.pool with
  | none => exact hLends'
  | some key =>
      have hNow : m'.pools.get? key = m.pools.get? key := by
        rw [hPools]
      simp only [Op.within, Lens.snd, onPoolSilently]
      cases hRow : m.pools.get? key with
      | none =>
          rw [hRow] at hNow
          simp only [onRow_pools_none hNow]
          exact hLends'
      | some p =>
          rw [hRow] at hNow
          simp only [onRow_pools_some hNow, Op.bind, Op.get,
            hInactive key p hPool hRow]
          exact hLends'

end StageResources

end Offload
