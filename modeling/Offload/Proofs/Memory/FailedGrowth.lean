import Offload.Proofs.Memory.Loans
import Offload.Proofs.Memory.SharedPool

/-
  Pools that cannot have another buffer.

  An activation allocates several buffers, an acquisition at
  most one. If an allocation fails, the buffers that were
  allocated before it are given back, and so is the room
  that was claimed for it: the pool is as it was. The device
  has again what it had, unless something got in the way of
  giving regions back, or the cursor of a window has left
  the window: then a region of somebody else can be given
  back in place of one of the pool.

  Key definitions include:
    * `Pool.Unspoiled`

  Main results:
    * `Pool.ensures_tryAcquire`
    * `Pool.failed_growth_undone`
    * `Pool.failed_growth_frees_other_region`
-/

namespace Offload

open Platform

namespace Pool

variable {o : Platform}
variable {hs : List Handle}

------------------------------------------------------------
-- Acquisitions
------------------------------------------------------------

/- Room that was claimed and given up leaves no trace. -/
theorem cancelGrowth_of_room
    {p q : Pool}
    (hTake : p.take = .ok (.room, q)) :
    q.cancelGrowth = p := by
  unfold take at hTake
  split at hTake
  · split at hTake
    · cases hTake
    · split at hTake
      · cases hTake
        rfl
      · cases hTake
  · cases hTake

/-
  A pool that cannot be acquired from stays as it is, and
  what was allocated for it is given back.
-/
theorem ensures_tryAcquire
    (p : Pool) :
    Op.Ensures (fun s => s.1 = p ∧ o.Lends hs s.2) tryAcquire
      fun r s =>
        ∀ e, r = .error e → s.1 = p ∧ o.Lends hs s.2 := by
  rintro ⟨p, m⟩ ⟨rfl, hLends⟩
  rcases p.take_cases with
    ⟨_, hTake⟩ | ⟨b, rest, _, _, hTake⟩ |
      ⟨_, _, _, hTake⟩ | ⟨_, _, _, hTake⟩
  · rw [tryAcquire_inactive hTake]
    exact fun _ _ => ⟨rfl, hLends⟩
  · rw [tryAcquire_of_ready hTake]
    exact fun _ hError => by cases hError
  · rw [tryAcquire_of_room hTake]
    have hOne := p.plan.ensures_allocate m hLends
    rcases hRun : p.plan.allocate m with ⟨e | b, m'⟩
    · rw [hRun] at hOne
      dsimp only
      exact fun _ _ => ⟨cancelGrowth_of_room hTake, hOne⟩
    · dsimp only
      exact fun _ hError => by cases hError
  · rw [tryAcquire_full hTake]
    exact fun _ hError => by cases hError

/- A try that hands nothing out changes nothing. -/
theorem eq_of_tryAcquire_none
    {p : Pool}
    {m : Platform}
    {s : Pool × Platform}
    (hNone : tryAcquire (p, m) = (.ok none, s)) :
    s = (p, m) := by
  rcases p.take_cases with
    ⟨_, hTake⟩ | ⟨b, rest, _, _, hTake⟩ |
      ⟨_, _, _, hTake⟩ | ⟨_, _, _, hTake⟩
  · rw [tryAcquire_inactive hTake] at hNone
    cases hNone
  · rw [tryAcquire_of_ready hTake] at hNone
    cases hNone
  · rw [tryAcquire_of_room hTake] at hNone
    rcases hRun : p.plan.allocate m with ⟨e | b, m'⟩
    · simp only [hRun] at hNone
      cases hNone
    · simp only [hRun] at hNone
      cases hNone
  · rw [tryAcquire_full hTake] at hNone
    cases hNone
    rfl

/- A wait that ends without a buffer is counted. -/
theorem noteWait_of_acquireTimeout_none
    {p : Pool}
    {m : Platform}
    {s : Pool × Platform}
    (hNone : acquireTimeout (p, m) = (.ok none, s)) :
    s.1 = p.noteWait ∧ s.2.device = m.device := by
  simp only [acquireTimeout, bind, Op.bind] at hNone
  rcases hTry : tryAcquire (p, m) with ⟨e | (_ | b), t⟩
  · rw [hTry] at hNone
    cases hNone
  · rw [hTry, eq_of_tryAcquire_none hTry] at hNone
    cases hNone
    exact ⟨rfl, rfl⟩
  · rw [hTry] at hNone
    cases hNone

/- A wait that ends without a buffer does not fail. -/
theorem tryAcquire_of_acquireTimeout
    {p : Pool}
    {m : Platform}
    {e : Error}
    {s : Pool × Platform}
    (hFailed : acquireTimeout (p, m) = (.error e, s)) :
    tryAcquire (p, m) = (.error e, s) := by
  simp only [acquireTimeout, bind, Op.bind] at hFailed
  rcases hTry : tryAcquire (p, m) with ⟨e' | (_ | b), t⟩
  · rw [hTry] at hFailed
    cases hFailed
    rfl
  · rw [hTry] at hFailed
    cases hFailed
  · rw [hTry] at hFailed
    cases hFailed

/-
  An acquisition fails where a try fails, or because nothing
  ended its wait.
-/
theorem tryAcquire_of_acquire
    {p : Pool}
    {m : Platform}
    {e : Error}
    {s : Pool × Platform}
    (hFailed : acquire (p, m) = (.error e, s)) :
    tryAcquire (p, m) = (.error e, s) ∨
      e = wokeEmpty ∧ s.1 = p.noteWait ∧
        s.2.device = m.device := by
  simp only [acquire, bind, Op.bind] at hFailed
  rcases hTimeout : acquireTimeout (p, m) with
    ⟨e' | (_ | b), t⟩
  · rw [hTimeout] at hFailed
    cases hFailed
    exact Or.inl (tryAcquire_of_acquireTimeout hTimeout)
  · rw [hTimeout] at hFailed
    cases hFailed
    exact
      Or.inr ⟨rfl, noteWait_of_acquireTimeout_none hTimeout⟩
  · rw [hTimeout] at hFailed
    cases hFailed

------------------------------------------------------------
-- Growing in Vain
------------------------------------------------------------

/-
  A pool is as it was, and unless something got in the way
  the device has what it had.
-/
structure Unspoiled
    (p : Pool)
    (m : Platform)
    (p' : Pool)
    (m' : Platform) : Prop where
  pool : p' = p
  device :
    m.Smooth m' → m.device.Recovered m'.device

theorem Unspoiled.of_lends
    {p p' : Pool}
    {m m' : Platform}
    (hArises : m.device.Arises)
    (h : p' = p ∧ m.Lends [] m') : Unspoiled p m p' m' where
  pool := h.1
  device := fun hSmooth =>
    (h.2.lent hArises hSmooth).recovered hArises.filed
      (hArises.reaches h.2.advances.acts).filed

/-
  An activation that fails leaves the pool inactive and as
  it was, and so does an acquisition that fails, unless it
  waited for nothing, which is counted. What they allocated
  is given back.
-/
theorem failed_growth_undone
    {m : Platform}
    (hArises : m.device.Arises)
    (p : Pool)
    {e : Error}
    {p' : Pool}
    {m' : Platform} :
    (setActive true (p, m) = (.error e, (p', m')) →
      p'.active = false ∧ Unspoiled p m p' m') ∧
    (tryAcquire (p, m) = (.error e, (p', m')) →
      Unspoiled p m p' m') ∧
    (acquireTimeout (p, m) = (.error e, (p', m')) →
      Unspoiled p m p' m') ∧
    (acquire (p, m) = (.error e, (p', m')) →
      Unspoiled p m p' m' ∨
        e = wokeEmpty ∧ p' = p.noteWait ∧
          m'.device = m.device) := by
  have hBegin : (p, m).1 = p ∧ m.Lends [] (p, m).2 :=
    ⟨rfl, .refl m⟩
  have hTry :
      tryAcquire (p, m) = (.error e, (p', m')) →
        Unspoiled p m p' m' := by
    intro hFailed
    have hEnd := ensures_tryAcquire p (p, m) hBegin
    rw [hFailed] at hEnd
    exact .of_lends hArises (hEnd e rfl)
  refine ⟨?_, hTry, ?_, ?_⟩
  · intro hFailed
    have hEnd := ensures_activate p (p, m) hBegin
    rw [hFailed] at hEnd
    have hUnspoiled : Unspoiled p m p' m' :=
      .of_lends hArises (hEnd e rfl)
    refine ⟨?_, hUnspoiled⟩
    rw [hUnspoiled.pool]
    cases hActive : p.active with
    | false => rfl
    | true =>
        simp [setActive, bind, Op.bind, Op.get, hActive, pure,
          Op.pure] at hFailed
  · exact fun hFailed =>
      hTry (tryAcquire_of_acquireTimeout hFailed)
  · intro hFailed
    rcases tryAcquire_of_acquire hFailed with hTried | hWoke
    · exact Or.inl (hTry hTried)
    · exact Or.inr hWoke

/- A pool of buffers with two segments. -/
def pairPool
    (least most : Nat) : Pool where
  plan :=
    { name := "pairs-pool"
      allocator := ⟨"pairs", .segmented⟩
      flags := ⟨0⟩
      layout := [⟨"head", 100⟩, ⟨"tail", 200⟩]
      isNamed := true
      least := least
      most := most }
  active := false
  idle := []
  allocated := 0
  acquisitions := 0
  waits := 0

/- A fresh device on which the `nth` mapping fails. -/
def unmappedAt
    (nth : Nat) : Platform :=
  ⟨Device.fresh .usual Device.defaultCapacity,
    FaultPlan.none.arm .map nth, Telemetry.empty⟩

/-
  A pool whose second buffer cannot be mapped stays
  inactive, and one whose first buffer on demand cannot be
  mapped has as many buffers as before.
-/
theorem unmapped_pair_given_back :
    (∃ e m',
      setActive true (pairPool 2 3, unmappedAt 2) =
          (.error e, (pairPool 2 3, m')) ∧
        (unmappedAt 2).device.Recovered m'.device) ∧
      ∃ e m',
        tryAcquire ((pairPool 0 1).activate [], unmappedAt 1) =
            (.error e, ((pairPool 0 1).activate [], m')) ∧
          (unmappedAt 1).device.Recovered m'.device := by
  have hArises : ∀ n, (unmappedAt n).device.Arises :=
    fun _ => ⟨.usual, Device.defaultCapacity, .refl _⟩
  constructor
  · let s := setActive true (pairPool 2 3, unmappedAt 2)
    have hError :
        s.1 = .error (.mappingFailed "injected map fault") := by
      decide +kernel
    have hFailed :
        s = (.error (.mappingFailed "injected map fault"),
          (s.2.1, s.2.2)) := by
      rw [← hError]
    have hUndone :=
      ((failed_growth_undone (hArises 2) _).1 hFailed).2
    have hSmooth : (unmappedAt 2).Smooth s.2.2 := by
      constructor <;> decide +kernel
    rw [hUndone.pool] at hFailed
    exact ⟨_, _, hFailed, hUndone.device hSmooth⟩
  · let s :=
      tryAcquire ((pairPool 0 1).activate [], unmappedAt 1)
    have hError :
        s.1 = .error (.mappingFailed "injected map fault") := by
      decide +kernel
    have hFailed :
        s = (.error (.mappingFailed "injected map fault"),
          (s.2.1, s.2.2)) := by
      rw [← hError]
    have hUndone :=
      (failed_growth_undone (hArises 1) _).2.1 hFailed
    have hSmooth : (unmappedAt 1).Smooth s.2.2 := by
      constructor <;> decide +kernel
    rw [hUndone.pool] at hFailed
    exact ⟨_, _, hFailed, hUndone.device hSmooth⟩

------------------------------------------------------------
-- A Region of Somebody Else
------------------------------------------------------------

/-
  All of a window is used up once, and somebody allocates a
  region at the start of the next one.
-/
def sweptCalls : List Device.Call :=
  Device.sweep ++ [.allocate .onChip .uncached [4096]]

/- After that the first mapping is planned to fail. -/
def sweptPlatform : Platform :=
  ⟨Run.after Device.act (sweptCalls.map .call)
      (Device.fresh .usual Device.defaultCapacity),
    FaultPlan.none.arm .map 1, Telemetry.empty⟩

/-
  The buffer of a pool that is not activated in the end
  takes the place of the region of somebody else, and is
  given back together with it.
-/
theorem failed_growth_frees_other_region :
    sweptPlatform.device.Arises ∧
      ∃ e p' m',
        setActive true (pairPool 1 1, sweptPlatform) =
            (.error e, (p', m')) ∧
          Unstruck .unmap sweptPlatform m' ∧
          Unstruck .free sweptPlatform m' ∧
          ¬ sweptPlatform.device.Recovered m'.device := by
  have hArises : sweptPlatform.device.Arises := by
    refine
      ⟨.usual, Device.defaultCapacity, sweptCalls.map .call, ?_⟩
    simp only [sweptPlatform]
  have hBefore : sweptPlatform.device.regions.length = 1 := by
    decide +kernel
  have hEnd :
      let s := setActive true (pairPool 1 1, sweptPlatform)
      s.1 = .error (.mappingFailed "injected map fault") ∧
        Unstruck .unmap sweptPlatform s.2.2 ∧
        Unstruck .free sweptPlatform s.2.2 ∧
        s.2.2.device.regions.length = 0 := by
    decide +kernel
  rcases hRun : setActive true (pairPool 1 1, sweptPlatform)
    with ⟨answer, p', m'⟩
  simp only [hRun] at hEnd
  rcases hEnd with ⟨rfl, hUnmap, hFree, hAfter⟩
  refine ⟨hArises, _, p', m', rfl, hUnmap, hFree, ?_⟩
  intro hRecovered
  have hLength := hRecovered.regions.length_eq
  omega

end Pool

end Offload
