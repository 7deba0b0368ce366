import Offload.Memory.Platform

/-
  What the calls on a platform do to its device.

  A planned failure refuses a call and leaves the device
  alone; any other call is answered by the device. A plan
  without failures of a call never gets one.

  Key definitions include:
    * `Platform.Spares`
    * `Platform.Called`
    * `Platform.Unstruck`

  Main results:
    * `Platform.allocate_called`
    * `Platform.attach_called`
    * `Platform.map_called`
    * `Platform.allocate_of_spared`
    * `Platform.attach_of_spared`
    * `Platform.map_of_spared`
    * `Platform.free_of_spared`
    * `Platform.detach_of_spared`
    * `Platform.unmap_of_spared`
    * `Platform.unmap_of_unstruck`
    * `Platform.free_of_unstruck`
-/

namespace Offload

------------------------------------------------------------
-- Planned Failures
------------------------------------------------------------

namespace FaultPlan

theorem strike_of_nil
    {p : FaultPlan}
    {call : DeviceCall}
    (h : p call = []) : p.strike call = (false, p) := by
  unfold strike
  rw [h]

/-
  A look at a plan adds no failures to it, and takes one off
  if it is due.
-/
theorem strike_length
    (p : FaultPlan)
    (call other : DeviceCall) :
    ((p.strike other).2 call).length +
        (if (p.strike other).1 = true ∧ call = other then 1
          else 0) =
      (p call).length := by
  unfold strike
  by_cases hCall : call = other
  · rw [hCall]
    cases hPlan : (p other : List Nat) with
    | nil => simp [hPlan]
    | cons gap later => cases gap <;> simp [set]
  · cases hPlan : (p other : List Nat) with
    | nil => simp [hCall]
    | cons gap later => cases gap <;> simp [set, hCall]

end FaultPlan

namespace Platform

variable {α : Type}

/- No more failures of a call are planned than before. -/
def Spares
    (m m' : Platform) : Prop :=
  ∀ call, (m'.faults call).length ≤ (m.faults call).length

theorem Spares.refl
    (m : Platform) : m.Spares m :=
  fun _ => Nat.le_refl _

theorem Spares.trans
    {m m' m'' : Platform}
    (hFirst : m.Spares m')
    (hSecond : m'.Spares m'') : m.Spares m'' :=
  fun call => Nat.le_trans (hSecond call) (hFirst call)

/- Calls without planned failures get none. -/
theorem Spares.nil
    {m m' : Platform}
    {call : DeviceCall}
    (h : m.Spares m')
    (hNil : m.faults call = []) : m'.faults call = [] := by
  have hLength := h call
  rw [hNil] at hLength
  exact List.length_eq_zero_iff.mp (Nat.le_zero.mp hLength)

------------------------------------------------------------
-- Calls
------------------------------------------------------------

/-
  How a call of `f` can end: it is refused and the device
  stays as it is, or the device answers.
-/
inductive Called
    (f : Device → Except Error (α × Device))
    (m : Platform) : Except Error α × Platform → Prop
  where
  | refused {e : Error} {m' : Platform} :
      m.Spares m' →
        m'.device = m.device → Called f m (.error e, m')
  | answered {a : α} {m' : Platform} :
      m.Spares m' →
        f m.device = .ok (a, m'.device) →
          Called f m (.ok a, m')

/- The platform once a failure was looked for. -/
def struck
    (call : DeviceCall)
    (m : Platform) : Platform :=
  { m with faults := (m.faults.strike call).2 }

theorem spares_struck
    (call : DeviceCall)
    (m : Platform) : m.Spares (m.struck call) := by
  intro other
  have hLength := m.faults.strike_length other call
  exact Nat.le.intro hLength

/- A look for a failure refuses or lets pass. -/
theorem pass_cases
    (call : DeviceCall)
    (m : Platform) :
    pass call m = (.error (injected call), m.struck call) ∨
      pass call m = (.ok (), m.struck call) := by
  unfold pass
  simp only [isStruck, bind, Op.bind, Op.update]
  cases (m.faults.strike call).1 with
  | true => exact Or.inl rfl
  | false => exact Or.inr rfl

/- A call without planned failures is not refused by them. -/
theorem pass_of_nil
    {m : Platform}
    {call : DeviceCall}
    (h : m.faults call = []) : pass call m = (.ok (), m) := by
  simp only [pass, isStruck, bind, Op.bind, Op.update,
    FaultPlan.strike_of_nil h]
  rfl

theorem call_called
    (f : Device → Except Error (α × Device))
    (m : Platform) : Called f m (Platform.call f m) := by
  simp only [Platform.call, Op.change]
  cases hDevice : f m.device with
  | error e => exact .refused (.refl m) rfl
  | ok p => exact .answered (.refl m) hDevice

theorem act_called
    (f : Device → Device)
    (m : Platform) :
    Called (fun d => .ok ((), f d)) m
      (act f m : Except Error Unit × Platform) :=
  .answered (.refl m) rfl

/- What was called behind a look for a failure was called. -/
theorem Called.of_struck
    {f : Device → Except Error (α × Device)}
    {call : DeviceCall}
    {m : Platform}
    {r : Except Error α × Platform}
    (h : Called f (m.struck call) r) : Called f m r := by
  have hSpares := spares_struck call m
  cases h with
  | refused hRest hSame =>
      exact .refused (hSpares.trans hRest) hSame
  | answered hRest hDone =>
      exact .answered (hSpares.trans hRest) hDone

/- A call behind a look for a failure. -/
theorem Called.of_pass
    {f : Device → Except Error (α × Device)}
    {x : Op Error Platform α}
    (hCalled : ∀ m, Called f m (x m))
    (call : DeviceCall)
    (m : Platform) :
    Called f m ((pass call >>= fun _ => x) m) := by
  simp only [bind, Op.bind]
  rcases pass_cases call m with hRefused | hPassed
  · rw [hRefused]
    exact .refused (spares_struck call m) rfl
  · rw [hPassed]
    exact (hCalled _).of_struck

theorem attach_called
    (addr : Nat)
    (m : Platform) :
    Called (fun d => d.attach addr) m (attach addr m) :=
  Called.of_pass (call_called _) .attach m

theorem map_called
    (region : Region)
    (m : Platform) :
    Called (fun d => d.map region) m (map region m) :=
  Called.of_pass (call_called _) .map m

theorem invalidate_called
    (m : Platform) :
    Called (fun d => .ok ((), d.invalidate)) m
      (invalidate m) :=
  Called.of_pass (act_called _) .invalidate m

theorem flush_called
    (m : Platform) :
    Called (fun d => .ok ((), d.flush)) m (flush m) :=
  Called.of_pass (act_called _) .flush m

theorem unmap_called
    (m : Platform) :
    Called (fun d => .ok ((), d.unmap)) m (unmap m) :=
  Called.of_pass (act_called _) .unmap m

theorem free_called
    (region : Region)
    (m : Platform) :
    Called (fun d => d.free region) m (free region m) :=
  Called.of_pass (call_called _) .free m

theorem detach_called
    (region : Region)
    (m : Platform) :
    Called (fun d => d.detach region) m (detach region m) :=
  Called.of_pass (call_called _) .detach m

/- An allocation may also be answered with no regions. -/
theorem allocate_called
    (target : MemoryTarget)
    (cache : CachePolicy)
    (sizes : List Nat)
    (m : Platform) :
    Called (fun d => d.allocate target cache sizes) m
        (allocate target cache sizes m) ∨
      ∃ m',
        allocate target cache sizes m = (.ok [], m') ∧
          m.Spares m' ∧ m'.device = m.device := by
  simp only [allocate, bind, Op.bind]
  rcases pass_cases .alloc m with hRefused | hPassed
  · rw [hRefused]
    exact Or.inl (.refused (spares_struck .alloc m) rfl)
  · rw [hPassed]
    simp only [isStruck, Op.update]
    have hCalled :=
      call_called (fun d => d.allocate target cache sizes)
        ((m.struck .alloc).struck .allocEmpty)
    cases ((m.struck .alloc).faults.strike .allocEmpty).1 with
    | true =>
        have hSpares :=
          (spares_struck .alloc m).trans
            (spares_struck .allocEmpty _)
        exact Or.inr ⟨_, rfl, hSpares, rfl⟩
    | false => exact Or.inl hCalled.of_struck.of_struck

------------------------------------------------------------
-- Calls without Planned Failures
------------------------------------------------------------

theorem unmap_of_spared
    {m : Platform}
    (h : m.faults .unmap = []) :
    unmap m = (.ok (), { m with device := m.device.unmap }) := by
  simp only [unmap, bind, Op.bind, pass_of_nil h]
  rfl

theorem invalidate_of_spared
    {m : Platform}
    (h : m.faults .invalidate = []) :
    invalidate m =
      (.ok (), { m with device := m.device.invalidate }) := by
  simp only [invalidate, bind, Op.bind, pass_of_nil h]
  rfl

theorem flush_of_spared
    {m : Platform}
    (h : m.faults .flush = []) :
    flush m = (.ok (), { m with device := m.device.flush }) := by
  simp only [flush, bind, Op.bind, pass_of_nil h]
  rfl

/- An allocation on a device that never answers with nothing. -/
theorem allocate_of_spared
    {m : Platform}
    (hSpare : m.faults .allocEmpty = [])
    (target : MemoryTarget)
    (cache : CachePolicy)
    (sizes : List Nat) :
    allocate target cache sizes m =
      (pass .alloc >>= fun _ =>
        call fun d => d.allocate target cache sizes) m := by
  simp only [allocate, bind, Op.bind]
  rcases pass_cases .alloc m with hRefused | hPassed
  · rw [hRefused]
  · have hNone := (spares_struck .alloc m).nil hSpare
    rw [hPassed]
    simp only [isStruck, Op.update,
      FaultPlan.strike_of_nil hNone]
    rfl

theorem attach_of_spared
    {m : Platform}
    (h : m.faults .attach = [])
    {addr : Nat}
    {region : Region}
    {d : Device}
    (hDone : m.device.attach addr = .ok (region, d)) :
    attach addr m = (.ok region, { m with device := d }) := by
  simp only [attach, bind, Op.bind, pass_of_nil h,
    Platform.call, Op.change, hDone]

theorem map_of_spared
    {m : Platform}
    (h : m.faults .map = [])
    {region : Region}
    {mapping : Mapping}
    {d : Device}
    (hDone : m.device.map region = .ok (mapping, d)) :
    map region m = (.ok mapping, { m with device := d }) := by
  simp only [map, bind, Op.bind, pass_of_nil h,
    Platform.call, Op.change, hDone]

theorem free_of_spared
    {m : Platform}
    (h : m.faults .free = [])
    {region : Region}
    {d : Device}
    (hDone : m.device.free region = .ok ((), d)) :
    free region m = (.ok (), { m with device := d }) := by
  simp only [free, bind, Op.bind, pass_of_nil h,
    Platform.call, Op.change, hDone]

theorem detach_of_spared
    {m : Platform}
    (h : m.faults .detach = [])
    {region : Region}
    {d : Device}
    (hDone : m.device.detach region = .ok ((), d)) :
    detach region m = (.ok (), { m with device := d }) := by
  simp only [detach, bind, Op.bind, pass_of_nil h,
    Platform.call, Op.change, hDone]

------------------------------------------------------------
-- Calls That No Failure Struck
------------------------------------------------------------

/-
  No planned failure of a call came up on the way from one
  platform to another: as many are planned as before.
-/
def Unstruck
    (call : DeviceCall)
    (m m' : Platform) : Prop :=
  (m'.faults call).length = (m.faults call).length

instance
    (call : DeviceCall)
    (m m' : Platform) : Decidable (Unstruck call m m') :=
  inferInstanceAs
    (Decidable
      ((m'.faults call).length = (m.faults call).length))

/- None came up on either part of the way. -/
theorem Unstruck.parts
    {call : DeviceCall}
    {m m' m'' : Platform}
    (h : Unstruck call m m'')
    (hFirst : m.Spares m')
    (hSecond : m'.Spares m'') :
    Unstruck call m m' ∧ Unstruck call m' m'' := by
  have hBefore := hFirst call
  have hAfter := hSecond call
  unfold Unstruck at *
  omega

/- A call that no failure struck is made. -/
theorem pass_of_unstruck
    {call : DeviceCall}
    {x : Op Error Platform α}
    {m : Platform}
    (h : Unstruck call m ((pass call >>= fun _ => x) m).2) :
    (pass call >>= fun _ => x) m = x (m.struck call) := by
  have hLength := m.faults.strike_length call call
  simp only [pass, isStruck, bind, Op.bind, Op.update] at h ⊢
  cases hStrike : (m.faults.strike call).1 with
  | true =>
      -- The failure is off the plan.
      rw [hStrike] at h hLength
      simp only [Unstruck, and_self, if_true, Op.fail]
        at h hLength
      omega
  | false => rfl

theorem unmap_of_unstruck
    {m : Platform}
    (h : Unstruck .unmap m (unmap m).2) :
    unmap m =
      (.ok (),
        { m.struck .unmap with device := m.device.unmap }) :=
  pass_of_unstruck h

theorem free_of_unstruck
    {m : Platform}
    {region : Region}
    {d : Device}
    (h : Unstruck .free m (free region m).2)
    (hDone : m.device.free region = .ok ((), d)) :
    free region m =
      (.ok (), { m.struck .free with device := d }) := by
  have hPassed := pass_of_unstruck h
  have hFree :
      (m.struck .free).device.free region = .ok ((), d) :=
    hDone
  refine hPassed.trans ?_
  simp only [Platform.call, Op.change, hFree]

end Platform

end Offload
