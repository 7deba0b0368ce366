import Offload.Proofs.Memory.Accounts
import Offload.Proofs.Memory.PlatformCalls

/-
  What the operations on handles do to the account.

  Allocating, attaching and mapping may fail, and then leave
  the account as it was. While no failures are planned for
  unmapping, freeing and detaching, a handle that the device
  accounts for is released without one.

  Key definitions include:
    * `Platform.Keeps`

  Main results:
    * `Platform.Keeps.allocate`
    * `Platform.Keeps.attach`
    * `Platform.Keeps.map`
    * `Platform.Keeps.release`
-/

namespace Offload

open Device

/- The regions of an allocation, none if it failed. -/
def regionsIn
    (answer : Except Error (List Region)) : List Region :=
  match answer with
  | .ok regions => regions
  | .error _ => []

namespace Device

/- What is done to a device without regard to its regions. -/
structure Unaccounted
    (f : Device → Device) : Prop where
  alike : ∀ d : Device, d.Alike (f d)
  maps :
    ∀ d : Device, (f d).counters.maps = d.counters.maps
  unmaps :
    ∀ d : Device, (f d).counters.unmaps = d.counters.unmaps

theorem unaccounted_invalidate : Unaccounted invalidate where
  alike := fun _ => ⟨rfl, rfl, rfl, rfl, rfl⟩
  maps := fun _ => rfl
  unmaps := fun _ => rfl

theorem unaccounted_flush : Unaccounted flush where
  alike := fun _ => ⟨rfl, rfl, rfl, rfl, rfl⟩
  maps := fun _ => rfl
  unmaps := fun _ => rfl

theorem unaccounted_write
    (mapping : Mapping)
    (start : Nat)
    (bytes : Bytes) :
    Unaccounted fun d => d.write mapping start bytes := by
  constructor
  · intro d
    simp only [Device.write]
    cases d.files.get? mapping.file with
    | none => exact ⟨rfl, rfl, rfl, rfl, rfl⟩
    | some b => exact ⟨rfl, rfl, rfl, rfl, rfl⟩
  · intro d
    simp only [Device.write]
    cases d.files.get? mapping.file <;> rfl
  · intro d
    simp only [Device.write]
    cases d.files.get? mapping.file <;> rfl

end Device

namespace Platform

/-
  The device accounts for some handles, and no failures are
  planned for the calls that release them.
-/
structure Keeps
    (m : Platform)
    (hs : List Handle) : Prop where
  accounted : m.device.Accounted hs
  unmap : m.faults .unmap = []
  free : m.faults .free = []
  detach : m.faults .detach = []

namespace Keeps

variable {m m' : Platform}
variable {h : Handle}
variable {hs : List Handle}

theorem of_spares
    {hs' : List Handle}
    (hKeeps : m.Keeps hs)
    (hSpares : m.Spares m')
    (hAll : m'.device.Accounted hs') : m'.Keeps hs' :=
  ⟨hAll, hSpares.nil hKeeps.unmap, hSpares.nil hKeeps.free,
    hSpares.nil hKeeps.detach⟩

/- The device may be the same in all that is accounted. -/
theorem of_device
    (hKeeps : m.Keeps hs)
    (hSpares : m.Spares m')
    (hDevice : m'.device = m.device) : m'.Keeps hs := by
  apply hKeeps.of_spares hSpares
  rw [hDevice]
  exact hKeeps.accounted

theorem perm
    {hs' : List Handle}
    (hKeeps : m.Keeps hs)
    (hPerm : hs.Perm hs') : m.Keeps hs' :=
  { hKeeps with accounted := hKeeps.accounted.perm hPerm }

------------------------------------------------------------
-- Obtaining
------------------------------------------------------------

theorem allocate
    (hKeeps : m.Keeps hs)
    (target : MemoryTarget)
    (cache : CachePolicy)
    (sizes : List Nat)
    (hInside :
      (Platform.allocate target cache sizes
        m).2.device.CursorsInside) :
    (Platform.allocate target cache sizes m).2.Keeps
      (owners
          (regionsIn
            (Platform.allocate target cache sizes m).1) ++
        hs) := by
  rcases allocate_called target cache sizes m with
    hCalled | ⟨m', hRun, hSpares, hDevice⟩
  · generalize Platform.allocate target cache sizes m = r
      at hCalled hInside ⊢
    cases hCalled with
    | refused hSpares hDevice =>
        exact hKeeps.of_device hSpares hDevice
    | answered hSpares hOk =>
        exact
          hKeeps.of_spares hSpares
            (hKeeps.accounted.allocated hInside hOk)
  · rw [hRun]
    exact hKeeps.of_device hSpares hDevice

theorem attach
    (hKeeps : m.Keeps hs)
    (addr : Nat) :
    match Handle.attach addr m with
    | (.ok h, m') => m'.Keeps (h :: hs)
    | (.error _, m') => m'.Keeps hs := by
  have hCalled := attach_called addr m
  simp only [Handle.attach, bind, Op.bind]
  generalize Platform.attach addr m = r at hCalled
  cases hCalled with
  | refused hSpares hDevice =>
      exact hKeeps.of_device hSpares hDevice
  | answered hSpares hOk =>
      exact
        hKeeps.of_spares hSpares
          (hKeeps.accounted.attached hOk)

------------------------------------------------------------
-- Using
------------------------------------------------------------

theorem map
    (hKeeps : m.Keeps (h :: hs)) :
    match h.map m with
    | (.ok h', m') => m'.Keeps (h' :: hs)
    | (.error _, m') => m'.Keeps (h :: hs) := by
  unfold Handle.map
  cases hMapping : h.mapping with
  | some _ => exact hKeeps
  | none =>
      have hCalled := map_called h.region m
      simp only [bind, Op.bind]
      generalize Platform.map h.region m = r at hCalled
      cases hCalled with
      | refused hSpares hDevice =>
          exact hKeeps.of_device hSpares hDevice
      | answered hSpares hOk =>
          exact
            hKeeps.of_spares hSpares
              (hKeeps.accounted.mapped hMapping hOk)

theorem of_unaccounted
    {f : Device → Device}
    (hKeeps : m.Keeps hs)
    (hSpares : m.Spares m')
    (hf : Unaccounted f)
    (hDevice : m'.device = f m.device) : m'.Keeps hs := by
  apply hKeeps.of_spares hSpares
  rw [hDevice]
  apply hKeeps.accounted.of_alike (hf.alike _) rfl
  rw [hf.maps, hf.unmaps]
  exact hKeeps.accounted.maps

theorem of_called
    {f : Device → Device}
    {r : Except Error Unit × Platform}
    (hKeeps : m.Keeps hs)
    (hf : Unaccounted f)
    (hCalled : Called (fun d => .ok ((), f d)) m r) :
    r.2.Keeps hs := by
  cases hCalled with
  | refused hSpares hDevice =>
      exact hKeeps.of_device hSpares hDevice
  | answered hSpares hOk =>
      apply hKeeps.of_unaccounted hSpares hf
      exact (congrArg Prod.snd (Except.ok.inj hOk)).symm

theorem invalidate
    (hKeeps : m.Keeps hs)
    (h : Handle) : (h.invalidate m).2.Keeps hs := by
  unfold Handle.invalidate
  cases h.isMapped with
  | false => exact hKeeps
  | true =>
      exact
        hKeeps.of_called unaccounted_invalidate
          (invalidate_called m)

theorem flush
    (hKeeps : m.Keeps hs)
    (h : Handle) : (h.flush m).2.Keeps hs := by
  unfold Handle.flush
  cases h.isMapped with
  | false => exact hKeeps
  | true =>
      exact
        hKeeps.of_called unaccounted_flush (flush_called m)

theorem write
    (hKeeps : m.Keeps hs)
    (h : Handle)
    (start : Nat)
    (bytes : Bytes) :
    (h.write start bytes m : Except Error Unit × _).2.Keeps
      hs := by
  unfold Handle.write
  cases h.mapping with
  | none => exact hKeeps
  | some mapping =>
      have hDevice :
          (Platform.write mapping start bytes m :
            Except Error Unit × Platform).2.device =
            m.device.write mapping start bytes :=
        rfl
      exact
        hKeeps.of_unaccounted (.refl m)
          (unaccounted_write mapping start bytes) hDevice

------------------------------------------------------------
-- Releasing
------------------------------------------------------------

/- A mapping that is accounted for can be removed. -/
theorem unmap_ok
    (hKeeps : m.Keeps (h :: hs)) :
    ∃ m',
      (h.unmap m : Except Error Unit × Platform) =
          (.ok (), m') ∧
        m'.Keeps (h.bare :: hs) ∧
          m'.telemetry = m.telemetry := by
  unfold Handle.unmap
  cases hMapping : h.mapping with
  | none =>
      have hBare : h.bare = h := by
        rw [Handle.bare, ← hMapping]
      rw [hBare]
      exact ⟨m, rfl, hKeeps, rfl⟩
  | some _ =>
      have hMapped : h.isMapped = true := by
        rw [Handle.isMapped, hMapping]
        rfl
      refine
        ⟨{ m with device := m.device.unmap }, ?_, ?_, rfl⟩
      · simp only [Op.orElse, unmap_of_spared hKeeps.unmap]
      · exact
          ⟨hKeeps.accounted.unmapped hMapped, hKeeps.unmap,
            hKeeps.free, hKeeps.detach⟩

/- A region that is accounted for can be given back. -/
theorem giveBack_ok
    (hKeeps : m.Keeps (h.bare :: hs)) :
    ∃ m',
      h.giveBack m = (.ok (), m') ∧ m'.Keeps hs ∧
        m'.telemetry = m.telemetry := by
  unfold Handle.giveBack
  cases hOrigin : h.origin with
  | allocated =>
      rcases hKeeps.accounted.freed hOrigin rfl with
        ⟨d, hOk, hAll⟩
      exact
        ⟨_, free_of_spared hKeeps.free hOk,
          ⟨hAll, hKeeps.unmap, hKeeps.free, hKeeps.detach⟩,
          rfl⟩
  | attached =>
      rcases hKeeps.accounted.detached hOrigin rfl with
        ⟨d, hOk, hAll⟩
      exact
        ⟨_, detach_of_spared hKeeps.detach hOk,
          ⟨hAll, hKeeps.unmap, hKeeps.free, hKeeps.detach⟩,
          rfl⟩

/-
  A handle that is accounted for is released without an
  error, and so without a warning.
-/
theorem release
    (hKeeps : m.Keeps (h :: hs)) :
    (h.giveBack
        (h.unmap m : Except Error Unit × Platform).2).1 =
      .ok () ∧
      (h.release m : Except Error Unit × Platform).2.Keeps hs ∧
        (h.release m : Except Error Unit × _).2.telemetry =
          m.telemetry := by
  rcases hKeeps.unmap_ok with
    ⟨m', hUnmap, hKeeps', hTelemetry⟩
  rcases hKeeps'.giveBack_ok with
    ⟨m'', hBack, hKeeps'', hTelemetry'⟩
  have hRelease :
      (h.release m : Except Error Unit × Platform) =
        (.ok (), m'') := by
    simp only [Handle.release, bind, Op.bind, hUnmap,
      Op.orElse, hBack]
  rw [hUnmap, hRelease]
  exact
    ⟨congrArg Prod.fst hBack, hKeeps'',
      hTelemetry'.trans hTelemetry⟩

end Keeps

end Platform

end Offload
