import Offload.Proofs.Dispatch.SampleCopies

/-
  What goes on while a call waits.

  While a call waits for its answer, services run on: they
  answer requests of others, and firmware copies samples
  from one region to another. The regions it works on are
  attached for as long as a copy takes, so that in the end
  the device is restored, whatever was asked of whom.

  Key definitions include:
    * `Platform.Undisturbed`
    * `Machine.Undisturbed`

  Main results:
    * `Firmware.copySample_restores`
    * `Firmware.execute_undisturbed`
-/

namespace Offload

------------------------------------------------------------
-- The Platform
------------------------------------------------------------

namespace Platform

/- The device of a platform is restored. -/
def Restores
    (m m' : Platform) : Prop :=
  m.device.Restored m'.device

instance : Std.Refl Restores where
  refl m := .refl m.device

instance : IsTrans Platform Restores where
  trans _ _ _ h h' := Device.Restored.trans h h'

/-
  A device is restored, by acts of a device, and the same
  failures are planned.
-/
structure Undisturbed
    (m m' : Platform) : Prop where
  faults : m'.faults = m.faults
  acts : Run.Reaches Device.act m.device m'.device
  restored : m.device.Restored m'.device

instance : Std.Refl Undisturbed where
  refl m := ⟨rfl, .refl m.device, .refl m.device⟩

instance : IsTrans Platform Undisturbed where
  trans _ _ _ h h' :=
    ⟨h'.faults.trans h.faults, h.acts.trans h'.acts,
      h.restored.trans h'.restored⟩

theorem Undisturbed.advances
    {m m' : Platform}
    (h : m.Undisturbed m') : m.Advances m' where
  spares := fun call => Nat.le_of_eq (by rw [h.faults])
  acts := h.acts

/- What is recorded does not matter. -/
theorem Undisturbed.recorded
    {m m' : Platform}
    (telemetry : Telemetry)
    (h : m.Undisturbed m') :
    m.Undisturbed { m' with telemetry := telemetry } :=
  ⟨h.faults, h.acts, h.restored⟩

end Platform

------------------------------------------------------------
-- Copies
------------------------------------------------------------

namespace Handle

open Platform

/- A call that only counts restores the device. -/
theorem restores_of_called
    {f : Device → Device}
    {m : Platform}
    {r : Except Error Unit × Platform}
    (hCalled : Called (fun d => .ok ((), f d)) m r)
    (hf : ∀ d : Device, d.Restored (f d)) : m.Restores r.2 := by
  cases hCalled with
  | refused _ hDevice =>
      rw [Restores, hDevice]
      exact .refl _
  | answered _ hOk =>
      have hDone := congrArg Prod.snd (Except.ok.inj hOk)
      simp only at hDone
      rw [Restores, ← hDone]
      exact hf _

theorem invalidate_restores
    (h : Handle) : Op.Moves Restores h.invalidate := by
  intro m
  unfold invalidate
  cases h.isMapped with
  | false => exact .refl _
  | true =>
      exact
        restores_of_called (invalidate_called m)
          fun _ => ⟨rfl, fun _ => rfl, rfl, rfl⟩

theorem flush_restores
    (h : Handle) : Op.Moves Restores h.flush := by
  intro m
  unfold flush
  cases h.isMapped with
  | false => exact .refl _
  | true =>
      exact
        restores_of_called (flush_called m)
          fun _ => ⟨rfl, fun _ => rfl, rfl, rfl⟩

theorem read_restores
    {ε : Type}
    (h : Handle)
    (start count : Nat) :
    Op.Moves Restores
      (h.read start count : Op ε Platform Bytes) := by
  intro m
  unfold read
  cases h.mapping <;> exact .refl _

theorem write_restores
    {ε : Type}
    (h : Handle)
    (start : Nat)
    (bytes : Bytes) :
    Op.Moves Restores
      (h.write start bytes : Op ε Platform Unit) := by
  intro m
  unfold write
  cases h.mapping with
  | none => exact .refl _
  | some mapping =>
      exact Device.restored_write m.device mapping start bytes

end Handle

namespace Firmware

open Platform

/- A region that holds an address is visited, or restored. -/
theorem reach_cases
    {m : Platform}
    (hFaults : m.Unfaulted)
    (addr : Nat) :
    (∃ r h offset base m',
        reach addr m = (.ok (h, offset), m') ∧
          Handle.Visiting base r h m m') ∨
      ∃ e m',
        reach addr m = (.error e, m') ∧ m.Spares m' ∧
          m.Restores m' := by
  cases hHolds : m.device.containing? addr with
  | none =>
      simp only [reach, bind, Op.bind, Op.get, hHolds]
      exact Or.inr ⟨_, m, rfl, .refl m, .refl _⟩
  | some base =>
      have hReach :
          reach addr m =
            (orBadValue (IdCache.attachMapped base) >>=
              fun h => Op.pure (h, addr - base)) m := by
        simp only [reach, bind, Op.bind, Op.get, hHolds]
        rfl
      simp only [bind, Op.bind, orBadValue, Op.mapError]
        at hReach
      rcases IdCache.attachMapped_cases (hFaults .unmap)
          (hFaults .detach) base with
        ⟨r, h, m', hRun, _, hVisit⟩ |
          ⟨e, m', hRun, hSpares, hRestored, _⟩
      · rw [hRun] at hReach
        exact Or.inl ⟨r, h, _, base, m', hReach, hVisit⟩
      · rw [hRun] at hReach
        exact Or.inr ⟨_, m', hReach, hSpares, hRestored⟩

theorem transfer_restores
    (count : Nat)
    (source target : Handle × Nat) :
    Op.Moves Restores (transfer count source target) := by
  unfold transfer
  split
  · apply (source.1.invalidate_restores.mapError _).bind
    intro _
    apply (source.1.read_restores source.2 count).bind
    intro bytes
    apply (target.1.write_restores target.2 bytes).bind
    intro _
    exact target.1.flush_restores.mapError _
  · exact Op.Moves.fail badValue

/- Whatever becomes of a copy, its visits end. -/
theorem copySample_restores
    (mode : CopyMode)
    (source target : UInt64)
    {m : Platform}
    (hFaults : m.Unfaulted) :
    m.Restores (copySample mode source target m).2 := by
  rcases reach_cases hFaults source.toNat with
    ⟨r, s, i, base, m₁, hFrom, hVisit⟩ |
      ⟨e, m₁, hFrom, _, hRestored⟩
  · have hFaults₁ := hFaults.of_spares hVisit.spares
    rcases reach_cases hFaults₁ target.toNat with
      ⟨r', t, j, base', m₂, hTo, hVisit'⟩ |
        ⟨e, m₂, hTo, hSpares, hRestored⟩
    · have hFaults₂ := hFaults₁.of_spares hVisit'.spares
      have hMove : m₂.Advances _ :=
        transfer_moves (min mode.inSize mode.outSize)
          (s, i) (t, j) m₂
      have hRestored :=
        transfer_restores (min mode.inSize mode.outSize)
          (s, i) (t, j) m₂
      rcases hTransfer :
          transfer (min mode.inSize mode.outSize) (s, i)
            (t, j) m₂ with ⟨result, m₃⟩
      rw [hTransfer] at hMove hRestored
      have hFaults₃ := hFaults₂.of_spares hMove.spares
      rcases hVisit'.ended (ε := Status) hFaults₃ hRestored
        with ⟨d₄, hRelease', hRestored', _⟩
      rcases hVisit.ended (ε := Status) hFaults₃ hRestored'
        with ⟨d₅, hRelease, hEnd, _⟩
      have hCopy :
          copySample mode source target m =
            (result, { m₃ with device := d₅ }) := by
        simp only [copySample, bind, Op.bind, hFrom,
          Op.attempt, hTo, hTransfer]
        simp only [hRelease', hRelease]
        rfl
      rw [hCopy]
      exact hEnd
    · have hFaults₂ := hFaults₁.of_spares hSpares
      rcases hVisit.ended (ε := Status) hFaults₂ hRestored
        with ⟨d₃, hRelease, hEnd, _⟩
      have hCopy :
          copySample mode source target m =
            (.error e, { m₂ with device := d₃ }) := by
        simp only [copySample, bind, Op.bind, hFrom,
          Op.attempt, hTo]
        simp only [hRelease]
        rfl
      rw [hCopy]
      exact hEnd
  · have hCopy :
        copySample mode source target m = (.error e, m₁) := by
      simp only [copySample, bind, Op.bind, hFrom]
    rw [hCopy]
    exact hRestored

theorem copySamples_restores
    (mode : CopyMode)
    (samples : List (UInt64 × UInt64))
    {m : Platform}
    (hFaults : m.Unfaulted) :
    m.Restores (copySamples mode samples m).2 := by
  induction samples generalizing m with
  | nil => exact .refl _
  | cons sample rest ih =>
      have hFirst :=
        copySample_restores mode sample.1 sample.2 hFaults
      have hMove : m.Advances _ :=
        copySample_moves mode sample.1 sample.2 m
      simp only [copySamples, bind, Op.bind]
      rcases hRun : copySample mode sample.1 sample.2 m with
        ⟨e | _, m'⟩
      · rw [hRun] at hFirst
        exact hFirst
      · rw [hRun] at hFirst hMove
        exact
          Device.Restored.trans hFirst
            (ih (hFaults.of_spares hMove.spares))

end Firmware

/- What is run without failures comes back with their plan. -/
theorem Platform.direct_undisturbed
    {ε α : Type}
    {x : Op ε Platform α}
    (hActs : Op.Moves Platform.Advances x)
    (hRestores :
      ∀ m : Platform, m.Unfaulted → m.Restores (x m).2) :
    Op.Moves Platform.Undisturbed (Platform.direct x) := by
  intro m
  have hMove := hActs { m with faults := FaultPlan.none }
  have hEnd :=
    hRestores { m with faults := FaultPlan.none }
      fun _ => rfl
  unfold Platform.direct
  rcases hRun : x { m with faults := FaultPlan.none } with
    ⟨result, m'⟩
  rw [hRun] at hMove hEnd
  exact ⟨rfl, hMove.acts, hEnd⟩

------------------------------------------------------------
-- Firmware
------------------------------------------------------------

namespace Firmware

/- A run copies its samples and restores the device. -/
theorem execute_undisturbed
    (r : RunRecord) :
    Op.Moves (Op.Second Platform.Undisturbed) (execute r) :=
  execute_of_copies
    (fun mode samples =>
      Platform.direct_undisturbed
        (copySamples_moves mode samples)
        fun _ => copySamples_restores mode samples) r

end Firmware

------------------------------------------------------------
-- Services
------------------------------------------------------------

namespace Machine

/- The platform is not disturbed, and pools are the same. -/
structure Undisturbed
    (m m' : Machine) : Prop where
  platform : m.platform.Undisturbed m'.platform
  pools : m'.pools = m.pools

instance : Std.Refl Undisturbed where
  refl m := ⟨Std.Refl.refl m.platform, rfl⟩

instance : IsTrans Machine Undisturbed where
  trans _ _ _ h h' :=
    ⟨IsTrans.trans _ _ _ h.platform h'.platform,
      h'.pools.trans h.pools⟩

theorem Undisturbed.trans
    {m m' m'' : Machine}
    (h : m.Undisturbed m')
    (h' : m'.Undisturbed m'') : m.Undisturbed m'' :=
  IsTrans.trans _ _ _ h h'

/- Services disturb nobody, whatever they are asked. -/
instance : Services Undisturbed where
  serving :=
    { logged := fun _ m _ =>
        ⟨.recorded _ (Std.Refl.refl m), rfl⟩
      executed := fun r s _ =>
        ⟨Firmware.execute_undisturbed r s, rfl⟩ }
  aside m _ _ _ := ⟨Std.Refl.refl m.platform, rfl⟩

end Machine

end Offload
