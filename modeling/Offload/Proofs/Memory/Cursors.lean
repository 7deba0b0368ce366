import Offload.Proofs.Run
import Offload.Proofs.Memory.PlatformMoves

/-
  What only goes forward on a platform.

  All that is done to a device are the acts of a device. No
  act moves the cursor of a window back, and no call adds
  failures to a plan that has none for it.

  Key definitions include:
    * `Platform.Advances`

  Main results:
    * `Platform.Advances.cursors`
-/

namespace Offload

/- No act moves a cursor back. -/
theorem Device.cursor_act
    (d : Device)
    (a : Act)
    (t : MemoryTarget) :
    (d.windows t).next ≤ ((act a d).windows t).next := by
  cases a with
  | call c =>
      rcases step_cases c d with
        hSame | ⟨target, cache, sizes, answer, hOk⟩ |
          ⟨addr, old, new, hUpdated⟩
      · exact Nat.le_of_eq (by rw [act, hSame])
      · have hNext := (allocate_ok hOk).2.2.2 t
        have hUp := d.page.le_up (d.windows target).next
        rw [act, hNext]
        split
        · rename_i hTarget
          rw [hTarget]
          omega
        · exact Nat.le_refl _
      · exact Nat.le_of_eq (hUpdated.cursors t).symm
  | map region =>
      simp only [act, Device.map]
      cases d.region? region.addr <;> exact Nat.le_refl _
  | write mapping start bytes =>
      simp only [act, Device.write]
      cases d.files.get? mapping.file <;> exact Nat.le_refl _
  | _ => exact Nat.le_refl _

namespace Platform

/-
  Acts lead from one device to the other, and calls without
  failures stay so.
-/
structure Advances
    (m m' : Platform) : Prop where
  spares : m.Spares m'
  acts : Run.Reaches Device.act m.device m'.device

instance : Std.Refl Advances where
  refl m := ⟨.refl m, .refl m.device⟩

instance : IsTrans Platform Advances where
  trans _ _ _ h h' :=
    ⟨h.spares.trans h'.spares, h.acts.trans h'.acts⟩

/- Cursors move up. -/
theorem Advances.cursors
    {m m' : Platform}
    (h : m.Advances m')
    (t : MemoryTarget) :
    (m.device.windows t).next ≤ (m'.device.windows t).next :=
  h.acts.keep
    (P := fun d =>
      (m.device.windows t).next ≤ (d.windows t).next)
    (fun d a hBelow =>
      Nat.le_trans hBelow (Device.cursor_act d a t))
    (Nat.le_refl _)

/- All that is built on a platform goes forward. -/
instance : Frame Advances where
  struck call m := ⟨spares_struck call m, .refl m.device⟩
  acted a m := ⟨.refl m, [a], rfl⟩
  recorded _ m _ := ⟨.refl m, .refl m.device⟩
  direct := fun {m _} hRun => ⟨.refl m, hRun.acts⟩

end Platform

end Offload
