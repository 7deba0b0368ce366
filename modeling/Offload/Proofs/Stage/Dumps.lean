import Offload.Proofs.Memory.Visits
import Offload.Proofs.Op
import Offload.Stage.Resources

/-
  What dumping an output does to the device.

  To dump an output a stage attaches to its region and maps
  it, reads the bytes and gives the region back. Whatever
  part of that fails, the device is restored with its files
  as they were, as long as a handle can be given back.

  Key definitions include:
    * `Platform.OnlyReads`
    * `Machine.Intact`

  Main results:
    * `StageResources.dumpRegion_visits`
    * `StageResources.dump_intact`
-/

namespace Offload

------------------------------------------------------------
-- Reading
------------------------------------------------------------

/-
  The device is restored with its files as they were, and no
  calls are newly planned to fail.
-/
structure Platform.OnlyReads
    (m m' : Platform) : Prop where
  restored : m.device.Restored m'.device
  files : m'.device.files = m.device.files
  spares : m.Spares m'

namespace Platform

theorem OnlyReads.of_device
    {m m' : Platform}
    (hSpares : m.Spares m')
    (hDevice : m'.device = m.device) : m.OnlyReads m' where
  restored := by
    rw [hDevice]
    exact .refl _
  files := by rw [hDevice]
  spares := hSpares

theorem OnlyReads.trans
    {m m' m'' : Platform}
    (hFirst : m.OnlyReads m')
    (hNext : m'.OnlyReads m'') : m.OnlyReads m'' where
  restored := hFirst.restored.trans hNext.restored
  files := hNext.files.trans hFirst.files
  spares := hFirst.spares.trans hNext.spares

end Platform

/-
  The device is restored with its files as they were, and
  the transports stay.
-/
structure Machine.Intact
    (m m' : Machine) : Prop where
  restored : m.platform.device.Restored m'.platform.device
  files : m'.platform.device.files = m.platform.device.files
  transports : m'.transports = m.transports

theorem Machine.Intact.refl
    (m : Machine) : m.Intact m :=
  ⟨.refl _, rfl, rfl⟩

/- The same of a machine, whose transports stay, too. -/
structure Machine.OnlyReads
    (m m' : Machine) : Prop where
  platform : m.platform.OnlyReads m'.platform
  transports : m'.transports = m.transports

theorem Machine.OnlyReads.trans
    {m m' m'' : Machine}
    (hFirst : m.OnlyReads m')
    (hNext : m'.OnlyReads m'') : m.OnlyReads m'' where
  platform := hFirst.platform.trans hNext.platform
  transports := hNext.transports.trans hFirst.transports

namespace Handle

theorem invalidate_onlyReads
    (h : Handle) :
    Op.Moves Platform.OnlyReads h.invalidate := by
  unfold invalidate
  cases h.isMapped with
  | false => exact fun m => .of_device (.refl m) rfl
  | true =>
      intro m
      rw [if_pos rfl]
      have hCalled := Platform.invalidate_called m
      generalize Platform.invalidate m = x at hCalled
      cases hCalled with
      | refused hSpares hDevice =>
          exact .of_device hSpares hDevice
      | answered hSpares hOk =>
          have hDevice := congrArg Prod.snd (Except.ok.inj hOk)
          simp only at hDevice
          refine ⟨?_, ?_, hSpares⟩
          · rw [← hDevice]
            exact ⟨rfl, fun _ => rfl, rfl, rfl⟩
          · rw [← hDevice]
            rfl

theorem read_onlyReads
    {ε : Type}
    (h : Handle)
    (start count : Nat) :
    Op.Moves Platform.OnlyReads
      (h.read start count : Op ε Platform Bytes) := by
  unfold read
  cases h.mapping with
  | none => exact fun m => .of_device (.refl m) rfl
  | some mapping => exact fun m => .of_device (.refl m) rfl

end Handle

namespace StageResources

/- A handle stays as it is while the machine is read. -/
def Looking
    (s t : Handle × Machine) : Prop :=
  t.1 = s.1 ∧ s.2.OnlyReads t.2

instance : IsTrans (Handle × Machine) Looking where
  trans _ _ _ hst htu :=
    ⟨htu.1.trans hst.1, hst.2.trans htu.2⟩

variable {ε α : Type}

theorem looking_within
    {x : Op ε Machine α}
    (hx : Op.Moves Machine.OnlyReads x) :
    Op.Moves Looking
      (Op.within Lens.snd x : Op ε (Handle × Machine) α) :=
  fun s => ⟨rfl, hx s.2⟩

theorem looking_onPlatform
    {x : Op ε Platform α}
    (hx : Op.Moves Platform.OnlyReads x) :
    Op.Moves Looking
      (Op.within Lens.snd (Machine.onPlatform x) :
        Op ε (Handle × Machine) α) :=
  looking_within fun m => ⟨hx m.platform, rfl⟩

theorem writeFile_onlyReads
    (path : String)
    (bytes : Bytes) :
    Op.Moves Machine.OnlyReads (writeFile path bytes) := by
  intro m
  simp only [writeFile, Op.change]
  cases m.files.write path bytes with
  | error fault => exact ⟨.of_device (.refl _) rfl, rfl⟩
  | ok files => exact ⟨.of_device (.refl _) rfl, rfl⟩

theorem log_onlyReads
    (level : Level)
    (message : String)
    (fields : List (String × String)) :
    Op.Moves Machine.OnlyReads
      (Machine.log level message fields :
        Op ε Machine Unit) :=
  fun m => ⟨.of_device (.refl m.platform) rfl, rfl⟩

------------------------------------------------------------
-- Dumping
------------------------------------------------------------

variable {id : Nat}
variable {region : LiveRegion}
variable {h : Handle}
variable {p : Platform}
variable {m : Machine}

/- What only looks at a mapped region goes on with a visit. -/
theorem visits_of_looking
    {x : Op Error (Handle × Machine) α}
    (hx : Op.Moves Looking x)
    {s : Handle × Machine}
    (hVisit : Handle.Visiting id region s.1 p s.2.platform) :
    Handle.Visiting id region (x s).2.1 p s.2.platform ∧
      s.2.OnlyReads (x s).2.2 :=
  ⟨(hx s).1.symm ▸ hVisit, (hx s).2⟩

/- What dumps a region goes on with a visit and only reads. -/
theorem dumpRegion_visits
    (hVisit : Handle.Visiting id region h p m.platform)
    (hNone : h.mapping = none)
    (r : StageResources)
    (path : String)
    (size : Nat) :
    ∃ v,
      Handle.Visiting id region
          (r.dumpRegion path size (h, m)).2.1 p v ∧
        ({ m with platform := v } : Machine).OnlyReads
          (r.dumpRegion path size (h, m)).2.2 := by
  unfold dumpRegion
  rw [Op.run_bind_of_ok (a := (h, m)) rfl]
  dsimp only [Op.get]
  rcases hVisit.map hNone with
    ⟨h', v, hMap, _, hVisit'⟩ | ⟨e, v, hMap, hVisit', _⟩
  · have hStart :
        (Op.within Lens.snd (Machine.onPlatform h.map) :
            Op Error (Handle × Machine) Handle) (h, m) =
          (.ok h', (h, { m with platform := v })) := by
      simp only [Op.within, Machine.onPlatform, Lens.snd,
        Machine.platformPart, hMap]
    refine ⟨v, ?_⟩
    rw [Op.run_bind_of_ok (congrArg Prod.fst hStart),
      Op.run_bind_of_ok (a := ()) rfl, hStart]
    apply
      visits_of_looking
        (s := (h', { m with platform := v })) ?_ hVisit'
    apply (looking_onPlatform h'.invalidate_onlyReads).bind
    intro _
    apply
      (looking_onPlatform (h'.read_onlyReads _ _)).bind
    intro bytes
    apply
      (looking_within (writeFile_onlyReads path bytes)).bind
    intro _
    exact looking_within (log_onlyReads _ _ _)
  · have hStart :
        (Op.within Lens.snd (Machine.onPlatform h.map) :
            Op Error (Handle × Machine) Handle) (h, m) =
          (.error e, (h, { m with platform := v })) := by
      simp only [Op.within, Machine.onPlatform, Lens.snd,
        Machine.platformPart, hMap]
    refine ⟨v, ?_⟩
    simp only [bind, Op.bind, hStart]
    exact ⟨hVisit', .of_device (.refl v) rfl, rfl⟩

/-
  A dump leaves a machine intact, as long as the region can
  be given back.
-/
theorem dump_intact
    (hUnmap : m.platform.faults .unmap = [])
    (hDetach : m.platform.faults .detach = [])
    (r : StageResources)
    (job : Job) :
    m.Intact (r.dump job m).2 := by
  unfold dump
  cases r.dumpPath? job with
  | none => exact .refl m
  | some path =>
      cases job.primaryOutput? with
      | none => exact .refl m
      | some output =>
          rcases Handle.Visiting.of_attach output.binding.addr
              m.platform with
            ⟨region, h, p, hAttach, hNone, hVisit⟩ |
              ⟨e, p, hAttach, _, hDevice⟩
          · rcases dumpRegion_visits
                (m := { m with platform := p }) hVisit hNone
                r path output.binding.size with
              ⟨v, hVisit', hReads⟩
            simp only [bind, Op.bind, Machine.onPlatform,
              Op.within, Machine.platformPart, hAttach,
              Op.beside]
            generalize r.dumpRegion path output.binding.size
              (h, { m with platform := p }) = x at *
            rcases x with ⟨result, h', m'⟩
            have hSpares :=
              hVisit'.spares.trans hReads.platform.spares
            rcases hVisit'.release (ε := Error)
                hReads.platform.restored
                (hSpares.nil hUnmap)
                (hSpares.nil hDetach) with
              ⟨d, hRelease, hRestored, hFiles, _⟩
            simp only [hRelease, Op.ofExcept]
            exact
              ⟨hRestored,
                hFiles.trans
                  (hReads.platform.files.trans
                    hVisit'.files),
                hReads.transports⟩
          · simp only [bind, Op.bind, Machine.onPlatform,
              Op.within, Machine.platformPart, hAttach]
            constructor
            · rw [hDevice]
              exact .refl _
            · rw [hDevice]
            · rfl

end StageResources

end Offload
