import Offload.Proofs.Run
import Offload.Proofs.Memory.Handles

/-
  Handles that are made, used and dropped in any order.

  Whoever holds them, all handles on one device are rows of
  a table. An event is what is done to the device through
  one handle, or an allocation of several. As long as the
  windows are wide enough, the device accounts for exactly
  the handles that there are, all through a run.

  Key definitions include:
    * `Holdings`
    * `Holdings.Event`
    * `Holdings.step`
    * `Holdings.Orderly`

  Main results:
    * `Holdings.sound_step`
    * `Holdings.fixed_run`
    * `Holdings.sound_run`
    * `Holdings.orderly_of_inside`
-/

namespace Offload

------------------------------------------------------------
-- States and Events
------------------------------------------------------------

/- A platform and all the handles on its device. -/
structure Holdings where
  platform : Platform
  handles : Table Handle

namespace Holdings

/-
  What is done in one go. A handle is named by its number;
  an event for a number without a handle does nothing. Other
  failures may be planned at any time, but none of the calls
  that release.
-/
inductive Event where
  | allocate
      (target : MemoryTarget)
      (cache : CachePolicy)
      (sizes : List Nat)
  | attach (addr : Nat)
  | map (key : Nat)
  | invalidate (key : Nat)
  | flush (key : Nat)
  | write (key start : Nat) (bytes : Bytes)
  | drop (key : Nat)
  | note (f : Telemetry → Telemetry)
  | plan (faults : FaultPlan)

/- Whether a plan lets every release go through. -/
def Releasing
    (faults : FaultPlan) : Prop :=
  faults .unmap = [] ∧ faults .free = [] ∧
    faults .detach = []

instance
    (faults : FaultPlan) : Decidable (Releasing faults) := by
  unfold Releasing
  infer_instance

/- A device without regions, and failures planned for it. -/
def start
    (page : PageSize)
    (capacity : MemoryTarget → Nat)
    (faults : FaultPlan)
    (telemetry : Telemetry) : Holdings :=
  ⟨⟨Device.fresh page capacity, faults, telemetry⟩,
    Table.empty⟩

/- The handles, in no particular order. -/
def held
    (s : Holdings) : List Handle :=
  s.handles.contents

/- Take handles into the table. -/
def addAll : List Handle → Table Handle → Table Handle
  | [], t => t
  | h :: rest, t => addAll rest (t.insert h).2

/- Do something with a handle that keeps it as it is. -/
def through
    (key : Nat)
    (x : Handle → Op Error Platform Unit)
    (s : Holdings) : Holdings :=
  match s.handles.get? key with
  | none => s
  | some h => { s with platform := (x h s.platform).2 }

/- Attach a new handle. -/
def attach
    (addr : Nat)
    (s : Holdings) : Holdings :=
  match Handle.attach addr s.platform with
  | (.ok h, m) => ⟨m, (s.handles.insert h).2⟩
  | (.error _, m) => ⟨m, s.handles⟩

/- Map a handle. -/
def map
    (key : Nat)
    (s : Holdings) : Holdings :=
  match s.handles.get? key with
  | none => s
  | some h =>
    match h.map s.platform with
    | (.ok h', m) => ⟨m, s.handles.set key h'⟩
    | (.error _, m) => ⟨m, s.handles⟩

/- Drop a handle. -/
def drop
    (key : Nat)
    (s : Holdings) : Holdings :=
  match s.handles.get? key with
  | none => s
  | some h =>
    ⟨(h.release s.platform : Except Error Unit × _).2,
      s.handles.erase key⟩

/- The state after an event. -/
def step
    (e : Event)
    (s : Holdings) : Holdings :=
  match e with
  | .allocate target cache sizes =>
    let r := Platform.allocate target cache sizes s.platform
    ⟨r.2, addAll (Device.owners (regionsIn r.1)) s.handles⟩
  | .attach addr => s.attach addr
  | .map key => s.map key
  | .invalidate key => s.through key Handle.invalidate
  | .flush key => s.through key Handle.flush
  | .write key start bytes =>
    s.through key fun h => h.write start bytes
  | .drop key => s.drop key
  | .note f =>
    { s with
      platform :=
        { s.platform with
          telemetry := f s.platform.telemetry } }
  | .plan faults =>
    if Releasing faults then
      { s with
        platform := { s.platform with faults := faults } }
    else
      s

------------------------------------------------------------
-- The Account
------------------------------------------------------------

/- The device accounts for the handles in the table. -/
structure Sound
    (s : Holdings) : Prop where
  keyed : s.handles.Keyed
  keeps : s.platform.Keeps s.held

theorem keyed_addAll
    (hs : List Handle)
    {t : Table Handle}
    (hKeyed : t.Keyed) : (addAll hs t).Keyed := by
  induction hs generalizing t with
  | nil => exact hKeyed
  | cons h rest ih => exact ih (hKeyed.insert h)

theorem contents_addAll
    (hs : List Handle)
    (t : Table Handle) :
    (addAll hs t).contents.Perm (hs ++ t.contents) := by
  induction hs generalizing t with
  | nil => exact List.Perm.refl _
  | cons h rest ih =>
      apply (ih (t.insert h).2).trans
      exact List.perm_middle

theorem Sound.through
    {s : Holdings}
    (hSound : s.Sound)
    (key : Nat)
    {x : Handle → Op Error Platform Unit}
    (hx : ∀ h, (x h s.platform).2.Keeps s.held) :
    (s.through key x).Sound := by
  unfold Holdings.through
  cases s.handles.get? key with
  | none => exact hSound
  | some h => exact ⟨hSound.keyed, hx h⟩

theorem Sound.attach
    {s : Holdings}
    (hSound : s.Sound)
    (addr : Nat) : (s.attach addr).Sound := by
  have hKeeps := hSound.keeps.attach addr
  unfold Holdings.attach
  rcases hRun : Handle.attach addr s.platform with ⟨_ | h, m⟩
  · rw [hRun] at hKeeps
    exact ⟨hSound.keyed, hKeeps⟩
  · rw [hRun] at hKeeps
    exact ⟨hSound.keyed.insert h, hKeeps⟩

theorem Sound.map
    {s : Holdings}
    (hSound : s.Sound)
    (key : Nat) : (s.map key).Sound := by
  unfold Holdings.map
  cases hFound : s.handles.get? key with
  | none => exact hSound
  | some h =>
      have hPerm := hSound.keyed.contents_erase hFound
      have hKeeps := (hSound.keeps.perm hPerm).map
      rcases hRun : h.map s.platform with ⟨_ | h', m⟩
      · rw [hRun] at hKeeps
        simp only [hRun]
        exact ⟨hSound.keyed, hKeeps.perm hPerm.symm⟩
      · rw [hRun] at hKeeps
        simp only [hRun]
        have hSet := hSound.keyed.contents_set hFound h'
        exact
          ⟨hSound.keyed.set key h', hKeeps.perm hSet.symm⟩

theorem Sound.drop
    {s : Holdings}
    (hSound : s.Sound)
    (key : Nat) : (s.drop key).Sound := by
  unfold Holdings.drop
  cases hFound : s.handles.get? key with
  | none => exact hSound
  | some h =>
      have hPerm := hSound.keyed.contents_erase hFound
      exact
        ⟨hSound.keyed.erase key,
          (hSound.keeps.perm hPerm).release.2.1⟩

/- The account is kept while no cursor leaves its window. -/
theorem sound_step
    {s : Holdings}
    {e : Event}
    (hSound : s.Sound)
    (hInside : (step e s).platform.device.CursorsInside) :
    (step e s).Sound := by
  cases e with
  | allocate target cache sizes =>
      have hKeeps :=
        hSound.keeps.allocate target cache sizes hInside
      exact
        ⟨keyed_addAll _ hSound.keyed,
          hKeeps.perm (contents_addAll _ _).symm⟩
  | attach addr => exact hSound.attach addr
  | map key => exact hSound.map key
  | invalidate key =>
      exact hSound.through key hSound.keeps.invalidate
  | flush key => exact hSound.through key hSound.keeps.flush
  | write key start bytes =>
      exact
        hSound.through key fun h =>
          hSound.keeps.write h start bytes
  | drop key => exact hSound.drop key
  | note f =>
      exact
        ⟨hSound.keyed,
          hSound.keeps.of_device (.refl _) rfl⟩
  | plan faults =>
      by_cases hPlan : Releasing faults
      · rw [step, if_pos hPlan]
        exact
          ⟨hSound.keyed,
            ⟨hSound.keeps.accounted, hPlan.1, hPlan.2.1,
              hPlan.2.2⟩⟩
      · rw [step, if_neg hPlan]
        exact hSound

------------------------------------------------------------
-- One Handle
------------------------------------------------------------

/-
  A number was given out, and the handle under it, until it
  is dropped, has the region, the origin and the mapping
  that it had.
-/
structure Fixed
    (key : Nat)
    (h : Handle)
    (m : Mapping)
    (s : Holdings) : Prop where
  keyed : s.handles.Keyed
  given : key < s.handles.next
  same :
    ∀ h', s.handles.get? key = some h' →
      h'.bare = h.bare ∧ h'.mapping = some m

section Fixed

variable {key : Nat}
variable {h : Handle}
variable {m : Mapping}
variable {s : Holdings}

theorem Fixed.addAll
    {t : Table Handle}
    (hKeyed : t.Keyed)
    (hGiven : key < t.next)
    (hs : List Handle) :
    key < (Holdings.addAll hs t).next ∧
      (Holdings.addAll hs t).get? key = t.get? key := by
  induction hs generalizing t with
  | nil => exact ⟨hGiven, rfl⟩
  | cons x rest ih =>
      have hNext := ih (hKeyed.insert x) (Nat.lt_succ_of_lt hGiven)
      refine ⟨hNext.1, hNext.2.trans ?_⟩
      exact Table.get?_insert_other (Nat.ne_of_lt hGiven) x

theorem Fixed.through
    (hFixed : s.Fixed key h m)
    (other : Nat)
    (x : Handle → Op Error Platform Unit) :
    (s.through other x).Fixed key h m := by
  unfold Holdings.through
  cases s.handles.get? other with
  | none => exact hFixed
  | some _ =>
      exact ⟨hFixed.keyed, hFixed.given, hFixed.same⟩

theorem Fixed.attach
    (hFixed : s.Fixed key h m)
    (addr : Nat) : (s.attach addr).Fixed key h m := by
  unfold Holdings.attach
  rcases Handle.attach addr s.platform with ⟨_ | x, m'⟩
  · exact ⟨hFixed.keyed, hFixed.given, hFixed.same⟩
  · refine
      ⟨hFixed.keyed.insert x,
        Nat.lt_succ_of_lt hFixed.given, ?_⟩
    simp only
    rw [Table.get?_insert_other (Nat.ne_of_lt hFixed.given)]
    exact hFixed.same

/- A mapped handle is not mapped again. -/
theorem map_of_mapped
    (hKeyed : s.handles.Keyed)
    (hFound : s.handles.get? key = some h)
    (hMapped : h.mapping = some m) : s.map key = s := by
  have hRun : h.map s.platform = (.ok h, s.platform) := by
    simp only [Handle.map, hMapped]
    rfl
  simp only [Holdings.map, hFound, hRun,
    hKeyed.set_self hFound]

theorem Fixed.map
    (hFixed : s.Fixed key h m)
    (other : Nat) : (s.map other).Fixed key h m := by
  cases hFound : s.handles.get? other with
  | none =>
      simp only [Holdings.map, hFound]
      exact hFixed
  | some x =>
      by_cases hKey : key = other
      · rw [← hKey] at hFound ⊢
        rw [map_of_mapped hFixed.keyed hFound
          (hFixed.same x hFound).2]
        exact hFixed
      · simp only [Holdings.map, hFound]
        rcases x.map s.platform with ⟨_ | x', m'⟩
        · exact ⟨hFixed.keyed, hFixed.given, hFixed.same⟩
        · refine
            ⟨hFixed.keyed.set other x', hFixed.given, ?_⟩
          simp only
          rw [Table.get?_set_other hKey]
          exact hFixed.same

theorem Fixed.drop
    (hFixed : s.Fixed key h m)
    (other : Nat) : (s.drop other).Fixed key h m := by
  unfold Holdings.drop
  cases s.handles.get? other with
  | none => exact hFixed
  | some x =>
      refine ⟨hFixed.keyed.erase other, hFixed.given, ?_⟩
      simp only
      by_cases hKey : key = other
      · rw [hKey, Table.get?_erase_self]
        exact nofun
      · rw [Table.get?_erase_other hKey]
        exact hFixed.same

/- No event gives a number or a mapped handle a new mapping. -/
theorem fixed_step
    (s : Holdings)
    (e : Event)
    (hFixed : s.Fixed key h m) : (step e s).Fixed key h m := by
  cases e with
  | allocate target cache sizes =>
      have hTable :=
        Fixed.addAll hFixed.keyed hFixed.given
          (Device.owners
            (regionsIn
              (Platform.allocate target cache sizes
                s.platform).1))
      refine
        ⟨keyed_addAll _ hFixed.keyed, hTable.1, ?_⟩
      simp only [step]
      rw [hTable.2]
      exact hFixed.same
  | attach addr => exact hFixed.attach addr
  | map other => exact hFixed.map other
  | invalidate other => exact hFixed.through other _
  | flush other => exact hFixed.through other _
  | write other start bytes => exact hFixed.through other _
  | drop other => exact hFixed.drop other
  | note f => exact ⟨hFixed.keyed, hFixed.given, hFixed.same⟩
  | plan faults =>
      by_cases hPlan : Releasing faults
      · rw [step, if_pos hPlan]
        exact ⟨hFixed.keyed, hFixed.given, hFixed.same⟩
      · rw [step, if_neg hPlan]
        exact hFixed

/-
  Once a handle is mapped it keeps its mapping, region and
  origin while it exists, and no other handle ever gets its
  number.
-/
theorem fixed_run
    (hKeyed : s.handles.Keyed)
    (hFound : s.handles.get? key = some h)
    (hMapped : h.mapping = some m)
    (es : List Event) :
    ∀ t ∈ Run.states step es s, t.Fixed key h m := by
  apply Run.forall_states fixed_step es
  refine ⟨hKeyed, hKeyed.lt_next hFound, ?_⟩
  intro h' hSame
  rw [hFound] at hSame
  cases hSame
  exact ⟨rfl, hMapped⟩

end Fixed

------------------------------------------------------------
-- Whole Runs
------------------------------------------------------------

theorem sound_start
    (page : PageSize)
    (capacity : MemoryTarget → Nat)
    {faults : FaultPlan}
    (telemetry : Telemetry)
    (hPlan : Releasing faults) :
    (start page capacity faults telemetry).Sound :=
  ⟨Table.keyed_empty,
    ⟨Device.accounted_fresh page capacity, hPlan.1, hPlan.2.1,
      hPlan.2.2⟩⟩

/- The account is kept all through such a run. -/
theorem sound_run
    {s : Holdings}
    (hSound : s.Sound)
    {es : List Event}
    (hInside :
      ∀ t ∈ Run.states step es s,
        t.platform.device.CursorsInside) :
    ∀ t ∈ Run.states step es s, t.Sound := by
  apply Run.forall_states_of_moves hSound
  intro t e hMove hBefore
  apply sound_step hBefore
  exact hInside _ (Run.mem_states_of_mem_moves hMove).2

/- What drops one handle finds its device to answer. -/
structure Releases
    (m : Platform)
    (h : Handle) : Prop where
  unmap : h.isMapped = true → (Platform.unmap m).1 = .ok ()
  giveBack :
    (h.giveBack
        (h.unmap m : Except Error Unit × Platform).2).1 =
      .ok ()
  silent :
    (h.release m : Except Error Unit × Platform).2.telemetry =
      m.telemetry

theorem Sound.releases
    {s : Holdings}
    (hSound : s.Sound)
    {key : Nat}
    {h : Handle}
    (hFound : s.handles.get? key = some h) :
    Releases s.platform h := by
  have hPerm := hSound.keyed.contents_erase hFound
  have hRelease := (hSound.keeps.perm hPerm).release
  constructor
  · intro _
    rw [Platform.unmap_of_spared hSound.keeps.unmap]
  · exact hRelease.1
  · exact hRelease.2.2

/-
  All states of a run are balanced and no drop meets an
  error. A handle is mapped once: what maps it again changes
  nothing, and its mapping stays what it is as long as the
  handle exists.
-/
structure Orderly
    (es : List Event)
    (first : Holdings) : Prop where
  balanced :
    ∀ s ∈ Run.states step es first,
      s.platform.device.Balanced s.held
  releases :
    ∀ s key h, (s, .drop key) ∈ Run.moves step es first →
      s.handles.get? key = some h → Releases s.platform h
  once :
    ∀ s key h, (s, .map key) ∈ Run.moves step es first →
      s.handles.get? key = some h →
        h.isMapped = true → step (.map key) s = s
  fixed :
    ∀ front back s key h m,
      es = front ++ back →
        s = Run.after step front first →
          s.handles.get? key = some h →
            h.mapping = some m →
              ∀ t ∈ Run.states step back s,
                ∀ h', t.handles.get? key = some h' →
                  h'.bare = h.bare ∧ h'.mapping = some m

/-
  Runs are orderly while no window is left, with failures
  planned for any calls but those that release.
-/
theorem orderly_of_inside
    (page : PageSize)
    (capacity : MemoryTarget → Nat)
    {faults : FaultPlan}
    (telemetry : Telemetry)
    (hPlan : Releasing faults)
    (es : List Event)
    (hInside :
      ∀ s ∈
          Run.states step es
            (start page capacity faults telemetry),
        s.platform.device.CursorsInside) :
    Orderly es (start page capacity faults telemetry) := by
  have hSound :=
    sound_run (sound_start page capacity telemetry hPlan)
      hInside
  constructor
  · intro s hMem
    exact (hSound s hMem).keeps.accounted.balanced
  · intro s key h hMove hFound
    have hMem := (Run.mem_states_of_mem_moves hMove).1
    exact (hSound s hMem).releases hFound
  · intro s key h hMove hFound hMapped
    have hMem := (Run.mem_states_of_mem_moves hMove).1
    rcases Option.isSome_iff_exists.mp hMapped with
      ⟨m, hMapping⟩
    exact
      map_of_mapped (hSound s hMem).keyed hFound hMapping
  · rintro front back s key h m rfl rfl hFound hMapping
    have hMem :=
      hSound _ (Run.after_mem_states_append front back _)
    intro t hLater h' hSame
    exact
      (fixed_run hMem.keyed hFound hMapping back t
        hLater).same h' hSame

end Holdings

end Offload
