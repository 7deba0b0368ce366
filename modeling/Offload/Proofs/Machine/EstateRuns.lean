import Offload.Proofs.Machine.Estate

/-
  What a device counts while its handles are in many hands.

  Whatever a client does, each event is a run of handles
  that are made, used and dropped one by one. What holds of
  such runs holds of clients: as long as no window is left,
  the device is in balance with all handles, no release
  meets an error and each handle is mapped at most once.

  Key definitions include:
    * `Estate.Matches`
    * `Estate.Follows`
    * `Estate.Orderly`

  Main results:
    * `Estate.matches_step`
    * `Estate.follows_run`
    * `Estate.orderly_run`
-/

namespace Offload

open Holdings

namespace Estate

------------------------------------------------------------
-- Whole Runs
------------------------------------------------------------

/-
  Holdings with the platform of a client and with the
  handles of the client and the machine in their table.
-/
structure Matches
    (s : Estate)
    (t : Holdings) : Prop where
  platform : t.platform = s.2.platform
  keyed : t.handles.Keyed
  handles : t.held.Perm (held s)

/-
  Each event of a client goes along with some events of
  holdings, and the states match before and after it.
-/
inductive Follows :
    List Event → List (List Holdings.Event) →
      Estate → Holdings → Prop
  where
  | stop {s : Estate} {t : Holdings} :
      Matches s t → Follows [] [] s t
  | next
      {e : Event}
      {es : List Event}
      {fs : List Holdings.Event}
      {fss : List (List Holdings.Event)}
      {s : Estate}
      {t : Holdings} :
      Matches s t →
        Follows es fss (step e s)
            (Run.after Holdings.step fs t) →
          Follows (e :: es) (fs :: fss) s t

theorem matches_step
    {s : Estate}
    {t : Holdings}
    (hSound : custodian.sound s)
    (hMatches : Matches s t)
    (e : Event) :
    custodian.sound (step e s) ∧
      ∃ fs,
        Matches (step e s) (Run.after Holdings.step fs t) := by
  rcases carries_perform e s hSound with ⟨hNext, hTurns⟩
  refine ⟨hNext, ?_⟩
  have hContents :
      t.handles.contents.Perm (held s ++ []) := by
    rw [List.append_nil]
    exact hMatches.handles
  rcases hTurns t.handles [] hMatches.keyed hContents with
    ⟨t', hKeyed', hContents', fs, hAfter⟩
  have hState :
      Holdings.mk (custodian.platform s) t.handles = t := by
    change Holdings.mk s.2.platform t.handles = t
    rw [← hMatches.platform]
  rw [hState] at hAfter
  refine ⟨fs, ?_⟩
  rw [hAfter]
  refine ⟨rfl, hKeyed', ?_⟩
  rw [List.append_nil] at hContents'
  exact hContents'

theorem follows_run
    {s : Estate}
    {t : Holdings}
    (hSound : custodian.sound s)
    (hMatches : Matches s t)
    (es : List Event) : ∃ fss, Follows es fss s t := by
  induction es generalizing s t with
  | nil => exact ⟨[], .stop hMatches⟩
  | cons e rest ih =>
      rcases matches_step hSound hMatches e with
        ⟨hNext, fs, hMatches'⟩
      rcases ih hNext hMatches' with ⟨fss, hFollows⟩
      exact ⟨fs :: fss, .next hMatches hFollows⟩

/- The states of a run match states of the one it follows. -/
theorem Follows.matches
    {es : List Event}
    {fss : List (List Holdings.Event)}
    {s : Estate}
    {t : Holdings}
    (hFollows : Follows es fss s t) :
    ∀ u ∈ Run.states step es s,
      ∃ v ∈ Run.states Holdings.step fss.flatten t,
        Matches u v := by
  induction hFollows with
  | stop hMatches =>
      intro u hMem
      rw [List.mem_singleton.mp hMem]
      exact ⟨_, List.mem_singleton_self _, hMatches⟩
  | @next e es fs fss s t hMatches _ ih =>
      intro u hMem
      rcases List.mem_cons.mp hMem with rfl | hLater
      · exact ⟨t, Run.start_mem_states _ t, hMatches⟩
      · rcases ih u hLater with ⟨v, hState, hMatch⟩
        refine ⟨v, ?_, hMatch⟩
        rw [List.flatten_cons]
        exact Run.states_append_right _ _ _ hState

theorem Follows.last
    {es : List Event}
    {fss : List (List Holdings.Event)}
    {s : Estate}
    {t : Holdings}
    (hFollows : Follows es fss s t) :
    Matches (Run.after step es s)
      (Run.after Holdings.step fss.flatten t) := by
  induction hFollows with
  | stop hMatches => exact hMatches
  | @next e es fs fss s t _ _ ih =>
      rw [List.flatten_cons, Run.after_append]
      exact ih

/-
  In all states of a run the device is in balance with the
  handles that the client and the machine hold. The run is
  one of handles that are made, used and dropped one by one:
  no drop of one meets an error, and each is mapped at most
  once and then stays where it is.
-/
structure Orderly
    (es : List Event)
    (first : Estate) : Prop where
  balanced :
    ∀ s ∈ Run.states step es first,
      s.2.platform.device.Balanced (held s)
  handled :
    ∃ fss,
      Follows es fss first
          ⟨first.2.platform, Table.empty⟩ ∧
        Holdings.Orderly fss.flatten
          ⟨first.2.platform, Table.empty⟩

theorem orderly_of_inside
    (page : PageSize)
    (capacity : MemoryTarget → Nat)
    (files : FileTree)
    {faults : FaultPlan}
    (telemetry : Telemetry)
    (hPlan : Releasing faults)
    (es : List Event)
    (hInside :
      ∀ s ∈
          Run.states step es
            (start page capacity files faults telemetry),
        s.2.platform.device.CursorsInside) :
    Orderly es
      (start page capacity files faults telemetry) := by
  have hSound :
      custodian.sound
        (start page capacity files faults telemetry) :=
    ⟨Table.keyed_empty, Table.keyed_empty,
      Table.keyed_empty, nofun, hPlan⟩
  have hStart :
      Matches (start page capacity files faults telemetry)
        (Holdings.start page capacity faults telemetry) :=
    ⟨rfl, Table.keyed_empty, List.Perm.refl _⟩
  rcases follows_run hSound hStart es with ⟨fss, hFollows⟩
  have hLast :
      (Run.after Holdings.step fss.flatten
        (Holdings.start page capacity faults
          telemetry)).platform.device.CursorsInside := by
    rw [hFollows.last.platform]
    exact hInside _ (Run.after_mem_states es _)
  have hInsideAll := inside_run hLast
  have hOrderly :=
    Holdings.orderly_of_inside page capacity telemetry hPlan
      fss.flatten hInsideAll
  refine ⟨?_, fss, hFollows, hOrderly⟩
  intro s hMem
  rcases hFollows.matches s hMem with ⟨t, hState, hMatches⟩
  have hBalanced :=
    sound_run (sound_start page capacity telemetry hPlan)
      hInsideAll t hState
  have hAll := hBalanced.keeps.perm hMatches.handles
  rw [hMatches.platform] at hAll
  exact hAll.accounted.balanced

/-
  Handles are orderly while no window is left, with failures
  planned for any calls but those that release: whether they
  are made, used and dropped one by one in any order, or by
  whatever a client does.
-/
theorem orderly_run
    (page : PageSize)
    (capacity : MemoryTarget → Nat)
    (files : FileTree)
    {faults : FaultPlan}
    (telemetry : Telemetry)
    (hPlan : Releasing faults) :
    (∀ es : List Holdings.Event,
      (∀ t ∈
          Run.states Holdings.step es
            (Holdings.start page capacity faults telemetry),
        t.platform.device.CursorsInside) →
          Holdings.Orderly es
            (Holdings.start page capacity faults telemetry)) ∧
      ∀ es : List Event,
        (∀ s ∈
            Run.states step es
              (start page capacity files faults telemetry),
          s.2.platform.device.CursorsInside) →
            Orderly es
              (start page capacity files faults telemetry) :=
  ⟨Holdings.orderly_of_inside page capacity telemetry hPlan,
    orderly_of_inside page capacity files telemetry hPlan⟩

/-
  A region of two is attached and its owner dropped first;
  the first mapping fails.
-/
def ownerFirst : List Holdings.Event :=
  [.allocate .generic .uncached [100, 4000],
    .attach Device.windowBase, .drop 0, .map 2, .map 2,
    .flush 2, .drop 2, .drop 1]

/-
  A buffer of two segments is attached to, resolved and then
  dropped; a buffer of a pool is dropped after the pool was
  deactivated. The second mapping fails, which is that of a
  cache.
-/
def ownersFirst : List Event :=
  [.allocateSegments ⟨"parts", .segmented⟩ ⟨0⟩
      [⟨"head", 100⟩, ⟨"tail", 4000⟩],
    .attach Device.windowBase, .createCache 1,
    .resolve 0 Device.windowBase, .map 1,
    .resolve 0 Device.windowBase, .drop 0,
    .createPool ⟨"plain", .contiguous⟩ 1 2 ⟨0⟩ [4096] [],
    .setActive 0 true, .tryAcquire 0, .setActive 0 false,
    .clearCache 0, .drop 2, .drop 1, .drop 3]

/- Owners may be dropped before what is attached to them. -/
theorem ownersFirst_orderly :
    Orderly ownersFirst
        (start .usual Device.defaultCapacity FileTree.empty
          (FaultPlan.none.arm .map 2) Telemetry.empty) ∧
      (Run.after step ownersFirst
          (start .usual Device.defaultCapacity FileTree.empty
            (FaultPlan.none.arm .map 2)
            Telemetry.empty)).2.platform.device.counters =
        ⟨2, 3, 3, 3, 4, 4, 0, 0⟩ ∧
      Holdings.Orderly ownerFirst
        (Holdings.start .usual Device.defaultCapacity
          (FaultPlan.none.arm .map 1) Telemetry.empty) ∧
      (Run.after Holdings.step ownerFirst
          (Holdings.start .usual Device.defaultCapacity
            (FaultPlan.none.arm .map 1)
            Telemetry.empty)).platform.device.counters =
        ⟨1, 2, 1, 1, 1, 1, 0, 1⟩ := by
  refine ⟨?_, by decide +kernel, ?_, by decide +kernel⟩
  · apply
      (orderly_run .usual Device.defaultCapacity FileTree.empty
        Telemetry.empty ⟨rfl, rfl, rfl⟩).2
    decide +kernel
  · apply
      (orderly_run .usual Device.defaultCapacity FileTree.empty
        Telemetry.empty ⟨rfl, rfl, rfl⟩).1
    decide +kernel

end Estate

end Offload
