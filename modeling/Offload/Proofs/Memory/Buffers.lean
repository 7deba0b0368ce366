import Offload.Memory.Pool
import Offload.Proofs.Op
import Offload.Proofs.Memory.Handles

/-
  Buffers and the regions they own.

  A buffer is known by the names and the sizes of its
  segments and by its handles, which are the same before and
  after mapping. What uses a buffer leaves all windows and
  regions alone; what allocates one enters regions at
  addresses that were not reached yet; what releases a
  handle changes the entry at its address and no other.

  Key definitions include:
    * `Buffer.layout`
    * `Buffer.bares`
    * `Device.inUse`
    * `Device.Lists`
    * `Device.Carved`
    * `Device.GivenBack`

  Main results:
    * `Buffer.map_same`
    * `Device.carved_of_allocate`
    * `Device.Lists.free`
    * `Handle.release_cases`
-/

namespace Offload

------------------------------------------------------------
-- Layouts and Handles of Buffers
------------------------------------------------------------

namespace Segment

/- The name and the size. -/
def spec
    (s : Segment) : SegmentSpec :=
  ⟨s.name, s.size⟩

/- The handle, whether it is mapped or not. -/
def bare
    (s : Segment) : Handle :=
  s.handle.bare

/- The size of a segment does not depend on its mapping. -/
theorem spec_of_bare
    (s : Segment)
    {h : Handle}
    (hBare : h.bare = s.handle.bare) :
    spec { s with handle := h } = s.spec := by
  have hRegion : h.bare.region = s.handle.bare.region := by
    rw [hBare]
  change h.region = s.handle.region at hRegion
  simp only [spec, size, Handle.size, hRegion]

end Segment

namespace Buffer

/- The names and the sizes of the segments. -/
def layout
    (b : Buffer) : List SegmentSpec :=
  b.segments.map Segment.spec

/- The handles of the segments. -/
def handles
    (b : Buffer) : List Handle :=
  b.segments.map Segment.handle

/- The handles, whether they are mapped or not. -/
def bares
    (b : Buffer) : List Handle :=
  b.segments.map Segment.bare

/- A buffer has the size of its layout. -/
theorem size_eq
    (b : Buffer) : b.size = Layout.size b.layout := by
  simp only [size, Layout.size, layout, List.map_map]
  rfl

theorem bares_handles
    (b : Buffer) : b.handles.map Handle.bare = b.bares := by
  simp only [handles, bares, List.map_map]
  rfl

end Buffer

namespace Allocator

/- Allocated segments own their regions. -/
theorem handles_segmentsOf
    {regions : List Region}
    {layout : List SegmentSpec}
    (hSizes :
      regions.map Region.size = layout.map SegmentSpec.size) :
    (segmentsOf regions layout).map Segment.handle =
      Device.owners regions := by
  induction regions generalizing layout with
  | nil => cases layout <;> rfl
  | cons region rest ih =>
      cases layout with
      | nil => cases hSizes
      | cons spec specs =>
          have hRest := ih (List.cons.inj hSizes).2
          simp only [Device.owners] at hRest ⊢
          rw [List.map_cons, ← hRest]
          rfl

theorem bares_segmentsOf
    {regions : List Region}
    {layout : List SegmentSpec}
    (hSizes :
      regions.map Region.size = layout.map SegmentSpec.size) :
    (segmentsOf regions layout).map Segment.bare =
      Device.owners regions := by
  have hBare :
      (Device.owners regions).map Handle.bare =
        Device.owners regions := by
    simp only [Device.owners, List.map_map]
    rfl
  rw [← hBare, ← handles_segmentsOf hSizes, List.map_map]
  rfl

/- Allocated segments have the layout asked for. -/
theorem spec_segmentsOf
    {regions : List Region}
    {layout : List SegmentSpec}
    (hSizes :
      regions.map Region.size = layout.map SegmentSpec.size) :
    (segmentsOf regions layout).map Segment.spec =
      layout := by
  induction regions generalizing layout with
  | nil =>
      cases layout with
      | nil => rfl
      | cons spec specs => cases hSizes
  | cons region rest ih =>
      cases layout with
      | nil => cases hSizes
      | cons spec specs =>
          have hSize : region.size = spec.size :=
            (List.cons.inj hSizes).1
          have hRest := ih (List.cons.inj hSizes).2
          simp only [segmentsOf, List.zipWith_cons_cons,
            List.map_cons] at hRest ⊢
          rw [hRest, Segment.spec, Segment.size, Handle.size,
            Handle.ofRegion, hSize]

end Allocator

------------------------------------------------------------
-- Using
------------------------------------------------------------

namespace Device

theorem Alike.refl
    (d : Device) : d.Alike d :=
  ⟨rfl, rfl, rfl, rfl, rfl⟩

theorem Alike.trans
    {d d' d'' : Device}
    (h : d.Alike d')
    (h' : d'.Alike d'') : d.Alike d'' :=
  ⟨h'.windows.trans h.windows, h'.regions.trans h.regions,
    h'.frees.trans h.frees, h'.attaches.trans h.attaches,
    h'.detaches.trans h.detaches⟩

theorem alike_of_eq
    {d d' : Device}
    (h : d' = d) : d.Alike d' :=
  h ▸ .refl d

/- Mapping a region moves nothing. -/
theorem alike_of_map
    {d d' : Device}
    {region : Region}
    {mapping : Mapping}
    (h : d.map region = .ok (mapping, d')) : d.Alike d' := by
  unfold map at h
  cases hFound : d.region? region.addr with
  | none => simp [hFound] at h
  | some r =>
      simp only [hFound] at h
      cases h
      exact ⟨rfl, rfl, rfl, rfl, rfl⟩

end Device

open Device

/- A call that only counts leaves the device alike. -/
theorem Platform.Called.alike
    {α : Type}
    {f : Device → Except Error (α × Device)}
    {m : Platform}
    {r : Except Error α × Platform}
    (h : Platform.Called f m r)
    (hf :
      ∀ a d',
        f m.device = .ok (a, d') → m.device.Alike d') :
    m.device.Alike r.2.device := by
  cases h with
  | refused _ hDevice => exact alike_of_eq hDevice
  | answered _ hOk => exact hf _ _ hOk

namespace Handle

theorem map_alike
    (h : Handle)
    (m : Platform) :
    m.device.Alike (h.map m).2.device ∧
      ∀ h', (h.map m).1 = .ok h' → h'.bare = h.bare := by
  unfold map
  cases hMapping : h.mapping with
  | some _ =>
      refine ⟨.refl _, ?_⟩
      intro h' hOk
      cases hOk
      rfl
  | none =>
      have hAlike :=
        (Platform.map_called h.region m).alike
          fun _ _ => alike_of_map
      simp only [bind, Op.bind]
      rcases hRun : Platform.map h.region m with
        ⟨e | mapping, m'⟩
      · rw [hRun] at hAlike
        refine ⟨hAlike, ?_⟩
        intro h' hOk
        cases hOk
      · rw [hRun] at hAlike
        refine ⟨hAlike, ?_⟩
        intro h' hOk
        cases hOk
        rfl

theorem invalidate_alike
    (h : Handle)
    (m : Platform) :
    m.device.Alike (h.invalidate m).2.device := by
  unfold invalidate
  cases h.isMapped with
  | false => exact .refl _
  | true =>
      apply (Platform.invalidate_called m).alike
      intro _ d hOk
      cases hOk
      exact unaccounted_invalidate.alike _

end Handle

namespace Segment

/-
  Mapping segments changes nothing but their mappings, also
  when it fails on the way.
-/
theorem eachOf_map
    {β : Type}
    {f : Segment → β}
    (hf :
      ∀ (s : Segment) (h : Handle),
        h.bare = s.handle.bare →
          f { s with handle := h } = f s)
    (segments : List Segment)
    (m : Platform) :
    (Op.eachOf map segments m).2.1.map f =
      segments.map f := by
  induction segments generalizing m with
  | nil => rfl
  | cons s rest ih =>
      have hBare := (s.handle.map_alike m).2
      simp only [Op.eachOf, map]
      rcases hRun : s.handle.map m with ⟨e | h, m'⟩
      · rfl
      · rw [hRun] at hBare
        simp only [List.map_cons, ih, hf s h (hBare h rfl)]

theorem eachOf_map_ne_nil
    {segments : List Segment}
    (h : segments ≠ [])
    (m : Platform) :
    (Op.eachOf map segments m).2.1 ≠ [] := by
  have hBares :=
    eachOf_map (f := bare) (fun _ _ hBare => hBare) segments m
  intro hNone
  rw [hNone] at hBares
  exact h (List.map_eq_nil_iff.mp hBares.symm)

theorem eachOf_map_alike
    (segments : List Segment)
    (m : Platform) :
    m.device.Alike
      (Op.eachOf map segments m).2.2.device := by
  induction segments generalizing m with
  | nil => exact .refl _
  | cons s rest ih =>
      have hAlike := (s.handle.map_alike m).1
      simp only [Op.eachOf, map]
      rcases hRun : s.handle.map m with ⟨e | h, m'⟩
      · rw [hRun] at hAlike
        exact hAlike
      · rw [hRun] at hAlike
        exact hAlike.trans (ih m')

end Segment

namespace Buffer

theorem invalidateAll_alike
    (segments : List Segment)
    (m : Platform) :
    m.device.Alike (invalidateAll segments m).2.device := by
  induction segments generalizing m with
  | nil => exact .refl _
  | cons s rest ih =>
      have hAlike := s.handle.invalidate_alike m
      simp only [invalidateAll, bind, Op.bind]
      rcases hRun : s.handle.invalidate m with ⟨e | _, m'⟩
      · rw [hRun] at hAlike
        exact hAlike
      · rw [hRun] at hAlike
        exact hAlike.trans (ih m')

theorem segments_ne_nil
    (b : Buffer) : b.segments ≠ [] :=
  List.cons_ne_nil b.parent b.rest

theorem segments_withSegments
    (b : Buffer)
    {segments : List Segment}
    (h : segments ≠ []) :
    (b.withSegments segments).segments = segments := by
  cases segments with
  | nil => exact absurd rfl h
  | cons s rest => rfl

/-
  Mapping a buffer leaves its handles, its layout and all
  regions as they are, whether it fails or not.
-/
theorem map_same
    (b : Buffer)
    (m : Platform) :
    (map (b, m)).2.1.bares = b.bares ∧
      (map (b, m)).2.1.layout = b.layout ∧
        m.device.Alike (map (b, m)).2.2.device := by
  have hBares :=
    Segment.eachOf_map (f := Segment.bare)
      (fun _ _ hBare => hBare) b.segments m
  have hSpecs :=
    Segment.eachOf_map (f := Segment.spec)
      (fun s _ hBare => s.spec_of_bare hBare) b.segments m
  have hAlike := Segment.eachOf_map_alike b.segments m
  have hSome :=
    Segment.eachOf_map_ne_nil b.segments_ne_nil m
  rcases hRun : Op.eachOf Segment.map b.segments m with
    ⟨answer, segments, m'⟩
  rw [hRun] at hBares hSpecs hAlike hSome
  have hSame : (b.withSegments segments).segments = segments :=
    b.segments_withSegments hSome
  have hKept :
      (b.withSegments segments).bares = b.bares ∧
        (b.withSegments segments).layout = b.layout := by
    rw [bares, layout, hSame]
    exact ⟨hBares, hSpecs⟩
  have hMapped :
      mapSegments (b, m) =
        (answer, (b.withSegments segments, m')) := by
    simp only [mapSegments, Op.within, Op.each, hRun]
  simp only [map, bind, Op.bind, hMapped]
  cases answer with
  | error e => exact ⟨hKept.1, hKept.2, hAlike⟩
  | ok _ =>
      simp only [Op.get]
      split
      · refine ⟨hKept.1, hKept.2, hAlike.trans ?_⟩
        exact invalidateAll_alike _ m'
      · exact ⟨hKept.1, hKept.2, hAlike⟩

end Buffer

------------------------------------------------------------
-- Allocating
------------------------------------------------------------

namespace Device

/- Whether there is a region at an address that has an owner. -/
def inUse
    (d : Device)
    (addr : Nat) : Bool :=
  (d.region? addr).any fun r => !r.freed

/-
  Whether there is no region at an address, or one that is
  only kept by those who are attached to it.
-/
def isReleased
    (d : Device)
    (addr : Nat) : Bool :=
  (d.region? addr).all fun r =>
    r.freed && decide (0 < r.attachments)

/- The table has a region, in use and as it was allocated. -/
def Lists
    (d : Device)
    (region : Region) : Prop :=
  ∃ r,
    d.region? region.addr = some r ∧ r.freed = false ∧
      r.size = region.size ∧ r.target = region.target ∧
        r.cache = region.cache

theorem Lists.inUse
    {d : Device}
    {region : Region}
    (h : d.Lists region) : d.inUse region.addr = true := by
  rcases h with ⟨r, hFound, hFreed, _⟩
  simp [Device.inUse, hFound, hFreed]

/- What is released is not in use. -/
theorem inUse_of_released
    {d : Device}
    {addr : Nat}
    (h : d.isReleased addr = true) :
    d.inUse addr = false := by
  unfold isReleased at h
  unfold inUse
  cases hFound : d.region? addr with
  | none => rfl
  | some r =>
      rw [hFound, Option.all_some, Bool.and_eq_true] at h
      rw [Option.any_some, h.1, Bool.not_true]

theorem Alike.region?
    {d d' : Device}
    (h : d.Alike d')
    (addr : Nat) : d'.region? addr = d.region? addr := by
  unfold Device.region?
  rw [h.regions]

theorem Lists.of_region?
    {d d' : Device}
    {region : Region}
    (h : d.Lists region)
    (hSame :
      d'.region? region.addr = d.region? region.addr) :
    d'.Lists region := by
  unfold Lists
  rw [hSame]
  exact h

theorem isReleased_of_region?
    {d d' : Device}
    {addr : Nat}
    (h : d.isReleased addr = true)
    (hSame : d'.region? addr = d.region? addr) :
    d'.isReleased addr = true := by
  unfold isReleased
  rw [hSame]
  exact h

theorem Alike.used
    {d d' : Device}
    (h : d.Alike d')
    (t : MemoryTarget) : d'.used t = d.used t := by
  unfold Device.used
  rw [h.windows]

/-
  What an allocation answers: regions with the sizes asked
  for, in use, at addresses of their own between the old and
  the new cursor. Regions below the old cursor stay, and all
  bytes that come into use are those of the answer.
-/
structure Carved
    (d d' : Device)
    (target : MemoryTarget)
    (sizes : List Nat)
    (answer : List Region) : Prop where
  sizes : answer.map Region.size = sizes
  distinct : (answer.map Region.addr).Nodup
  above :
    ∀ r ∈ answer, (d.windows target).next ≤ r.addr
  below :
    ∀ r ∈ answer, r.addr < (d'.windows target).next
  forward :
    (d.windows target).next ≤ (d'.windows target).next
  live : ∀ r ∈ answer, d'.Lists r
  others :
    ∀ addr < (d.windows target).next,
      d'.region? addr = d.region? addr
  used :
    ∀ t, d'.used t = d.used t + Region.bytesOn t answer
  frees : d'.counters.frees = d.counters.frees

theorem carved_of_allocate
    {d d' : Device}
    {target : MemoryTarget}
    {cache : CachePolicy}
    {sizes : List Nat}
    {answer : List Region}
    (hOk :
      d.allocate target cache sizes = .ok (answer, d')) :
    d.Carved d' target sizes answer := by
  rcases allocate_ok hOk with
    ⟨_, hZero, ⟨file, hTable⟩, hNext⟩
  rcases allocate_answer hOk with
    ⟨hAnswer, hUsed, hCounters⟩
  have hCursor := hNext target
  rw [if_pos rfl] at hCursor
  have hUp := d.page.le_up (d.windows target).next
  have hSome :
      ∀ c ∈ d.carvedBy target cache sizes, c.2.size ≠ 0 :=
    fun c hMem hEq => hZero (hEq ▸ (mem_carve hMem).2.2.2)
  have hPlace :
      ∀ c ∈ d.carvedBy target cache sizes,
        (d.windows target).next ≤ c.2.addr ∧
          c.2.addr < (d'.windows target).next := by
    intro c hMem
    rcases mem_carve hMem with ⟨hLow, hHigh, _⟩
    have hPositive := hSome c hMem
    omega
  have hDistinct :
      (d.carvedBy target cache sizes).Pairwise
        fun a b => a.2.addr ≠ b.2.addr := by
    apply (pairwise_carve _ _ _ _ _).imp_of_mem
    intro a b hMem _ hOrder
    have hSize := hSome a hMem
    omega
  subst hAnswer
  constructor
  · rw [List.map_map]
    exact sizes_carve _ target cache sizes 0
  · rw [List.map_map]
    exact List.pairwise_map.mpr hDistinct
  · intro r hMem
    rcases List.mem_map.mp hMem with ⟨c, hCarved, rfl⟩
    exact (hPlace c hCarved).1
  · intro r hMem
    rcases List.mem_map.mp hMem with ⟨c, hCarved, rfl⟩
    exact (hPlace c hCarved).2
  · omega
  · intro r hMem
    rcases List.mem_map.mp hMem with ⟨c, hCarved, rfl⟩
    refine ⟨liveOf file c, ?_, rfl, rfl, rfl, rfl⟩
    rw [region?, hTable]
    exact lookup_enter_of_mem hDistinct hCarved
  · intro addr hBelow
    rw [region?, hTable]
    apply lookup_enter_other
    intro c hMem
    have hAbove := (hPlace c hMem).1
    omega
  · intro t
    rw [hUsed, carvedBy, bytesOn_carve]
  · rw [hCounters]

------------------------------------------------------------
-- Releasing
------------------------------------------------------------

/-
  A region is given back: it is released, its bytes are not
  in use any more, and one more region was freed. No cursor
  moves, and nothing changes at other addresses.
-/
structure GivenBack
    (d d' : Device)
    (region : Region) : Prop where
  released : d'.isReleased region.addr = true
  used :
    ∀ t,
      d'.used t =
        d.used t -
          if t = region.target then region.size else 0
  frees : d'.counters.frees = d.counters.frees + 1
  cursors : ∀ t, (d'.windows t).next = (d.windows t).next
  others :
    ∀ a ≠ region.addr, d'.region? a = d.region? a

/- A region that is freed keeps its entry only if attached. -/
theorem all_kept_freed
    (r : LiveRegion) :
    (LiveRegion.kept { r with freed := true }).all
        (fun r => r.freed && decide (0 < r.attachments)) =
      true := by
  cases hKept : LiveRegion.kept { r with freed := true } with
  | none => rfl
  | some r' =>
      rcases LiveRegion.mem_kept.mp hKept with
        ⟨rfl, hNeeded⟩
      rw [Option.all_some, Bool.true_and]
      exact decide_eq_true (hNeeded rfl)

/- A region in use can be freed, which gives it back. -/
theorem Lists.free
    {d : Device}
    {region : Region}
    (h : d.Lists region) :
    ∃ d',
      d.free region = .ok ((), d') ∧
        d.GivenBack d' region := by
  rcases h with ⟨r, hFound, hFreed, hSize, hTarget, _⟩
  rcases free_entry hFound hFreed with
    ⟨d', hOk, hUsed, hTable, hCounters⟩
  rcases free_ok hOk with ⟨_, _, hUpdated⟩
  refine ⟨d', hOk, ?_, ?_, ?_, hUpdated.cursors, ?_⟩
  · rw [isReleased, hTable, if_pos rfl]
    exact all_kept_freed r
  · intro t
    rw [hUsed, hSize, hTarget]
  · rw [hCounters]
  · intro a hOther
    rw [hTable, if_neg hOther]

/- What is alike before a region is given back. -/
theorem Alike.givenBack
    {d d' d'' : Device}
    {region : Region}
    (h : d.Alike d')
    (hBack : d'.GivenBack d'' region) :
    d.GivenBack d'' region where
  released := hBack.released
  used := fun t => by rw [hBack.used, h.used]
  frees := by rw [hBack.frees, h.frees]
  cursors := fun t => by rw [hBack.cursors, h.windows]
  others := fun a hOther => by
    rw [hBack.others a hOther, h.region?]

end Device

namespace Handle

/- Unmapping goes on after a failure and moves nothing. -/
theorem unmap_alike
    (h : Handle)
    (m : Platform) :
    ∃ m',
      (h.unmap m : Except Error Unit × Platform) =
          (.ok (), m') ∧
        m.Spares m' ∧ m.device.Alike m'.device := by
  unfold unmap
  cases h.mapping with
  | none => exact ⟨m, rfl, .refl m, .refl _⟩
  | some _ =>
      have hCalled := Platform.unmap_called m
      simp only [Op.orElse]
      generalize Platform.unmap m = r at hCalled
      cases hCalled with
      | refused hSpares hDevice =>
          exact ⟨_, rfl, hSpares, alike_of_eq hDevice⟩
      | answered hSpares hOk =>
          have hDevice := (Prod.mk.inj (Except.ok.inj hOk)).2
          refine ⟨_, rfl, hSpares, ?_⟩
          rw [← hDevice]
          exact ⟨rfl, rfl, rfl, rfl, rfl⟩

/- A release does to the device what giving back does. -/
theorem release_device
    (h : Handle)
    (m : Platform) :
    (h.release m : Except Error Unit × _).2.device =
      (h.giveBack
        (h.unmap m : Except Error Unit × _).2).2.device := by
  rcases h.unmap_alike m with ⟨m', hUnmap, _⟩
  simp only [release, bind, Op.bind, hUnmap, Op.orElse]
  rcases h.giveBack m' with ⟨e | _, m''⟩ <;> rfl

/-
  How the release of a region in use can end: it is given
  back, or freeing it was planned to fail and nothing that
  counts has changed.
-/
theorem release_cases
    {h : Handle}
    (hOwner : h.origin = .allocated)
    {m : Platform}
    (hLists : m.device.Lists h.region) :
    m.device.GivenBack
        (h.release m : Except Error Unit × _).2.device
        h.region ∨
      (m.device.Alike
          (h.release m : Except Error Unit × _).2.device ∧
        m.faults .free ≠ []) := by
  rcases h.unmap_alike m with ⟨m', hUnmap, hSpares, hAlike⟩
  rcases (hLists.of_region? (hAlike.region? _)).free with
    ⟨d, hDone, hBack⟩
  have hCalled := Platform.free_called h.region m'
  have hSpared : m'.faults .free = [] →
      Platform.free h.region m' =
        (.ok (), { m' with device := d }) :=
    fun hFree => Platform.free_of_spared hFree hDone
  rw [release_device, hUnmap]
  simp only [giveBack, hOwner]
  generalize Platform.free h.region m' = r
    at hCalled hSpared
  cases hCalled with
  | refused _ hDevice =>
      refine
        Or.inr ⟨hAlike.trans (alike_of_eq hDevice), ?_⟩
      intro hFree
      cases hSpared (hSpares.nil hFree)
  | answered _ hOk =>
      rw [hDone] at hOk
      cases hOk
      exact Or.inl (hAlike.givenBack hBack)

end Handle

section Released

variable {ε : Type}

/- A release never fails for the caller. -/
theorem Handle.release_run
    (h : Handle)
    (m : Platform) :
    (h.release m : Except ε Unit × Platform) =
      (.ok (),
        (h.release m : Except Error Unit × Platform).2) := by
  simp only [release, bind, Op.bind, unmap]
  cases h.mapping with
  | none =>
      simp only [Op.pure, Op.orElse]
      rcases h.giveBack m with ⟨e | _, m'⟩ <;> rfl
  | some _ =>
      simp only [Op.orElse]
      rcases Platform.unmap m with ⟨e | _, m'⟩
      · simp only [Platform.log, Platform.record, Op.modify]
        rcases h.giveBack _ with ⟨e | _, m''⟩ <;> rfl
      · simp only
        rcases h.giveBack m' with ⟨e | _, m''⟩ <;> rfl

theorem Handle.release_ok
    (h : Handle)
    (m : Platform) :
    (h.release m : Except ε Unit × Platform).1 = .ok () :=
  congrArg Prod.fst (h.release_run m)

theorem Buffer.releaseAll_ok
    (segments : List Segment)
    (m : Platform) :
    (releaseAll segments m : Except ε Unit × _).1 =
      .ok () := by
  induction segments generalizing m with
  | nil => rfl
  | cons x rest ih =>
      rw [releaseAll,
        Op.run_bind_of_ok (x.handle.release_ok m)]
      exact ih _

theorem Buffer.release_ok
    (b : Buffer)
    (m : Platform) :
    (b.release m : Except ε Unit × _).1 = .ok () :=
  releaseAll_ok b.segments m

theorem PoolPlan.releaseAll_ok
    (buffers : List Buffer)
    (m : Platform) :
    (releaseAll buffers m : Except ε Unit × _).1 =
      .ok () := by
  induction buffers generalizing m with
  | nil => rfl
  | cons b rest ih =>
      rw [releaseAll, Op.run_bind_of_ok (b.release_ok m)]
      exact ih _

end Released

end Offload
