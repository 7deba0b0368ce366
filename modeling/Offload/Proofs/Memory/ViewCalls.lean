import Mathlib.Data.List.Forall2
import Offload.Memory.View
import Offload.Proofs.Memory.Buffers
import Offload.Proofs.Memory.Visits

/-
  What views of a buffer make the device do.

  Without failures, mapping a buffer maps the segments that
  are not mapped, leaves the others at their addresses, and
  invalidates every segment of a cached buffer. Ending to
  write flushes every segment of a cached buffer, once,
  whichever way it ends. Nothing else is done to the device.

  Key definitions include:
    * `ViewCalls`
    * `Platform.Sees`
    * `Platform.Unmaps`
    * `Segment.Retains`
    * `Segment.Served`
    * `Buffer.upkeep`

  Main results:
    * `Buffer.map_sees`
    * `Buffer.flush_sees`
    * `WriteView.unmap_sees`
    * `WriteView.drop_sees`
    * `Buffer.assemble_sees`
    * `Buffer.releaseAll_unmaps`
-/

namespace Offload

------------------------------------------------------------
-- Calls that a Device Sees
------------------------------------------------------------

/- How often a device is called for views. -/
structure ViewCalls where
  maps : Nat
  invalidates : Nat
  flushes : Nat
deriving DecidableEq

namespace ViewCalls

instance : Add ViewCalls :=
  ⟨fun k l =>
    ⟨k.maps + l.maps, k.invalidates + l.invalidates,
      k.flushes + l.flushes⟩⟩

@[simp] theorem add_mk
    (a b c a' b' c' : Nat) :
    (⟨a, b, c⟩ : ViewCalls) + ⟨a', b', c'⟩ =
      ⟨a + a', b + b', c + c'⟩ :=
  rfl

end ViewCalls

/- Counters after some calls. -/
def Counters.plus
    (c : Counters)
    (k : ViewCalls) : Counters :=
  { c with
    maps := c.maps + k.maps
    invalidates := c.invalidates + k.invalidates
    flushes := c.flushes + k.flushes }

/- How often the calls for views were made. -/
def Counters.views
    (c : Counters) : ViewCalls :=
  ⟨c.maps, c.invalidates, c.flushes⟩

namespace Platform

/-
  The device saw some calls and no others. It has the
  regions that it had, and as many failures are planned.
-/
structure Sees
    (k : ViewCalls)
    (p p' : Platform) : Prop where
  faults : p'.faults = p.faults
  regions : p'.device.regions = p.device.regions
  counters :
    p'.device.counters = p.device.counters.plus k

theorem Sees.refl
    (p : Platform) : Sees ⟨0, 0, 0⟩ p p :=
  ⟨rfl, rfl, rfl⟩

theorem Sees.trans
    {k l : ViewCalls}
    {p p' p'' : Platform}
    (h : Sees k p p')
    (h' : Sees l p' p'') : Sees (k + l) p p'' where
  faults := h'.faults.trans h.faults
  regions := h'.regions.trans h.regions
  counters := by
    rw [h'.counters, h.counters]
    simp only [Counters.plus, Nat.add_assoc]
    rfl

/- The region of a segment can be mapped. -/
theorem map_sees
    {p : Platform}
    {region : Region}
    (hSpared : p.faults .map = [])
    (hLive : (p.device.region? region.addr).isSome) :
    ∃ m p',
      Platform.map region p = (.ok m, p') ∧
        Sees ⟨1, 0, 0⟩ p p' := by
  rcases Option.isSome_iff_exists.mp hLive with ⟨r, hFound⟩
  have hDone :
      ∃ m,
        p.device.map region =
          .ok (m,
            { p.device with
              nextMapping := p.device.nextMapping + 1
              counters :=
                { p.device.counters with
                  maps := p.device.counters.maps + 1 } }) := by
    simp only [Device.map, hFound]
    exact ⟨_, rfl⟩
  rcases hDone with ⟨m, hDone⟩
  exact ⟨m, _, map_of_spared hSpared hDone, rfl, rfl, rfl⟩

end Platform

open Platform

------------------------------------------------------------
-- Handles
------------------------------------------------------------

namespace Handle

/- A handle is mapped once and then keeps its mapping. -/
theorem map_sees
    {h : Handle}
    {p : Platform}
    (hSpared : p.faults .map = [])
    (hLive : (p.device.region? h.addr).isSome) :
    ∃ m p',
      h.map p = (.ok { h with mapping := some m }, p') ∧
        (∀ m', h.mapping = some m' → m' = m) ∧
          Sees ⟨if h.isMapped then 0 else 1, 0, 0⟩ p p' := by
  unfold map isMapped
  cases hMapping : h.mapping with
  | some m =>
      have hSame : { h with mapping := some m } = h := by
        rw [← hMapping]
      refine ⟨m, p, ?_, ?_, .refl p⟩
      · rw [hSame]
        rfl
      · rintro m' ⟨⟩
        rfl
  | none =>
      rcases Platform.map_sees hSpared hLive with
        ⟨m, p', hRun, hSees⟩
      refine ⟨m, p', ?_, ?_, hSees⟩
      · simp only [bind, Op.bind, hRun]
        rfl
      · rintro m' ⟨⟩

theorem invalidate_sees
    {h : Handle}
    {p : Platform}
    (hMapped : h.isMapped = true)
    (hSpared : p.faults .invalidate = []) :
    ∃ p',
      h.invalidate p = (.ok (), p') ∧
        Sees ⟨0, 1, 0⟩ p p' := by
  rw [invalidate, if_pos hMapped, invalidate_of_spared hSpared]
  exact ⟨_, rfl, rfl, rfl, rfl⟩

theorem flush_sees
    {h : Handle}
    {p : Platform}
    (hMapped : h.isMapped = true)
    (hSpared : p.faults .flush = []) :
    ∃ p', h.flush p = (.ok (), p') ∧ Sees ⟨0, 0, 1⟩ p p' := by
  rw [flush, if_pos hMapped, flush_of_spared hSpared]
  exact ⟨_, rfl, rfl, rfl, rfl⟩

end Handle

------------------------------------------------------------
-- Segments
------------------------------------------------------------

namespace Segment

/-
  A segment keeps its name, its region and the mapping that
  it has. It may come to be mapped.
-/
structure Retains
    (s s' : Segment) : Prop where
  name : s'.name = s.name
  bare : s'.bare = s.bare
  mapping :
    ∀ m, s.handle.mapping = some m →
      s'.handle.mapping = some m

theorem Retains.refl
    (s : Segment) : Retains s s :=
  ⟨rfl, rfl, fun _ hAt => hAt⟩

theorem Retains.trans
    {s s' s'' : Segment}
    (h : Retains s s')
    (h' : Retains s' s'') : Retains s s'' where
  name := h'.name.trans h.name
  bare := h'.bare.trans h.bare
  mapping := fun m hAt => h'.mapping m (h.mapping m hAt)

theorem Retains.region
    {s s' : Segment}
    (h : Retains s s') :
    s'.handle.region = s.handle.region := by
  have hSame := congrArg Handle.region h.bare
  exact hSame

/- A segment that comes to be mapped, or is mapped there. -/
theorem retains_of_mapped
    {s : Segment}
    {m : Mapping}
    (hKept : ∀ m', s.handle.mapping = some m' → m' = m) :
    Retains s
      { s with
        handle := { s.handle with mapping := some m } } :=
  ⟨rfl, rfl, fun m' hAt => congrArg some (hKept m' hAt).symm⟩

/- Whether a segment is still to be mapped. -/
def isUnmapped
    (s : Segment) : Bool :=
  !s.handle.isMapped

/- Mapping maps those that are not, and no other. -/
theorem eachOf_map_sees
    {segments : List Segment}
    {p : Platform}
    (hSpared : p.faults .map = [])
    (hLive :
      ∀ s ∈ segments, (p.device.region? s.addr).isSome) :
    ∃ segments' p',
      Op.eachOf map segments p = (.ok (), (segments', p')) ∧
        List.Forall₂ Retains segments segments' ∧
          (∀ s ∈ segments', s.handle.isMapped = true) ∧
            Sees ⟨segments.countP isUnmapped, 0, 0⟩ p p' := by
  induction segments generalizing p with
  | nil => exact ⟨[], p, rfl, .nil, nofun, .refl p⟩
  | cons s rest ih =>
      rcases Handle.map_sees hSpared
          (hLive s List.mem_cons_self) with
        ⟨m, p₁, hRun, hKept, hSees⟩
      have hRest :
          ∀ t ∈ rest, (p₁.device.region? t.addr).isSome := by
        intro t hMem
        rw [Device.region?, hSees.regions]
        exact hLive t (List.mem_cons_of_mem _ hMem)
      rcases ih (hSees.faults ▸ hSpared) hRest with
        ⟨segments', p₂, hLater, hRetains, hMapped, hSeen⟩
      refine
        ⟨_ :: segments', p₂, ?_,
          .cons (retains_of_mapped hKept) hRetains, ?_, ?_⟩
      · simp only [Op.eachOf, map, hRun, hLater]
      · exact List.forall_mem_cons.mpr ⟨rfl, hMapped⟩
      · have hBoth := hSees.trans hSeen
        rw [ViewCalls.add_mk] at hBoth
        rw [List.countP_cons]
        cases hIs : s.handle.isMapped <;>
          simpa [isUnmapped, hIs, Nat.add_comm] using hBoth

/- What is done to mapped segments one by one. -/
theorem inOrder_sees
    {f : Segment → Op Error Platform Unit}
    {g : List Segment → Op Error Platform Unit}
    {call : DeviceCall}
    (invalidates flushes : Nat)
    (hNil : g [] = Op.pure ())
    (hCons :
      ∀ s rest, g (s :: rest) = f s >>= fun _ => g rest)
    (hf :
      ∀ (s : Segment) (p : Platform),
        s.handle.isMapped = true →
          p.faults call = [] →
            ∃ p',
              f s p = (.ok (), p') ∧
                Sees ⟨0, invalidates, flushes⟩ p p')
    {segments : List Segment}
    {p : Platform}
    (hMapped : ∀ s ∈ segments, s.handle.isMapped = true)
    (hSpared : p.faults call = []) :
    ∃ p',
      g segments p = (.ok (), p') ∧
        Sees
          ⟨0, segments.length * invalidates,
            segments.length * flushes⟩ p p' := by
  induction segments generalizing p with
  | nil =>
      refine ⟨p, by rw [hNil]; rfl, ?_⟩
      simpa using Sees.refl p
  | cons s rest ih =>
      rcases hf s p (hMapped s List.mem_cons_self) hSpared with
        ⟨p₁, hRun, hSees⟩
      rcases ih
          (fun t hMem => hMapped t (List.mem_cons_of_mem _ hMem))
          (hSees.faults ▸ hSpared) with
        ⟨p₂, hLater, hSeen⟩
      refine ⟨p₂, ?_, ?_⟩
      · rw [hCons]
        simp only [bind, Op.bind, hRun, hLater]
      · have hBoth := hSees.trans hSeen
        rw [ViewCalls.add_mk] at hBoth
        simpa [Nat.succ_mul, Nat.add_comm] using hBoth

end Segment

------------------------------------------------------------
-- Buffers
------------------------------------------------------------

namespace Segment

/-
  The device serves segments: no failures of the calls for
  views are planned, and it knows the regions.
-/
structure Served
    (segments : List Segment)
    (p : Platform) : Prop where
  map : p.faults .map = []
  unmap : p.faults .unmap = []
  invalidate : p.faults .invalidate = []
  flush : p.faults .flush = []
  live : ∀ s ∈ segments, (p.device.region? s.addr).isSome

instance
    (segments : List Segment)
    (p : Platform) : Decidable (Served segments p) :=
  decidable_of_iff
    (p.faults .map = [] ∧ p.faults .unmap = [] ∧
      p.faults .invalidate = [] ∧ p.faults .flush = [] ∧
        ∀ s ∈ segments, (p.device.region? s.addr).isSome)
    ⟨fun ⟨hMap, hUnmap, hInvalidate, hFlush, hLive⟩ =>
        ⟨hMap, hUnmap, hInvalidate, hFlush, hLive⟩,
      fun h =>
        ⟨h.map, h.unmap, h.invalidate, h.flush, h.live⟩⟩

/- Segments at the same addresses are served as well. -/
theorem Served.of_sees
    {segments segments' : List Segment}
    {k : ViewCalls}
    {p p' : Platform}
    (h : Served segments p)
    (hSees : Sees k p p')
    (hAddrs : segments'.map addr = segments.map addr) :
    Served segments' p' where
  map := hSees.faults ▸ h.map
  unmap := hSees.faults ▸ h.unmap
  invalidate := hSees.faults ▸ h.invalidate
  flush := hSees.faults ▸ h.flush
  live := by
    intro s' hMem
    have hAddr : s'.addr ∈ segments.map addr :=
      hAddrs ▸ List.mem_map_of_mem hMem
    rcases List.mem_map.mp hAddr with ⟨s, hOld, hSame⟩
    rw [Device.region?, hSees.regions, ← hSame]
    exact h.live s hOld

section Retains

variable {segments segments' segments'' : List Segment}

theorem retains_refl
    (segments : List Segment) :
    List.Forall₂ Retains segments segments :=
  List.forall₂_same.mpr fun s _ => .refl s

theorem retains_trans
    (h : List.Forall₂ Retains segments segments')
    (h' : List.Forall₂ Retains segments' segments'') :
    List.Forall₂ Retains segments segments'' := by
  induction h generalizing segments'' with
  | nil => exact h'
  | cons hFirst _ ih =>
      cases h' with
      | cons hNext hRest =>
          exact .cons (hFirst.trans hNext) (ih hRest)

theorem addrs_of_retains
    (h : List.Forall₂ Retains segments segments') :
    segments'.map addr = segments.map addr := by
  induction h with
  | nil => rfl
  | cons hFirst _ ih =>
      rw [List.map_cons, List.map_cons, ih, addr, addr,
        Handle.addr, Handle.addr, hFirst.region]

/- Segments that are mapped have the mappings they had. -/
theorem mappings_of_retains
    (h : List.Forall₂ Retains segments segments')
    (hMapped : ∀ s ∈ segments, s.handle.isMapped = true) :
    (segments'.map fun s => s.handle.mapping) =
      segments.map fun s => s.handle.mapping := by
  induction h with
  | nil => rfl
  | @cons s s' _ _ hFirst _ ih =>
      rcases List.forall_mem_cons.mp hMapped with ⟨hIs, hRest⟩
      rcases Option.isSome_iff_exists.mp hIs with ⟨m, hAt⟩
      rw [List.map_cons, List.map_cons, ih hRest, hAt,
        hFirst.mapping m hAt]

end Retains

end Segment

open Segment

namespace Buffer

/- How many segments are still to be mapped. -/
def unmappedCount
    (b : Buffer) : Nat :=
  b.segments.countP isUnmapped

/- How often a view makes the device tend a buffer. -/
def upkeep
    (b : Buffer) : Nat :=
  if b.cache.isCached then b.segments.length else 0

theorem upkeep_of_retains
    {b b' : Buffer}
    (h : List.Forall₂ Retains b.segments b'.segments) :
    b'.upkeep = b.upkeep := by
  have hCache : b'.cache = b.cache := by
    cases h with
    | cons hParent _ => exact congrArg Region.cache hParent.region
  rw [upkeep, upkeep, hCache, h.length_eq]

/- Mapping maps what is not mapped and tends all segments. -/
theorem map_sees
    {b : Buffer}
    {p : Platform}
    (h : Served b.segments p) :
    ∃ b' p',
      map (b, p) = (.ok (), (b', p')) ∧
        List.Forall₂ Retains b.segments b'.segments ∧
          (∀ s ∈ b'.segments, s.handle.isMapped = true) ∧
            Sees ⟨b.unmappedCount, b.upkeep, 0⟩ p p' := by
  rcases eachOf_map_sees h.map h.live with
    ⟨segments', p₁, hRun, hRetains, hMapped, hSees⟩
  have hSome : segments' ≠ [] := by
    rintro rfl
    cases hRetains
  have hSegments := b.segments_withSegments hSome
  generalize hNew : b.withSegments segments' = b' at hSegments
  rw [← hSegments] at hRetains hMapped
  have hStep :
      mapSegments (b, p) = (.ok (), (b', p₁)) := by
    simp only [mapSegments, Op.within, Op.each, hRun, hNew]
  have hUpkeep := upkeep_of_retains hRetains
  simp only [map, bind, Op.bind, hStep, Op.get]
  unfold upkeep at hUpkeep ⊢
  rw [← hUpkeep]
  cases hCached : b'.cache.isCached with
  | false => exact ⟨b', p₁, rfl, hRetains, hMapped, hSees⟩
  | true =>
      have hSpared : p₁.faults .invalidate = [] :=
        hSees.faults ▸ h.invalidate
      rcases inOrder_sees (g := invalidateAll) 1 0 rfl
          (fun _ _ => rfl) (fun _ _ => Handle.invalidate_sees)
          hMapped hSpared with
        ⟨p₂, hAll, hSeen⟩
      refine ⟨b', p₂, ?_, hRetains, hMapped, ?_⟩
      · simp only [Op.within, Lens.snd, if_true, hAll]
      · have hBoth := hSees.trans hSeen
        rw [ViewCalls.add_mk] at hBoth
        simpa [unmappedCount] using hBoth

/- Flushing a mapped buffer flushes every cached segment. -/
theorem flush_sees
    {b : Buffer}
    {p : Platform}
    (hMapped : ∀ s ∈ b.segments, s.handle.isMapped = true)
    (hSpared : p.faults .flush = []) :
    ∃ p',
      b.flush p = (.ok (), p') ∧
        Sees ⟨0, 0, b.upkeep⟩ p p' := by
  unfold flush upkeep
  cases b.cache.isCached with
  | false => exact ⟨p, rfl, .refl p⟩
  | true =>
      rcases inOrder_sees (g := flushAll) 0 1 rfl
          (fun _ _ => rfl) (fun _ _ => Handle.flush_sees)
          hMapped hSpared with
        ⟨p', hAll, hSees⟩
      refine ⟨p', hAll, ?_⟩
      simpa using hSees

end Buffer

------------------------------------------------------------
-- Views
------------------------------------------------------------

namespace WriteView

variable {ε : Type}
variable {b : Buffer}
variable {p : Platform}

/- A view that is unmapped flushes once. -/
theorem unmap_sees
    (v : WriteView)
    (hMapped : ∀ s ∈ b.segments, s.handle.isMapped = true)
    (hSpared : p.faults .flush = []) :
    ∃ p',
      v.unmap b p = (.ok (), p') ∧
        Sees ⟨0, 0, b.upkeep⟩ p p' := by
  rcases Buffer.flush_sees hMapped hSpared with
    ⟨p', hRun, hSees⟩
  refine ⟨p', ?_, hSees⟩
  -- The drop that follows finds the view unmapped.
  simp only [unmap, bind, Op.bind, Op.attempt, hRun, drop,
    if_true]
  rfl

/- A view that is dropped while it writes flushes once. -/
theorem drop_sees
    {v : WriteView}
    (hOpen : v.unmapped = false)
    (hMapped : ∀ s ∈ b.segments, s.handle.isMapped = true)
    (hSpared : p.faults .flush = []) :
    ∃ p',
      (v.drop b p : Except ε Unit × Platform) =
          (.ok (), p') ∧
        Sees ⟨0, 0, b.upkeep⟩ p p' := by
  rcases Buffer.flush_sees hMapped hSpared with
    ⟨p', hRun, hSees⟩
  refine ⟨p', ?_, hSees⟩
  rw [drop, hOpen, if_neg (by decide)]
  simp only [Buffer.endWriting, Op.orElse, hRun]

end WriteView

------------------------------------------------------------
-- Making and Releasing
------------------------------------------------------------

namespace Buffer

/- Making a buffer maps its parent if that is not mapped. -/
theorem assemble_sees
    {segments : List Segment}
    (flags : MemoryFlags)
    {p : Platform}
    (hSome : segments ≠ [])
    (hCount : segments.length ≤ SegmentSpec.maxCount)
    (hServed : Served segments p) :
    ∃ b p' maps,
      assemble segments flags p = (.ok b, p') ∧
        List.Forall₂ Retains segments b.segments ∧
          maps + b.unmappedCount =
              segments.countP isUnmapped ∧
            Sees ⟨maps, 0, 0⟩ p p' := by
  cases segments with
  | nil => exact absurd rfl hSome
  | cons parent rest =>
      rcases Handle.map_sees hServed.map
          (hServed.live parent List.mem_cons_self) with
        ⟨m, p', hRun, hKept, hSees⟩
      refine
        ⟨⟨_, rest, flags⟩, p', _, ?_,
          .cons (retains_of_mapped hKept) (retains_refl rest),
          ?_, hSees⟩
      · rw [assemble, if_neg (by omega)]
        simp only [bind, Op.bind, Op.attempt, hRun]
        rfl
      · have hOwn :
            (if parent.handle.isMapped then 0 else 1) =
              if parent.isUnmapped then 1 else 0 := by
          unfold isUnmapped
          cases parent.handle.isMapped <;> rfl
        rw [unmappedCount, Buffer.segments,
          List.countP_cons_of_neg Bool.false_ne_true,
          List.countP_cons, hOwn, Nat.add_comm]

end Buffer

namespace Platform

/-
  Some mappings were removed. The device saw nothing else
  that views make it see.
-/
structure Unmaps
    (n : Nat)
    (p p' : Platform) : Prop where
  spares : p.Spares p'
  unmaps :
    p'.device.counters.unmaps = p.device.counters.unmaps + n
  views : p'.device.counters.views = p.device.counters.views

variable {p p' p'' : Platform}

theorem Unmaps.refl
    (p : Platform) : Unmaps 0 p p :=
  ⟨.refl p, rfl, rfl⟩

theorem Unmaps.trans
    {m n : Nat}
    (h : Unmaps m p p')
    (h' : Unmaps n p' p'') : Unmaps (m + n) p p'' where
  spares := h.spares.trans h'.spares
  unmaps := by rw [h'.unmaps, h.unmaps, Nat.add_assoc]
  views := h'.views.trans h.views

/- A call that removes no mapping and is not one of views. -/
theorem Called.unmaps
    {f : Device → Except Error (Unit × Device)}
    {r : Except Error Unit × Platform}
    (h : Called f p r)
    (hf :
      ∀ d d', f d = .ok ((), d') →
        d'.counters.unmaps = d.counters.unmaps ∧
          d'.counters.views = d.counters.views) :
    Unmaps 0 p r.2 := by
  cases h with
  | refused hSpares hSame =>
      exact ⟨hSpares, by rw [hSame, Nat.add_zero], by rw [hSame]⟩
  | answered hSpares hOk =>
      rcases hf _ _ hOk with ⟨hUnmaps, hViews⟩
      exact ⟨hSpares, hUnmaps, hViews⟩

end Platform

namespace Device

variable {d d' : Device}
variable {region : Region}

theorem free_counters
    (h : d.free region = .ok ((), d')) :
    d'.counters =
      { d.counters with frees := d.counters.frees + 1 } := by
  unfold free at h
  split at h
  · cases h
  · split at h
    · cases h
    · cases h
      rfl

theorem detach_counters
    (h : d.detach region = .ok ((), d')) :
    d'.counters =
      { d.counters with
        detaches := d.counters.detaches + 1 } := by
  unfold detach at h
  split at h
  · cases h
  · cases h
    rfl

end Device

namespace Handle

theorem giveBack_unmaps
    (h : Handle)
    (p : Platform) : Unmaps 0 p (h.giveBack p).2 := by
  unfold giveBack
  cases h.origin with
  | allocated =>
      apply (free_called h.region p).unmaps
      intro d d' hOk
      rw [Device.free_counters hOk]
      exact ⟨rfl, rfl⟩
  | attached =>
      apply (detach_called h.region p).unmaps
      intro d d' hOk
      rw [Device.detach_counters hOk]
      exact ⟨rfl, rfl⟩

/-
  A release removes the mapping, whether or not giving the
  region back fails.
-/
theorem release_unmaps
    (h : Handle)
    {p : Platform}
    (hSpared : p.faults .unmap = []) :
    Unmaps h.mappings p
      (h.release p : Except Error Unit × Platform).2 := by
  have hUnmap :
      ∃ p',
        (h.unmap p : Except Error Unit × Platform) =
            (.ok (), p') ∧
          Unmaps h.mappings p p' :=
    ⟨_, h.unmap_of_spared hSpared, .refl p, rfl, rfl⟩
  rcases hUnmap with ⟨p', hRun, hUnmaps⟩
  -- A refusal is logged, and the log is not of the device.
  have hBack := h.giveBack_unmaps p'
  simp only [release, bind, Op.bind, hRun, Op.orElse]
  rcases hGiven : h.giveBack p' with ⟨e | _, p''⟩
  · rw [hGiven] at hBack
    have hBoth := hUnmaps.trans hBack
    exact ⟨hBoth.spares, hBoth.unmaps, hBoth.views⟩
  · rw [hGiven] at hBack
    exact hUnmaps.trans hBack

end Handle

namespace Buffer

/- Releasing segments unmaps those that are mapped. -/
theorem releaseAll_unmaps
    {segments : List Segment}
    {p : Platform}
    (hSpared : p.faults .unmap = []) :
    Unmaps (segments.countP fun s => s.handle.isMapped) p
      (releaseAll segments p :
        Except Error Unit × Platform).2 := by
  induction segments generalizing p with
  | nil => exact .refl p
  | cons s rest ih =>
      have hFirst := s.handle.release_unmaps hSpared
      rw [releaseAll,
        Op.run_bind_of_ok (s.handle.release_ok p)]
      have hBoth :=
        hFirst.trans (ih (hFirst.spares.nil hSpared))
      rw [List.countP_cons]
      unfold Handle.mappings at hBoth
      rw [Nat.add_comm]
      exact hBoth

end Buffer

end Offload
