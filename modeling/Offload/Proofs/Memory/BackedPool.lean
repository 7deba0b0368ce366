import Mathlib.Data.List.Perm.Basic
import Mathlib.Data.List.Perm.Subperm
import Mathlib.Data.List.Perm.Lattice
import Mathlib.Data.List.Count
import Offload.Proofs.Memory.Buffers
import Offload.Proofs.Memory.PoolBound

/-
  A shared pool together with the memory of its buffers.

  Beside the shared pool the state has the platform and what
  is on the way: segments that are allocated but not mapped,
  buffers that are made but not entered, and handles that
  are still to be released. Threads take turns at the pool
  and at the device, and between any two turns others may
  use the device as long as they leave the pool's regions
  alone. What the device counts is split into what the pool
  has part in and what is elsewhere.

  Key definitions include:
    * `Elsewhere`
    * `BackedPool`
    * `BackedPool.Event`
    * `BackedPool.Respects`
    * `BackedPool.step`
    * `BackedPool.Backed`

  Main results:
    * `BackedPool.Backed.visited`
    * `BackedPool.Backed.givenBack`
    * `BackedPool.backed_step`
-/

namespace Offload

------------------------------------------------------------
-- States and Events
------------------------------------------------------------

/-
  What a device counts but the pool has no part in: bytes in
  use, and regions that were freed.
-/
structure Elsewhere where
  used : MemoryTarget → Nat
  frees : Nat

namespace Elsewhere

/- All that a device counts. -/
def of
    (d : Device) : Elsewhere :=
  ⟨d.used, d.counters.frees⟩

/- What others have changed from one device to the next. -/
def moved
    (e : Elsewhere)
    (d d' : Device) : Elsewhere where
  used t := e.used t + d'.used t - d.used t
  frees := e.frees + d'.counters.frees - d.counters.frees

end Elsewhere

/- An entry of the table without its attachments. -/
def LiveRegion.unattached
    (r : LiveRegion) : LiveRegion :=
  { r with attachments := 0 }

/- What only differs in attachments lists the same region. -/
theorem Device.Lists.of_unattached
    {d d' : Device}
    {region : Region}
    (h : d.Lists region)
    (hSame :
      (d'.region? region.addr).map LiveRegion.unattached =
        (d.region? region.addr).map
          LiveRegion.unattached) :
    d'.Lists region := by
  rcases h with ⟨r, hFound, hFreed, hSize, hTarget, hCache⟩
  rw [hFound, Option.map_some] at hSame
  rcases Option.map_eq_some_iff.mp hSame with
    ⟨r', hFound', hEq⟩
  simp only [LiveRegion.unattached, LiveRegion.mk.injEq]
    at hEq
  rcases hEq with
    ⟨_, _, hSize', hTarget', hCache', _, hFreed'⟩
  exact
    ⟨r', hFound', hFreed'.trans hFreed, hSize'.trans hSize,
      hTarget'.trans hTarget, hCache'.trans hCache⟩

/-
  A shared pool, the platform, segments without a mapped
  parent, buffers outside of the pool, and handles to
  release. Of all regions that were ever allocated for the
  pool, those are noted that a release has freed, and those
  that are still in use after it. All that others do to the
  device is noted as well.
-/
structure BackedPool where
  shared : SharedPool
  platform : Platform
  raw : List (List Segment)
  stock : List Buffer
  leaving : List Handle
  made : List Region
  freed : List Region
  refused : List Region
  elsewhere : Elsewhere

namespace BackedPool

/-
  What is done in one go. `claim` and `finish` are the two
  halves of an allocation, `discard` gives a buffer up that
  is not needed, `use` is what the holder of a buffer does
  and `drop` releases a handle. `note` only records, and
  `others` is what anyone else does to the platform.
-/
inductive Event where
  | claim
  | finish (place : Nat)
  | discard (place : Nat)
  | activate (fresh : List Buffer)
  | deactivate
  | take
  | grow (buffer : Buffer)
  | giveUp
  | wait
  | giveBack (place : Nat)
  | use (place : Nat)
  | drop (place : Nat)
  | note (f : Telemetry → Telemetry)
  | others (m : Platform)

/- A pool that nobody has used. -/
def of
    (p : Pool)
    (m : Platform) : BackedPool :=
  ⟨SharedPool.of p, m, [], [], [], [], [], [],
    Elsewhere.of m.device⟩

/- What stays the same over the life of the pool. -/
def plan
    (s : BackedPool) : PoolPlan :=
  s.shared.pool.plan

/- The buffers there are, wherever they are. -/
def buffers
    (s : BackedPool) : List Buffer :=
  s.shared.pool.idle ++ s.shared.out ++ s.stock

/- All handles, whether they are mapped or not. -/
def held
    (s : BackedPool) : List Handle :=
  s.buffers.flatMap Buffer.bares ++
    s.raw.flatMap (List.map Segment.bare) ++
      s.leaving.map Handle.bare

/- The regions of the pool that are in use. -/
def kept
    (s : BackedPool) : List Region :=
  s.held.map Handle.region ++ s.refused

/- The bytes of a target that the pool has in use. -/
def share
    (s : BackedPool)
    (t : MemoryTarget) : Nat :=
  Region.bytesOn t s.kept

/-
  What others may do to the platform. No cursor moves back.
  An entry for a region of the pool is the same but for its
  attachments, one that was freed does not come back, and
  what the pool has in use is not taken off the count.
-/
structure Respects
    (s : BackedPool)
    (m : Platform) : Prop where
  forward :
    (s.platform.device.windows s.plan.flags.target).next ≤
      (m.device.windows s.plan.flags.target).next
  same :
    ∀ r ∈ s.kept,
      (m.device.region? r.addr).map LiveRegion.unattached =
        (s.platform.device.region? r.addr).map
          LiveRegion.unattached
  released : ∀ r ∈ s.freed, m.device.isReleased r.addr = true
  used : ∀ t, s.share t ≤ m.device.used t
  frees :
    s.platform.device.counters.frees ≤
      m.device.counters.frees

instance
    (s : BackedPool)
    (m : Platform) : Decidable (s.Respects m) :=
  decidable_of_iff
    ((s.platform.device.windows s.plan.flags.target).next ≤
        (m.device.windows s.plan.flags.target).next ∧
      (∀ r ∈ s.kept,
        (m.device.region? r.addr).map LiveRegion.unattached =
          (s.platform.device.region? r.addr).map
            LiveRegion.unattached) ∧
      (∀ r ∈ s.freed,
        m.device.isReleased r.addr = true) ∧
      (∀ t ∈ MemoryTarget.all,
        s.share t ≤ m.device.used t) ∧
      s.platform.device.counters.frees ≤
        m.device.counters.frees)
    ⟨fun ⟨hForward, hSame, hReleased, hUsed, hFrees⟩ =>
      ⟨hForward, hSame, hReleased,
        fun t => hUsed t (by cases t <;> decide), hFrees⟩,
     fun h =>
      ⟨h.forward, h.same, h.released, fun t _ => h.used t,
        h.frees⟩⟩

/- Allocate the regions of a buffer. -/
def claim
    (s : BackedPool) : BackedPool :=
  match
    Platform.allocate s.plan.flags.target s.plan.flags.cache
      (s.plan.layout.map SegmentSpec.size) s.platform
  with
  | (.ok regions, m) =>
    { s with
      platform := m
      raw :=
        Allocator.segmentsOf regions s.plan.layout :: s.raw
      made := regions ++ s.made }
  | (.error _, m) => { s with platform := m }

/- Map the parent of allocated segments, or give them up. -/
def finish
    (place : Nat)
    (s : BackedPool) : BackedPool :=
  match s.raw[place]? with
  | none => s
  | some [] => { s with raw := s.raw.eraseIdx place }
  | some (parent :: rest) =>
    match parent.handle.map s.platform with
    | (.ok h, m) =>
      { s with
        platform := m
        raw := s.raw.eraseIdx place
        stock :=
          ⟨{ parent with handle := h }, rest, s.plan.flags⟩ ::
            s.stock }
    | (.error _, m) =>
      { s with
        platform := m
        raw := s.raw.eraseIdx place
        leaving :=
          (parent :: rest).map Segment.handle ++ s.leaving }

/- Give a buffer up that did not get into the pool. -/
def discard
    (place : Nat)
    (s : BackedPool) : BackedPool :=
  match s.stock[place]? with
  | none => s
  | some b =>
    { s with
      stock := s.stock.eraseIdx place
      leaving := b.handles ++ s.leaving }

/- Take a buffer back, and free it if it is not kept. -/
def giveBack
    (place : Nat)
    (s : BackedPool) : BackedPool :=
  match s.shared.out[place]? with
  | none => s
  | some b =>
    { s with
      shared := SharedPool.step (.giveBack place) s.shared
      leaving :=
        if s.shared.pool.active then s.leaving
        else b.handles ++ s.leaving }

/- Map a buffer that is handed out. -/
def use
    (place : Nat)
    (s : BackedPool) : BackedPool :=
  match s.shared.out[place]? with
  | none => s
  | some b =>
    match Buffer.map (b, s.platform) with
    | (_, (b', m)) =>
      { s with
        shared :=
          { s.shared with out := s.shared.out.set place b' }
        platform := m }

/-
  Release a handle, and note whether the device still has
  its region in use after that.
-/
def drop
    (place : Nat)
    (s : BackedPool) : BackedPool :=
  match s.leaving[place]? with
  | none => s
  | some h =>
    let m := (h.release s.platform : Except Error Unit × _).2
    let leaving := s.leaving.eraseIdx place
    if m.device.inUse h.addr then
      { s with
        platform := m
        leaving := leaving
        refused := h.region :: s.refused }
    else
      { s with
        platform := m
        leaving := leaving
        freed := h.region :: s.freed }

/- The state after an event. -/
def step
    (e : Event)
    (s : BackedPool) : BackedPool :=
  match e with
  | .claim => s.claim
  | .finish place => s.finish place
  | .discard place => s.discard place
  | .activate fresh =>
    if s.shared.CanActivate fresh ∧ fresh.Subperm s.stock then
      { s with
        shared := SharedPool.step (.activate fresh) s.shared
        stock := s.stock.diff fresh }
    else
      s
  | .deactivate =>
    if s.shared.pool.active then
      { s with
        shared := SharedPool.step .deactivate s.shared
        leaving :=
          s.shared.pool.idle.reverse.flatMap Buffer.handles ++
            s.leaving }
    else
      s
  | .take =>
    { s with shared := SharedPool.step .take s.shared }
  | .grow b =>
    if 0 < s.shared.growing ∧ b ∈ s.stock then
      { s with
        shared := SharedPool.step (.grow b) s.shared
        stock := s.stock.erase b }
    else
      s
  | .giveUp =>
    { s with shared := SharedPool.step .giveUp s.shared }
  | .wait =>
    { s with shared := SharedPool.step .wait s.shared }
  | .giveBack place => s.giveBack place
  | .use place => s.use place
  | .drop place => s.drop place
  | .note f =>
    { s with
      platform :=
        { s.platform with
          telemetry := f s.platform.telemetry } }
  | .others m =>
    if s.Respects m then
      { s with
        platform := m
        elsewhere :=
          s.elsewhere.moved s.platform.device m.device }
    else
      s

------------------------------------------------------------
-- The Invariant
------------------------------------------------------------

/-
  The pool is counted, and every region that was allocated
  for it is either in use, with one handle that owns it or
  after a refused release, or was freed. Regions of a pool
  have addresses of their own, and all its buffers have its
  layout. The device has the regions in its table that are
  in use and those that were freed in none of it, and counts
  what the pool has part in beside what is elsewhere.
-/
structure Backed
    (s : BackedPool) : Prop where
  counted : s.shared.Counted
  conserved : (s.kept ++ s.freed).Perm s.made
  distinct : (s.made.map Region.addr).Nodup
  below :
    ∀ r ∈ s.made,
      r.addr <
        (s.platform.device.windows s.plan.flags.target).next
  owned : ∀ h ∈ s.held, h.origin = .allocated
  live : ∀ r ∈ s.kept, s.platform.device.Lists r
  released :
    ∀ r ∈ s.freed,
      s.platform.device.isReleased r.addr = true
  used :
    ∀ t,
      s.platform.device.used t =
        s.elsewhere.used t + s.share t
  frees :
    s.platform.device.counters.frees =
      s.elsewhere.frees + s.freed.length
  shaped : ∀ b ∈ s.buffers, b.layout = s.plan.layout
  drawn :
    ∀ segments ∈ s.raw,
      segments = [] ∨
        segments.map Segment.spec = s.plan.layout

theorem backed_of
    {p : Pool}
    (hIdle : p.idle = [])
    (hAllocated : p.allocated = 0)
    (m : Platform) : (of p m).Backed := by
  have hBuffers : (of p m).buffers = [] := by
    simp [buffers, of, SharedPool.of, hIdle]
  have hHeld : (of p m).held = [] := by
    rw [held, hBuffers]
    rfl
  have hKept : (of p m).kept = [] := by
    rw [kept, hHeld]
    rfl
  constructor
  · exact SharedPool.counted_of hIdle hAllocated
  · rw [hKept]
    exact List.Perm.refl _
  · exact List.nodup_nil
  · intro _ hMem
    cases hMem
  · rw [hHeld]
    intro _ hMem
    cases hMem
  · rw [hKept]
    intro _ hMem
    cases hMem
  · intro _ hMem
    cases hMem
  · intro t
    rw [share, hKept]
    rfl
  · rfl
  · rw [hBuffers]
    intro _ hMem
    cases hMem
  · intro _ hMem
    cases hMem

section Steps

variable {s t : BackedPool}

/- What is in use was allocated. -/
theorem Backed.mem_made
    (h : s.Backed)
    {r : Region}
    (hMem : r ∈ s.kept) : r ∈ s.made :=
  h.conserved.mem_iff.mp (List.mem_append_left _ hMem)

theorem Backed.mem_made_of_freed
    (h : s.Backed)
    {r : Region}
    (hMem : r ∈ s.freed) : r ∈ s.made :=
  h.conserved.mem_iff.mp (List.mem_append_right _ hMem)

/-
  Regions in use may change their places, and the platform
  may be used in ways that the device does not count.
-/
theorem Backed.settled
    (h : s.Backed)
    (hPlan : t.plan = s.plan)
    (hAlike : s.platform.device.Alike t.platform.device)
    (hNoted :
      t.made = s.made ∧ t.freed = s.freed ∧
        t.elsewhere = s.elsewhere)
    (hCounted : t.shared.Counted)
    (hKept : t.kept.Perm s.kept)
    (hHeld : ∀ x ∈ t.held, x ∈ s.held)
    (hShaped : ∀ b ∈ t.buffers, b.layout = s.plan.layout)
    (hDrawn :
      ∀ segments ∈ t.raw,
        segments = [] ∨
          segments.map Segment.spec = s.plan.layout) :
    t.Backed where
  counted := hCounted
  conserved := by
    rw [hNoted.1, hNoted.2.1]
    exact (hKept.append_right _).trans h.conserved
  distinct := by
    rw [hNoted.1]
    exact h.distinct
  below := by
    rw [hNoted.1, hPlan, hAlike.windows]
    exact h.below
  owned := fun x hMem => h.owned x (hHeld x hMem)
  live := by
    intro r hMem
    have hLive := h.live r (hKept.mem_iff.mp hMem)
    exact hLive.of_region? (hAlike.region? r.addr)
  released := by
    rw [hNoted.2.1]
    intro r hMem
    exact
      Device.isReleased_of_region? (h.released r hMem)
        (hAlike.region? r.addr)
  used := by
    intro target
    have hShare : t.share target = s.share target :=
      Region.bytesOn_perm hKept target
    rw [hAlike.used, h.used, hNoted.2.2, hShare]
  frees := by
    rw [hAlike.frees, h.frees, hNoted.2.1, hNoted.2.2]
  shaped := by
    rw [hPlan]
    exact hShaped
  drawn := by
    rw [hPlan]
    exact hDrawn

/- Handles may go from one place to another and be mapped. -/
theorem Backed.moved
    (h : s.Backed)
    (hPlan : t.plan = s.plan)
    (hAlike : s.platform.device.Alike t.platform.device)
    (hNoted :
      t.made = s.made ∧ t.freed = s.freed ∧
        t.refused = s.refused ∧ t.elsewhere = s.elsewhere)
    (hCounted : t.shared.Counted)
    (hHeld : t.held.Perm s.held)
    (hShaped : ∀ b ∈ t.buffers, b.layout = s.plan.layout)
    (hDrawn :
      ∀ segments ∈ t.raw,
        segments = [] ∨
          segments.map Segment.spec = s.plan.layout) :
    t.Backed := by
  have hKept : t.kept.Perm s.kept := by
    unfold kept
    rw [hNoted.2.2.1]
    exact (hHeld.map Handle.region).append_right _
  exact
    h.settled hPlan hAlike
      ⟨hNoted.1, hNoted.2.1, hNoted.2.2.2⟩ hCounted hKept
        (fun x hMem => hHeld.mem_iff.mp hMem) hShaped hDrawn

/- The platform may be used as the device does not count. -/
theorem Backed.onPlatform
    (h : s.Backed)
    {m : Platform}
    (hAlike : s.platform.device.Alike m.device) :
    Backed { s with platform := m } :=
  h.moved rfl hAlike ⟨rfl, rfl, rfl, rfl⟩ h.counted
    (List.Perm.refl _) h.shaped h.drawn

/-
  Others may use the platform with respect for the pool, and
  what the device counts then is counted elsewhere.
-/
theorem Backed.visited
    (h : s.Backed)
    {m : Platform}
    (hRespects : s.Respects m) :
    Backed
      { s with
        platform := m
        elsewhere :=
          s.elsewhere.moved s.platform.device
            m.device } where
  counted := h.counted
  conserved := h.conserved
  distinct := h.distinct
  below := fun r hMem =>
    Nat.lt_of_lt_of_le (h.below r hMem) hRespects.forward
  owned := h.owned
  live := fun r hMem =>
    (h.live r hMem).of_unattached (hRespects.same r hMem)
  released := hRespects.released
  used := by
    intro t
    have hBefore := h.used t
    have hShare := hRespects.used t
    change
      m.device.used t =
        s.elsewhere.used t + m.device.used t -
            s.platform.device.used t +
          s.share t
    omega
  frees := by
    have hBefore := h.frees
    have hForward := hRespects.frees
    change
      m.device.counters.frees =
        s.elsewhere.frees + m.device.counters.frees -
            s.platform.device.counters.frees +
          s.freed.length
    omega
  shaped := h.shaped
  drawn := h.drawn

------------------------------------------------------------
-- Events of the Pool
------------------------------------------------------------

/- Buffers change places, and some of them are given up. -/
theorem Backed.shifted
    (h : s.Backed)
    {shared : SharedPool}
    (gone : List Buffer)
    {stock : List Buffer}
    (hPlan : shared.pool.plan = s.plan)
    (hCounted : shared.Counted)
    (hBuffers :
      s.buffers.Perm
        (gone ++ (shared.pool.idle ++ shared.out ++ stock))) :
    Backed
      { s with
        shared := shared
        stock := stock
        leaving :=
          gone.flatMap Buffer.handles ++ s.leaving } := by
  have hBares :
      (gone.flatMap Buffer.handles).map Handle.bare =
        gone.flatMap Buffer.bares := by
    rw [List.map_flatMap]
    simp only [Buffer.bares_handles]
  have hAll := hBuffers.flatMap_right Buffer.bares
  rw [List.flatMap_append] at hAll
  apply h.moved
  · exact hPlan
  · exact .refl _
  · exact ⟨rfl, rfl, rfl, rfl⟩
  · exact hCounted
  · simp only [held, buffers, List.map_append, hBares]
    apply List.perm_iff_count.mpr
    intro x
    have hCount := hAll.count_eq x
    simp only [buffers, List.count_append] at hCount ⊢
    omega
  · intro b hMem
    apply h.shaped
    exact
      hBuffers.mem_iff.mpr (List.mem_append_right _ hMem)
  · exact h.drawn

/- Buffers change places as the pool says. -/
theorem Backed.shared
    (h : s.Backed)
    (e : SharedPool.Event)
    (gone : List Buffer)
    {stock : List Buffer}
    (hBuffers :
      s.buffers.Perm
        (gone ++
          ((SharedPool.step e s.shared).pool.idle ++
            (SharedPool.step e s.shared).out ++ stock))) :
    Backed
      { s with
        shared := SharedPool.step e s.shared
        stock := stock
        leaving :=
          gone.flatMap Buffer.handles ++ s.leaving } :=
  h.shifted gone (SharedPool.plan_step e s.shared)
    (SharedPool.counted_step s.shared e h.counted) hBuffers

/- A thread takes an idle buffer or claims room. -/
theorem Backed.take
    (h : s.Backed) : (step .take s).Backed := by
  apply h.shared .take []
  have hTake := s.shared.pool.take_cases
  simp only [buffers, SharedPool.step, SharedPool.take]
  rcases hTake with
    ⟨_, hTake⟩ | ⟨b, rest, _, hIdle, hTake⟩ |
      ⟨_, _, _, hTake⟩ | ⟨_, _, _, hTake⟩
  · rw [hTake]
    exact List.Perm.refl _
  · rw [hTake, hIdle]
    apply List.Perm.append_right
    exact List.perm_middle.symm
  · rw [hTake]
    exact List.Perm.refl _
  · rw [hTake]
    exact List.Perm.refl _

/- Buffers that are made get into the pool. -/
theorem Backed.activate
    (h : s.Backed)
    (fresh : List Buffer) :
    (step (.activate fresh) s).Backed := by
  simp only [step]
  split
  · rename_i hBoth
    apply h.shared (.activate fresh) []
    have hStock : (fresh ++ s.stock.diff fresh).Perm s.stock :=
      List.subperm_append_diff_self_of_count_le fun b _ =>
        hBoth.2.count_le b
    apply List.perm_iff_count.mpr
    intro b
    have hCount := hStock.count_eq b
    simp only [buffers, SharedPool.step, if_pos hBoth.1,
      Pool.activate, List.nil_append, List.count_append]
      at hCount ⊢
    omega
  · exact h

/- A buffer that is made is handed out. -/
theorem Backed.grow
    (h : s.Backed)
    (b : Buffer) : (step (.grow b) s).Backed := by
  simp only [step]
  split
  · rename_i hBoth
    apply h.shared (.grow b) []
    have hStock := List.perm_cons_erase hBoth.2
    apply List.perm_iff_count.mpr
    intro x
    have hCount := hStock.count_eq x
    simp only [buffers, SharedPool.step, if_pos hBoth.1,
      Pool.noteAcquisition, List.nil_append,
      List.count_append, List.count_cons] at hCount ⊢
    omega
  · exact h

/- The idle buffers are given up. -/
theorem Backed.deactivate
    (h : s.Backed) : (step .deactivate s).Backed := by
  simp only [step]
  split
  · rename_i hActive
    apply h.shared .deactivate s.shared.pool.idle.reverse
    apply List.perm_iff_count.mpr
    intro x
    simp only [buffers, SharedPool.step, if_pos hActive,
      Pool.deactivate, List.nil_append, List.count_append,
      List.count_reverse]
    omega
  · exact h

theorem cons_eraseIdx_perm
    {α : Type}
    {xs : List α}
    {place : Nat}
    {x : α}
    (h : xs[place]? = some x) :
    (x :: xs.eraseIdx place).Perm xs := by
  rcases List.getElem?_eq_some_iff.mp h with ⟨hBound, rfl⟩
  exact List.getElem_cons_eraseIdx_perm hBound

/- A buffer comes back, to be kept or to be given up. -/
theorem Backed.giveBack
    (h : s.Backed)
    (place : Nat) : (s.giveBack place).Backed := by
  unfold BackedPool.giveBack
  cases hPlace : s.shared.out[place]? with
  | none => exact h
  | some b =>
      have hOut := cons_eraseIdx_perm hPlace
      cases hActive : s.shared.pool.active with
      | true =>
          apply h.shared (.giveBack place) []
          apply List.perm_iff_count.mpr
          intro x
          have hCount := hOut.count_eq x
          simp only [buffers, SharedPool.step,
            SharedPool.giveBack, hPlace, Pool.giveBack,
            hActive, if_true, List.nil_append,
            List.count_append, List.count_cons] at hCount ⊢
          omega
      | false =>
          have hGone :
              b.handles = [b].flatMap Buffer.handles := by
            simp
          simp only [Bool.false_eq_true, if_false]
          rw [hGone]
          apply h.shared (.giveBack place) [b]
          apply List.perm_iff_count.mpr
          intro x
          have hCount := hOut.count_eq x
          simp only [buffers, SharedPool.step,
            SharedPool.giveBack, hPlace, Pool.giveBack,
            hActive, Bool.false_eq_true, if_false,
            List.count_append, List.count_cons,
            List.count_nil] at hCount ⊢
          omega

------------------------------------------------------------
-- Events on the Way
------------------------------------------------------------

/- A buffer outside of the pool is given up. -/
theorem Backed.discard
    (h : s.Backed)
    (place : Nat) : (s.discard place).Backed := by
  unfold BackedPool.discard
  cases hPlace : s.stock[place]? with
  | none => exact h
  | some b =>
      have hStock := cons_eraseIdx_perm hPlace
      have hGone :
          b.handles = [b].flatMap Buffer.handles := by
        simp
      simp only
      rw [hGone]
      apply h.shifted [b] rfl h.counted
      apply List.perm_iff_count.mpr
      intro x
      have hCount := hStock.count_eq x
      simp only [buffers, List.count_append,
        List.count_cons, List.count_nil] at hCount ⊢
      omega

/- Allocated segments become buffers or are given up. -/
theorem Backed.assembled
    (h : s.Backed)
    {place : Nat}
    {segments : List Segment}
    (hPlace : s.raw[place]? = some segments)
    {m : Platform}
    (hAlike : s.platform.device.Alike m.device)
    (stock : List Buffer)
    (leaving : List Handle)
    (hBares :
      stock.flatMap Buffer.bares ++ leaving.map Handle.bare =
        segments.map Segment.bare)
    (hStock : ∀ b ∈ stock, b.layout = s.plan.layout) :
    Backed
      { s with
        platform := m
        raw := s.raw.eraseIdx place
        stock := stock ++ s.stock
        leaving := leaving ++ s.leaving } := by
  have hRaw := cons_eraseIdx_perm hPlace
  have hAll := hRaw.flatMap_right (List.map Segment.bare)
  rw [List.flatMap_cons, ← hBares] at hAll
  apply h.moved
  · rfl
  · exact hAlike
  · exact ⟨rfl, rfl, rfl, rfl⟩
  · exact h.counted
  · apply List.perm_iff_count.mpr
    intro x
    have hCount := hAll.count_eq x
    simp only [held, buffers, List.flatMap_append,
      List.map_append, List.count_append] at hCount ⊢
    omega
  · intro b hMem
    rcases List.mem_append.mp hMem with hOld | hMade
    · exact h.shaped b (List.mem_append_left _ hOld)
    · rcases List.mem_append.mp hMade with hNew | hOld
      · exact hStock b hNew
      · exact h.shaped b (List.mem_append_right _ hOld)
  · intro x hMem
    apply h.drawn
    exact hRaw.mem_iff.mp (List.mem_cons_of_mem _ hMem)

/-
  Segments become a buffer when their parent is mapped, and
  are given up otherwise.
-/
theorem Backed.finish
    (h : s.Backed)
    (place : Nat) : (s.finish place).Backed := by
  unfold BackedPool.finish
  cases hPlace : s.raw[place]? with
  | none => exact h
  | some segments =>
      cases segments with
      | nil =>
          exact h.assembled hPlace (.refl _) [] [] rfl nofun
      | cons parent rest =>
          have hMap := parent.handle.map_alike s.platform
          rcases hRun : parent.handle.map s.platform with
            ⟨e | handle, m⟩
          · rw [hRun] at hMap
            simp only [hRun]
            apply h.assembled hPlace hMap.1 []
            · simp only [List.flatMap_nil, List.nil_append,
                List.map_map]
              rfl
            · exact nofun
          · rw [hRun] at hMap
            have hBare := hMap.2 handle rfl
            have hDrawn :=
              h.drawn _ (List.mem_of_getElem? hPlace)
            simp only [hRun]
            apply h.assembled hPlace hMap.1 [_] []
            · simp [Buffer.bares, Buffer.segments,
                Segment.bare, hBare]
            · intro b hMem
              rw [List.mem_singleton.mp hMem]
              rcases hDrawn with hNone | hSpecs
              · cases hNone
              · rw [← hSpecs, Buffer.layout, Buffer.segments,
                  List.map_cons, List.map_cons,
                  parent.spec_of_bare hBare]

/- A buffer that is handed out has its handles mapped. -/
theorem Backed.mapped
    (h : s.Backed)
    {place : Nat}
    {b b' : Buffer}
    (hPlace : s.shared.out[place]? = some b)
    (hBares : b'.bares = b.bares)
    (hLayout : b'.layout = b.layout)
    {m : Platform}
    (hAlike : s.platform.device.Alike m.device) :
    Backed
      { s with
        shared :=
          { s.shared with out := s.shared.out.set place b' }
        platform := m } := by
  rcases List.getElem?_eq_some_iff.mp hPlace with ⟨hBound, _⟩
  have hOut :=
    (cons_eraseIdx_perm hPlace).flatMap_right Buffer.bares
  have hSet :=
    (List.set_perm_cons_eraseIdx hBound b').flatMap_right
      Buffer.bares
  rw [List.flatMap_cons] at hOut hSet
  rw [hBares] at hSet
  apply h.moved
  · rfl
  · exact hAlike
  · exact ⟨rfl, rfl, rfl, rfl⟩
  · refine ⟨?_, h.counted.drained⟩
    simp only [List.length_set]
    exact h.counted.balance
  · apply List.perm_iff_count.mpr
    intro x
    have hCount := hOut.count_eq x
    have hCount' := hSet.count_eq x
    simp only [held, buffers, List.flatMap_append,
      List.count_append] at hCount hCount' ⊢
    omega
  · intro y hMem
    simp only [buffers, List.mem_append] at hMem
    rcases hMem with (hIdle | hHanded) | hStock
    · apply h.shaped
      simp [buffers, hIdle]
    · rcases List.mem_or_eq_of_mem_set hHanded with
        hOld | hNew
      · apply h.shaped
        simp [buffers, hOld]
      · rw [hNew, hLayout]
        apply h.shaped
        simp [buffers, List.mem_of_getElem? hPlace]
    · apply h.shaped
      simp [buffers, hStock]
  · exact h.drawn

theorem Backed.use
    (h : s.Backed)
    (place : Nat) : (s.use place).Backed := by
  unfold BackedPool.use
  cases hPlace : s.shared.out[place]? with
  | none => exact h
  | some b =>
      have hSame := b.map_same s.platform
      rcases hRun : Buffer.map (b, s.platform) with
        ⟨answer, b', m⟩
      rw [hRun] at hSame
      simp only [hRun]
      exact h.mapped hPlace hSame.1 hSame.2.1 hSame.2.2

/- The state that the answer of an allocation leads to. -/
def claimed
    (s : BackedPool)
    (m : Platform)
    (answer : List Region) : BackedPool :=
  { s with
    platform := m
    raw := Allocator.segmentsOf answer s.plan.layout :: s.raw
    made := answer ++ s.made }

theorem held_claimed
    {answer : List Region}
    (hSizes :
      answer.map Region.size =
        s.plan.layout.map SegmentSpec.size)
    (m : Platform) :
    (s.claimed m answer).held.Perm
      (Device.owners answer ++ s.held) := by
  apply List.perm_iff_count.mpr
  intro x
  simp only [claimed, held, List.flatMap_cons,
    Allocator.bares_segmentsOf hSizes, List.count_append]
  simp only [buffers]
  omega

theorem kept_claimed
    {answer : List Region}
    (hSizes :
      answer.map Region.size =
        s.plan.layout.map SegmentSpec.size)
    (m : Platform) :
    (s.claimed m answer).kept.Perm (answer ++ s.kept) := by
  have hRegions := (held_claimed hSizes m).map Handle.region
  rw [List.map_append, Device.map_region_owners] at hRegions
  unfold kept
  rw [← List.append_assoc]
  exact hRegions.append_right s.refused

/- Regions of an allocation have addresses of their own. -/
theorem Backed.distinct_claimed
    (h : s.Backed)
    {m : Platform}
    {sizes : List Nat}
    {answer : List Region}
    (hCarved :
      s.platform.device.Carved m.device s.plan.flags.target
        sizes answer) :
    ((answer ++ s.made).map Region.addr).Nodup := by
  rw [List.map_append]
  apply List.nodup_append.mpr
  refine ⟨hCarved.distinct, h.distinct, ?_⟩
  intro a hAnswer a' hMade
  rcases List.mem_map.mp hAnswer with ⟨r', hMem', rfl⟩
  rcases List.mem_map.mp hMade with ⟨r, hMem, rfl⟩
  exact
    Nat.ne_of_gt
      (Nat.lt_of_lt_of_le (h.below r hMem)
        (hCarved.above r' hMem'))

/- Regions are allocated beside those that there are. -/
theorem Backed.claimed
    (h : s.Backed)
    {m : Platform}
    {answer : List Region}
    (hCarved :
      s.platform.device.Carved m.device s.plan.flags.target
        (s.plan.layout.map SegmentSpec.size) answer) :
    (s.claimed m answer).Backed := by
  have hHeld := held_claimed hCarved.sizes m
  have hKept := kept_claimed hCarved.sizes m
  have hOld :
      ∀ r ∈ s.made,
        m.device.region? r.addr =
          s.platform.device.region? r.addr :=
    fun r hMade => hCarved.others r.addr (h.below r hMade)
  constructor
  · exact h.counted
  · apply (hKept.append_right _).trans
    rw [List.append_assoc]
    exact h.conserved.append_left answer
  · exact h.distinct_claimed hCarved
  · intro r hMem
    rcases List.mem_append.mp hMem with hAnswer | hMade
    · exact hCarved.below r hAnswer
    · exact
        Nat.lt_of_lt_of_le (h.below r hMade) hCarved.forward
  · intro x hMem
    rcases List.mem_append.mp (hHeld.mem_iff.mp hMem) with
      hOwner | hHere
    · rcases List.mem_map.mp hOwner with ⟨r, _, rfl⟩
      rfl
    · exact h.owned x hHere
  · intro r hMem
    rcases List.mem_append.mp (hKept.mem_iff.mp hMem) with
      hAnswer | hHere
    · exact hCarved.live r hAnswer
    · exact
        (h.live r hHere).of_region?
          (hOld r (h.mem_made hHere))
  · intro r hMem
    exact
      Device.isReleased_of_region? (h.released r hMem)
        (hOld r (h.mem_made_of_freed hMem))
  · intro target
    change m.device.used target = s.elsewhere.used target + _
    rw [share, Region.bytesOn_perm hKept,
      Region.bytesOn_append, hCarved.used, h.used, share]
    omega
  · exact hCarved.frees.trans h.frees
  · exact h.shaped
  · intro segments hMem
    rcases List.mem_cons.mp hMem with rfl | hBefore
    · exact Or.inr (Allocator.spec_segmentsOf hCarved.sizes)
    · exact h.drawn segments hBefore

theorem Backed.claim
    (h : s.Backed) : s.claim.Backed := by
  unfold BackedPool.claim
  rcases Platform.allocate_called s.plan.flags.target
      s.plan.flags.cache (s.plan.layout.map SegmentSpec.size)
      s.platform with
    hCalled | ⟨m, hRun, _, hDevice⟩
  · generalize
      Platform.allocate s.plan.flags.target s.plan.flags.cache
        (s.plan.layout.map SegmentSpec.size) s.platform = r
      at hCalled
    cases hCalled with
    | refused _ hDevice =>
        exact h.onPlatform (Device.alike_of_eq hDevice)
    | answered _ hOk =>
        exact h.claimed (Device.carved_of_allocate hOk)
  · rw [hRun]
    apply h.moved
    · rfl
    · exact Device.alike_of_eq hDevice
    · exact ⟨rfl, rfl, rfl, rfl⟩
    · exact h.counted
    · exact List.Perm.refl _
    · exact h.shaped
    · intro segments hMem
      rcases List.mem_cons.mp hMem with rfl | hOld
      · exact Or.inl rfl
      · exact h.drawn segments hOld

/- What is held beside a handle that leaves. -/
theorem held_leaving
    {place : Nat}
    {x : Handle}
    (hPlace : s.leaving[place]? = some x) :
    s.held.Perm
      (x.bare ::
        held
          { s with
            leaving := s.leaving.eraseIdx place }) := by
  have hLeaving :=
    (cons_eraseIdx_perm hPlace).map Handle.bare
  apply List.perm_iff_count.mpr
  intro y
  have hCount := hLeaving.count_eq y
  simp only [held, buffers, List.map_cons,
    List.count_append, List.count_cons] at hCount ⊢
  omega

/- What is in use beside the region of such a handle. -/
theorem kept_leaving
    {place : Nat}
    {x : Handle}
    (hPlace : s.leaving[place]? = some x) :
    s.kept.Perm
      (x.region ::
        kept
          { s with
            leaving := s.leaving.eraseIdx place }) :=
  ((held_leaving hPlace).map Handle.region).append_right
    s.refused

/- Handles that leave are owners of regions in use. -/
theorem Backed.leaving
    (h : s.Backed)
    {place : Nat}
    {x : Handle}
    (hPlace : s.leaving[place]? = some x) :
    x.origin = .allocated ∧
      s.platform.device.Lists x.region := by
  have hHeld :=
    (held_leaving hPlace).mem_iff.mpr List.mem_cons_self
  have hKept :=
    (kept_leaving hPlace).mem_iff.mpr List.mem_cons_self
  exact ⟨h.owned x.bare hHeld, h.live x.region hKept⟩

/- A region that is given back was freed. -/
theorem Backed.givenBack
    (h : s.Backed)
    {place : Nat}
    {x : Handle}
    (hPlace : s.leaving[place]? = some x)
    {m : Platform}
    (hBack :
      s.platform.device.GivenBack m.device x.region) :
    Backed
      { s with
        platform := m
        leaving := s.leaving.eraseIdx place
        freed := x.region :: s.freed } := by
  have hKept := kept_leaving hPlace
  have hHeld := held_leaving hPlace
  generalize hLeft :
    { s with leaving := s.leaving.eraseIdx place } = t
      at hKept hHeld
  have hMade :
      (x.region :: (t.kept ++ s.freed)).Perm s.made :=
    (hKept.symm.append_right s.freed).trans h.conserved
  have hOther :
      ∀ r ∈ t.kept ++ s.freed,
        m.device.region? r.addr =
          s.platform.device.region? r.addr := by
    have hNodup :=
      (hMade.map Region.addr).nodup_iff.mpr h.distinct
    have hFirst := (List.nodup_cons.mp hNodup).1
    intro r hMem
    apply hBack.others
    intro hEq
    exact hFirst (List.mem_map.mpr ⟨r, hMem, hEq⟩)
  subst hLeft
  constructor
  · exact h.counted
  · exact List.perm_middle.trans hMade
  · exact h.distinct
  · intro r hMem
    rw [hBack.cursors]
    exact h.below r hMem
  · intro y hMem
    apply h.owned
    exact hHeld.mem_iff.mpr (List.mem_cons_of_mem _ hMem)
  · intro r hMem
    apply (h.live r _).of_region?
    · exact hOther r (List.mem_append_left _ hMem)
    · exact hKept.mem_iff.mpr (List.mem_cons_of_mem _ hMem)
  · intro r hMem
    rcases List.mem_cons.mp hMem with rfl | hFreed
    · exact hBack.released
    · exact
        Device.isReleased_of_region? (h.released r hFreed)
          (hOther r (List.mem_append_right _ hFreed))
  · intro target
    have hShare := Region.bytesOn_perm hKept target
    rw [Region.bytesOn_cons] at hShare
    rw [hBack.used, h.used, share, hShare, Nat.add_left_comm,
      Nat.add_sub_cancel_left]
    rfl
  · rw [hBack.frees, h.frees]
    rfl
  · exact h.shaped
  · exact h.drawn

/- A region whose release is refused stays in use. -/
theorem Backed.refused
    (h : s.Backed)
    {place : Nat}
    {x : Handle}
    (hPlace : s.leaving[place]? = some x)
    {m : Platform}
    (hAlike : s.platform.device.Alike m.device) :
    Backed
      { s with
        platform := m
        leaving := s.leaving.eraseIdx place
        refused := x.region :: s.refused } := by
  apply h.settled
  · rfl
  · exact hAlike
  · exact ⟨rfl, rfl, rfl⟩
  · exact h.counted
  · exact
      List.perm_middle.trans (kept_leaving hPlace).symm
  · intro y hMem
    exact
      (held_leaving hPlace).mem_iff.mpr
        (List.mem_cons_of_mem _ hMem)
  · exact h.shaped
  · exact h.drawn

/- A release gives back, or was planned to fail. -/
theorem Backed.drop_cases
    (h : s.Backed)
    {place : Nat}
    {x : Handle}
    (hPlace : s.leaving[place]? = some x) :
    ∃ m,
      (s.platform.device.GivenBack m.device x.region ∧
          s.drop place =
            { s with
              platform := m
              leaving := s.leaving.eraseIdx place
              freed := x.region :: s.freed }) ∨
        (s.platform.device.Alike m.device ∧
          s.platform.faults .free ≠ [] ∧
          s.drop place =
            { s with
              platform := m
              leaving := s.leaving.eraseIdx place
              refused := x.region :: s.refused }) := by
  rcases h.leaving hPlace with ⟨hOwner, hLists⟩
  unfold BackedPool.drop
  simp only [hPlace]
  refine ⟨(x.release s.platform : Except Error Unit × _).2, ?_⟩
  rcases Handle.release_cases hOwner hLists with
    hBack | ⟨hAlike, hPlanned⟩
  · have hGone :
        (x.release s.platform :
          Except Error Unit × _).2.device.inUse x.addr =
            false :=
      Device.inUse_of_released hBack.released
    refine Or.inl ⟨hBack, if_neg ?_⟩
    rw [hGone]
    exact Bool.false_ne_true
  · have hStill :
        (x.release s.platform :
          Except Error Unit × _).2.device.inUse x.addr =
            true :=
      (hLists.of_region? (hAlike.region? _)).inUse
    exact Or.inr ⟨hAlike, hPlanned, if_pos hStill⟩

theorem Backed.drop
    (h : s.Backed)
    (place : Nat) : (s.drop place).Backed := by
  cases hPlace : s.leaving[place]? with
  | none =>
      unfold BackedPool.drop
      rw [hPlace]
      exact h
  | some x =>
      rcases h.drop_cases hPlace with
        ⟨m, ⟨hBack, hDrop⟩ | ⟨hAlike, _, hDrop⟩⟩
      · rw [hDrop]
        exact h.givenBack hPlace hBack
      · rw [hDrop]
        exact h.refused hPlace hAlike

/- Every event leaves each region with one owner at most. -/
theorem backed_step
    (s : BackedPool)
    (e : Event)
    (h : s.Backed) : (step e s).Backed := by
  cases e with
  | claim => exact h.claim
  | finish place => exact h.finish place
  | discard place => exact h.discard place
  | activate fresh => exact h.activate fresh
  | deactivate => exact h.deactivate
  | take => exact h.take
  | grow b => exact h.grow b
  | giveUp =>
      apply h.shared .giveUp []
      simp only [SharedPool.step]
      split <;> exact List.Perm.refl _
  | wait =>
      apply h.shared .wait []
      exact List.Perm.refl _
  | giveBack place => exact h.giveBack place
  | use place => exact h.use place
  | drop place => exact h.drop place
  | note f => exact h.onPlatform (.refl _)
  | others m =>
      simp only [step]
      split
      · rename_i hRespects
        exact h.visited hRespects
      · exact h

------------------------------------------------------------
-- What Events Keep
------------------------------------------------------------

/-
  What a pool was made for never changes, nothing but a
  release is refused, and only others count elsewhere.
-/
theorem step_kept
    (s : BackedPool)
    (e : Event) :
    (step e s).plan = s.plan ∧
      ((step e s).refused = s.refused ∨
        ∃ place, e = .drop place) ∧
      ((step e s).elsewhere = s.elsewhere ∨
        ∃ m, e = .others m) := by
  cases e with
  | claim =>
      simp only [step, BackedPool.claim]
      split <;> exact ⟨rfl, Or.inl rfl, Or.inl rfl⟩
  | finish place =>
      simp only [step, BackedPool.finish]
      split
      · exact ⟨rfl, Or.inl rfl, Or.inl rfl⟩
      · exact ⟨rfl, Or.inl rfl, Or.inl rfl⟩
      · split <;> exact ⟨rfl, Or.inl rfl, Or.inl rfl⟩
  | discard place =>
      simp only [step, BackedPool.discard]
      split <;> exact ⟨rfl, Or.inl rfl, Or.inl rfl⟩
  | activate fresh =>
      simp only [step]
      split
      · exact ⟨SharedPool.plan_step _ s.shared, Or.inl rfl,
          Or.inl rfl⟩
      · exact ⟨rfl, Or.inl rfl, Or.inl rfl⟩
  | deactivate =>
      simp only [step]
      split
      · exact ⟨SharedPool.plan_step _ s.shared, Or.inl rfl,
          Or.inl rfl⟩
      · exact ⟨rfl, Or.inl rfl, Or.inl rfl⟩
  | take =>
      exact ⟨SharedPool.plan_step _ s.shared, Or.inl rfl,
          Or.inl rfl⟩
  | grow b =>
      simp only [step]
      split
      · exact ⟨SharedPool.plan_step _ s.shared, Or.inl rfl,
          Or.inl rfl⟩
      · exact ⟨rfl, Or.inl rfl, Or.inl rfl⟩
  | giveUp =>
      exact ⟨SharedPool.plan_step _ s.shared, Or.inl rfl,
          Or.inl rfl⟩
  | wait =>
      exact ⟨SharedPool.plan_step _ s.shared, Or.inl rfl,
          Or.inl rfl⟩
  | giveBack place =>
      simp only [step, BackedPool.giveBack]
      split
      · exact ⟨rfl, Or.inl rfl, Or.inl rfl⟩
      · exact ⟨SharedPool.plan_step _ s.shared, Or.inl rfl,
          Or.inl rfl⟩
  | use place =>
      simp only [step, BackedPool.use]
      split <;> exact ⟨rfl, Or.inl rfl, Or.inl rfl⟩
  | drop place =>
      simp only [step, BackedPool.drop]
      split
      · exact ⟨rfl, Or.inl rfl, Or.inl rfl⟩
      · split
        · exact ⟨rfl, Or.inr ⟨place, rfl⟩, Or.inl rfl⟩
        · exact ⟨rfl, Or.inl rfl, Or.inl rfl⟩
  | note f => exact ⟨rfl, Or.inl rfl, Or.inl rfl⟩
  | others m =>
      simp only [step]
      split <;> exact ⟨rfl, Or.inl rfl, Or.inr ⟨m, rfl⟩⟩

end Steps

end BackedPool

end Offload
