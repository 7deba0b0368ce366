import Offload.Memory.IdCache
import Offload.Memory.Pool
import Offload.Memory.Registry
import Offload.Proofs.Op
import Offload.Proofs.Telemetry
import Offload.Proofs.Memory.PlatformCalls
import Offload.Proofs.Memory.Regions

/-
  What everything that is done to a platform is made of.

  A planned failure is looked for, the device acts, something
  is recorded: whatever is built on a platform is a sequence
  of such steps. A relation that allows them allows all that
  handles, buffers, allocators, pools and caches do, whether
  it succeeds or not. None of these records anything about
  jobs.

  Key definitions include:
    * `Platform.MemoryFrame`
    * `Platform.Frame`

  Main results:
    * `Handle.map_moves`
    * `Handle.release_moves`
    * `Allocator.allocSegments_moves`
    * `Pool.setActive_moves`
    * `IdCache.resolve_moves`
-/

namespace Offload

------------------------------------------------------------
-- Steps
------------------------------------------------------------

namespace Platform

/-
  A preorder that allows the steps that handles, buffers and
  allocators are made of: the device acts, and events are
  logged and allocations counted.
-/
class MemoryFrame (R : Platform → Platform → Prop) : Prop
    extends Std.Refl R, IsTrans Platform R where
  struck : ∀ (call : DeviceCall) (m : Platform),
    R m (m.struck call)
  acted : ∀ (a : Device.Act) (m : Platform),
    R m { m with device := Device.act a m.device }
  logged : ∀ (e : LogEvent) (m : Platform),
    R m { m with telemetry := m.telemetry.log e }
  counted : ∀ (meter : Meter) (m : Platform),
    meter.isAllocation = true →
      R m { m with telemetry := m.telemetry.count meter }

/-
  A preorder that allows the steps that everything on a
  platform is made of. Where the planned failures are put
  aside it allows what it allows without them.
-/
class Frame (R : Platform → Platform → Prop) : Prop
    extends MemoryFrame R where
  recorded : ∀ (t : Telemetry) (m : Platform),
    m.telemetry.SameJobs t → R m { m with telemetry := t }
  direct : ∀ {m m' : Platform},
    R { m with faults := FaultPlan.none } m' →
      R m { m' with faults := m.faults }
  logged _ m := recorded _ m (.refl m.telemetry)
  counted _ m hMeter :=
    recorded _ m
      (.count (Meter.isJob_of_isAllocation hMeter) m.telemetry)

/- Where nothing of the platform matters, all is allowed. -/
theorem Frame.of_all
    {R : Platform → Platform → Prop}
    (h : ∀ m m' : Platform, R m m') : Frame R where
  refl m := h m m
  trans m _ m' _ _ := h m m'
  struck _ m := h m _
  acted _ m := h m _
  recorded _ m _ := h m _
  direct := fun _ => h _ _

variable {ε α : Type}
variable {R : Platform → Platform → Prop}

section Frame

variable [Frame R]

theorem count_moves
    {meter : Meter}
    (hOther : meter.isJob = false) :
    Op.Moves R (count meter : Op ε Platform Unit) :=
  fun m => Frame.recorded _ m (.count hOther m.telemetry)

theorem gauge_moves
    {meter : Meter}
    (hOther : meter.isJob = false)
    (value : Nat) :
    Op.Moves R (gauge meter value : Op ε Platform Unit) :=
  fun m =>
    Frame.recorded _ m (.gauge hOther value m.telemetry)

theorem direct_moves
    {x : Op ε Platform α}
    (hx : Op.Moves R x) : Op.Moves R (Platform.direct x) :=
  fun _ => Frame.direct (hx _)

end Frame

variable [MemoryFrame R]

theorem log_moves
    (level : Level)
    (message : String)
    (fields : List (String × String)) :
    Op.Moves R
      (log level message fields : Op ε Platform Unit) :=
  MemoryFrame.logged ⟨level, message, fields⟩

theorem countAllocation_moves
    {meter : Meter}
    (hMeter : meter.isAllocation = true) :
    Op.Moves R (count meter : Op ε Platform Unit) :=
  fun m => MemoryFrame.counted meter m hMeter

theorem isStruck_moves
    (call : DeviceCall) :
    Op.Moves R (isStruck call : Op ε Platform Bool) :=
  MemoryFrame.struck call

theorem pass_moves
    (call : DeviceCall) : Op.Moves R (pass call) := by
  refine (isStruck_moves call).bind ?_
  rintro (_ | _)
  · exact Op.Moves.pure ()
  · exact Op.Moves.fail _

/- A call of the device is one of its acts, or refused. -/
theorem call_moves
    {f : Device → Except Error (α × Device)}
    (a : Device.Act)
    (hf :
      ∀ (d : Device) answer d',
        f d = .ok (answer, d') → Device.act a d = d') :
    Op.Moves R (Platform.call f) := by
  intro m
  simp only [Platform.call, Op.change]
  cases hDevice : f m.device with
  | error e => exact Std.Refl.refl m
  | ok p =>
      have hAct := MemoryFrame.acted (R := R) a m
      rw [hf _ _ _ hDevice] at hAct
      exact hAct

/- A call that is a call of a device or refused like one. -/
theorem perform_moves
    {f : Device → Except Error (α × Device)}
    (c : Device.Call)
    (hf : ∀ d : Device, (f d).map Prod.snd = d.perform c) :
    Op.Moves R (Platform.call f) := by
  refine call_moves (.call c) ?_
  intro d answer d' hOk
  apply Device.step_of_ok c
  rw [← hf d, hOk]
  rfl

theorem act_moves
    (a : Device.Act) :
    Op.Moves R (act (Device.act a) : Op ε Platform Unit) :=
  MemoryFrame.acted a

------------------------------------------------------------
-- Device Calls
------------------------------------------------------------

theorem allocate_moves
    (target : MemoryTarget)
    (cache : CachePolicy)
    (sizes : List Nat) :
    Op.Moves R (allocate target cache sizes) := by
  refine (pass_moves .alloc).bind ?_
  intro _
  refine (isStruck_moves .allocEmpty).bind ?_
  rintro (_ | _)
  · exact
      perform_moves (.allocate target cache sizes)
        fun _ => rfl
  · exact Op.Moves.pure []

theorem attach_moves
    (addr : Nat) : Op.Moves R (attach addr) :=
  (pass_moves .attach).bind fun _ =>
    perform_moves (.attach addr) fun _ => rfl

theorem free_moves
    (region : Region) : Op.Moves R (free region) :=
  (pass_moves .free).bind fun _ =>
    perform_moves (.free region) fun _ => rfl

theorem detach_moves
    (region : Region) : Op.Moves R (detach region) :=
  (pass_moves .detach).bind fun _ =>
    perform_moves (.detach region) fun _ => rfl

theorem map_moves
    (region : Region) : Op.Moves R (map region) := by
  refine (pass_moves .map).bind ?_
  intro _
  refine call_moves (.map region) ?_
  intro d mapping d' hOk
  rw [Device.act, hOk]

theorem unmap_moves : Op.Moves R unmap :=
  (pass_moves .unmap).bind fun _ => act_moves .unmap

theorem invalidate_moves : Op.Moves R invalidate :=
  (pass_moves .invalidate).bind fun _ =>
    act_moves .invalidate

theorem flush_moves : Op.Moves R flush :=
  (pass_moves .flush).bind fun _ => act_moves .flush

theorem write_moves
    (mapping : Mapping)
    (start : Nat)
    (bytes : Bytes) :
    Op.Moves R
      (write mapping start bytes : Op ε Platform Unit) :=
  act_moves (.write mapping start bytes)

end Platform

------------------------------------------------------------
-- Handles
------------------------------------------------------------

section Memory

variable {ε : Type}
variable {R : Platform → Platform → Prop}
variable [Platform.MemoryFrame R]

namespace Handle

open Platform

theorem attach_moves
    (addr : Nat) : Op.Moves R (attach addr) :=
  (Platform.attach_moves addr).bind fun _ => Op.Moves.pure _

theorem map_moves
    (h : Handle) : Op.Moves R h.map := by
  unfold map
  cases h.mapping with
  | some _ => exact Op.Moves.pure h
  | none =>
      exact
        (Platform.map_moves h.region).bind fun _ =>
          Op.Moves.pure _

theorem invalidate_moves
    (h : Handle) : Op.Moves R h.invalidate := by
  unfold invalidate
  cases h.isMapped with
  | false => exact Op.Moves.pure ()
  | true => exact Platform.invalidate_moves

theorem flush_moves
    (h : Handle) : Op.Moves R h.flush := by
  unfold flush
  cases h.isMapped with
  | false => exact Op.Moves.pure ()
  | true => exact Platform.flush_moves

theorem read_moves
    (h : Handle)
    (start count : Nat) :
    Op.Moves R
      (h.read start count : Op ε Platform Bytes) := by
  unfold read
  cases h.mapping with
  | none => exact Op.Moves.pure _
  | some mapping => exact fun m => Std.Refl.refl m

theorem write_moves
    (h : Handle)
    (start : Nat)
    (bytes : Bytes) :
    Op.Moves R
      (h.write start bytes : Op ε Platform Unit) := by
  unfold write
  cases h.mapping with
  | none => exact Op.Moves.pure ()
  | some mapping =>
      exact Platform.write_moves mapping start bytes

theorem unmap_moves
    (h : Handle) :
    Op.Moves R (h.unmap : Op ε Platform Unit) := by
  unfold unmap
  cases h.mapping with
  | none => exact Op.Moves.pure ()
  | some _ =>
      exact
        Platform.unmap_moves.orElse fun _ => log_moves _ _ _

theorem giveBack_moves
    (h : Handle) : Op.Moves R h.giveBack := by
  unfold giveBack
  cases h.origin with
  | allocated => exact free_moves h.region
  | attached => exact detach_moves h.region

theorem release_moves
    (h : Handle) :
    Op.Moves R (h.release : Op ε Platform Unit) :=
  h.unmap_moves.bind fun _ =>
    h.giveBack_moves.orElse fun _ => log_moves _ _ _

theorem mapOrRelease_moves
    (h : Handle) : Op.Moves R h.mapOrRelease := by
  refine h.map_moves.attempt.bind ?_
  rintro (e | mapped)
  · exact h.release_moves.bind fun _ => Op.Moves.fail e
  · exact Op.Moves.pure mapped

end Handle

------------------------------------------------------------
-- Buffers
------------------------------------------------------------

namespace Buffer

open Platform

theorem releaseAll_moves
    (segments : List Segment) :
    Op.Moves R
      (releaseAll segments : Op ε Platform Unit) := by
  induction segments with
  | nil => exact Op.Moves.pure ()
  | cons s rest ih =>
      exact s.handle.release_moves.bind fun _ => ih

theorem release_moves
    (b : Buffer) :
    Op.Moves R (b.release : Op ε Platform Unit) :=
  releaseAll_moves b.segments

theorem assemble_moves
    (segments : List Segment)
    (flags : MemoryFlags) :
    Op.Moves R (assemble segments flags) := by
  unfold assemble
  cases segments with
  | nil => exact Op.Moves.fail _
  | cons parent rest =>
      dsimp only
      split
      · exact
          (releaseAll_moves _).bind fun _ => Op.Moves.fail _
      · refine parent.handle.map_moves.attempt.bind ?_
        rintro (e | h)
        · exact
            (releaseAll_moves _).bind fun _ =>
              Op.Moves.fail e
        · exact Op.Moves.pure _

theorem map_moves : Op.Moves (Op.Second R) map := by
  have hEach :
      ∀ segments : List Segment, ∀ m : Platform,
        R m (Op.eachOf Segment.map segments m).2.2 := by
    intro segments
    induction segments with
    | nil => exact Std.Refl.refl
    | cons s rest ih =>
        intro m
        have hFirst := s.handle.map_moves (R := R) m
        simp only [Op.eachOf, Segment.map]
        rcases hRun : s.handle.map m with ⟨e | h, m'⟩
        · rw [hRun] at hFirst
          exact hFirst
        · rw [hRun] at hFirst
          exact IsTrans.trans _ _ _ hFirst (ih m')
  have hInvalidate :
      ∀ segments : List Segment,
        Op.Moves R (invalidateAll segments) := by
    intro segments
    induction segments with
    | nil => exact Op.Moves.pure ()
    | cons s rest ih =>
        exact s.handle.invalidate_moves.bind fun _ => ih
  have hMap : Op.Moves (Op.Second R) mapSegments :=
    fun s => hEach s.1.segments s.2
  apply hMap.bind
  intro _
  apply Op.Moves.seeing
  rintro ⟨b, m⟩
  dsimp only
  split
  · exact (hInvalidate b.segments).within_snd
  · exact Op.Moves.pure ()

theorem flush_moves
    (b : Buffer) : Op.Moves R b.flush := by
  have hAll :
      ∀ segments : List Segment,
        Op.Moves R (flushAll segments) := by
    intro segments
    induction segments with
    | nil => exact Op.Moves.pure ()
    | cons s rest ih =>
        exact s.handle.flush_moves.bind fun _ => ih
  unfold flush
  split
  · exact hAll b.segments
  · exact Op.Moves.pure ()

end Buffer

------------------------------------------------------------
-- Allocators
------------------------------------------------------------

namespace Allocator

open Platform

theorem allocateLayout_moves
    (flags : MemoryFlags)
    (layout : List SegmentSpec) :
    Op.Moves R (allocateLayout flags layout) := by
  refine Op.Moves.bind (Op.Moves.ofExcept _) ?_
  intro _
  refine (allocate_moves _ _ _).attempt.bind ?_
  rintro (e | regions)
  · refine (log_moves _ _ _).bind ?_
    intro _
    refine (countAllocation_moves rfl).bind ?_
    exact fun _ => Op.Moves.fail e
  · refine (Buffer.assemble_moves _ flags).attempt.bind ?_
    rintro (e | buffer)
    · refine (log_moves _ _ _).bind ?_
      exact fun _ => Op.Moves.fail e
    · refine (countAllocation_moves rfl).bind ?_
      intro _
      refine (log_moves _ _ _).bind ?_
      exact fun _ => Op.Moves.pure buffer

theorem alloc_moves
    (a : Allocator)
    (flags : MemoryFlags)
    (size : Nat) : Op.Moves R (a.alloc flags size) :=
  allocateLayout_moves flags _

theorem allocSegments_moves
    (a : Allocator)
    (flags : MemoryFlags)
    (layout : List SegmentSpec) :
    Op.Moves R (a.allocSegments flags layout) := by
  unfold allocSegments
  cases a.kind with
  | segmented => exact allocateLayout_moves flags layout
  | contiguous =>
      dsimp only
      split
      · exact allocateLayout_moves flags layout
      · exact Op.Moves.fail _

end Allocator

namespace Registry

open Platform

theorem getOrCreate_moves
    (name : String)
    (make : Allocator) :
    Op.Moves (Op.Second R)
      (getOrCreate name make :
        Op ε (Registry × Platform) (Bool × Allocator)) := by
  apply Op.Moves.seeing
  rintro ⟨r, m⟩
  dsimp only
  cases r.get? name with
  | some a => exact Op.Moves.pure _
  | none =>
      refine (log_moves _ _ _).within_snd.bind ?_
      intro _
      refine Op.Moves.bind (Op.Moves.within_fst _) ?_
      exact fun _ => Op.Moves.pure _

theorem contiguous_moves :
    Op.Moves (Op.Second R)
      (contiguous : Op ε (Registry × Platform) Allocator) :=
  (getOrCreate_moves _ _).bind fun _ => Op.Moves.pure _

theorem segmented_moves :
    Op.Moves (Op.Second R)
      (segmented : Op ε (Registry × Platform) Allocator) :=
  (getOrCreate_moves _ _).bind fun _ => Op.Moves.pure _

end Registry

------------------------------------------------------------
-- Pools
------------------------------------------------------------

namespace PoolPlan

theorem allocate_moves
    (p : PoolPlan) : Op.Moves R p.allocate := by
  unfold allocate
  split
  · exact p.allocator.allocSegments_moves _ _
  · exact p.allocator.alloc_moves _ _

theorem releaseAll_moves
    (buffers : List Buffer) :
    Op.Moves R
      (releaseAll buffers : Op ε Platform Unit) := by
  induction buffers with
  | nil => exact Op.Moves.pure ()
  | cons b rest ih => exact b.release_moves.bind fun _ => ih

theorem allocateMany_moves
    (p : PoolPlan)
    (n : Nat)
    (fresh : List Buffer) :
    Op.Moves R (p.allocateMany n fresh) := by
  induction n generalizing fresh with
  | zero => exact Op.Moves.pure fresh
  | succ n ih =>
      refine p.allocate_moves.attempt.bind ?_
      rintro (e | b)
      · exact
          (releaseAll_moves _).bind fun _ => Op.Moves.fail e
      · exact ih (b :: fresh)

end PoolPlan

end Memory

section Frame

variable {ε : Type}
variable {R : Platform → Platform → Prop}
variable [Platform.Frame R]

namespace Pool

open Platform

theorem start_moves : Op.Moves (Op.Second R) start := by
  apply Op.Moves.seeing
  rintro ⟨p, m⟩
  refine (p.plan.allocateMany_moves _ []).within_snd.bind ?_
  intro fresh
  refine Op.Moves.bind (Op.Moves.within_fst _) ?_
  intro _
  apply Op.Moves.seeing
  rintro ⟨p', m'⟩
  refine (gauge_moves rfl _).within_snd.bind ?_
  intro _
  exact (log_moves _ _ _).within_snd

theorem stop_moves :
    Op.Moves (Op.Second R)
      (stop : Op ε (Pool × Platform) Unit) := by
  refine Op.Moves.bind (Op.Moves.within_fst _) ?_
  intro idle
  refine (PoolPlan.releaseAll_moves _).within_snd.bind ?_
  intro _
  apply Op.Moves.seeing
  rintro ⟨p, m⟩
  refine (gauge_moves rfl _).within_snd.bind ?_
  intro _
  exact (log_moves _ _ _).within_snd

theorem setActive_moves
    (active : Bool) :
    Op.Moves (Op.Second R) (setActive active) := by
  apply Op.Moves.seeing
  rintro ⟨p, m⟩
  dsimp only
  split
  · exact Op.Moves.pure ()
  · split
    · exact start_moves
    · exact stop_moves

end Pool

------------------------------------------------------------
-- Caches
------------------------------------------------------------

namespace IdCache

open Platform

theorem letGo_moves
    (key : Nat) :
    Op.Moves (Op.Second R)
      (letGo key : Op ε (IdCache × Platform) Unit) := by
  apply Op.Moves.seeing
  rintro ⟨c, m⟩
  dsimp only
  cases c.leases.get? key with
  | none => exact Op.Moves.pure ()
  | some l =>
      dsimp only
      split
      · exact Op.Moves.within_fst _
      · refine Op.Moves.bind (Op.Moves.within_fst _) ?_
        exact fun _ => l.handle.release_moves.within_snd

theorem attachMapped_moves
    (id : Nat) : Op.Moves R (attachMapped id) :=
  (Handle.attach_moves id).bind Handle.mapOrRelease_moves

theorem fill_moves
    (index id : Nat) :
    Op.Moves (Op.Second R) (fill index id) := by
  refine (attachMapped_moves id).within_snd.bind ?_
  intro h
  refine Op.Moves.bind (Op.Moves.within_fst _) ?_
  intro key
  refine Op.Moves.bind (Op.Moves.within_fst _) ?_
  intro _
  refine (count_moves rfl).within_snd.bind ?_
  intro _
  refine (log_moves _ _ _).within_snd.bind ?_
  exact fun _ => Op.Moves.pure _

theorem resolve_moves
    (id : Nat) : Op.Moves (Op.Second R) (resolve id) := by
  apply Op.Moves.seeing
  rintro ⟨c, m⟩
  dsimp only
  cases c.slots.find? id with
  | some slot =>
      apply Op.Moves.bind
      · refine Op.Moves.bind (Op.Moves.within_fst _) ?_
        exact fun _ => (count_moves rfl).within_snd
      · intro _
        refine Op.Moves.bind (Op.Moves.within_fst _) ?_
        exact fun _ => Op.Moves.pure _
  | none =>
      dsimp only
      cases c.slots.freeIndex? with
      | some index =>
          refine (fill_moves index id).bind ?_
          intro slot
          refine Op.Moves.bind (Op.Moves.within_fst _) ?_
          exact fun _ => Op.Moves.pure _
      | none =>
          apply Op.Moves.bind
          · refine Op.Moves.bind (Op.Moves.within_fst _) ?_
            intro _
            refine (count_moves rfl).within_snd.bind ?_
            intro _
            apply Op.Moves.seeing
            exact fun _ => (log_moves _ _ _).within_snd
          · intro _
            refine (attachMapped_moves id).within_snd.bind ?_
            intro h
            refine Op.Moves.bind (Op.Moves.within_fst _) ?_
            exact fun _ => Op.Moves.pure _

end IdCache

end Frame

end Offload
