import Offload.Proofs.Machine.Custody
import Offload.Proofs.Memory.PoolBound

/-
  Handles in many hands.

  A client of a machine holds handles and buffers by
  themselves, buffers of pools and resolved ids; the machine
  holds what is in pools and caches. An event is one
  operation of the client: it obtains something, uses or
  drops what it holds, or works on a pool, a cache, an
  accelerator or a stage. No event loses a handle.

  Key definitions include:
    * `Holder`
    * `Estate`
    * `Estate.Event`
    * `Estate.perform`
    * `Estate.held`

  Main results:
    * `Holder.carriesAt_release`
    * `Estate.carries_perform`
-/

namespace Offload

open Holdings

------------------------------------------------------------
-- Holders
------------------------------------------------------------

/- What a client holds. -/
inductive Holder where
  | handle (h : Handle)
  | buffer (b : Buffer)
  | pooled (pool : Nat) (b : Buffer)
  | resolved (cache : Nat) (r : Resolved)

/- The refusal of what is not there. -/
def Holder.absent : Error :=
  .invalidState "nothing is held there"

/- What is done through a handle that stays as it is. -/
inductive Upkeep where
  | invalidate
  | flush
  | write (start : Nat) (bytes : Bytes)

/- Do something through a handle. -/
def Upkeep.run
    (u : Upkeep)
    (h : Handle) : Op Error Platform Unit :=
  match u with
  | .invalidate => h.invalidate
  | .flush => h.flush
  | .write start bytes => h.write start bytes

/- Do something through the handle of a resolved id. -/
def Upkeep.onResolved
    (u : Upkeep)
    (r : Resolved) : Op Error (IdCache × Platform) Unit := do
  let (c, _) ← Op.get
  match c.handle? r with
  | none => Op.fail Holder.absent
  | some h => Op.within Lens.snd (u.run h)

/- What is done with a buffer. -/
inductive BufferUse where
  | map
  | write (index start : Nat) (bytes : Bytes)
  | flush
  | endWriting

/- Use a buffer. -/
def BufferUse.run :
    BufferUse → Op Error (Buffer × Platform) Unit
  | .map => Buffer.map
  | .write index start bytes => do
    let (b, _) ← Op.get
    match b.segments[index]? with
    | none => Op.fail Holder.absent
    | some s =>
      Op.within Lens.snd (s.handle.write start bytes)
  | .flush => do
    let (b, _) ← Op.get
    Op.within Lens.snd b.flush
  | .endWriting => do
    let (b, _) ← Op.get
    Op.within Lens.snd b.endWriting

namespace Holder

/- The handles that a client holds by itself. -/
def handles : Holder → List Handle
  | .handle h => [h]
  | .buffer b => b.handles
  | .pooled _ b => b.handles
  | .resolved _ _ => []

/- Map a handle and put it back. -/
def mapHandle : Op Error (Handle × Machine) Unit := do
  let (h, _) ← Op.get
  let h ← Op.within Lens.snd (Machine.onPlatform h.map)
  Op.within Lens.fst (Op.set h)

/- Run on the content of a holder, and wrap it again. -/
def edit
    {τ : Type}
    (wrap : τ → Holder)
    (a : τ)
    (x : Op Error (τ × Machine) Unit) :
    Op Error (Holder × Machine) Unit :=
  fun p =>
    match x (a, p.2) with
    | (r, (a', m)) => (r, (wrap a', m))

/- Run on the platform of a machine. -/
def onPlatform
    {τ : Type}
    (x : Op Error (τ × Platform) Unit) :
    Op Error (τ × Machine) Unit :=
  Op.within
    ⟨fun p => (p.1, p.2.platform),
     fun r p => (r.1, { p.2 with platform := r.2 })⟩ x

/- Map a handle that is held by itself. -/
def map : Op Error (Holder × Machine) Unit := do
  let (o, _) ← Op.get
  match o with
  | .handle h => edit .handle h mapHandle
  | _ => Op.fail absent

/- Do something through a handle or a resolved id. -/
def tend
    (u : Upkeep) : Op Error (Holder × Machine) Unit := do
  let (o, _) ← Op.get
  match o with
  | .handle h =>
    Op.within Lens.snd (Machine.onPlatform (u.run h))
  | .resolved cache r =>
    Op.within Lens.snd
      (Machine.onCache cache (u.onResolved r))
  | _ => Op.fail absent

/- Use a buffer, from a pool or not. -/
def useBuffer
    (u : BufferUse) : Op Error (Holder × Machine) Unit := do
  let (o, _) ← Op.get
  match o with
  | .buffer b => edit .buffer b (onPlatform u.run)
  | .pooled pool b =>
    edit (.pooled pool) b (onPlatform u.run)
  | _ => Op.fail absent

/-
  Whether what is held can be dropped. The pool of a buffer
  is there as long as the buffer is.
-/
def isLinked
    (m : Machine) : Holder → Bool
  | .pooled pool _ => (m.pools.get? pool).isSome
  | _ => true

/- Drop what is held. -/
def release : Holder → Op Error Machine Unit
  | .handle h => Machine.onPlatform h.release
  | .buffer b => Machine.onPlatform b.release
  | .pooled pool b =>
    Machine.onPoolSilently pool (Pool.release b)
  | .resolved cache r =>
    Machine.onCacheSilently cache (IdCache.letGo r.lease)

end Holder

------------------------------------------------------------
-- Clients
------------------------------------------------------------

/- What a client holds, and the machine it works on. -/
abbrev Estate : Type :=
  Table Holder × Machine

namespace Estate

/- The operations of a client. -/
inductive Event where
  | allocate
      (target : MemoryTarget)
      (cache : CachePolicy)
      (size : Nat)
  | attach (addr : Nat)
  | allocateBuffer
      (a : Allocator)
      (flags : MemoryFlags)
      (size : Nat)
  | allocateSegments
      (a : Allocator)
      (flags : MemoryFlags)
      (layout : List SegmentSpec)
  | load (r : StageResources) (path : String)
  | tryAcquire (pool : Nat)
  | acquireTimeout (pool : Nat)
  | acquire (pool : Nat)
  | resolve (cache id : Nat)
  | map (key : Nat)
  | tend (key : Nat) (u : Upkeep)
  | useBuffer (key : Nat) (u : BufferUse)
  | drop (key : Nat)
  | createPool
      (a : Allocator)
      (least most : Nat)
      (flags : MemoryFlags)
      (sizes : List Nat)
      (names : List String)
  | setActive (pool : Nat) (active : Bool)
  | closePool (pool : Nat)
  | createCache (capacity : Nat)
  | resolvePhys (cache id : Nat)
  | clearCache (cache : Nat)
  | upcase (cache : Nat) (r : VectorRequest)
  | serve (f : Firmware) (r : Request)
  | dump (r : StageResources) (job : Job)
  | note (f : Telemetry → Telemetry)
  | plan (faults : FaultPlan)

/- Obtain something, and hold it. -/
def keep
    {α : Type}
    (wrap : α → Option Holder)
    (x : Op Error Machine α) : Op Error Estate Unit := do
  let a ← Op.within Lens.snd x
  Op.within Lens.fst (Op.modify fun t =>
    match wrap a with
    | none => t
    | some o => (t.insert o).2)

/- Work on the machine. -/
def onMachine
    {ε α : Type}
    (x : Op ε Machine α) : Op Error Estate Unit := do
  let _ ← (Op.within Lens.snd x).attempt
  return ()

/- Use what is held under a number. -/
def onHolder
    (key : Nat)
    (x : Op Error (Holder × Machine) Unit) :
    Op Error Estate Unit :=
  fun s =>
    match s.1.get? key with
    | none => (.error Holder.absent, s)
    | some o =>
      match x (o, s.2) with
      | (r, (o', m)) => (r, (s.1.set key o', m))

/- Drop what is held under a number. -/
def drop
    (key : Nat) : Op Error Estate Unit := do
  let (t, m) ← Op.get
  match t.get? key with
  | none => Op.fail Holder.absent
  | some o =>
    if o.isLinked m then
      Op.within Lens.fst (Op.modify fun t => t.erase key)
      Op.within Lens.snd o.release
    else
      Op.fail Holder.absent

/- Replace the plan of failures, if releases go through. -/
def replan
    (faults : FaultPlan) : Op Error Platform Unit :=
  if Releasing faults then
    Op.modify fun m => { m with faults := faults }
  else
    Op.pure ()

/- What a client does. -/
def perform : Event → Op Error Estate Unit
  | .allocate target cache size =>
    keep (fun h => some (.handle h))
      (Machine.onPlatform (Handle.allocate target cache size))
  | .attach addr =>
    keep (fun h => some (.handle h))
      (Machine.onPlatform (Handle.attach addr))
  | .allocateBuffer a flags size =>
    keep (fun b => some (.buffer b))
      (Machine.onPlatform (a.alloc flags size))
  | .allocateSegments a flags layout =>
    keep (fun b => some (.buffer b))
      (Machine.onPlatform (a.allocSegments flags layout))
  | .load r path =>
    keep (fun b => some (.buffer b)) (r.loadInput path)
  | .tryAcquire pool =>
    keep (fun b => b.map (.pooled pool))
      (Machine.onPool pool Pool.tryAcquire)
  | .acquireTimeout pool =>
    keep (fun b => b.map (.pooled pool))
      (Machine.onPool pool Pool.acquireTimeout)
  | .acquire pool =>
    keep (fun b => some (.pooled pool b))
      (Machine.onPool pool Pool.acquire)
  | .resolve cache id =>
    keep (fun r => some (.resolved cache r))
      (Machine.onCache cache (IdCache.resolve id))
  | .map key => onHolder key Holder.map
  | .tend key u => onHolder key (Holder.tend u)
  | .useBuffer key u => onHolder key (Holder.useBuffer u)
  | .drop key => drop key
  | .createPool a least most flags sizes names =>
    match Pool.create a least most flags sizes names with
    | .error e => Op.fail e
    | .ok p => onMachine
        (Machine.add Machine.poolsPart p :
          Op Error Machine Nat)
  | .setActive pool active =>
    onMachine (Machine.onPool pool (Pool.setActive active))
  | .closePool pool =>
    onMachine
      (Machine.onPoolSilently pool Pool.close :
        Op Error Machine Unit)
  | .createCache capacity =>
    match IdCache.create capacity with
    | .error e => Op.fail e
    | .ok c => onMachine
        (Machine.add Machine.cachesPart c :
          Op Error Machine Nat)
  | .resolvePhys cache id =>
    onMachine (Machine.onCache cache (IdCache.resolvePhys id))
  | .clearCache cache =>
    onMachine
      (Machine.onCacheSilently cache IdCache.clear :
        Op Error Machine Unit)
  | .upcase cache r =>
    onMachine
      (Machine.onRow Machine.cachesPart cache
        (.error Upcase.unresolved) (Upcase.run r))
  | .serve f r => do
    let (_, m) ← Op.get
    onMachine
      (Machine.onPlatform
        (Op.beside f (Firmware.handle m.files r) :
          Op Error Platform _))
  | .dump r job => onMachine (r.dump job)
  | .note f =>
    onMachine
      (Machine.onPlatform (Platform.record f) :
        Op Error Machine Unit)
  | .plan faults =>
    onMachine (Machine.onPlatform (replan faults))

/- The state after an event, whatever its result. -/
def step
    (e : Event)
    (s : Estate) : Estate :=
  (perform e s).2

/- A client that holds nothing, on a machine with files. -/
def start
    (page : PageSize)
    (capacity : MemoryTarget → Nat)
    (files : FileTree)
    (faults : FaultPlan)
    (telemetry : Telemetry) : Estate :=
  (Table.empty,
    { Machine.fresh capacity with
      platform :=
        ⟨Device.fresh page capacity, faults, telemetry⟩
      files := files })

/- All handles, whoever holds them. -/
def held
    (s : Estate) : List Handle :=
  s.1.handles Holder.handles ++ s.2.held

/- A client and the machine it works on. -/
def custodian : Custodian Estate :=
  .beside (Table.handles Holder.handles) Table.Keyed
    Machine.custodian

end Estate

------------------------------------------------------------
-- What Holders Carry
------------------------------------------------------------

section Uses

open Op

variable {before : List Handle}

theorem Upkeep.carries_run
    (u : Upkeep)
    {h : Handle}
    (hMem : h ∈ before) :
    Carries .ofPlatform before (u.run h)
      fun _ => before := by
  cases u with
  | invalidate => exact Handle.carries_invalidate hMem
  | flush => exact Handle.carries_flush hMem
  | write start bytes =>
      exact Handle.carries_write hMem start bytes

theorem Upkeep.carries_onResolved
    (u : Upkeep)
    (r : Resolved) :
    Carries IdCache.custodian [] (u.onResolved r)
      fun _ => [] := by
  apply Carries.get_bind_at
  rintro ⟨c, m⟩ ⟨hKeyed, hPlan⟩
  simp only
  split
  · exact
      .unchanged ⟨hKeyed, hPlan⟩ rfl (List.Perm.refl _)
  · rename_i h hFound
    have hMem := IdCache.mem_leased hKeyed hFound
    exact
      .within_snd (t := c) hKeyed (u.carries_run hMem m hPlan)

theorem BufferUse.carries_run
    (u : BufferUse) :
    Carries Buffer.custodian [] u.run fun _ => [] := by
  cases u with
  | map => exact Buffer.carries_map
  | write index start bytes =>
      apply Carries.get_bind_at
      rintro ⟨b, m⟩ hSound
      simp only
      split
      · exact .unchanged hSound rfl (List.Perm.refl _)
      · rename_i s hFound
        have hMem : s ∈ b.segments :=
          List.mem_of_getElem? hFound
        exact
          .within_snd (t := b) trivial
            (Handle.carries_write
              (Buffer.mem_handles s hMem) start bytes m
              hSound.2)
  | flush =>
      apply Carries.get_bind_at
      rintro ⟨b, m⟩ ⟨_, hPlan⟩
      exact
        .within_snd (t := b) trivial (b.carries_flush m hPlan)
  | endWriting =>
      apply Carries.get_bind_at
      rintro ⟨b, m⟩ ⟨_, hPlan⟩
      exact
        .within_snd (t := b) trivial
          (b.carries_endWriting m hPlan)

end Uses

namespace Holder

open Op

/- Something held, beside a machine. -/
def custodian : Custodian (Holder × Machine) :=
  .beside handles (fun _ => True) Machine.custodian

section Editing

variable {τ : Type}
variable {f : τ → List Handle}

/- The content of a holder has the handles of the holder. -/
theorem carriesAt_edit
    {wrap : τ → Holder}
    (hWrap : ∀ a, (wrap a).handles = f a)
    {a : τ}
    {m : Machine}
    {x : Op Error (τ × Machine) Unit}
    (hOrder : m.InOrder)
    (hx :
      Carries (.beside f (fun _ => True) Machine.custodian) []
        x fun _ => []) :
    CarriesAt custodian (wrap a, m) [] (edit wrap a x)
      fun _ => [] := by
  have hSplits :
      custodian.Splits
        (.beside f (fun _ => True) Machine.custodian)
        (wrap a, m) (a, m) (fun p => (wrap p.1, p.2)) [] := by
    refine ⟨⟨trivial, hOrder⟩, rfl, ?_, ?_⟩
    · simp only [custodian, Custodian.beside, hWrap,
        List.append_nil]
      exact List.Perm.refl _
    · rintro ⟨a', m'⟩ ⟨_, hOrder'⟩
      refine ⟨⟨trivial, hOrder'⟩, rfl, ?_⟩
      simp only [custodian, Custodian.beside, hWrap,
        List.append_nil]
      exact List.Perm.refl _
  exact .of_part hSplits (hx _ hSplits.sound) rfl

theorem carries_onPlatform
    {x : Op Error (τ × Platform) Unit}
    (hx :
      Carries (.beside f (fun _ => True) .ofPlatform) [] x
        fun _ => []) :
    Carries (.beside f (fun _ => True) Machine.custodian) []
      (onPlatform x) fun _ => [] := by
  apply Carries.part _ hx
  rintro ⟨a, m⟩ ⟨_, hOrder⟩
  refine
    ⟨m.held, ⟨trivial, hOrder.releasing⟩, rfl, ?_, ?_⟩
  · simp only [Custodian.beside, Custodian.ofPlatform,
      List.append_nil]
    exact List.Perm.refl _
  · rintro ⟨a', platform⟩ ⟨_, hPlan⟩
    refine
      ⟨⟨trivial, hOrder.pools, hOrder.caches, hOrder.leases,
        hPlan⟩, rfl, ?_⟩
    simp only [Custodian.beside, Custodian.ofPlatform,
      List.append_nil]
    exact List.Perm.refl _

end Editing

theorem carries_mapHandle :
    Carries
      (.beside (fun h => [h]) (fun _ => True)
        Machine.custodian) [] mapHandle fun _ => [] := by
  apply Carries.get_bind_at
  rintro ⟨h, m⟩ ⟨_, hOrder⟩
  have hMap :=
    Machine.carries_onPlatform h.carries_map m hOrder
  have hEnd :=
    Handle.carriesAt_mapInPlace
      (x := fun _ => (Op.pure () : Op Error _ Unit)) hMap
      fun h' m' hOrder' =>
        .unchanged ⟨trivial, hOrder'⟩ rfl (List.Perm.refl _)
  exact hEnd

theorem carries_map :
    Carries custodian [] map fun _ => [] := by
  apply Carries.get_bind_at
  rintro ⟨o, m⟩ ⟨_, hOrder⟩
  cases o with
  | handle h =>
      exact
        carriesAt_edit (fun _ => rfl) hOrder
          carries_mapHandle
  | buffer b =>
      exact
        .unchanged ⟨trivial, hOrder⟩ rfl (List.Perm.refl _)
  | pooled pool b =>
      exact
        .unchanged ⟨trivial, hOrder⟩ rfl (List.Perm.refl _)
  | resolved cache r =>
      exact
        .unchanged ⟨trivial, hOrder⟩ rfl (List.Perm.refl _)

theorem carries_tend
    (u : Upkeep) :
    Carries custodian [] (tend u) fun _ => [] := by
  apply Carries.get_bind_at
  rintro ⟨o, m⟩ ⟨_, hOrder⟩
  cases o with
  | handle h =>
      have hMem : h ∈ [h] := List.mem_cons_self
      have hRun :=
        Machine.carries_onPlatform (u.carries_run hMem)
      exact
        .within_snd (t := Holder.handle h) trivial
          (hRun m hOrder)
  | resolved cache r =>
      have hRun :=
        Machine.carries_onCache (u.carries_onResolved r)
          (fun _ => List.Perm.refl _) cache
      exact
        hRun.within_snd (Holder.resolved cache r, m)
          ⟨trivial, hOrder⟩
  | buffer b =>
      exact
        .unchanged ⟨trivial, hOrder⟩ rfl (List.Perm.refl _)
  | pooled pool b =>
      exact
        .unchanged ⟨trivial, hOrder⟩ rfl (List.Perm.refl _)

theorem carries_useBuffer
    (u : BufferUse) :
    Carries custodian [] (useBuffer u) fun _ => [] := by
  apply Carries.get_bind_at
  rintro ⟨o, m⟩ ⟨_, hOrder⟩
  have hRun := carries_onPlatform u.carries_run
  cases o with
  | buffer b =>
      exact carriesAt_edit (fun _ => rfl) hOrder hRun
  | pooled pool b =>
      have hWrap :
          ∀ b, (Holder.pooled pool b).handles = b.handles :=
        fun _ => rfl
      exact carriesAt_edit hWrap hOrder hRun
  | handle h =>
      exact
        .unchanged ⟨trivial, hOrder⟩ rfl (List.Perm.refl _)
  | resolved cache r =>
      exact
        .unchanged ⟨trivial, hOrder⟩ rfl (List.Perm.refl _)

/- What is dropped is released, whatever it is. -/
theorem carriesAt_release
    {m : Machine}
    (hOrder : m.InOrder)
    (o : Holder)
    (hLinked : o.isLinked m = true) :
    CarriesAt Machine.custodian m o.handles o.release
      fun _ => [] := by
  cases o with
  | handle h =>
      exact
        Machine.carries_onPlatform h.carries_release m hOrder
  | buffer b =>
      exact
        Machine.carries_onPlatform b.carries_release m hOrder
  | pooled pool b =>
      rcases Option.isSome_iff_exists.mp hLinked with
        ⟨p, hFound⟩
      exact
        Machine.carriesAt_onRow Machine.rows_pools hOrder
          hFound (Pool.carries_release b) (.ok ())
  | resolved cache r =>
      exact
        Machine.carries_onCacheSilently
          (IdCache.carries_letGo r.lease) cache m hOrder

end Holder

namespace Estate

open Op

theorem carries_keep
    {α : Type}
    {wrap : α → Option Holder}
    {x : Op Error Machine α}
    {f : α → List Handle}
    (hx : Carries Machine.custodian [] x (given f))
    (hWrap : ∀ a, f a = (wrap a).elim [] Holder.handles) :
    Carries custodian [] (keep wrap x) fun _ => [] := by
  apply hx.within_snd.bind
  · intro a
    apply Carries.modify
    intro t hKeyed
    simp only [given, hWrap]
    cases wrap a with
    | none => exact ⟨hKeyed, List.Perm.refl _⟩
    | some o => exact ⟨hKeyed.insert o, List.Perm.refl _⟩
  · exact fun _ => List.Perm.refl _

theorem carries_onMachine
    {ε α : Type}
    {x : Op ε Machine α}
    (hx : Carries Machine.custodian [] x fun _ => []) :
    Carries custodian [] (onMachine x) fun _ => [] := by
  apply hx.within_snd.attempt_bind
  exact fun _ => .pure (List.Perm.refl _)

theorem carries_onHolder
    {x : Op Error (Holder × Machine) Unit}
    (hx : Carries Holder.custodian [] x fun _ => [])
    (key : Nat) :
    Carries custodian [] (onHolder key x) fun _ => [] := by
  rintro ⟨t, m⟩ ⟨hKeyed, hOrder⟩
  cases hFound : t.get? key with
  | none =>
      have hRun :
          onHolder key x (t, m) =
            (.error Holder.absent, (t, m)) := by
        simp only [onHolder, hFound]
      refine
        CarriesAt.unchanged (c := custodian)
          ⟨hKeyed, hOrder⟩ ?_ (List.Perm.refl _)
      rw [hRun]
  | some o =>
      have hSplits :
          custodian.Splits Holder.custodian (t, m) (o, m)
            (fun p => (t.set key p.1, p.2))
            ((t.erase key).handles Holder.handles) := by
        refine ⟨⟨trivial, hOrder⟩, rfl, ?_, ?_⟩
        · have hPerm :=
            hKeyed.handles_erase hFound Holder.handles
          exact
            (hPerm.append_right m.held).trans
              (perm_right_comm _ _ _)
        · rintro ⟨o', m'⟩ ⟨_, hOrder'⟩
          have hPerm :=
            hKeyed.handles_set hFound o' Holder.handles
          refine
            ⟨⟨hKeyed.set key o', hOrder'⟩, rfl, ?_⟩
          exact
            (perm_right_comm _ _ _).trans
              (hPerm.symm.append_right m'.held)
      apply CarriesAt.of_part hSplits (hx _ hSplits.sound)
      simp only [onHolder, hFound]

theorem carries_drop
    (key : Nat) :
    Carries custodian [] (drop key) fun _ => [] := by
  apply Carries.get_bind_at
  rintro ⟨t, m⟩ ⟨hKeyed, hOrder⟩
  simp only
  cases hFound : t.get? key with
  | none =>
      exact
        .unchanged ⟨hKeyed, hOrder⟩ rfl (List.Perm.refl _)
  | some o =>
      simp only
      split
      · rename_i hLinked
        have hErase :
            CarriesAt custodian (t, m) []
              (Op.within Lens.fst
                (Op.modify fun t => t.erase key) :
                Op Error _ Unit)
              fun _ => o.handles := by
          apply CarriesAt.modify hOrder (hKeyed.erase key)
          exact hKeyed.handles_erase hFound Holder.handles
        apply hErase.bind
        · intro _ _
          have hRelease :=
            o.carriesAt_release hOrder hLinked
          exact
            .within_snd (t := t.erase key) (hKeyed.erase key)
              (hRelease.frame _)
        · rintro _ ⟨⟩
      · exact
          .unchanged ⟨hKeyed, hOrder⟩ rfl (List.Perm.refl _)

theorem carries_replan
    (faults : FaultPlan) :
    Carries .ofPlatform [] (replan faults) fun _ => [] := by
  unfold replan
  split
  · rename_i hPlan
    apply Carries.of_turns
    exact fun m => turns_plan hPlan
  · exact .pure (List.Perm.refl _)

------------------------------------------------------------
-- Events
------------------------------------------------------------

namespace Event

/- An event loses no handle, whichever way it ends. -/
def IsCarried
    (e : Event) : Prop :=
  Carries custodian [] (perform e) fun _ => []

/- A failure leaves nothing that handles are to go to. -/
theorem perm_given_error
    {α : Type}
    {f : α → List Handle}
    (e : Error) : List.Perm [] (given f (Except.error e)) :=
  List.Perm.refl _

/- A failure takes no handle. -/
theorem perm_error
    (_ : Error) : List.Perm ([] : List Handle) [] :=
  List.Perm.refl _

------------------------------------------------------------
-- Obtaining from the Device
------------------------------------------------------------

theorem carried_allocate
    (target : MemoryTarget)
    (cache : CachePolicy)
    (size : Nat) : (allocate target cache size).IsCarried :=
  carries_keep
    (Machine.carries_onPlatform
      (Handle.carries_allocate target cache size))
    fun _ => rfl

theorem carried_attach
    (addr : Nat) : (attach addr).IsCarried :=
  carries_keep
    (Machine.carries_onPlatform (Handle.carries_attach addr))
    fun _ => rfl

theorem carried_allocateBuffer
    (a : Allocator)
    (flags : MemoryFlags)
    (size : Nat) : (allocateBuffer a flags size).IsCarried :=
  carries_keep
    (Machine.carries_onPlatform
      (Allocator.carries_allocateLayout flags _))
    fun _ => rfl

theorem carried_allocateSegments
    (a : Allocator)
    (flags : MemoryFlags)
    (layout : List SegmentSpec) :
    (allocateSegments a flags layout).IsCarried :=
  carries_keep
    (Machine.carries_onPlatform
      (a.carries_allocSegments flags layout))
    fun _ => rfl

theorem carried_load
    (r : StageResources)
    (path : String) : (load r path).IsCarried :=
  carries_keep (r.carries_loadInput path) fun _ => rfl

------------------------------------------------------------
-- Pools
------------------------------------------------------------

theorem carried_tryAcquire
    (pool : Nat) : (tryAcquire pool).IsCarried := by
  apply carries_keep
    (Machine.carries_onPool Pool.carries_tryAcquire
      perm_given_error pool)
  intro b
  cases b <;> rfl

theorem carried_acquireTimeout
    (pool : Nat) : (acquireTimeout pool).IsCarried := by
  apply carries_keep
    (Machine.carries_onPool Pool.carries_acquireTimeout
      perm_given_error pool)
  intro b
  cases b <;> rfl

theorem carried_acquire
    (pool : Nat) : (acquire pool).IsCarried :=
  carries_keep
    (Machine.carries_onPool Pool.carries_acquire
      perm_given_error pool)
    fun _ => rfl

theorem carried_createPool
    (a : Allocator)
    (least most : Nat)
    (flags : MemoryFlags)
    (sizes : List Nat)
    (names : List String) :
    (createPool a least most flags sizes names).IsCarried := by
  simp only [IsCarried, perform]
  split
  · exact .fail (List.Perm.refl _)
  · rename_i p hCreate
    rcases Pool.create_ok hCreate with
      ⟨_, _, _, _, _, hIdle, _⟩
    exact carries_onMachine (Machine.carries_addPool hIdle)

theorem carried_setActive
    (pool : Nat)
    (active : Bool) : (setActive pool active).IsCarried :=
  carries_onMachine
    (Machine.carries_onPool (Pool.carries_setActive active)
      perm_error pool)

theorem carried_closePool
    (pool : Nat) : (closePool pool).IsCarried :=
  carries_onMachine
    (Machine.carries_onPoolSilently Pool.carries_close pool)

------------------------------------------------------------
-- Caches
------------------------------------------------------------

theorem carried_resolve
    (cache id : Nat) : (resolve cache id).IsCarried := by
  have hResolve :
      Carries Machine.custodian []
        (Machine.onCache cache (IdCache.resolve id))
        (given fun _ => []) :=
    (Machine.carries_onCache (IdCache.carries_resolve id)
      perm_error cache).perm (List.Perm.refl _)
        fun answer => .of_eq (given_none answer).symm
  exact carries_keep hResolve fun _ => rfl

theorem carried_createCache
    (capacity : Nat) : (createCache capacity).IsCarried := by
  simp only [IsCarried, perform]
  split
  · exact .fail (List.Perm.refl _)
  · rename_i c hCreate
    exact
      carries_onMachine
        (Machine.carries_addCache
          (IdCache.leases_of_create hCreate))

theorem carried_resolvePhys
    (cache id : Nat) : (resolvePhys cache id).IsCarried :=
  carries_onMachine
    (Machine.carries_onCache (IdCache.carries_resolvePhys id)
      perm_error cache)

theorem carried_clearCache
    (cache : Nat) : (clearCache cache).IsCarried :=
  carries_onMachine
    (Machine.carries_onCacheSilently IdCache.carries_clear
      cache)

theorem carried_upcase
    (cache : Nat)
    (r : VectorRequest) : (upcase cache r).IsCarried :=
  carries_onMachine
    (Machine.carries_onRow Machine.rows_caches
      (Upcase.carries_run r) (List.Perm.refl _) cache)

------------------------------------------------------------
-- The Rest of the Machine
------------------------------------------------------------

theorem carried_serve
    (f : Firmware)
    (r : Request) : (serve f r).IsCarried := by
  apply Carries.get_bind
  rintro ⟨t, m⟩
  have hServe :
      Carries .ofPlatform []
        (Op.beside f (Firmware.handle m.files r) :
          Op Error _ _)
        (handsBack (fun _ => []) fun _ => []) :=
    (Firmware.carries_handle m.files r).beside trivial
  apply carries_onMachine
  apply (Machine.carries_onPlatform hServe).perm
    (List.Perm.refl _)
  intro answer
  cases answer with
  | ok _ => exact List.Perm.refl _
  | error _ => exact List.Perm.refl _

theorem carried_dump
    (r : StageResources)
    (job : Job) : (dump r job).IsCarried :=
  carries_onMachine (r.carries_dump job)

theorem carried_note
    (f : Telemetry → Telemetry) : (note f).IsCarried :=
  carries_onMachine
    (Machine.carries_onPlatform (Platform.carries_record f))

theorem carried_plan
    (faults : FaultPlan) : (plan faults).IsCarried :=
  carries_onMachine
    (Machine.carries_onPlatform (carries_replan faults))

end Event

/- No event loses a handle, whichever way it ends. -/
theorem carries_perform
    (e : Event) :
    Carries custodian [] (perform e) fun _ => [] := by
  cases e with
  | allocate target cache size =>
      exact Event.carried_allocate target cache size
  | attach addr => exact Event.carried_attach addr
  | allocateBuffer a flags size =>
      exact Event.carried_allocateBuffer a flags size
  | allocateSegments a flags layout =>
      exact Event.carried_allocateSegments a flags layout
  | load r path => exact Event.carried_load r path
  | tryAcquire pool => exact Event.carried_tryAcquire pool
  | acquireTimeout pool =>
      exact Event.carried_acquireTimeout pool
  | acquire pool => exact Event.carried_acquire pool
  | resolve cache id => exact Event.carried_resolve cache id
  | map key => exact carries_onHolder Holder.carries_map key
  | tend key u =>
      exact carries_onHolder (Holder.carries_tend u) key
  | useBuffer key u =>
      exact carries_onHolder (Holder.carries_useBuffer u) key
  | drop key => exact carries_drop key
  | createPool a least most flags sizes names =>
      exact
        Event.carried_createPool a least most flags sizes names
  | setActive pool active =>
      exact Event.carried_setActive pool active
  | closePool pool => exact Event.carried_closePool pool
  | createCache capacity =>
      exact Event.carried_createCache capacity
  | resolvePhys cache id =>
      exact Event.carried_resolvePhys cache id
  | clearCache cache => exact Event.carried_clearCache cache
  | upcase cache r => exact Event.carried_upcase cache r
  | serve f r => exact Event.carried_serve f r
  | dump r job => exact Event.carried_dump r job
  | note f => exact Event.carried_note f
  | plan faults => exact Event.carried_plan faults

end Estate

end Offload
