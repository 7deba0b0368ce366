import Offload.Memory.Allocator

/-
  Bounded pools of buffers.

  A pool allocates its least number of buffers when it is
  activated and grows on demand up to its most. Buffers
  handed out come back to the pool while it is active and
  are freed when it is not. The buffer that came back last
  is handed out first.

  A pool is shared by threads. `take`, `cancelGrowth`,
  `giveBack` and `deactivate` are what one thread does in
  one go; between a `take` that answers `room` and its end,
  other threads see the pool with the new buffer counted.

  Key definitions include:
    * `PoolPlan`
    * `Pool`
    * `Pool.create`
    * `Pool.take`
    * `Pool.giveBack`
    * `Pool.setActive`
    * `Pool.tryAcquire`
    * `Pool.release`
-/

namespace Offload

------------------------------------------------------------
-- Plans
------------------------------------------------------------

/-
  What stays the same over the life of a pool. A pool
  without segment names has buffers of one segment.
-/
structure PoolPlan where
  name : String
  allocator : Allocator
  flags : MemoryFlags
  layout : List SegmentSpec
  isNamed : Bool
  least : Nat
  most : Nat
deriving DecidableEq

namespace PoolPlan

variable {ε : Type}

/- The size of every buffer. -/
def bufferSize
    (p : PoolPlan) : Nat :=
  Layout.size p.layout

/- Allocate one buffer. -/
def allocate
    (p : PoolPlan) : Op Error Platform Buffer :=
  if p.isNamed then
    p.allocator.allocSegments p.flags p.layout
  else
    p.allocator.alloc p.flags p.bufferSize

/- Release buffers in order. -/
def releaseAll : List Buffer → Op ε Platform Unit
  | [] => Op.pure ()
  | b :: rest => do
    b.release
    releaseAll rest

/-
  Allocate `n` more buffers on top of `fresh`, newest first.
  If one of them fails, all are released, oldest first.
-/
def allocateMany
    (p : PoolPlan) :
    Nat → List Buffer → Op Error Platform (List Buffer)
  | 0, fresh => Op.pure fresh
  | n + 1, fresh => do
    match ← p.allocate.attempt with
    | .ok b => allocateMany p n (b :: fresh)
    | .error e =>
      releaseAll fresh.reverse
      Op.fail e

end PoolPlan

------------------------------------------------------------
-- Pools
------------------------------------------------------------

/-
  The state of a pool. `idle` has the buffer that came back
  last in front; `allocated` counts the buffers that exist
  or are being allocated.
-/
structure Pool where
  plan : PoolPlan
  active : Bool
  idle : List Buffer
  allocated : Nat
  acquisitions : Nat
  waits : Nat

/- What a pool says of itself. -/
structure PoolStats where
  least : Nat
  most : Nat
  allocated : Nat
  available : Nat
  inUse : Nat
  acquisitions : Nat
  waits : Nat
deriving DecidableEq

/- What an acquisition finds in an active pool. -/
inductive Grant where
  | ready (buffer : Buffer)
  | room
  | full

namespace Pool

variable {ε : Type}

/- The number of idle buffers. -/
def available
    (p : Pool) : Nat :=
  p.idle.length

/- The statistics of a pool. -/
def stats
    (p : Pool) : PoolStats where
  least := p.plan.least
  most := p.plan.most
  allocated := p.allocated
  available := p.available
  inUse := p.allocated - p.available
  acquisitions := p.acquisitions
  waits := p.waits

------------------------------------------------------------
-- Creating
------------------------------------------------------------

/- The layout for sizes and optional names of segments. -/
def layoutOf
    (names : List String)
    (sizes : List Nat) : List SegmentSpec :=
  if names.isEmpty then
    (sizes.take 1).map fun size =>
      ⟨SegmentSpec.parentName, size⟩
  else
    List.zipWith SegmentSpec.mk names sizes

/- The fault of a request for a pool, if it has one. -/
def requestFault
    (least most : Nat)
    (sizes : List Nat)
    (names : List String) : Option String :=
  if most = 0 ∨ least > most then
    some ("pool bounds must satisfy 0 < max and min <= max"
      ++ " (min " ++ toString least ++ ", max "
      ++ toString most ++ ")")
  else if sizes.isEmpty then
    some "pool needs at least one segment size"
  else if !names.isEmpty ∧ names.length ≠ sizes.length then
    some (toString names.length ++ " segment names for "
      ++ toString sizes.length ++ " sizes")
  else if names.isEmpty ∧ sizes.length > 1 then
    some "multiple segment sizes need segment names"
  else
    match Word.sum? sizes with
    | none => some "pool buffer size overflows"
    | some _ => none

/- A pool that is not active yet. -/
def create
    (allocator : Allocator)
    (least most : Nat)
    (flags : MemoryFlags)
    (sizes : List Nat)
    (names : List String) : Except Error Pool :=
  match requestFault least most sizes names with
  | some text => .error (.invalidArgument text)
  | none =>
    .ok {
      plan := {
        name := allocator.name ++ "-pool"
        allocator := allocator
        flags := flags
        layout := layoutOf names sizes
        isNamed := !names.isEmpty
        least := least
        most := most }
      active := false
      idle := []
      allocated := 0
      acquisitions := 0
      waits := 0 }

------------------------------------------------------------
-- Steps
------------------------------------------------------------

/-
  Look for a buffer: an idle one is taken, room for one more
  is claimed.
-/
def take
    (p : Pool) : Except Error (Grant × Pool) :=
  if p.active then
    match p.idle with
    | b :: rest => .ok (.ready b, { p with idle := rest })
    | [] =>
      if p.allocated < p.plan.most then
        .ok (.room, { p with allocated := p.allocated + 1 })
      else
        .ok (.full, p)
  else
    .error .poolInactive

/- Give up the room claimed for a buffer. -/
def cancelGrowth
    (p : Pool) : Pool :=
  { p with allocated := p.allocated - 1 }

/- Count a buffer handed out. -/
def noteAcquisition
    (p : Pool) : Pool :=
  { p with acquisitions := p.acquisitions + 1 }

/- Count an acquisition that has to wait. -/
def noteWait
    (p : Pool) : Pool :=
  { p with waits := p.waits + 1 }

/-
  Return a buffer. Whether the pool keeps it is answered; a
  buffer that is not kept is freed.
-/
def giveBack
    (b : Buffer)
    (p : Pool) : Bool × Pool :=
  if p.active then
    (true, { p with idle := b :: p.idle })
  else
    (false, { p with allocated := p.allocated - 1 })

/- Enter buffers and hand out from now on. -/
def activate
    (fresh : List Buffer)
    (p : Pool) : Pool :=
  { p with
    active := true
    idle := fresh ++ p.idle
    allocated := p.allocated + fresh.length }

/- Stop handing out. The idle buffers are to be freed. -/
def deactivate
    (p : Pool) : List Buffer × Pool :=
  (p.idle,
   { p with
     active := false
     idle := []
     allocated := p.allocated - p.idle.length })

------------------------------------------------------------
-- Operations
------------------------------------------------------------

/- Change the state of the pool. -/
def change
    (f : Pool → Pool) : Op ε (Pool × Platform) Unit :=
  Op.within Lens.fst (Op.modify f)

/- Run on the platform of the pool. -/
def onPlatform
    {α : Type}
    (x : Op ε Platform α) : Op ε (Pool × Platform) α :=
  Op.within Lens.snd x

/-
  Allocate what the pool has to have at least and activate
  it. A pool whose allocation fails stays as it is.
-/
def start : Op Error (Pool × Platform) Unit := do
  let (p, _) ← Op.get
  let fresh ← onPlatform
    (p.plan.allocateMany (p.plan.least - p.available) [])
  change (activate fresh)
  let (p, _) ← Op.get
  onPlatform
    (Platform.gauge (.poolAvailable p.plan.name) p.available)
  onPlatform
    (Platform.log .debug "pool activated"
      [("pool", p.plan.name),
       ("buffers", toString p.available)])

/- Deactivate the pool and free its idle buffers. -/
def stop : Op ε (Pool × Platform) Unit := do
  let idle ← Op.within Lens.fst (Op.update deactivate)
  onPlatform (PoolPlan.releaseAll idle.reverse)
  let (p, _) ← Op.get
  onPlatform (Platform.gauge (.poolAvailable p.plan.name) 0)
  onPlatform
    (Platform.log .debug "pool deactivated"
      [("pool", p.plan.name)])

/- Activate or deactivate the pool, if that is a change. -/
def setActive
    (active : Bool) : Op Error (Pool × Platform) Unit := do
  let (p, _) ← Op.get
  if p.active == active then
    return ()
  else if active then
    start
  else
    stop

/- Count a buffer and hand it out. -/
def handOut
    (b : Buffer) : Op ε (Pool × Platform) Buffer := do
  change noteAcquisition
  let (p, _) ← Op.get
  onPlatform
    (Platform.count (.poolAcquisitions p.plan.name))
  return b

/-
  Hand out a buffer, unless all the pool may have are in
  use.
-/
def tryAcquire :
    Op Error (Pool × Platform) (Option Buffer) := do
  match ← Op.within Lens.fst (Op.change take) with
  | .full => return none
  | .ready b =>
    let b ← handOut b
    return some b
  | .room =>
    let (p, _) ← Op.get
    match ← (onPlatform p.plan.allocate).attempt with
    | .ok b =>
      let b ← handOut b
      return some b
    | .error e =>
      change cancelGrowth
      Op.fail e

/- Note that an acquisition has to wait. -/
def wait : Op ε (Pool × Platform) Unit := do
  change noteWait
  let (p, _) ← Op.get
  onPlatform (Platform.count (.poolWaits p.plan.name))

/-
  Hand out a buffer, or note a wait that nothing ends before
  its deadline.
-/
def acquireTimeout :
    Op Error (Pool × Platform) (Option Buffer) := do
  match ← tryAcquire with
  | some b => return some b
  | none =>
    wait
    return none

/- The refusal of an acquisition that woke for nothing. -/
def wokeEmpty : Error :=
  .invalidState "pool acquire woke without a buffer"

/-
  Hand out a buffer. Where all are in use this waits until
  one comes back, without a deadline. One thread alone would
  wait for good, and an operation here is what one thread
  does; such a wait ends with `wokeEmpty` instead. Waits that
  other threads end are turns of `WaitedPool`.
-/
def acquire : Op Error (Pool × Platform) Buffer := do
  let b ← acquireTimeout
  Op.ofOption wokeEmpty b

/- Take a buffer back. -/
def release
    (b : Buffer) : Op ε (Pool × Platform) Unit := do
  let kept ← Op.within Lens.fst (Op.update (giveBack b))
  if kept then
    return ()
  else
    onPlatform b.release

/-
  Close the pool. A pool that is still active is deactivated
  with a warning. Buffers handed out stay valid.
-/
def close : Op ε (Pool × Platform) Unit := do
  let (p, _) ← Op.get
  if p.active then
    onPlatform
      (Platform.log .warn "buffer pool dropped while active"
        [("pool", p.plan.name)])
    stop

------------------------------------------------------------
-- Description
------------------------------------------------------------

/- The statistics in one line. -/
def describeStats
    (s : PoolStats) : String :=
  Description.record "PoolStats"
    [("min", toString s.least),
     ("max", toString s.most),
     ("allocated", toString s.allocated),
     ("available", toString s.available),
     ("in_use", toString s.inUse),
     ("acquisitions", toString s.acquisitions),
     ("waits", toString s.waits)]

/- The pool in one line. -/
def describe
    (p : Pool) : String :=
  Description.record "BufferPool"
    [("name", Quoted.encode p.plan.name),
     ("buffer_size", toString p.plan.bufferSize),
     ("stats", describeStats p.stats)]

/- A buffer of the pool in one line. -/
def describeBuffer
    (p : Pool)
    (b : Buffer) : String :=
  Description.record "PooledBuffer"
    [("pool", Quoted.encode p.plan.name),
     ("buffer", Description.around "Some" b.describe)]

end Pool

end Offload
