import Offload.Session.Memory

/-
  Steps on pools and id caches.

  Key definitions include:
    * `Session.PoolRef`
    * `Session.createPool`
    * `Session.tryAcquire`
    * `Session.acquireWaiting`
    * `Session.resolve`
-/

namespace Offload

namespace Session

variable {α : Type}

------------------------------------------------------------
-- Pools
------------------------------------------------------------

/- A pool, or the output pool of a dispatcher. -/
inductive PoolRef where
  | pool (name : String)
  | outputOf (dispatcher : String)

/- The number of a pool. -/
def poolKey : PoolRef → Act Nat
  | .pool name => find Kind.pool name
  | .outputOf name => do
    let d ← find Kind.dispatcher name
    Op.ofOption (.noObject none) d.pool?

/- Run on a pool. -/
def onPool
    (key : Nat)
    (x : Op Error (Pool × Platform) α) : Act α :=
  act (Machine.onPool key x)

/- The statistics of a pool. -/
def poolReport
    (key : Nat) : Act Report :=
  Op.gets fun s =>
    .optional .pool (s.machine.pools.get? key)

/- Make a pool. -/
def createPool
    (name allocator : String)
    (least most : Nat)
    (flags : MemoryFlags)
    (sizes : List Nat)
    (names : List String) : Act Report := do
  let a ← find Kind.allocator allocator
  let p ← failing (Op.ofExcept
    (Pool.create a least most flags sizes names))
  let key ← act (Machine.add Machine.poolsPart p)
  store name (.pool key)
  return .freshPool p

/- Activate or deactivate a pool. -/
def setPoolActive
    (name : String)
    (active : Bool) : Act Report := do
  let key ← find Kind.pool name
  onPool key (Pool.setActive active)
  poolReport key

/- The statistics of a pool that is referred to. -/
def poolStats
    (ref : PoolRef) : Act Report := do
  let key ← poolKey ref
  poolReport key

/- Store a buffer that a pool handed out. -/
def keepPooled
    (name : String)
    (key : Nat)
    (b : Buffer) : Act Report := do
  store name (.pooled key b)
  return .placeOf b

/- Store a buffer that a pool may have handed out. -/
def keepGranted
    (name : String)
    (key : Nat)
    (b : Option Buffer) : Act Report :=
  match b with
  | none => Op.pure .absent
  | some b => keepPooled name key b

/- Acquire a buffer unless all are in use. -/
def tryAcquire
    (name : String)
    (ref : PoolRef) : Act Report := do
  let key ← poolKey ref
  let b ← onPool key Pool.tryAcquire
  keepGranted name key b

/- Acquire a buffer. -/
def acquire
    (name : String)
    (ref : PoolRef) : Act Report := do
  let key ← poolKey ref
  let b ← onPool key Pool.acquire
  keepPooled name key b

/- Acquire a buffer within a time. -/
def acquireWithin
    (name : String)
    (ref : PoolRef)
    (timeout : Duration) : Act Report := do
  let key ← poolKey ref
  let b ← onPool key Pool.acquireTimeout
  if b.isNone then
    onMachine (Op.modify (Machine.advanceBy timeout))
  keepGranted name key b

/-
  What ends the wait of an acquirer. An object that is not
  there need not be dropped.
-/
def endWait
    (key : Nat) : Option String → Act Unit
  | some name => do
    match ← (take Kind.any name).attempt with
    | .ok o => discard o
    | .error _ => return ()
  | none => onPool key (Pool.setActive false)

/-
  Acquire a buffer while somebody else, once the acquirer
  waits or is done, drops an object or deactivates the pool.
  The answer says that this point was reached.
-/
def acquireWaiting
    (name : String)
    (ref : PoolRef)
    (released : Option String) : Act Report := do
  let key ← poolKey ref
  let first ← (onPool key Pool.tryAcquire).attempt
  if let .ok none := first then
    onPool key Pool.wait
  endWait key released
  let b ← match first with
    | .error fault => Op.fail fault
    | .ok (some b) => Op.pure b
    | .ok none => onPool key Pool.acquire
  let got ← keepPooled name key b
  return .record [("waited", .flag true), ("got", got)]

------------------------------------------------------------
-- Id Caches
------------------------------------------------------------

/- Make an id cache. -/
def createCache
    (name : String)
    (capacity : Option Nat) : Act Report := do
  let c ← match capacity with
    | none => Op.pure IdCache.fresh
    | some n => failing (Op.ofExcept (IdCache.create n))
  let key ← act (Machine.add Machine.cachesPart c)
  store name (.cache key)
  return .record [("capacity", .nat c.slots.capacity)]

/- Run on an id cache. -/
def onCache
    (key : Nat)
    (x : Op Error (IdCache × Platform) α) : Act α :=
  act (Machine.onCache key x)

/- The handle that something was resolved to. -/
def resolvedHandle
    (name : Option String)
    (key : Nat)
    (r : Resolved) : Act Handle := do
  let s ← Op.get
  Op.ofOption (.noObject name)
    ((s.machine.caches.get? key).bind fun c => c.handle? r)

/- Resolve an id, and keep the result if it has a name. -/
def resolve
    (cache : String)
    (place : Place)
    (name : Option String) : Act Report := do
  let key ← find Kind.cache cache
  let addr ← address place
  let r ← onCache key (IdCache.resolve addr)
  let h ← resolvedHandle name key r
  match name with
  | some n => store n (.resolved key r)
  | none => discard (.resolved key r)
  return .resolved h r.isCached

/- Resolve an id to its address only. -/
def resolvePhys
    (cache : String)
    (place : Place) : Act Report := do
  let key ← find Kind.cache cache
  let addr ← address place
  let n ← onCache key (IdCache.resolvePhys addr)
  return .nat n

/- Resolve an id so many times and count the successes. -/
def countResolved
    (key addr : Nat) : Nat → Act Nat
  | 0 => Op.pure 0
  | count + 1 => do
    match ← (onCache key (IdCache.resolve addr)).attempt with
    | .error _ => countResolved key addr count
    | .ok r =>
      let n ← countResolved key addr count
      discard (.resolved key r)
      return n + 1

/- Resolve an id from many threads. -/
def resolveMany
    (cache : String)
    (place : Place)
    (count : Nat) : Act Report := do
  let key ← find Kind.cache cache
  let addr ← address place
  let n ← countResolved key addr count
  return .nat n

/- Whether an id has a slot. -/
def cacheContains
    (cache : String)
    (place : Place) : Act Report := do
  let key ← find Kind.cache cache
  let addr ← address place
  let s ← Op.get
  return .optional (fun c => .flag (IdCache.contains c addr))
    (s.machine.caches.get? key)

/- The statistics of an id cache. -/
def cacheStats
    (cache : String) : Act Report := do
  let key ← find Kind.cache cache
  let s ← Op.get
  return .optional .cache (s.machine.caches.get? key)

/- Empty an id cache. -/
def clearCache
    (cache : String) : Act Report := do
  let key ← find Kind.cache cache
  onCache key IdCache.clear
  return .done

/- What a resolved id says of itself. -/
def showResolved
    (name : String) : Act Report := do
  let (key, r) ← find Kind.resolved name
  let h ← resolvedHandle (some name) key r
  return .resolved h r.isCached

/- Read bytes of a resolved id. -/
def readResolved
    (name : String)
    (offset : Nat)
    (count : Option Nat) : Act Report := do
  let (key, r) ← find Kind.resolved name
  let h ← resolvedHandle (some name) key r
  let n ← readCount h.size offset count
  let bs ← actOnPlatform (h.read offset n)
  return .bytes bs

/- Whether two resolved ids have the same address. -/
def sameResolved
    (a b : String) : Act Report := do
  let (keyA, ra) ← find Kind.resolved a
  let (keyB, rb) ← find Kind.resolved b
  let ha ← resolvedHandle (some a) keyA ra
  let hb ← resolvedHandle (some b) keyB rb
  return .flag (ha.mapping == hb.mapping)

end Session

end Offload
