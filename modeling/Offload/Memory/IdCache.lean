import Offload.Memory.Handle

/-
  A cache from buffer ids to mapped memory.

  The cache attaches to the first ids it sees and keeps them
  mapped. A slot is never taken from its id; when all slots
  are taken, further ids are attached and mapped for one
  caller only. Slots and callers share a handle as a lease,
  which is released when its last holder lets go.

  Key definitions include:
    * `Slots`
    * `Slots.find?`
    * `Slots.freeIndex?`
    * `IdCache`
    * `IdCache.resolve`
    * `IdCache.resolvePhys`
    * `IdCache.letGo`
    * `IdCache.clear`
-/

namespace Offload

------------------------------------------------------------
-- Slots
------------------------------------------------------------

/- An id with the lease that holds its handle. -/
structure Slot where
  id : Nat
  addr : Nat
  lease : Nat
deriving DecidableEq

/-
  Slots by index. Bit `i` of `occupied` says that slot `i`
  is filled.
-/
structure Slots where
  entries : List (Option Slot)
  occupied : UInt64

namespace Slots

/- The most slots a cache may have: one per bit. -/
def maxCapacity : Nat :=
  64

/- Empty slots. -/
def empty
    (capacity : Nat) : Slots :=
  ⟨List.replicate capacity none, 0⟩

/- The number of slots. -/
def capacity
    (s : Slots) : Nat :=
  s.entries.length

/- Whether a bit is set. -/
def hasBit
    (mask : UInt64)
    (i : Nat) : Bool :=
  mask.toNat.testBit i

/- The index of the lowest set bit, 64 without one. -/
def lowestBit
    (mask : UInt64) : Nat :=
  ((List.range 64).find? (hasBit mask)).getD 64

/- The mask without its lowest set bit. -/
def dropLowest
    (mask : UInt64) : UInt64 :=
  mask &&& (mask - 1)

/- Dropping a bit makes a mask smaller. -/
theorem dropLowest_lt
    (mask : UInt64)
    (h : mask ≠ 0) :
    (dropLowest mask).toNat < mask.toNat := by
  have hpos : mask.toNat ≠ 0 := fun h0 =>
    h (UInt64.toNat_inj.mp (by simpa using h0))
  have hle : (dropLowest mask).toNat
      ≤ (mask - 1).toNat := by
    simp only [dropLowest, UInt64.toNat_and]
    exact Nat.and_le_right
  have hone : (1 : UInt64) ≤ mask := by
    rw [UInt64.le_iff_toNat_le]
    simp only [UInt64.toNat_one]
    omega
  rw [UInt64.toNat_sub_of_le _ _ hone] at hle
  simp only [UInt64.toNat_one] at hle
  omega

/-
  The slot of an id, looked for at the set bits of a mask
  from the lowest on.
-/
def findIn
    (s : Slots)
    (id : Nat)
    (mask : UInt64) : Option Slot :=
  if _ : mask = 0 then
    none
  else
    match s.entries[lowestBit mask]? with
    | some (some slot) =>
      if slot.id = id then some slot
      else findIn s id (dropLowest mask)
    | _ => findIn s id (dropLowest mask)
termination_by mask.toNat
decreasing_by
  all_goals exact dropLowest_lt mask ‹_›

/- The slot of an id. -/
def find?
    (s : Slots)
    (id : Nat) : Option Slot :=
  s.findIn id s.occupied

/- One bit for each of `capacity` slots. -/
def fullMask
    (capacity : Nat) : UInt64 :=
  if capacity ≥ 64 then
    0xFFFF_FFFF_FFFF_FFFF
  else
    ((1 : UInt64) <<< UInt64.ofNat capacity) - 1

/- The lowest index of an empty slot. -/
def freeIndex?
    (s : Slots) : Option Nat :=
  let free := (~~~ s.occupied) &&& fullMask s.capacity
  if free = 0 then none else some (lowestBit free)

/- Fill a slot. -/
def fill
    (s : Slots)
    (index : Nat)
    (slot : Slot) : Slots :=
  ⟨s.entries.set index (some slot),
   s.occupied ||| ((1 : UInt64) <<< UInt64.ofNat index)⟩

/- The number of set bits. -/
def countBits
    (mask : UInt64) : Nat :=
  (List.range 64).countP (hasBit mask)

/- The number of filled slots. -/
def count
    (s : Slots) : Nat :=
  countBits s.occupied

/- The filled slots by index. -/
def filled
    (s : Slots) : List Slot :=
  s.entries.filterMap id

end Slots

------------------------------------------------------------
-- The Cache
------------------------------------------------------------

/- A handle with the number of its holders. -/
structure Lease where
  handle : Handle
  holders : Nat

/- Slots, leases and how often each way was taken. -/
structure IdCache where
  slots : Slots
  leases : Table Lease
  hits : Nat
  misses : Nat
  bypasses : Nat

/-
  What a caller got for an id: a share of a lease, and
  whether the lease is in a slot.
-/
structure Resolved where
  lease : Nat
  isCached : Bool
deriving DecidableEq

namespace IdCache

variable {ε : Type}

/- A cache with empty slots. -/
def ofCapacity
    (capacity : Nat) : IdCache :=
  ⟨Slots.empty capacity, Table.empty, 0, 0, 0⟩

/- A cache with as many slots as there can be. -/
def fresh : IdCache :=
  ofCapacity Slots.maxCapacity

/- A cache with a chosen number of slots. -/
def create
    (capacity : Nat) : Except Error IdCache :=
  if capacity = 0 ∨ capacity > Slots.maxCapacity then
    .error (.invalidArgument
      ("id cache capacity must be 1..="
        ++ toString Slots.maxCapacity ++ ", got "
        ++ toString capacity))
  else
    .ok (ofCapacity capacity)

/- Whether an id has a slot. -/
def contains
    (c : IdCache)
    (id : Nat) : Bool :=
  (c.slots.find? id).isSome

/- The handle of what was resolved. -/
def handle?
    (c : IdCache)
    (r : Resolved) : Option Handle :=
  (c.leases.get? r.lease).map Lease.handle

------------------------------------------------------------
-- Leases
------------------------------------------------------------

/- Change the cache. -/
def change
    (f : IdCache → IdCache) :
    Op ε (IdCache × Platform) Unit :=
  Op.within Lens.fst (Op.modify f)

/- Run on the platform of the cache. -/
def onPlatform
    {α : Type}
    (x : Op ε Platform α) : Op ε (IdCache × Platform) α :=
  Op.within Lens.snd x

/- Enter a lease and answer its number. -/
def enter
    (lease : Lease) : Op ε (IdCache × Platform) Nat :=
  Op.within Lens.fst (Op.update fun c =>
    ((c.leases.insert lease).1,
     { c with leases := (c.leases.insert lease).2 }))

/- Add a holder to a lease. -/
def share
    (key : Nat)
    (c : IdCache) : IdCache :=
  match c.leases.get? key with
  | none => c
  | some l =>
    { c with
      leases := c.leases.set key
        { l with holders := l.holders + 1 } }

/- Remove a holder from a lease; the last one releases it. -/
def letGo
    (key : Nat) : Op ε (IdCache × Platform) Unit := do
  let (c, _) ← Op.get
  match c.leases.get? key with
  | none => return ()
  | some l =>
    if l.holders > 1 then
      change fun c =>
        { c with
          leases := c.leases.set key
            { l with holders := l.holders - 1 } }
    else
      change fun c =>
        { c with leases := c.leases.erase key }
      onPlatform l.handle.release

------------------------------------------------------------
-- Lookups
------------------------------------------------------------

/- Count a lookup that a slot answers. -/
def noteHit : Op ε (IdCache × Platform) Unit := do
  change fun c => { c with hits := c.hits + 1 }
  onPlatform (Platform.count .idCacheHits)

/- Count a lookup that finds no room. -/
def noteBypass
    (id : Nat) : Op ε (IdCache × Platform) Unit := do
  change fun c => { c with bypasses := c.bypasses + 1 }
  onPlatform (Platform.count .idCacheBypasses)
  let (c, _) ← Op.get
  onPlatform
    (Platform.log .warn
      ("ran out of space to store buffer address, "
        ++ "mapping without caching")
      [("id", toString id),
       ("capacity", toString c.slots.capacity)])

/- Attach to an id and map it. -/
def attachMapped
    (id : Nat) : Op Error Platform Handle := do
  let h ← Handle.attach id
  h.mapOrRelease

/- Fill an empty slot with an id. -/
def fill
    (index id : Nat) :
    Op Error (IdCache × Platform) Slot := do
  let h ← onPlatform (attachMapped id)
  let key ← enter ⟨h, 1⟩
  let slot : Slot := ⟨id, h.addr, key⟩
  change fun c =>
    { c with
      slots := c.slots.fill index slot
      misses := c.misses + 1 }
  onPlatform (Platform.count .idCacheMisses)
  onPlatform
    (Platform.log .debug "cached buffer mapping"
      [("id", toString id), ("slot", toString index)])
  return slot

/- Resolve an id to mapped memory. -/
def resolve
    (id : Nat) : Op Error (IdCache × Platform) Resolved := do
  let (c, _) ← Op.get
  match c.slots.find? id with
  | some slot =>
    noteHit
    change (share slot.lease)
    return ⟨slot.lease, true⟩
  | none =>
    match c.slots.freeIndex? with
    | some index =>
      let slot ← fill index id
      change (share slot.lease)
      return ⟨slot.lease, true⟩
    | none =>
      noteBypass id
      let h ← onPlatform (attachMapped id)
      let key ← enter ⟨h, 1⟩
      return ⟨key, false⟩

/- Resolve an id to its address only. -/
def resolvePhys
    (id : Nat) : Op Error (IdCache × Platform) Nat := do
  let (c, _) ← Op.get
  match c.slots.find? id with
  | some slot =>
    noteHit
    return slot.addr
  | none =>
    match c.slots.freeIndex? with
    | some index =>
      let slot ← fill index id
      return slot.addr
    | none =>
      noteBypass id
      let h ← onPlatform (Handle.attach id)
      onPlatform h.release
      return h.addr

/- Let go of the leases of slots in order. -/
def letGoAll :
    List Slot → Op ε (IdCache × Platform) Unit
  | [] => Op.pure ()
  | slot :: rest => do
    letGo slot.lease
    letGoAll rest

/- Empty all slots. Leases that callers hold stay valid. -/
def clear : Op ε (IdCache × Platform) Unit := do
  let (c, _) ← Op.get
  change fun c =>
    { c with slots := Slots.empty c.slots.capacity }
  letGoAll c.slots.filled

------------------------------------------------------------
-- Description
------------------------------------------------------------

/- The cache in one line. -/
def describe
    (c : IdCache) : String :=
  Description.record "BufferIdCache"
    [("len", toString c.slots.count),
     ("capacity", toString c.slots.capacity),
     ("stats", Description.record "IdCacheStats"
       [("hits", toString c.hits),
        ("misses", toString c.misses),
        ("bypasses", toString c.bypasses)])]

end IdCache

end Offload
