import Offload.Memory.View
import Offload.Session

/-
  Steps on the device, on handles and on buffers.

  Key definitions include:
    * `Session.allocateRegions`
    * `Session.mapRegion`
    * `Session.allocateHandle`
    * `Session.allocateBuffer`
    * `Session.writeBuffer`
-/

namespace Offload

namespace Session

variable {α : Type}

------------------------------------------------------------
-- Ranges
------------------------------------------------------------

/-
  The number of bytes to read from an offset on: as many as
  asked for, or all that follow.
-/
def readCount
    {σ : Type}
    (size offset : Nat)
    (count : Option Nat) : Op Fault σ Nat := do
  let n := count.getD (size - offset)
  check (decide (offset + n ≤ size))
  return n

/- Whether bytes fit in from an offset on. -/
def checkWrite
    {σ : Type}
    (size offset : Nat)
    (bytes : Bytes) : Op Fault σ Unit :=
  check (decide (offset + bytes.length ≤ size))

------------------------------------------------------------
-- Regions
------------------------------------------------------------

/- Store regions under names in order. -/
def storeRegions :
    List String → List Region → Act Unit
  | name :: names, r :: rs => do
    store name (.region r)
    storeRegions names rs
  | _, _ => Op.pure ()

/- Allocate one region. -/
def allocateRegion
    (name : String)
    (target : MemoryTarget)
    (cache : CachePolicy)
    (size : Nat) : Act Report := do
  let r ← actOnPlatform
    (Platform.allocateOne target cache size)
  store name (.region r)
  return .region r

/- Allocate regions that follow each other. -/
def allocateRegions
    (names : List String)
    (target : MemoryTarget)
    (cache : CachePolicy)
    (sizes : List Nat) : Act Report := do
  let rs ← actOnPlatform
    (Platform.allocate target cache sizes)
  storeRegions names rs
  return .list .region rs

/- Note a region as if it had been allocated. -/
def noteRegion
    (name : String)
    (place : Place)
    (size : Nat)
    (target : MemoryTarget)
    (cache : CachePolicy) : Act Report := do
  let addr ← address place
  let r : Region := ⟨addr, size, target, cache⟩
  store name (.region r)
  return .region r

/- Attach to a region. -/
def attachRegion
    (name : String)
    (place : Place) : Act Report := do
  let addr ← address place
  let r ← actOnPlatform (Platform.attach addr)
  store name (.region r)
  return .region r

/- Give up ownership of a region. -/
def freeRegion
    (name : String) : Act Report := do
  let r ← find Kind.region name
  actOnPlatform (Platform.free r)
  return .done

/- Give up an attachment of a region. -/
def detachRegion
    (name : String) : Act Report := do
  let r ← find Kind.region name
  actOnPlatform (Platform.detach r)
  return .done

------------------------------------------------------------
-- Mappings
------------------------------------------------------------

/- Map a region. -/
def mapRegion
    (name region : String) : Act Report := do
  let r ← find Kind.region region
  let m ← actOnPlatform (Platform.map r)
  store name (.mapping r m)
  return .mapping m

/- Remove a mapping. It is gone even if that fails. -/
def unmapRegion
    (mapping : String) : Act Report := do
  let _ ← take Kind.mapping mapping
  actOnPlatform Platform.unmap
  return .done

/- Discard cached bytes of a mapping. -/
def invalidateMapping
    (mapping : String) : Act Report := do
  let _ ← find Kind.mapping mapping
  actOnPlatform Platform.invalidate
  return .done

/- Write back cached bytes of a mapping. -/
def flushMapping
    (mapping : String) : Act Report := do
  let _ ← find Kind.mapping mapping
  actOnPlatform Platform.flush
  return .done

/- Write bytes through a mapping. -/
def writeMapping
    (mapping : String)
    (offset : Nat)
    (bytes : Bytes) : Act Report := do
  let (r, m) ← find Kind.mapping mapping
  checkWrite r.size offset bytes
  actOnPlatform (Platform.write m offset bytes)
  return .done

/- Read bytes through a mapping. -/
def readMapping
    (mapping : String)
    (offset : Nat)
    (count : Option Nat) : Act Report := do
  let (r, m) ← find Kind.mapping mapping
  let n ← readCount r.size offset count
  let bs ← actOnPlatform (Platform.read m offset n)
  return .bytes bs

------------------------------------------------------------
-- The Device
------------------------------------------------------------

/- The counters of the device. -/
def deviceStats : Act Report :=
  Op.gets fun s => .device s.machine.platform.device

/- The bytes in use on a target. -/
def usedOn
    (target : MemoryTarget) : Act Report :=
  Op.gets fun s =>
    .nat (s.machine.platform.device.used target)

/- The start of the region that holds an address. -/
def regionAt
    (place : Place) : Act Report := do
  let addr ← address place
  let s ← Op.get
  return .optional .nat
    (s.machine.platform.device.containing? addr)

/- Let a later device call fail. -/
def planFault
    (call : DeviceCall)
    (nth : Nat) : Act Report := do
  onMachine (Machine.onPlatform (Op.modify fun p =>
    { p with faults := p.faults.arm call nth }))
  return .done

/- The device and the allocators in one line each. -/
def describeWorld : Act Report :=
  Op.gets fun s =>
    .texts
      [s.machine.platform.device.describe,
       s.machine.registry.describe]

------------------------------------------------------------
-- Handles
------------------------------------------------------------

/- Allocate a handle. -/
def allocateHandle
    (name : String)
    (target : MemoryTarget)
    (cache : CachePolicy)
    (size : Nat) : Act Report := do
  let h ← actOnPlatform (Handle.allocate target cache size)
  store name (.handle h)
  return .handle h

/- Attach a handle. -/
def attachHandle
    (name : String)
    (place : Place) : Act Report := do
  let addr ← address place
  let h ← actOnPlatform (Handle.attach addr)
  store name (.handle h)
  return .handle h

/- What a handle says of itself. -/
def showHandle
    (name : String) : Act Report := do
  let h ← find Kind.handle name
  return .handle h

/- Map a handle for good. -/
def mapped : Op Fault (Handle × Platform) Handle := do
  let (h, _) ← Op.get
  let h ← Op.within Lens.snd (failing h.map)
  Op.within Lens.fst (Op.set h)
  return h

/- Map a handle; mapping it again gives the same address. -/
def mapHandle
    (name : String) : Act Report := do
  let first ← editOnPlatform Kind.handle name mapped
  let second ← editOnPlatform Kind.handle name mapped
  return .record
    [("stable", .flag (first.mapping == second.mapping))]

/- Discard cached bytes of a handle. -/
def invalidateHandle
    (name : String) : Act Report := do
  let h ← find Kind.handle name
  actOnPlatform h.invalidate
  return .done

/- Write back cached bytes of a handle. -/
def flushHandle
    (name : String) : Act Report := do
  let h ← find Kind.handle name
  actOnPlatform h.flush
  return .done

/- Write bytes to a handle. -/
def writeHandle
    (name : String)
    (offset : Nat)
    (bytes : Bytes) : Act Report := do
  let h ← editOnPlatform Kind.handle name mapped
  checkWrite h.size offset bytes
  actOnPlatform (h.write offset bytes)
  return .done

/- Read bytes of a handle, which is mapped if need be. -/
def readHandle
    (name : String)
    (offset : Nat)
    (count : Option Nat) : Act Report := do
  let h ← find Kind.handle name
  let n ← readCount h.size offset count
  let h ← editOnPlatform Kind.handle name mapped
  let bs ← actOnPlatform (h.read offset n)
  return .bytes bs

------------------------------------------------------------
-- Allocators
------------------------------------------------------------

/- Which allocator to get. -/
inductive AllocatorRef where
  | contiguous
  | segmented
  | named (name : String)

/- Get an allocator. -/
def getAllocator
    (name : String)
    (ref : AllocatorRef) : Act Report := do
  let s ← Op.get
  let a ← match ref with
    | .contiguous =>
      act (Machine.onRegistry
        (do return some (← Registry.contiguous)))
    | .segmented =>
      act (Machine.onRegistry
        (do return some (← Registry.segmented)))
    | .named n => Op.pure (s.machine.registry.get? n)
  match a with
  | none => return .absent
  | some a =>
    store name (.allocator a)
    return .record [("name", .text a.name)]

/- The names of the registered allocators. -/
def allocatorNames : Act Report :=
  Op.gets fun s => .texts s.machine.registry.names

/- Register an allocator unless its name is taken. -/
def registerAllocator
    (name registered : String)
    (a : Allocator) : Act Report := do
  let (created, a) ← act (Machine.onRegistry
    (Registry.getOrCreate registered a))
  store name (.allocator a)
  return .record
    [("created", .flag created), ("name", .text a.name)]

------------------------------------------------------------
-- Buffers
------------------------------------------------------------

/- Allocate a buffer of one segment. -/
def allocateBuffer
    (name allocator : String)
    (flags : MemoryFlags)
    (size : Nat) : Act Report := do
  let a ← find Kind.allocator allocator
  let b ← actOnPlatform (a.alloc flags size)
  store name (.buffer b)
  return .buffer b

/- Allocate a buffer of named segments. -/
def allocateSegments
    (name allocator : String)
    (flags : MemoryFlags)
    (layout : List SegmentSpec) : Act Report := do
  let a ← find Kind.allocator allocator
  let b ← actOnPlatform (a.allocSegments flags layout)
  store name (.buffer b)
  return .buffer b

/- Give a buffer back to an allocator. -/
def freeBuffer
    (allocator buffer : String) : Act Report := do
  let _ ← find Kind.allocator allocator
  let b ← take Kind.ownBuffer buffer
  actOnPlatform b.release
  return .done

/- What a buffer says of itself. -/
def showBuffer
    (name : String) : Act Report := do
  let b ← find Kind.buffer name
  return .buffer b

/- A segment of a buffer, if there is one. -/
def showSegment
    (name : String)
    (segment : Option String) : Act Report := do
  let b ← find Kind.buffer name
  return .optional .segment (b.segment? segment)

/- A segment of a buffer, which must exist. -/
def showNamedSegment
    (name segment : String) : Act Report := do
  let b ← find Kind.buffer name
  let s ← failing (Op.ofExcept (b.requireSegment segment))
  return .segment s

/- Map a buffer in one of both ways and answer with it. -/
def mappedBy
    {α : Type}
    (map : Op Error (Buffer × Platform) α) :
    Op Fault (Buffer × Platform) (Buffer × α) := do
  let view ← failing map
  let (b, _) ← Op.get
  return (b, view)

/- Read bytes of a segment. -/
def readBuffer
    (name : String)
    (segment : Option String)
    (offset : Nat)
    (count : Option Nat) : Act Report := do
  let (b, _) ← editOnPlatform Kind.buffer name
    (mappedBy Buffer.mapRead)
  match b.segment? segment with
  | none => return .absent
  | some s =>
    let n ← readCount s.size offset count
    let bs ← actOnPlatform (s.handle.read offset n)
    return .bytes bs

/- The bytes of segments in order, with their names. -/
def readSegments :
    List Segment → Op Error Platform (List Report)
  | [] => Op.pure []
  | s :: rest => do
    let bs ← s.handle.read 0 s.size
    let more ← readSegments rest
    return .items [.text s.name, .bytes bs] :: more

/- Read the bytes of all segments. -/
def readWholeBuffer
    (name : String) : Act Report := do
  let (b, _) ← editOnPlatform Kind.buffer name
    (mappedBy Buffer.mapRead)
  let rs ← actOnPlatform (readSegments b.segments)
  return .items rs

/- How writing to a buffer ends. -/
inductive WriteEnd where
  | unmap
  | drop
deriving DecidableEq

/- End writing in one of both ways. -/
def endWrite
    (b : Buffer)
    (view : WriteView) : WriteEnd → Act Unit
  | .unmap => actOnPlatform (view.unmap b)
  | .drop => actOnPlatform (view.drop b)

/-
  Write bytes to a segment. When there is nothing to write
  to, the view is dropped.
-/
def writeBuffer
    (name : String)
    (segment : Option String)
    (offset : Nat)
    (bytes : Bytes)
    (ending : WriteEnd) : Act Report := do
  let (b, view) ← editOnPlatform Kind.buffer name
    (mappedBy Buffer.mapWrite)
  match b.segment? segment with
  | none =>
    endWrite b view .drop
    return .absent
  | some s =>
    if offset + bytes.length ≤ s.size then
      actOnPlatform (s.handle.write offset bytes)
      endWrite b view ending
      return .record [("len", .nat s.size)]
    else
      endWrite b view .drop
      Op.fail Fault.outOfRange

end Session

end Offload
