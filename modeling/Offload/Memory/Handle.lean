import Offload.Memory.Platform

/-
  Handles on physical memory.

  A handle owns its region or is attached to one that is
  owned elsewhere. The region is mapped when it is first
  needed and then stays at one address. Releasing a handle
  unmaps the region and gives it back; a failure on that way
  is logged and does not stop it.

  Key definitions include:
    * `Origin`
    * `Handle`
    * `Handle.allocate`
    * `Handle.attach`
    * `Handle.map`
    * `Handle.release`
-/

namespace Offload

/- How a handle came to its region. -/
inductive Origin where
  | allocated
  | attached
deriving DecidableEq

/- The name of an origin in descriptions. -/
def Origin.describe : Origin → String
  | .allocated => "Allocated"
  | .attached => "Attached"

/- A region, how it was obtained, and its mapping, if any. -/
structure Handle where
  region : Region
  origin : Origin
  mapping : Option Mapping
deriving DecidableEq

namespace Handle

variable {ε : Type}

/- A handle on a region that is not mapped yet. -/
def ofRegion
    (region : Region)
    (origin : Origin) : Handle :=
  ⟨region, origin, none⟩

/- The address of the first byte, which is also the id. -/
def addr
    (h : Handle) : Nat :=
  h.region.addr

/- The number of bytes. -/
def size
    (h : Handle) : Nat :=
  h.region.size

/- Whether the region is mapped. -/
def isMapped
    (h : Handle) : Bool :=
  h.mapping.isSome

/- Whether the region is owned elsewhere. -/
def isAttached
    (h : Handle) : Bool :=
  h.origin == .attached

------------------------------------------------------------
-- Obtaining
------------------------------------------------------------

/- Allocate a region. -/
def allocate
    (target : MemoryTarget)
    (cache : CachePolicy)
    (size : Nat) : Op Error Platform Handle := do
  let region ← Platform.allocateOne target cache size
  return ofRegion region .allocated

/- Attach to a region by its id. -/
def attach
    (id : Nat) : Op Error Platform Handle := do
  let region ← Platform.attach id
  return ofRegion region .attached

------------------------------------------------------------
-- Mapping
------------------------------------------------------------

/- Map the region unless it is mapped. -/
def map
    (h : Handle) : Op Error Platform Handle :=
  match h.mapping with
  | some _ => Op.pure h
  | none => do
    let m ← Platform.map h.region
    return { h with mapping := some m }

/- Discard cached bytes. Nothing happens while unmapped. -/
def invalidate
    (h : Handle) : Op Error Platform Unit :=
  if h.isMapped then Platform.invalidate else Op.pure ()

/- Write back cached bytes. Nothing happens while unmapped. -/
def flush
    (h : Handle) : Op Error Platform Unit :=
  if h.isMapped then Platform.flush else Op.pure ()

/- Read bytes of a mapped region. -/
def read
    (h : Handle)
    (start count : Nat) : Op ε Platform Bytes :=
  match h.mapping with
  | some m => Platform.read m start count
  | none => Op.pure (List.replicate count 0)

/- Write bytes of a mapped region. -/
def write
    (h : Handle)
    (start : Nat)
    (bytes : Bytes) : Op ε Platform Unit :=
  match h.mapping with
  | some m => Platform.write m start bytes
  | none => Op.pure ()

------------------------------------------------------------
-- Releasing
------------------------------------------------------------

/- Remove the mapping, if there is one. -/
def unmap
    (h : Handle) : Op ε Platform Unit :=
  match h.mapping with
  | none => Op.pure ()
  | some _ =>
    Platform.unmap.orElse fun e =>
      Platform.log .warn "unmap failed"
        [("phys", toString h.addr), ("error", e.message)]

/- Give the region back to the device. -/
def giveBack
    (h : Handle) : Op Error Platform Unit :=
  match h.origin with
  | .allocated => Platform.free h.region
  | .attached => Platform.detach h.region

/- Unmap the region and give it back. -/
def release
    (h : Handle) : Op ε Platform Unit := do
  h.unmap
  h.giveBack.orElse fun e =>
    Platform.log .warn "release of physical memory failed"
      [("phys", toString h.addr),
       ("origin", h.origin.describe),
       ("error", e.message)]

/- Map a handle that is released when that fails. -/
def mapOrRelease
    (h : Handle) : Op Error Platform Handle := do
  match ← h.map.attempt with
  | .ok mapped => return mapped
  | .error e =>
    h.release
    Op.fail e

/- The handle in one line. -/
def describe
    (h : Handle) : String :=
  Description.record "PhysicalMemoryHandle"
    [("phys_addr", Hex.address h.addr),
     ("size", toString h.size),
     ("target", h.region.target.describe),
     ("cache", h.region.cache.describe),
     ("origin", h.origin.describe),
     ("mapped", Description.bool h.isMapped)]

end Handle

end Offload
