import Offload.Op
import Offload.Word
import Offload.Error
import Offload.Memory.Region
import Offload.Memory.Backing
import Offload.Text.Description

/-
  The accelerator's memory as a simulated device.

  Each target has an address window of its own. A window has
  a budget of bytes, which freeing gives back, and a cursor,
  which only moves up. One allocation of several sizes is
  one backing file; its regions follow each other without a
  gap. A freed region stays in the table until its last
  attachment is released.

  Key definitions include:
    * `PageSize`
    * `MemoryWindow`
    * `LiveRegion`
    * `Device`
    * `Device.allocate`
    * `Device.attach`
    * `Device.map`
    * `Device.free`
    * `Device.detach`
    * `Device.containing?`
    * `Device.read`
    * `Device.write`
-/

namespace Offload

------------------------------------------------------------
-- Geometry
------------------------------------------------------------

namespace Device

/- The distance between the windows of two targets. -/
def windowStride : Nat :=
  0x10_0000_0000

/- The first address of the first window. -/
def windowBase : Nat :=
  0x1_0000_0000

/- The first address of a target's window. -/
def windowStart
    (t : MemoryTarget) : Nat :=
  windowBase + windowStride * t.index

/- The budget a target has unless told otherwise. -/
def defaultCapacity : MemoryTarget → Nat
  | .generic => 1024 * 1024 * 1024
  | .onChip => 4 * 1024 * 1024
  | _ => 256 * 1024 * 1024

end Device

/-
  The bytes of a page, as the system has them. A page is not
  empty and no larger than a window.
-/
structure PageSize where
  bytes : Nat
  pos : 0 < bytes
  small : bytes ≤ Device.windowStride

namespace PageSize

/- The pages of most systems. -/
def usual : PageSize :=
  ⟨4096, by decide, by decide⟩

/- The first page boundary that is not below a number. -/
def up
    (p : PageSize)
    (n : Nat) : Nat :=
  Word.alignUp p.bytes n

end PageSize

------------------------------------------------------------
-- State
------------------------------------------------------------

/- The budget and the address cursor of one target. -/
structure MemoryWindow where
  next : Nat
  capacity : Nat
  used : Nat

/-
  A region the device knows. It starts `offset` bytes into
  its file; `attachments` counts the references beside the
  owner's, and `freed` says that the owner is gone.
-/
structure LiveRegion where
  file : Nat
  offset : Nat
  size : Nat
  target : MemoryTarget
  cache : CachePolicy
  attachments : Nat
  freed : Bool
deriving DecidableEq

/- How often each operation succeeded. -/
structure Counters where
  allocs : Nat
  frees : Nat
  attaches : Nat
  detaches : Nat
  maps : Nat
  unmaps : Nat
  invalidates : Nat
  flushes : Nat
deriving DecidableEq

/-
  The pages of the system, the windows, the table of regions
  by address, the backing files, the counters and the number
  of the next mapping.
-/
structure Device where
  page : PageSize
  windows : MemoryTarget → MemoryWindow
  regions : List (Nat × LiveRegion)
  files : Table Backing
  counters : Counters
  nextMapping : Nat

namespace Device

/- A device without regions. -/
def fresh
    (page : PageSize)
    (capacity : MemoryTarget → Nat) : Device where
  page := page
  windows := fun t => ⟨windowStart t, capacity t, 0⟩
  regions := []
  files := Table.empty
  counters := ⟨0, 0, 0, 0, 0, 0, 0, 0⟩
  nextMapping := 0

------------------------------------------------------------
-- Tables
------------------------------------------------------------

/- The region that starts at an address. -/
def region?
    (d : Device)
    (addr : Nat) : Option LiveRegion :=
  d.regions.lookup addr

/- The regions other than the one at an address. -/
def without
    (addr : Nat)
    (rs : List (Nat × LiveRegion)) :
    List (Nat × LiveRegion) :=
  rs.filter fun e => e.1 != addr

/- Put a region at an address, in place of one already there. -/
def put
    (addr : Nat)
    (r : LiveRegion)
    (rs : List (Nat × LiveRegion)) :
    List (Nat × LiveRegion) :=
  (addr, r) :: without addr rs

/- Change one window. -/
def setWindow
    (d : Device)
    (t : MemoryTarget)
    (w : MemoryWindow) : Device :=
  { d with
    windows := fun t' => if t' = t then w else d.windows t' }

/- The bytes in use on a target. -/
def used
    (d : Device)
    (t : MemoryTarget) : Nat :=
  (d.windows t).used

/- The number of regions in the table. -/
def liveCount
    (d : Device) : Nat :=
  d.regions.length

/-
  The start of the region in use that holds an address.
-/
def containing?
    (d : Device)
    (addr : Nat) : Option Nat :=
  (d.regions.find? fun e =>
    !e.2.freed && e.1 ≤ addr && addr < e.1 + e.2.size).map
      Prod.fst

------------------------------------------------------------
-- Allocation
------------------------------------------------------------

/-
  The regions of one allocation, back to back: `start` is
  the address and `offset` the file position of the first.
-/
def carve
    (start : Nat)
    (target : MemoryTarget)
    (cache : CachePolicy) :
    List Nat → Nat → List (Nat × Region)
  | [], _ => []
  | size :: rest, offset =>
    (offset, ⟨start + offset, size, target, cache⟩)
      :: carve start target cache rest (offset + size)

/- A carved region as the table holds it. -/
def liveOf
    (file : Nat)
    (c : Nat × Region) : LiveRegion :=
  ⟨file, c.1, c.2.size, c.2.target, c.2.cache, 0, false⟩

/- Enter carved regions into the table in order. -/
def enter
    (file : Nat)
    (rs : List (Nat × LiveRegion)) :
    List (Nat × Region) → List (Nat × LiveRegion)
  | [] => rs
  | c :: rest =>
    enter file (put c.2.addr (liveOf file c) rs) rest

/- The refusal of a request that a window cannot hold. -/
def exhausted
    (w : MemoryWindow)
    (target : MemoryTarget)
    (total : Nat) : Error :=
  .allocationFailed target total
    ("region exhausted (" ++ toString w.used ++ " of "
      ++ toString w.capacity ++ " bytes in use)")

/-
  The address at which an allocation of some bytes starts.
  Its file has whole pages and must not be too long for the
  system; neither the length of the file nor the end of the
  last region may overflow.
-/
def place
    (d : Device)
    (target : MemoryTarget)
    (total : Nat) : Except Error Nat :=
  let length := d.page.up total
  let start := d.page.up (d.windows target).next
  if Word.limit ≤ length then
    .error .overflow
  else if Backing.limit ≤ length then
    .error (.system .invalidArgument)
  else if Word.limit ≤ start + total then
    .error .overflow
  else
    .ok start

/-
  Allocate regions of the given sizes, each starting where
  the one before it ends, on a page boundary.
-/
def allocate
    (d : Device)
    (target : MemoryTarget)
    (cache : CachePolicy)
    (sizes : List Nat) :
    Except Error (List Region × Device) :=
  if sizes.isEmpty || sizes.contains 0 then
    .error (.invalidArgument
      "region sizes must be non-empty and non-zero")
  else
    match Word.sum? sizes with
    | none =>
      .error (.invalidArgument "region sizes overflow")
    | some total =>
      let w := d.windows target
      if w.used + total < Word.limit
          ∧ w.used + total ≤ w.capacity then
        match d.place target total with
        | .error e => .error e
        | .ok start =>
          let carved := carve start target cache sizes 0
          let (file, files) :=
            d.files.insert (Backing.zeros (d.page.up total))
          let d := d.setWindow target
            ⟨start + total, w.capacity, w.used + total⟩
          .ok (carved.map Prod.snd,
            { d with
              regions := enter file d.regions carved
              files := files
              counters :=
                { d.counters with
                  allocs := d.counters.allocs + 1 } })
      else
        .error (exhausted w target total)

------------------------------------------------------------
-- Attachment and Release
------------------------------------------------------------

/- Refer to a region in use by its address. -/
def attach
    (d : Device)
    (addr : Nat) : Except Error (Region × Device) :=
  match d.region? addr with
  | none =>
    .error (.attachFailed addr
      "no live allocation at this address")
  | some r =>
    if r.freed then
      .error (.attachFailed addr
        "no live allocation at this address")
    else
      .ok (⟨addr, r.size, r.target, r.cache⟩,
        { d with
          regions := put addr
            { r with attachments := r.attachments + 1 }
            d.regions
          counters :=
            { d.counters with
              attaches := d.counters.attaches + 1 } })

/-
  Keep a region in the table while its owner or an
  attachment is left.
-/
def settle
    (d : Device)
    (addr : Nat)
    (r : LiveRegion) : Device :=
  { d with
    regions :=
      if r.freed && r.attachments == 0 then
        without addr d.regions
      else
        put addr r d.regions }

/- The refusal to release what is not in the table. -/
def noSuchRegion
    (addr : Nat) : Error :=
  .attachFailed addr "no such region"

/- Give up ownership of a region. -/
def free
    (d : Device)
    (region : Region) : Except Error (Unit × Device) :=
  match d.region? region.addr with
  | none => .error (noSuchRegion region.addr)
  | some r =>
    if r.freed then
      .error (.invalidArgument
        ("region " ++ Hex.address region.addr
          ++ " freed twice"))
    else
      let w := d.windows r.target
      let d := d.setWindow r.target
        { w with used := w.used - r.size }
      let d := d.settle region.addr { r with freed := true }
      .ok ((),
        { d with
          counters :=
            { d.counters with
              frees := d.counters.frees + 1 } })

/- Give up an attachment of a region. -/
def detach
    (d : Device)
    (region : Region) : Except Error (Unit × Device) :=
  match d.region? region.addr with
  | none => .error (noSuchRegion region.addr)
  | some r =>
    let d := d.settle region.addr
      { r with attachments := r.attachments - 1 }
    .ok ((),
      { d with
        counters :=
          { d.counters with
            detaches := d.counters.detaches + 1 } })

------------------------------------------------------------
-- Mappings and Cache Maintenance
------------------------------------------------------------

/-
  Map the pages that hold a region. The mapping starts at
  the page of the region's first byte.
-/
def map
    (d : Device)
    (region : Region) : Except Error (Mapping × Device) :=
  match d.region? region.addr with
  | none =>
    .error (.mappingFailed
      ("region " ++ Hex.address region.addr
        ++ " is not live"))
  | some r =>
    let delta := r.offset % d.page.bytes
    .ok (
      { key := d.nextMapping
        file := r.file
        start := r.offset - delta
        length := d.page.up (delta + region.size)
        offset := delta },
      { d with
        nextMapping := d.nextMapping + 1
        counters :=
          { d.counters with maps := d.counters.maps + 1 } })

/- Remove a mapping. -/
def unmap
    (d : Device) : Device :=
  { d with
    counters :=
      { d.counters with unmaps := d.counters.unmaps + 1 } }

/- Discard cached bytes of a mapping. -/
def invalidate
    (d : Device) : Device :=
  { d with
    counters :=
      { d.counters with
        invalidates := d.counters.invalidates + 1 } }

/- Write back cached bytes of a mapping. -/
def flush
    (d : Device) : Device :=
  { d with
    counters :=
      { d.counters with flushes := d.counters.flushes + 1 } }

------------------------------------------------------------
-- Bytes
------------------------------------------------------------

/- The bytes of a mapped region from a position on. -/
def read
    (d : Device)
    (m : Mapping)
    (start count : Nat) : Bytes :=
  match d.files.get? m.file with
  | none => List.replicate count 0
  | some b => b.read (m.base + start) count

/- Put bytes into a mapped region. -/
def write
    (d : Device)
    (m : Mapping)
    (start : Nat)
    (bytes : Bytes) : Device :=
  match d.files.get? m.file with
  | none => d
  | some b =>
    { d with
      files := d.files.set m.file
        (b.write (m.base + start) bytes) }

------------------------------------------------------------
-- Description
------------------------------------------------------------

/- The counters and the number of regions. -/
def statFields
    (d : Device) : List (String × Nat) :=
  [("allocs", d.counters.allocs),
   ("frees", d.counters.frees),
   ("attaches", d.counters.attaches),
   ("detaches", d.counters.detaches),
   ("maps", d.counters.maps),
   ("unmaps", d.counters.unmaps),
   ("invalidates", d.counters.invalidates),
   ("flushes", d.counters.flushes),
   ("live_regions", d.liveCount)]

/- The device in one line. -/
def describe
    (d : Device) : String :=
  Description.record "SimDevice"
    [("page_size", toString d.page.bytes),
     ("stats", Description.record "SimDeviceStats"
       (d.statFields.map fun f => (f.1, toString f.2)))]

end Device

end Offload
