import Offload.Memory.Buffer

/-
  Allocators of buffers.

  A contiguous allocator makes buffers of one segment, a
  segment allocator makes buffers of up to 16 segments.

  Key definitions include:
    * `AllocatorKind`
    * `Allocator`
    * `Layout.check`
    * `Allocator.alloc`
    * `Allocator.allocSegments`
-/

namespace Offload

------------------------------------------------------------
-- Layouts
------------------------------------------------------------

namespace Layout

/-
  The fault of a segment, given the names before it: its
  size is looked at first, then whether its name is empty,
  then whether the name was used.
-/
def segmentFault
    (seen : List String)
    (spec : SegmentSpec) : Option String :=
  if spec.size = 0 then
    some ("segment '" ++ spec.name ++ "' has zero size")
  else if spec.name = "" then
    some "segment names must not be empty"
  else if seen.contains spec.name then
    some ("duplicate segment name '" ++ spec.name ++ "'")
  else
    none

/- The first fault among segments. -/
def firstFault : List String → List SegmentSpec → Option String
  | _, [] => none
  | seen, spec :: rest =>
    match segmentFault seen spec with
    | some fault => some fault
    | none => firstFault (spec.name :: seen) rest

/- The fault of a layout, if it has one. -/
def fault
    (layout : List SegmentSpec) : Option String :=
  if layout.isEmpty then
    some "no segments requested"
  else if layout.length > SegmentSpec.maxCount then
    some (toString layout.length
      ++ " segments requested, at most "
      ++ toString SegmentSpec.maxCount ++ " allowed")
  else
    match firstFault [] layout with
    | some text => some text
    | none =>
      match Word.sum? (layout.map SegmentSpec.size) with
      | some _ => none
      | none => some "segment sizes overflow"

/- Refuse a layout that has a fault. -/
def check
    (layout : List SegmentSpec) : Except Error Unit :=
  match fault layout with
  | some text => .error (.invalidArgument text)
  | none => .ok ()

/- The total size of a layout. -/
def size
    (layout : List SegmentSpec) : Nat :=
  Word.total (layout.map SegmentSpec.size)

end Layout

------------------------------------------------------------
-- Allocators
------------------------------------------------------------

/- How many segments an allocator can give a buffer. -/
inductive AllocatorKind where
  | contiguous
  | segmented
deriving DecidableEq

/- An allocator with its name. -/
structure Allocator where
  name : String
  kind : AllocatorKind
deriving DecidableEq

namespace Allocator

/- Allocated regions with the names of a layout. -/
def segmentsOf
    (regions : List Region)
    (layout : List SegmentSpec) : List Segment :=
  List.zipWith
    (fun region spec =>
      ⟨spec.name, Handle.ofRegion region .allocated⟩)
    regions layout

/- Allocate a buffer with the segments of a layout. -/
def allocateLayout
    (flags : MemoryFlags)
    (layout : List SegmentSpec) :
    Op Error Platform Buffer := do
  Op.ofExcept (Layout.check layout)
  let target := flags.target
  let total := toString (Layout.size layout)
  let sizes := layout.map SegmentSpec.size
  match ← (Platform.allocate target flags.cache sizes).attempt
  with
  | .error e =>
    Platform.log .error "physical allocation failed"
      [("memory", target.name), ("size", total),
       ("segments", toString layout.length),
       ("error", e.message)]
    Platform.count (.allocationFailures target)
    Op.fail e
  | .ok regions =>
    match ← (Buffer.assemble
      (segmentsOf regions layout) flags).attempt
    with
    | .error e =>
      Platform.log .error "mapping new buffer failed"
        [("memory", target.name), ("size", total),
         ("error", e.message)]
      Op.fail e
    | .ok buffer =>
      Platform.count (.allocations target)
      Platform.log .debug "allocated buffer"
        [("memory", target.name),
         ("cache", flags.cache.name),
         ("size", total),
         ("phys", toString buffer.addr)]
      return buffer

/- Allocate a buffer with one segment. -/
def alloc
    (_ : Allocator)
    (flags : MemoryFlags)
    (size : Nat) : Op Error Platform Buffer :=
  allocateLayout flags [⟨SegmentSpec.parentName, size⟩]

/- Allocate a buffer with one segment per spec, in order. -/
def allocSegments
    (a : Allocator)
    (flags : MemoryFlags)
    (layout : List SegmentSpec) :
    Op Error Platform Buffer :=
  match a.kind with
  | .segmented => allocateLayout flags layout
  | .contiguous =>
    if layout.length = 1 then
      allocateLayout flags layout
    else
      Op.fail (.invalidArgument
        (a.name ++ " allocates single-region buffers, got "
          ++ toString layout.length ++ " segments"))

end Allocator

end Offload
