import Offload.Memory.Handle

/-
  Buffers of named segments.

  The segments of a buffer follow each other in physical
  memory, so the buffer can be used as one region that
  starts at its first segment, the parent. The parent is
  mapped when the buffer is made. A cached buffer is
  invalidated when it is mapped and flushed when writing to
  it ends.

  Key definitions include:
    * `SegmentSpec`
    * `Segment`
    * `Buffer`
    * `Buffer.assemble`
    * `Buffer.map`
    * `Buffer.flush`
    * `Buffer.release`
-/

namespace Offload

------------------------------------------------------------
-- Segments
------------------------------------------------------------

/- A requested segment. -/
structure SegmentSpec where
  name : String
  size : Nat
deriving DecidableEq

namespace SegmentSpec

/- The most segments a buffer may have. -/
def maxCount : Nat :=
  16

/- The name of the only segment of a plain buffer. -/
def parentName : String :=
  "parent"

end SegmentSpec

/- A named piece of a buffer. -/
structure Segment where
  name : String
  handle : Handle
deriving DecidableEq

namespace Segment

/- The address of the first byte. -/
def addr
    (s : Segment) : Nat :=
  s.handle.addr

/- The number of bytes. -/
def size
    (s : Segment) : Nat :=
  s.handle.size

/- Map the segment. -/
def map : Op Error (Segment × Platform) Unit :=
  fun p =>
    match p.1.handle.map p.2 with
    | (.ok h, p') => (.ok (), ({ p.1 with handle := h }, p'))
    | (.error e, p') => (.error e, (p.1, p'))

/- The segment in one line. -/
def describe
    (s : Segment) : String :=
  Description.record "Segment"
    [("name", Quoted.encode s.name),
     ("phys_addr", Hex.address s.addr),
     ("size", toString s.size)]

end Segment

------------------------------------------------------------
-- Buffers
------------------------------------------------------------

/-
  The parent segment, the segments after it, and the flags
  the buffer was asked for with.
-/
structure Buffer where
  parent : Segment
  rest : List Segment
  flags : MemoryFlags
deriving DecidableEq

namespace Buffer

variable {ε : Type}

/- All segments, parent first. -/
def segments
    (b : Buffer) : List Segment :=
  b.parent :: b.rest

/- The total number of bytes. -/
def size
    (b : Buffer) : Nat :=
  Word.total (b.segments.map Segment.size)

/- The address of the first byte. -/
def addr
    (b : Buffer) : Nat :=
  b.parent.addr

/- The target the memory lives on. -/
def target
    (b : Buffer) : MemoryTarget :=
  b.parent.handle.region.target

/- The cache policy of the memory. -/
def cache
    (b : Buffer) : CachePolicy :=
  b.parent.handle.region.cache

/- The names of all segments. -/
def names
    (b : Buffer) : List String :=
  b.segments.map Segment.name

/- The segment with a name; the parent without one. -/
def segment?
    (b : Buffer) : Option String → Option Segment
  | none => some b.parent
  | some name => b.segments.find? fun s => s.name == name

/- The segment with a name, which must exist. -/
def requireSegment
    (b : Buffer)
    (name : String) : Except Error Segment :=
  match b.segment? (some name) with
  | some s => .ok s
  | none =>
    .error (.configMismatch
      ("buffer has no segment named '" ++ name ++ "'"))

------------------------------------------------------------
-- Making and Releasing
------------------------------------------------------------

/- Release segments in order. -/
def releaseAll : List Segment → Op ε Platform Unit
  | [] => Op.pure ()
  | s :: rest => do
    s.handle.release
    releaseAll rest

/- Release every segment, parent first. -/
def release
    (b : Buffer) : Op ε Platform Unit :=
  releaseAll b.segments

/- The refusal of a wrong number of segments. -/
def wrongCount
    (n : Nat) : Error :=
  .invalidArgument
    ("a buffer holds 1 to " ++ toString SegmentSpec.maxCount
      ++ " segments, got " ++ toString n)

/-
  Make a buffer of segments and map its parent. Segments
  that do not become a buffer are released.
-/
def assemble
    (segments : List Segment)
    (flags : MemoryFlags) : Op Error Platform Buffer :=
  match segments with
  | [] => Op.fail (wrongCount 0)
  | parent :: rest =>
    if segments.length > SegmentSpec.maxCount then do
      releaseAll segments
      Op.fail (wrongCount segments.length)
    else do
      match ← parent.handle.map.attempt with
      | .ok h =>
        return ⟨{ parent with handle := h }, rest, flags⟩
      | .error e =>
        releaseAll segments
        Op.fail e

------------------------------------------------------------
-- Views
------------------------------------------------------------

/- Invalidate segments in order. -/
def invalidateAll : List Segment → Op Error Platform Unit
  | [] => Op.pure ()
  | s :: rest => do
    s.handle.invalidate
    invalidateAll rest

/- Flush segments in order. -/
def flushAll : List Segment → Op Error Platform Unit
  | [] => Op.pure ()
  | s :: rest => do
    s.handle.flush
    flushAll rest

/- A buffer with other segments in place of its own. -/
def withSegments
    (b : Buffer) : List Segment → Buffer
  | [] => b
  | parent :: rest =>
    { b with parent := parent, rest := rest }

/-
  Map every segment. Segments before a failing one stay
  mapped.
-/
def mapSegments : Op Error (Buffer × Platform) Unit :=
  Op.within
    ⟨fun p => (p.1.segments, p.2),
     fun q p => (p.1.withSegments q.1, q.2)⟩
    (Op.each Segment.map)

/-
  Map the buffer for use: map every segment, then invalidate
  every segment of a cached buffer.
-/
def map : Op Error (Buffer × Platform) Unit := do
  mapSegments
  let (b, _) ← Op.get
  if b.cache.isCached then
    Op.within Lens.snd (invalidateAll b.segments)

/- Flush every segment of a cached buffer. -/
def flush
    (b : Buffer) : Op Error Platform Unit :=
  if b.cache.isCached then flushAll b.segments
  else Op.pure ()

/-
  End writing without a way to report a failed flush, which
  is logged instead.
-/
def endWriting
    (b : Buffer) : Op ε Platform Unit :=
  b.flush.orElse fun e =>
    Platform.log .warn "flush on unmap failed"
      [("phys", toString b.addr), ("error", e.message)]

/- The buffer in one line. -/
def describe
    (b : Buffer) : String :=
  Description.record "SegmentedBuffer"
    [("size", toString b.size),
     ("target", b.target.describe),
     ("cache", b.cache.describe),
     ("segments",
      Description.list Segment.describe b.segments)]

end Buffer

end Offload
