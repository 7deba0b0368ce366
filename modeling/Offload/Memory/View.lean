import Offload.Memory.Buffer

/-
  Views of mapped buffers.

  A view keeps the mappings of all segments as they were
  when it was made. Reading ends without further ado.
  Writing ends when the view is unmapped or dropped. A view
  that is unmapped is dropped as well, and is flushed only
  once.

  Key definitions include:
    * `ReadView`
    * `WriteView`
    * `Buffer.mapRead`
    * `Buffer.mapWrite`
    * `WriteView.drop`
    * `WriteView.unmap`
-/

namespace Offload

variable {ε : Type}

/- Access to a mapped buffer to read it. -/
structure ReadView where
  mappings : List Mapping
deriving DecidableEq

/- Access to a mapped buffer to read it and to write to it. -/
structure WriteView extends ReadView where
  unmapped : Bool
deriving DecidableEq

namespace Buffer

/- The mappings of the segments that are mapped, in order. -/
def mappings
    (b : Buffer) : List Mapping :=
  b.segments.filterMap fun s => s.handle.mapping

/- Map the buffer to read it. -/
def mapRead : Op Error (Buffer × Platform) ReadView := do
  map
  let (b, _) ← Op.get
  return ⟨b.mappings⟩

/- Map the buffer to read it and to write to it. -/
def mapWrite : Op Error (Buffer × Platform) WriteView := do
  map
  let (b, _) ← Op.get
  return ⟨⟨b.mappings⟩, false⟩

end Buffer

namespace WriteView

/- Drop a view. Writing ends unless it has ended before. -/
def drop
    (v : WriteView)
    (b : Buffer) : Op ε Platform Unit :=
  if v.unmapped then Op.pure () else b.endWriting

/-
  End writing and say whether that worked. The view is
  dropped in either case.
-/
def unmap
    (v : WriteView)
    (b : Buffer) : Op Error Platform Unit := do
  let result ← b.flush.attempt
  drop { v with unmapped := true } b
  Op.ofExcept result

end WriteView

end Offload
