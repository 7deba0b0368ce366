import Offload.Memory.Flags

/-
  Contiguous pieces of physical memory and their mappings.

  Key definitions include:
    * `Region`
    * `Mapping`
-/

namespace Offload

/-
  One contiguous piece of physical memory. Its address is
  the id by which other domains refer to it.
-/
structure Region where
  addr : Nat
  size : Nat
  target : MemoryTarget
  cache : CachePolicy
deriving DecidableEq

/-
  A mapping of whole pages of a backing file. The region it
  was made for starts `offset` bytes into it. Two mappings
  have the same address exactly when they are the same one.
-/
structure Mapping where
  key : Nat
  file : Nat
  start : Nat
  length : Nat
  offset : Nat
deriving DecidableEq

namespace Mapping

/- The position in the file of the region's first byte. -/
def base
    (m : Mapping) : Nat :=
  m.start + m.offset

/- Whether the mapping covers nothing. -/
def isEmpty
    (m : Mapping) : Bool :=
  m.length == 0

end Mapping

end Offload
