import Offload.Bytes
import Offload.Table

/-
  Backing files of allocations.

  A file starts out as zeros. It is kept as the list of what
  was written to it; of several writes to a byte the last
  one counts.

  Key definitions include:
    * `Patch`
    * `Backing`
    * `Backing.limit`
    * `Backing.byte`
    * `Backing.read`
    * `Backing.write`
-/

namespace Offload

/- Bytes written at a position. -/
structure Patch where
  start : Nat
  bytes : Array UInt8
deriving DecidableEq

namespace Patch

/- The byte a patch puts at a position. -/
def byte?
    (p : Patch)
    (i : Nat) : Option UInt8 :=
  if p.start ≤ i then p.bytes[i - p.start]? else none

end Patch

/- A file of `length` bytes with its writes, newest first. -/
structure Backing where
  length : Nat
  patches : List Patch

namespace Backing

/- The first length that the system has no file of. -/
def limit : Nat :=
  0x8000_0000_0000_0000

/- A file of zeros. -/
def zeros
    (length : Nat) : Backing :=
  ⟨length, []⟩

/- The byte at a position. -/
def byte
    (b : Backing)
    (i : Nat) : UInt8 :=
  (b.patches.findSome? fun p => p.byte? i).getD 0

/- The bytes from a position on. -/
def read
    (b : Backing)
    (start count : Nat) : Bytes :=
  (List.range' start count).map b.byte

/- Put bytes at a position. -/
def write
    (b : Backing)
    (start : Nat)
    (bytes : Bytes) : Backing :=
  if bytes.isEmpty then b
  else { b with patches := ⟨start, bytes.toArray⟩ :: b.patches }

/- A byte just written is read back; all others stay. -/
theorem byte_write
    (b : Backing)
    (start : Nat)
    (bytes : Bytes)
    (i : Nat) :
    (b.write start bytes).byte i =
      if start ≤ i then
        (bytes[i - start]?).getD (b.byte i)
      else
        b.byte i := by
  unfold write
  cases bytes with
  | nil => simp
  | cons x xs =>
    simp only [List.isEmpty_cons, Bool.false_eq_true,
      if_false, byte, List.findSome?_cons, Patch.byte?,
      List.getElem?_toArray]
    by_cases h : start ≤ i
    · simp only [h, if_true]
      cases (x :: xs)[i - start]? <;> rfl
    · simp only [h, if_false]

/- Reading gives as many bytes as asked for. -/
theorem length_read
    (b : Backing)
    (start count : Nat) :
    (b.read start count).length = count := by
  simp [read]

end Backing

end Offload
