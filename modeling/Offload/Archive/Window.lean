import Offload.Bytes

/-
  Reading positions of an archive.

  A reader may look only into a window of the archive. What
  lies outside the place being read is taken apart in order:
  while a place is visited, the window is what lies before
  it, and afterwards the window is what lies behind it. No
  byte can be reached twice.

  Key definitions include:
    * `Window`
    * `Reader`
    * `Reader.visit`
    * `Archive`
    * `Archive.number`
-/

namespace Offload

------------------------------------------------------------
-- Windows
------------------------------------------------------------

/- The positions from `low` on and below `high`. -/
structure Window where
  low : Nat
  high : Nat
deriving DecidableEq

namespace Window

/- Whether a place lies in the window, on its alignment. -/
def admits
    (w : Window)
    (start size align : Nat) : Bool :=
  w.low ≤ start && start + size ≤ w.high
    && start % align == 0

end Window

/- A reader changes the window, or fails. -/
abbrev Reader := StateT Window Option

namespace Reader

variable {α : Type}

/- Give up. -/
def fail : Reader α :=
  fun _ => none

/- A value that may be missing. -/
def ofOption
    (a : Option α) : Reader α :=
  fun w => a.map fun x => (x, w)

/- Read a place with everything it refers to. -/
def visit
    (start size align : Nat)
    (inner : Reader α) : Reader α :=
  fun w =>
    if w.admits start size align then
      match inner ⟨w.low, start⟩ with
      | some (a, _) => some (a, ⟨start + size, w.high⟩)
      | none => none
    else
      none

end Reader

------------------------------------------------------------
-- Archives
------------------------------------------------------------

/- The bytes of an archive. -/
abbrev Archive := Array UInt8

namespace Archive

/- The whole archive as a window. -/
def window
    (a : Archive) : Window :=
  ⟨0, a.size⟩

/- The bytes of a place. -/
def slice
    (a : Archive)
    (start size : Nat) : Bytes :=
  (a.extract start (start + size)).toList

/- The number in `width` bytes. -/
def number
    (a : Archive)
    (width start : Nat) : Nat :=
  Bytes.toNat (a.slice start width)

/- One byte. -/
def byte
    (a : Archive)
    (start : Nat) : Nat :=
  a.number 1 start

/- The signed number that a 32-bit word stands for. -/
def signed
    (n : Nat) : Int :=
  if n < 0x8000_0000 then n else (n : Int) - 0x1_0000_0000

/-
  The position that the offset at `field` points to, as seen
  from `origin`.
-/
def target?
    (a : Archive)
    (origin field : Nat) : Option Nat :=
  let position := (origin : Int) + signed (a.number 4 field)
  if position < 0 then none else some position.toNat

/- The offset from one position to another, if it fits. -/
def offset?
    (origin target : Nat) : Option Bytes :=
  let d := (target : Int) - origin
  if -0x8000_0000 ≤ d ∧ d < 0x8000_0000 then
    some (Bytes.ofNat 4 (d % 0x1_0000_0000).toNat)
  else
    none

/- Read the root, which ends the archive. -/
def readRoot
    {α : Type}
    (a : Archive)
    (size align : Nat)
    (inner : Nat → Reader α) : Option α :=
  let root := a.size - size
  (Reader.visit root size align (inner root) a.window).map
    Prod.fst

end Archive

end Offload
