import Offload.Archive.Window
import Offload.Word

/-
  Lists in an archive.

  First comes the data that elements refer to, element by
  element, then the elements as cells of equal size. A list
  is referred to by the offset of its first cell and the
  number of its cells.

  Key definitions include:
    * `CellFormat`
    * `CellFormat.dataOf`
    * `CellFormat.cellsOf`
    * `CellFormat.archive`
    * `CellFormat.readList`
-/

namespace Offload

/-
  How an element is written and read. `data` is what the
  element appends at a position before the cells; `cell` is
  the element's cell at its own position, given the position
  at which its data was appended.
-/
structure CellFormat (α : Type) where
  size : Nat
  data : Nat → α → Bytes
  cell : Nat → Nat → α → Option Bytes
  read : Archive → Nat → Reader α

namespace CellFormat

variable {α : Type}

/- The alignment of all cells. -/
def align : Nat :=
  8

------------------------------------------------------------
-- Writing
------------------------------------------------------------

/- The data of all elements, appended from a position on. -/
def dataOf
    (f : CellFormat α) : Nat → List α → Bytes
  | _, [] => []
  | position, a :: rest =>
    let d := f.data position a
    d ++ dataOf f (position + d.length) rest

/- The cells of all elements from a position on. -/
def cellsOf
    (f : CellFormat α) :
    Nat → Nat → List α → Option Bytes
  | _, _, [] => some []
  | own, position, a :: rest => do
    let c ← f.cell own position a
    let cs ← cellsOf f (own + f.size)
      (position + (f.data position a).length) rest
    return c ++ cs

/- A reference to cells. -/
def reference
    (own target count : Nat) : Option Bytes := do
  let offset ← Archive.offset? own target
  return offset ++ Bytes.ofNat 4 count

/- Bytes with zeros up to an alignment. -/
def padTo
    (step : Nat)
    (bytes : Bytes) : Bytes :=
  bytes ++ Bytes.zeros (Word.padding step bytes.length)

/-
  An archive of a list: data, cells, and a root that is made
  from its own position and that of the first cell.
-/
def archive
    (f : CellFormat α)
    (rootAlign : Nat)
    (root : Nat → Nat → Option Bytes)
    (items : List α) : Option Bytes := do
  let data := padTo align (f.dataOf 0 items)
  let cells ← f.cellsOf data.length 0 items
  let body := padTo rootAlign (data ++ cells)
  let tail ← root body.length data.length
  return body ++ tail

------------------------------------------------------------
-- Reading
------------------------------------------------------------

/- Read cells that follow each other. -/
def readCells
    (f : CellFormat α)
    (a : Archive) : Nat → Nat → Reader (List α)
  | 0, _ => pure []
  | count + 1, position => do
    let x ← f.read a position
    let xs ← readCells f a count (position + f.size)
    return x :: xs

/- Read the list that a reference leads to. -/
def readList
    (f : CellFormat α)
    (a : Archive)
    (own : Nat) : Reader (List α) := do
  let target ← Reader.ofOption (a.target? own own)
  let count := a.number 4 (own + 4)
  Reader.visit target (count * f.size) align
    (f.readCells a count target)

end CellFormat

/-
  Read the bytes that a reference leads to: `count` items of
  `size` bytes each.
-/
def Archive.readRun
    (a : Archive)
    (own size align : Nat) : Reader Bytes := do
  let target ← Reader.ofOption (a.target? own own)
  let total := a.number 4 (own + 4) * size
  Reader.visit target total align
    (pure (a.slice target total))

end Offload
