import Mathlib.Data.List.Basic
import Offload.Proofs.Archive.Contents
import Offload.Proofs.Archive.Lists

/-
  How long archives are.

  The length of an archive depends on nothing but the lengths
  of its data, its cells and its root. An archive that is
  short enough for its offsets can be written if each of its
  elements can.

  Key definitions include:
    * `CellFormat.archiveSize`
    * `CellFormat.RoomFor`

  Main results:
    * `CellFormat.Faithful.length_archive`
    * `CellFormat.archive_of_archiveSize`
-/

namespace Offload

------------------------------------------------------------
-- Offsets in Range
------------------------------------------------------------

/- The first length whose positions an offset may miss. -/
def Archive.offsetLimit : Nat :=
  2 ^ 31

theorem Archive.offset?_of_lt
    {origin target : Nat}
    (hOrigin : origin < offsetLimit)
    (hTarget : target < offsetLimit) :
    ∃ run, offset? origin target = some run := by
  unfold offsetLimit at hOrigin hTarget
  refine ⟨_, if_pos ?_⟩
  omega

namespace CellFormat

theorem reference_of_lt
    {own target : Nat}
    (hOwn : own < Archive.offsetLimit)
    (hTarget : target < Archive.offsetLimit)
    (count : Nat) :
    ∃ run, reference own target count = some run := by
  rcases Archive.offset?_of_lt hOwn hTarget with
    ⟨offset, hOffset⟩
  exact
    ⟨offset ++ Bytes.ofNat 4 count, by
      simp [reference, hOffset]⟩

------------------------------------------------------------
-- Lengths of Archives
------------------------------------------------------------

variable {α : Type}

/-
  The number of bytes of an archive: data, cells and root,
  each filled up to the alignment of what follows.
-/
def archiveSize
    (f : CellFormat α)
    (rootAlign rootSize : Nat)
    (items : List α) : Nat :=
  Word.alignUp rootAlign
      (Word.alignUp align (f.dataOf 0 items).length +
        items.length * f.size) +
    rootSize

theorem length_padTo
    {step : Nat}
    (hStep : 0 < step)
    (run : Bytes) :
    (padTo step run).length =
      Word.alignUp step run.length := by
  rw [padTo, List.length_append, Bytes.length_zeros,
    Word.add_padding hStep]

variable {f : CellFormat α}
variable {rootAlign rootSize : Nat}
variable {root : Nat → Nat → Option Bytes}
variable {items : List α}

theorem Faithful.length_archive
    (hf : f.Faithful)
    (hAlign : 0 < rootAlign)
    (hRoot :
      ∀ {own cells : Nat} {tail : Bytes},
        root own cells = some tail →
          tail.length = rootSize)
    {bytes : Bytes}
    (h : f.archive rootAlign root items = some bytes) :
    bytes.length = f.archiveSize rootAlign rootSize items := by
  simp only [archive, Option.bind_eq_bind,
    Option.bind_eq_some_iff, Option.pure_def,
    Option.some.injEq] at h
  rcases h with ⟨cells, hCells, tail, hTail, rfl⟩
  rw [List.length_append, hRoot hTail,
    length_padTo hAlign, List.length_append,
    length_padTo (by decide), hf.length_cellsOf hCells,
    archiveSize]

/-
  The cell of an element can be written if its place and its
  data end within the reach of offsets.
-/
def RoomFor
    (f : CellFormat α)
    (x : α) : Prop :=
  ∀ {own position : Nat},
    own + f.size < Archive.offsetLimit →
      position + (f.data position x).length <
          Archive.offsetLimit →
        ∃ cell, f.cell own position x = some cell

theorem cellsOf_of_roomFor
    (items : List α)
    (hRoom : ∀ x ∈ items, f.RoomFor x)
    {own position : Nat}
    (hOwn :
      own + items.length * f.size < Archive.offsetLimit)
    (hData :
      position + (f.dataOf position items).length <
        Archive.offsetLimit) :
    ∃ cells, f.cellsOf own position items = some cells := by
  induction items generalizing own position with
  | nil => exact ⟨[], rfl⟩
  | cons x rest ih =>
      simp only [dataOf, List.length_append] at hData
      rw [List.length_cons, Nat.add_mul, Nat.one_mul]
        at hOwn
      have hFirst :
          ∃ cell, f.cell own position x = some cell :=
        hRoom x List.mem_cons_self (by omega) (by omega)
      have hRest :
          ∃ others,
            f.cellsOf (own + f.size)
                (position + (f.data position x).length)
                rest =
              some others :=
        ih (fun y hy => hRoom y (List.mem_cons_of_mem x hy))
          (by omega) (by omega)
      rcases hFirst with ⟨cell, hCell⟩
      rcases hRest with ⟨others, hOthers⟩
      exact
        ⟨cell ++ others, by
          simp [CellFormat.cellsOf, hCell, hOthers]⟩

/- An archive within the reach of offsets can be written. -/
theorem archive_of_archiveSize
    (hf : f.Faithful)
    (hAlign : 0 < rootAlign)
    (hRoot :
      ∀ {own cells : Nat},
        own + rootSize < Archive.offsetLimit →
          cells ≤ own → ∃ tail, root own cells = some tail)
    (hRoom : ∀ x ∈ items, f.RoomFor x)
    (hSize :
      f.archiveSize rootAlign rootSize items <
        Archive.offsetLimit) :
    ∃ bytes,
      f.archive rootAlign root items = some bytes := by
  unfold archiveSize at hSize
  have hDataEnd :
      (f.dataOf 0 items).length ≤
        Word.alignUp align (f.dataOf 0 items).length :=
    Word.le_alignUp (by decide) _
  have hCellsEnd :=
    Word.le_alignUp hAlign
      (Word.alignUp align (f.dataOf 0 items).length +
        items.length * f.size)
  generalize hFront :
    padTo align (f.dataOf 0 items) = front
  have hFrontEnd :
      front.length =
        Word.alignUp align (f.dataOf 0 items).length := by
    rw [← hFront, length_padTo (by decide)]
  have hWritten :
      ∃ cells, f.cellsOf front.length 0 items = some cells :=
    cellsOf_of_roomFor items hRoom (by omega) (by omega)
  rcases hWritten with ⟨cells, hCells⟩
  generalize hBody : padTo rootAlign (front ++ cells) = body
  have hBodyEnd :
      body.length =
        Word.alignUp rootAlign
          (Word.alignUp align (f.dataOf 0 items).length +
            items.length * f.size) := by
    rw [← hBody, length_padTo hAlign, List.length_append,
      hFrontEnd, hf.length_cellsOf hCells]
  have hTail :
      ∃ tail, root body.length front.length = some tail :=
    hRoot (by omega) (by omega)
  rcases hTail with ⟨tail, hTail⟩
  exact
    ⟨body ++ tail, by
      simp [archive, hFront, hCells, hBody, hTail]⟩

end CellFormat

end Offload
