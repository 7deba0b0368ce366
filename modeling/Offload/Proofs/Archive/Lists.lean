import Mathlib.Data.List.Basic
import Offload.Archive.Sequence
import Offload.Proofs.Archive.Contents

/-
  Lists that are read from an archive as they were written.

  A reader meets the data of a list in the order in which it
  was appended. While it reads the cells one by one, its
  window begins no later than the data of the next element:
  this is what makes every visit succeed.

  Key definitions include:
    * `CellFormat.Faithful`

  Main results:
    * `CellFormat.Faithful.readCells_cellsOf`
    * `CellFormat.Faithful.readList_archive`
    * `Archive.readRun_of_holds`
-/

namespace Offload

namespace CellFormat

variable {α : Type}

/-
  Cells of the stated size. An element is read back from its
  cell and its data, and of a window that the data lies in
  it takes no more than what ends with the data.
-/
structure Faithful
    (f : CellFormat α) : Prop where
  size_pos : 0 < f.size
  length_cell :
    ∀ {own position : Nat} {x : α} {cell : Bytes},
      f.cell own position x = some cell →
        cell.length = f.size
  read_cell :
    ∀ {a : Archive} {own position : Nat} {x : α}
      {cell : Bytes} {w : Window},
      a.size < 2 ^ 32 →
        f.cell own position x = some cell →
          a.Holds own cell →
            a.Holds position (f.data position x) →
              w.low ≤ position →
                position + (f.data position x).length ≤
                    w.high →
                  ∃ low ≤
                      position + (f.data position x).length,
                    (f.read a own).run w =
                      some (x, ⟨low, w.high⟩)

------------------------------------------------------------
-- Cells
------------------------------------------------------------

variable {f : CellFormat α}

/- What the cells of a list with a first element are. -/
theorem cellsOf_cons
    {own position : Nat}
    {x : α}
    {rest : List α}
    {cells : Bytes}
    (h : f.cellsOf own position (x :: rest) = some cells) :
    ∃ cell others,
      f.cell own position x = some cell ∧
        f.cellsOf (own + f.size)
            (position + (f.data position x).length) rest =
          some others ∧
        cells = cell ++ others := by
  simp only [cellsOf, Option.bind_eq_bind,
    Option.bind_eq_some_iff, Option.pure_def,
    Option.some.injEq] at h
  rcases h with ⟨cell, hCell, others, hOthers, hCells⟩
  exact ⟨cell, others, hCell, hOthers, hCells.symm⟩

/- Cells are written if each of them is. -/
theorem cell_of_cellsOf
    {items : List α}
    {own position : Nat}
    {cells : Bytes}
    (h : f.cellsOf own position items = some cells) :
    ∀ x ∈ items,
      ∃ place data cell, f.cell place data x = some cell := by
  induction items generalizing own position cells with
  | nil => exact nofun
  | cons y rest ih =>
      rcases cellsOf_cons h with
        ⟨cell, others, hCell, hOthers, _⟩
      intro x hx
      rcases List.mem_cons.mp hx with rfl | hRest
      · exact ⟨own, position, cell, hCell⟩
      · exact ih hOthers x hRest

theorem Faithful.length_cellsOf
    (hf : f.Faithful)
    {items : List α}
    {own position : Nat}
    {cells : Bytes}
    (h : f.cellsOf own position items = some cells) :
    cells.length = items.length * f.size := by
  induction items generalizing own position cells with
  | nil =>
      simp only [cellsOf, Option.some.injEq] at h
      simp [← h]
  | cons x rest ih =>
      rcases cellsOf_cons h with
        ⟨cell, others, hCell, hOthers, rfl⟩
      rw [List.length_append, hf.length_cell hCell,
        ih hOthers, List.length_cons, Nat.add_mul,
        Nat.one_mul, Nat.add_comm]

/-
  All elements are read back. The induction goes along the
  list with the window beginning no later than the data of
  the elements that are left.
-/
theorem Faithful.readCells_cellsOf
    (hf : f.Faithful)
    {a : Archive}
    (hSize : a.size < 2 ^ 32)
    {items : List α}
    {own position : Nat}
    {cells : Bytes}
    {w : Window}
    (hCells : f.cellsOf own position items = some cells)
    (hOwn : a.Holds own cells)
    (hData : a.Holds position (f.dataOf position items))
    (hLow : w.low ≤ position)
    (hHigh :
      position + (f.dataOf position items).length ≤ w.high) :
    ∃ w', (f.readCells a items.length own).run w =
      some (items, w') := by
  induction items
    generalizing own position cells w with
  | nil => exact ⟨w, rfl⟩
  | cons x rest ih =>
      rcases cellsOf_cons hCells with
        ⟨cell, others, hCell, hOthers, rfl⟩
      simp only [dataOf, List.length_append]
        at hData hHigh
      have hBehind := hOwn.right
      rw [hf.length_cell hCell] at hBehind
      rcases hf.read_cell hSize hCell hOwn.left hData.left
          hLow (by omega) with ⟨low, hTaken, hRead⟩
      rcases ih (w := ⟨low, w.high⟩) hOthers hBehind
          hData.right hTaken (by dsimp only; omega) with
        ⟨w', hRest⟩
      refine ⟨w', ?_⟩
      simp [readCells, hRead, hRest]

------------------------------------------------------------
-- Whole Archives
------------------------------------------------------------

theorem padTo_eq
    (step : Nat)
    (hStep : 0 < step)
    (run : Bytes) :
    ∃ filling,
      padTo step run = run ++ filling ∧
        (padTo step run).length % step = 0 := by
  refine ⟨Bytes.zeros (Word.padding step run.length), rfl, ?_⟩
  rw [padTo, List.length_append, Bytes.length_zeros,
    Word.add_padding hStep, Word.alignUp_mod]

/- Reading a list is visiting its cells. -/
theorem readList_run
    {a : Archive}
    {own target count : Nat}
    {w w' : Window}
    {items : List α}
    (hTarget : a.target? own own = some target)
    (hCount : a.number 4 (own + 4) = count)
    (hVisit :
      (Reader.visit target (count * f.size) align
          (f.readCells a count target)).run w =
        some (items, w')) :
    (f.readList a own).run w = some (items, w') := by
  simp only [readList, hTarget, hCount, StateT.run_bind]
  exact hVisit

/-
  The root of an archive that was written, and what a reader
  finds who follows a reference to the list from there.
-/
theorem Faithful.readList_archive
    (hf : f.Faithful)
    {rootAlign : Nat}
    (hAlign : 0 < rootAlign)
    {root : Nat → Nat → Option Bytes}
    {items : List α}
    {bytes : Bytes}
    (hArchive : f.archive rootAlign root items = some bytes)
    (hSize : bytes.length < 2 ^ 32) :
    ∃ own cells tail,
      root own cells = some tail ∧
        own % rootAlign = 0 ∧
        bytes.length = own + tail.length ∧
        Archive.Holds bytes.toArray own tail ∧
        ∀ field run,
          reference field cells items.length = some run →
            Archive.Holds bytes.toArray field run →
              ∃ w,
                (f.readList bytes.toArray field).run
                    ⟨0, own⟩ =
                  some (items, w) := by
  simp only [archive, Option.bind_eq_bind,
    Option.bind_eq_some_iff, Option.pure_def,
    Option.some.injEq] at hArchive
  rcases hArchive with ⟨cells, hCells, tail, hTail, rfl⟩
  rcases padTo_eq align (by decide)
      (f.dataOf 0 items) with ⟨gap, hFront, hFrontAlign⟩
  generalize padTo align (f.dataOf 0 items) = front at *
  rcases padTo_eq rootAlign hAlign (front ++ cells) with
    ⟨filling, hBody, hBodyAlign⟩
  generalize padTo rootAlign (front ++ cells) = body at *
  refine
    ⟨body.length, front.length, tail, hTail, hBodyAlign,
      List.length_append, ?_, ?_⟩
  · simpa using Archive.holds_of_append body tail []
  intro field run hReference hRun
  have hLength := hf.length_cellsOf hCells
  have hHeld :
      Archive.Holds (body ++ tail).toArray 0
        (f.dataOf 0 items ++ gap ++ cells) := by
    rw [hBody, hFront]
    exact (Archive.holds_of_append [] _ tail).left
  have hCellsHeld := hHeld.right
  rw [← hFront, Nat.zero_add] at hCellsHeld
  have hRoom :
      (f.dataOf 0 items).length ≤ front.length := by
    rw [hFront, List.length_append]
    exact Nat.le_add_right _ _
  have hBehind :
      front.length + cells.length ≤ body.length := by
    rw [hBody, List.length_append, List.length_append]
    exact Nat.le_add_right _ _
  have hCount : items.length < 2 ^ 32 := by
    have hSpace : items.length ≤ cells.length := by
      rw [hLength]
      exact Nat.le_mul_of_pos_right _ hf.size_pos
    rw [List.length_append] at hSize
    omega
  rcases hf.readCells_cellsOf (w := ⟨0, front.length⟩)
      hSize hCells hCellsHeld hHeld.left.left
      (Nat.le_refl 0) (by simpa using hRoom) with
    ⟨w, hRead⟩
  rcases reference_of_holds hReference hRun hCount with
    ⟨hTarget, hNumber⟩
  rw [hLength] at hBehind
  exact
    ⟨_, readList_run hTarget hNumber
      (Reader.visit_run (Nat.zero_le _) hBehind hFrontAlign
        hRead)⟩

end CellFormat

------------------------------------------------------------
-- Runs of Items
------------------------------------------------------------

/- A run that a reference leads to is read as a whole. -/
theorem Archive.readRun_of_holds
    {a : Archive}
    {own target count size align : Nat}
    {reference run : Bytes}
    {w : Window}
    (hReference :
      CellFormat.reference own target count = some reference)
    (hOwn : a.Holds own reference)
    (hRun : a.Holds target run)
    (hLength : run.length = count * size)
    (hCount : count < 2 ^ 32)
    (hLow : w.low ≤ target)
    (hHigh : target + run.length ≤ w.high)
    (hAlign : target % align = 0) :
    (a.readRun own size align).run w =
      some (run, ⟨target + run.length, w.high⟩) := by
  rcases CellFormat.reference_of_holds hReference hOwn hCount
    with ⟨hTarget, hNumber⟩
  have hVisit :
      (Reader.visit target run.length align
          (pure (a.slice target run.length))).run w =
        some (run, ⟨target + run.length, w.high⟩) := by
    have hSlice :
        (pure (a.slice target run.length) :
            Reader Bytes).run ⟨w.low, target⟩ =
          some (run, ⟨w.low, target⟩) := by
      rw [Archive.slice_of_holds hRun]
      rfl
    exact Reader.visit_run hLow hHigh hAlign hSlice
  simp only [readRun, hTarget, hNumber, StateT.run_bind,
    ← hLength]
  exact hVisit

end Offload
