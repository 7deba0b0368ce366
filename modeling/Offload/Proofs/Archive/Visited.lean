import Mathlib.Data.List.Basic
import Offload.Archive.Sequence
import Offload.Proofs.Archive.Contents

/-
  What a reader that succeeded has visited.

  Nothing is known of the bytes of an archive but that they
  could be read. Every place that was visited lies in the
  window of that time and leaves a smaller one: so the places
  lie one behind the other, the data of the elements before
  their cells and the cells before whoever refers to them.

  Key definitions include:
    * `Window.Before`
    * `Window.Within`
    * `CellFormat.Ordered`

  Main results:
    * `Window.sum_sizes_le`
    * `Reader.visit_some`
    * `CellFormat.Ordered.readCells_some`
    * `CellFormat.Ordered.readList_some`
-/

namespace Offload

------------------------------------------------------------
-- Windows
------------------------------------------------------------

namespace Window

/- The number of positions in a window. -/
def size
    (w : Window) : Nat :=
  w.high - w.low

/- Whether a window ends before another begins. -/
def Before
    (v w : Window) : Prop :=
  v.high ≤ w.low

/- Whether a window lies between two positions. -/
structure Within
    (low high : Nat)
    (w : Window) : Prop where
  low_le : low ≤ w.low
  ordered : w.low ≤ w.high
  le_high : w.high ≤ high

theorem Within.mono
    {low low' high high' : Nat}
    {w : Window}
    (h : w.Within low high)
    (hLow : low' ≤ low)
    (hHigh : high ≤ high') : w.Within low' high' :=
  ⟨Nat.le_trans hLow h.low_le, h.ordered,
    Nat.le_trans h.le_high hHigh⟩

/-
  Windows that lie one behind the other between two positions
  have together no more positions than there are between.
-/
theorem sum_sizes_le
    {ws : List Window}
    {low high : Nat}
    (hApart : ws.Pairwise Before)
    (hWithin : ∀ w ∈ ws, w.Within low high) :
    (ws.map size).sum ≤ high - low := by
  induction ws generalizing low with
  | nil => exact Nat.zero_le _
  | cons w rest ih =>
      rcases List.pairwise_cons.mp hApart with
        ⟨hFirst, hOthers⟩
      have hHere : w.Within low high :=
        hWithin w List.mem_cons_self
      have hRest : (rest.map size).sum ≤ high - w.high := by
        apply ih hOthers
        intro v hv
        have hThere := hWithin v (List.mem_cons_of_mem w hv)
        exact
          ⟨hFirst v hv, hThere.ordered, hThere.le_high⟩
      have hLow := hHere.low_le
      have hOrdered := hHere.ordered
      have hHigh := hHere.le_high
      rw [List.map_cons, List.sum_cons, size]
      omega

end Window

------------------------------------------------------------
-- Places
------------------------------------------------------------

/- A value that was there was read without a look. -/
theorem Reader.ofOption_some
    {α : Type}
    {found : Option α}
    {w w' : Window}
    {x : α}
    (h :
      (Reader.ofOption found).run w = some (x, w')) :
    found = some x ∧ w' = w := by
  cases found with
  | none => cases h
  | some y =>
      cases h
      exact ⟨rfl, rfl⟩

/-
  A visit that succeeded was to a place in the window; the
  window that it leaves begins behind the place.
-/
theorem Reader.visit_some
    {α : Type}
    {start size align : Nat}
    {inner : Reader α}
    {w w' : Window}
    {x : α}
    (h :
      (Reader.visit start size align inner).run w =
        some (x, w')) :
    Window.Within w.low w.high ⟨start, start + size⟩ ∧
      start % align = 0 ∧
      w' = ⟨start + size, w.high⟩ ∧
      ∃ v, inner.run ⟨w.low, start⟩ = some (x, v) := by
  simp only [StateT.run, Reader.visit] at h
  by_cases hAdmits : w.admits start size align = true
  · rw [if_pos hAdmits] at h
    simp only [Window.admits, Bool.and_eq_true,
      decide_eq_true_eq, beq_iff_eq] at hAdmits
    rcases hAdmits with ⟨⟨hLow, hHigh⟩, hAlign⟩
    cases hInner : inner ⟨w.low, start⟩ with
    | none =>
        rw [hInner] at h
        cases h
    | some answer =>
        rcases answer with ⟨y, v⟩
        rw [hInner] at h
        cases h
        exact
          ⟨⟨hLow, Nat.le_add_right _ _, hHigh⟩, hAlign, rfl,
            v, hInner⟩
  · rw [if_neg hAdmits] at h
    cases h

namespace Archive

variable {a : Archive}

/- A slice that lies in an archive is held there. -/
theorem holds_slice
    (a : Archive)
    (start size : Nat) :
    a.Holds start (a.slice start size) := by
  unfold Holds slice
  rw [Array.toList_extract, List.extract_eq_take_drop,
    Nat.add_sub_cancel_left]
  exact List.take_prefix _ _

theorem length_slice
    {start size : Nat}
    (hEnd : start + size ≤ a.size) :
    (a.slice start size).length = size := by
  rw [slice, Array.length_toList, Array.size_extract]
  omega

/- A root that was read ends the archive. -/
theorem readRoot_some
    {α : Type}
    {size align : Nat}
    {inner : Nat → Reader α}
    {x : α}
    (h : a.readRoot size align inner = some x) :
    ∃ own w,
      own + size = a.size ∧
        own % align = 0 ∧
        (inner own).run ⟨0, own⟩ = some (x, w) := by
  unfold readRoot at h
  rcases Option.map_eq_some_iff.mp h with
    ⟨⟨y, w⟩, hVisit, rfl⟩
  rcases Reader.visit_some hVisit with
    ⟨hWithin, hAlign, _, v, hInner⟩
  have hEnd : a.size - size + size ≤ a.size := hWithin.le_high
  exact ⟨a.size - size, v, by omega, hAlign, hInner⟩

/- A run that was read lies in the window as it was read. -/
theorem readRun_some
    {own size align : Nat}
    {w w' : Window}
    {run : Bytes}
    (hEnd : w.high ≤ a.size)
    (h :
      (a.readRun own size align).run w = some (run, w')) :
    ∃ target count,
      run.length = count * size ∧
        a.Holds target run ∧
        target % align = 0 ∧
        Window.Within w.low w.high
          ⟨target, target + run.length⟩ ∧
        w' = ⟨target + run.length, w.high⟩ := by
  simp only [readRun, StateT.run_bind, Option.bind_eq_bind,
    Option.bind_eq_some_iff] at h
  rcases h with ⟨⟨target, v⟩, hTarget, hVisit⟩
  have hSame : v = w := (Reader.ofOption_some hTarget).2
  subst hSame
  rcases Reader.visit_some hVisit with
    ⟨hWithin, hAlign, rfl, u, hInner⟩
  cases hInner
  have hLength :=
    length_slice (Nat.le_trans hWithin.le_high hEnd)
  refine
    ⟨target, a.number 4 (own + 4), hLength,
      holds_slice a _ _, hAlign, ?_, ?_⟩
  · rw [hLength]
    exact hWithin
  · rw [hLength]

end Archive

------------------------------------------------------------
-- Lists
------------------------------------------------------------

namespace CellFormat

variable {α : Type}

/-
  Where the data of an element lies is told by `Lies`. An
  element that is read takes the beginning of the window up
  to where its data ends.
-/
def Ordered
    (f : CellFormat α)
    (Lies : Archive → α → Window → Prop) : Prop :=
  ∀ {a : Archive} {own : Nat} {x : α} {w w' : Window},
    w.low ≤ w.high →
      w.high ≤ a.size →
        (f.read a own).run w = some (x, w') →
          ∃ v,
            Lies a x v ∧
              v.Within w.low w.high ∧
              w' = ⟨v.high, w.high⟩

variable {f : CellFormat α}
variable {Lies : Archive → α → Window → Prop}
variable {a : Archive}

/-
  The data of elements that were read one after the other
  lies one behind the other. The induction goes along the
  cells, with the window that is left at each of them.
-/
theorem Ordered.readCells_some
    (hf : f.Ordered Lies)
    {count own : Nat}
    {xs : List α}
    {w w' : Window}
    (hOrdered : w.low ≤ w.high)
    (hEnd : w.high ≤ a.size)
    (h : (f.readCells a count own).run w = some (xs, w')) :
    xs.length = count ∧
      ∃ vs,
        List.Forall₂ (Lies a) xs vs ∧
          vs.Pairwise Window.Before ∧
          ∀ v ∈ vs, v.Within w.low w.high := by
  induction count generalizing own xs w with
  | zero =>
      cases h
      exact ⟨rfl, [], .nil, .nil, nofun⟩
  | succ count ih =>
      simp only [readCells, StateT.run_bind,
        Option.bind_eq_bind, Option.bind_eq_some_iff] at h
      rcases h with
        ⟨⟨x, u⟩, hFirst, ⟨rest, u'⟩, hRest, hAnswer⟩
      cases hAnswer
      rcases hf hOrdered hEnd hFirst with
        ⟨v, hLies, hWithin, rfl⟩
      rcases ih (w := ⟨v.high, w.high⟩) hWithin.le_high hEnd
          hRest with
        ⟨hLength, vs, hAll, hApart, hOthers⟩
      refine
        ⟨by rw [List.length_cons, hLength], v :: vs,
          .cons hLies hAll, ?_, ?_⟩
      · apply List.pairwise_cons.mpr
        exact ⟨fun u hu => (hOthers u hu).low_le, hApart⟩
      · intro u hu
        rcases List.mem_cons.mp hu with rfl | hLater
        · exact hWithin
        · exact
            (hOthers u hLater).mono
              (Nat.le_trans hWithin.low_le hWithin.ordered)
              (Nat.le_refl _)

/-
  The cells of a list that was read lie behind the data of
  its elements.
-/
theorem Ordered.readList_some
    (hf : f.Ordered Lies)
    {own : Nat}
    {xs : List α}
    {w w' : Window}
    (hEnd : w.high ≤ a.size)
    (h : (f.readList a own).run w = some (xs, w')) :
    ∃ vs cells,
      List.Forall₂ (Lies a) xs vs ∧
        cells.low % align = 0 ∧
        cells.high = cells.low + xs.length * f.size ∧
        (vs ++ [cells]).Pairwise Window.Before ∧
        ∀ v ∈ vs ++ [cells], v.Within w.low w.high := by
  simp only [readList, StateT.run_bind, Option.bind_eq_bind,
    Option.bind_eq_some_iff] at h
  rcases h with ⟨⟨target, v⟩, hTarget, hVisit⟩
  have hSame : v = w := (Reader.ofOption_some hTarget).2
  subst hSame
  rcases Reader.visit_some hVisit with
    ⟨hWithin, hAlign, _, u, hCells⟩
  have hBehind : target ≤ v.high :=
    Nat.le_trans hWithin.ordered hWithin.le_high
  rcases hf.readCells_some (w := ⟨v.low, target⟩)
      hWithin.low_le (Nat.le_trans hBehind hEnd) hCells with
    ⟨hLength, vs, hAll, hApart, hOthers⟩
  refine
    ⟨vs, ⟨target, target + xs.length * f.size⟩, hAll,
      hAlign, rfl, ?_, ?_⟩
  · apply List.pairwise_append.mpr
    refine ⟨hApart, List.pairwise_singleton _ _, ?_⟩
    intro u hu cells hCells
    rw [List.mem_singleton.mp hCells]
    exact (hOthers u hu).le_high
  · intro u hu
    rcases List.mem_append.mp hu with hData | hLast
    · exact (hOthers u hData).mono (Nat.le_refl _) hBehind
    · rw [List.mem_singleton.mp hLast, hLength]
      exact hWithin

end CellFormat

end Offload
