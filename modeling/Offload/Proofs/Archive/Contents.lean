import Mathlib.Algebra.GroupWithZero.Nat
import Mathlib.Data.List.Basic
import Offload.Archive.Sequence

/-
  What an archive holds where.

  Writers make runs of bytes, readers look at positions. An
  archive holds a run at a position if the run is what lies
  there; everything a reader finds out about a number, a
  reference or a slice follows from that.

  Key definitions include:
    * `Archive.Holds`

  Main results:
    * `Archive.number_of_holds`
    * `Reader.visit_run`
    * `Archive.readRoot_of_run`
    * `Archive.target?_of_holds`
    * `CellFormat.reference_of_holds`
-/

namespace Offload

------------------------------------------------------------
-- Numbers
------------------------------------------------------------

namespace Bytes

@[simp]
theorem length_ofNat
    (width n : Nat) : (ofNat width n).length = width := by
  induction width generalizing n with
  | zero => rfl
  | succ width ih => simp [ofNat, ih]

@[simp]
theorem length_zeros
    (count : Nat) : (zeros count).length = count :=
  List.length_replicate

/- Bytes tell a number apart from all that fit in them. -/
theorem toNat_ofNat
    {width n : Nat}
    (hFits : n < 256 ^ width) :
    toNat (ofNat width n) = n := by
  induction width generalizing n with
  | zero =>
      have hZero : n = 0 := by simpa using hFits
      rw [hZero]
      rfl
  | succ width ih =>
      have hHigh : n / 256 < 256 ^ width := by
        apply Nat.div_lt_of_lt_mul
        rwa [Nat.pow_succ, Nat.mul_comm] at hFits
      rw [ofNat, toNat, ih hHigh, UInt8.toNat_ofNat']
      omega

theorem toNat_lt
    (bytes : Bytes) : toNat bytes < 256 ^ bytes.length := by
  induction bytes with
  | nil => exact Nat.one_pos
  | cons b rest ih =>
      have hByte := b.toNat_lt
      rw [toNat, List.length_cons, Nat.pow_succ]
      omega

/- A number tells the bytes apart that it was read from. -/
theorem ofNat_toNat
    (bytes : Bytes) :
    ofNat bytes.length (toNat bytes) = bytes := by
  induction bytes with
  | nil => rfl
  | cons b rest ih =>
      have hByte := b.toNat_lt
      have hRest :
          (b.toNat + 256 * toNat rest) / 256 = toNat rest := by
        omega
      have hFirst :
          UInt8.ofNat (b.toNat + 256 * toNat rest) = b := by
        apply UInt8.toNat_inj.mp
        rw [UInt8.toNat_ofNat']
        omega
      rw [List.length_cons, toNat, ofNat, hRest, hFirst, ih]

end Bytes

namespace Word

theorem le_alignUp
    {step : Nat}
    (hStep : 0 < step)
    (n : Nat) : n ≤ alignUp step n := by
  have hSplit := Nat.div_add_mod (n + (step - 1)) step
  have hRest := Nat.mod_lt (n + (step - 1)) hStep
  rw [alignUp, Nat.mul_comm]
  omega

theorem alignUp_mod
    (step n : Nat) : alignUp step n % step = 0 :=
  Nat.mul_mod_left _ _

theorem add_padding
    {step : Nat}
    (hStep : 0 < step)
    (n : Nat) : n + padding step n = alignUp step n :=
  Nat.add_sub_cancel' (le_alignUp hStep n)

end Word

------------------------------------------------------------
-- Contents
------------------------------------------------------------

namespace Archive

variable {a : Archive}

/- Whether a run of bytes is what lies at a position. -/
def Holds
    (a : Archive)
    (position : Nat)
    (run : Bytes) : Prop :=
  run <+: a.toList.drop position

/- A part of an archive lies behind what comes before it. -/
theorem holds_of_append
    (front run back : Bytes) :
    Holds (front ++ run ++ back).toArray front.length run := by
  unfold Holds
  simp

theorem Holds.left
    {position : Nat}
    {run rest : Bytes}
    (h : a.Holds position (run ++ rest)) :
    a.Holds position run :=
  (List.prefix_append run rest).trans h

theorem Holds.right
    {position : Nat}
    {run rest : Bytes}
    (h : a.Holds position (run ++ rest)) :
    a.Holds (position + run.length) rest := by
  rcases h with ⟨back, hBack⟩
  refine ⟨back, ?_⟩
  rw [← List.drop_drop, ← hBack]
  simp

/- What an archive holds fits into it. -/
theorem Holds.length_le
    {position : Nat}
    {run : Bytes}
    (h : a.Holds position run) :
    run.length ≤ a.size - position := by
  have hLength := List.IsPrefix.length_le h
  rwa [List.length_drop, Array.length_toList] at hLength

theorem slice_of_holds
    {position : Nat}
    {run : Bytes}
    (h : a.Holds position run) :
    a.slice position run.length = run := by
  rcases h with ⟨back, hBack⟩
  rw [slice, Array.toList_extract, List.extract_eq_take_drop,
    ← hBack, Nat.add_sub_cancel_left]
  simp

theorem number_of_holds
    {width position n : Nat}
    (hFits : n < 256 ^ width)
    (h : a.Holds position (Bytes.ofNat width n)) :
    a.number width position = n := by
  have hSlice := slice_of_holds h
  rw [Bytes.length_ofNat] at hSlice
  rw [number, hSlice, Bytes.toNat_ofNat hFits]

/- The first byte of a run. -/
theorem byte_of_holds_cons
    {position : Nat}
    {b : UInt8}
    {rest : Bytes}
    (h : a.Holds position (b :: rest)) :
    a.byte position = b.toNat := by
  have hSplit : a.Holds position ([b] ++ rest) := h
  have hSlice := slice_of_holds hSplit.left
  rw [byte, number]
  change Bytes.toNat (a.slice position [b].length) = _
  rw [hSlice]
  simp [Bytes.toNat]

/- The lowest byte of a number. -/
theorem byte_of_holds_ofNat
    {position n width : Nat}
    (h : a.Holds position (Bytes.ofNat (width + 1) n)) :
    a.byte position = n % 256 := by
  rw [byte_of_holds_cons h, UInt8.toNat_ofNat']

theorem byte_of_holds
    {position n : Nat}
    (hFits : n < 256)
    {width : Nat}
    (h : a.Holds position (Bytes.ofNat (width + 1) n)) :
    a.byte position = n := by
  rw [byte_of_holds_ofNat h, Nat.mod_eq_of_lt hFits]

end Archive

------------------------------------------------------------
-- Visits
------------------------------------------------------------

@[simp]
theorem Reader.ofOption_some_run
    {α : Type}
    (x : α)
    (w : Window) :
    (Reader.ofOption (some x)).run w = some (x, w) :=
  rfl

/-
  A visit to a place in the window succeeds if its reader
  does, and leaves the window behind the place.
-/
theorem Reader.visit_run
    {α : Type}
    {start size align : Nat}
    {inner : Reader α}
    {w w' : Window}
    {x : α}
    (hLow : w.low ≤ start)
    (hHigh : start + size ≤ w.high)
    (hAlign : start % align = 0)
    (hInner : inner.run ⟨w.low, start⟩ = some (x, w')) :
    (Reader.visit start size align inner).run w =
      some (x, ⟨start + size, w.high⟩) := by
  have hAdmits : w.admits start size align = true := by
    simp [Window.admits, hLow, hHigh, hAlign]
  change (if w.admits start size align then _ else _) = _
  rw [if_pos hAdmits]
  change inner ⟨w.low, start⟩ = some (x, w') at hInner
  rw [hInner]

/- A root that can be read is read where the archive ends. -/
theorem Archive.readRoot_of_run
    {α : Type}
    {a : Archive}
    {own size align : Nat}
    {inner : Nat → Reader α}
    {w : Window}
    {x : α}
    (hSize : a.size = own + size)
    (hAlign : own % align = 0)
    (hInner : (inner own).run ⟨0, own⟩ = some (x, w)) :
    a.readRoot size align inner = some x := by
  have hRoot : a.size - size = own := by
    omega
  have hVisit :
      (Reader.visit own size align (inner own)).run
          a.window =
        some (x, ⟨own + size, a.size⟩) :=
    Reader.visit_run (Nat.zero_le _) (Nat.le_of_eq hSize.symm)
      hAlign hInner
  simp only [readRoot, hRoot]
  change ((Reader.visit own size align (inner own)).run
    a.window).map Prod.fst = some x
  rw [hVisit]
  rfl

------------------------------------------------------------
-- References
------------------------------------------------------------

namespace Archive

variable {a : Archive}

theorem length_offset?
    {origin target : Nat}
    {run : Bytes}
    (h : offset? origin target = some run) :
    run.length = 4 := by
  simp only [offset?, Option.ite_none_right_eq_some,
    Option.some.injEq] at h
  rw [← h.2, Bytes.length_ofNat]

/- An offset leads where it was made to lead. -/
theorem target?_of_holds
    {origin target field : Nat}
    {run : Bytes}
    (h : offset? origin target = some run)
    (hHolds : a.Holds field run) :
    a.target? origin field = some target := by
  simp only [offset?, Option.ite_none_right_eq_some,
    Option.some.injEq] at h
  rcases h with ⟨hRange, rfl⟩
  have hNumber :
      a.number 4 field =
        (((target : Int) - origin) % 0x1_0000_0000).toNat :=
    number_of_holds (by omega) hHolds
  have hSigned :
      signed (a.number 4 field) = (target : Int) - origin := by
    rw [hNumber, signed]
    split <;> omega
  have hPosition :
      (origin : Int) + signed (a.number 4 field) = target := by
    omega
  simp [target?, hPosition]

end Archive

namespace CellFormat

variable {a : Archive}

theorem length_reference
    {own target count : Nat}
    {run : Bytes}
    (h : reference own target count = some run) :
    run.length = 8 := by
  simp only [reference, Option.bind_eq_bind,
    Option.bind_eq_some_iff, Option.pure_def,
    Option.some.injEq] at h
  rcases h with ⟨offset, hOffset, rfl⟩
  simp [Archive.length_offset? hOffset]

/- A reference leads to its cells and tells their number. -/
theorem reference_of_holds
    {own target count : Nat}
    {run : Bytes}
    (h : reference own target count = some run)
    (hHolds : a.Holds own run)
    (hCount : count < 2 ^ 32) :
    a.target? own own = some target ∧
      a.number 4 (own + 4) = count := by
  simp only [reference, Option.bind_eq_bind,
    Option.bind_eq_some_iff, Option.pure_def,
    Option.some.injEq] at h
  rcases h with ⟨offset, hOffset, rfl⟩
  have hBehind := hHolds.right
  rw [Archive.length_offset? hOffset] at hBehind
  exact
    ⟨Archive.target?_of_holds hOffset hHolds.left,
      Archive.number_of_holds (by omega) hBehind⟩

end CellFormat

end Offload
