import Mathlib.Data.List.Basic
import Mathlib.Data.List.Nodup
import Offload.Table

/-
  Tables whose numbers are not used twice.

  A row is found under its number until it is erased, and
  a number that was erased is never found again. What a table
  contains, its order left aside, is the row found and all
  the others.

  Key definitions include:
    * `Table.Keyed`
    * `Table.contents`

  Main results:
    * `Table.Keyed.contents_erase`
    * `Table.Keyed.contents_set`
-/

namespace Offload

namespace Table

variable {α : Type}

------------------------------------------------------------
-- Look-Up
------------------------------------------------------------

theorem lookup_replace
    (key k : Nat)
    (b : α)
    (rows : List (Nat × α)) :
    (rows.map fun row =>
        if row.1 = k then (k, b) else row).lookup key =
      (rows.lookup key).map fun a =>
        if key = k then b else a := by
  induction rows with
  | nil => rfl
  | cons row rest ih =>
      rw [List.map_cons]
      by_cases hRow : row.1 = k
      · rw [if_pos hRow, List.lookup_cons, List.lookup_cons,
          hRow, ih]
        by_cases hKey : key = k
        · simp [hKey]
        · have hOther : (key == k) = false := by
            simpa using hKey
          simp [hKey, hOther]
      · rw [if_neg hRow, List.lookup_cons, List.lookup_cons,
          ih]
        by_cases hKey : key = row.1
        · simp [hKey, hRow]
        · have hOther : (key == row.1) = false := by
            simpa using hKey
          simp [hOther]

/- A row that is replaced is the new one. -/
theorem get?_set_self
    {t : Table α}
    {key : Nat}
    {a : α}
    (h : t.get? key = some a)
    (b : α) : (t.set key b).get? key = some b := by
  unfold get? at h ⊢
  unfold set
  rw [lookup_replace, h]
  simp

/- Replacing a row leaves the others alone. -/
theorem get?_set_other
    {key k : Nat}
    (hNe : key ≠ k)
    (t : Table α)
    (b : α) : (t.set k b).get? key = t.get? key := by
  unfold get? set
  rw [lookup_replace]
  simp [hNe]

/- A row that is added is found under its number. -/
theorem get?_insert_self
    (a : α)
    (t : Table α) : (t.insert a).2.get? t.next = some a := by
  simp [get?, insert]

/- Adding a row leaves those under other numbers alone. -/
theorem get?_insert_other
    {key : Nat}
    {t : Table α}
    (hNe : key ≠ t.next)
    (a : α) : (t.insert a).2.get? key = t.get? key := by
  have hOther : (key == t.next) = false := by
    simpa using hNe
  simp [get?, insert, List.lookup_cons, hOther]

theorem lookup_filter_ne
    {κ : Type}
    [DecidableEq κ]
    (key k : κ)
    (rows : List (κ × α)) :
    (rows.filter fun row => row.1 != k).lookup key =
      if key = k then none else rows.lookup key := by
  induction rows with
  | nil => simp
  | cons row rest ih =>
      rw [List.filter_cons, List.lookup_cons]
      by_cases hRow : row.1 = k
      · have hGone : (row.1 != k) = false := by simp [hRow]
        rw [hGone, if_neg Bool.false_ne_true, ih]
        by_cases hKey : key = k
        · rw [if_pos hKey, if_pos hKey]
        · have hOther : (key == row.1) = false := by
            simpa [hRow] using hKey
          rw [if_neg hKey, if_neg hKey, hOther]
      · have hStays : (row.1 != k) = true := by simp [hRow]
        rw [hStays, if_pos rfl, List.lookup_cons, ih]
        by_cases hKey : key = row.1
        · have hOther : key ≠ k := hKey ▸ hRow
          simp [hKey, hRow]
        · have hOther : (key == row.1) = false := by
            simpa using hKey
          simp [hOther]

/- A row that is erased is not found. -/
theorem get?_erase_self
    (t : Table α)
    (key : Nat) : (t.erase key).get? key = none := by
  unfold get? erase
  rw [lookup_filter_ne, if_pos rfl]

/- Erasing a row leaves the others alone. -/
theorem get?_erase_other
    {key k : Nat}
    (hNe : key ≠ k)
    (t : Table α) :
    (t.erase k).get? key = t.get? key := by
  unfold get? erase
  rw [lookup_filter_ne, if_neg hNe]

------------------------------------------------------------
-- Numbers
------------------------------------------------------------

/- No two rows have one number, and the next is above all. -/
structure Keyed
    (t : Table α) : Prop where
  distinct : (t.rows.map Prod.fst).Nodup
  below : ∀ row ∈ t.rows, row.1 < t.next

theorem keyed_empty : (empty : Table α).Keyed where
  distinct := List.nodup_nil
  below := nofun

theorem Keyed.insert
    {t : Table α}
    (h : t.Keyed)
    (a : α) : (t.insert a).2.Keyed where
  distinct := by
    apply List.Nodup.cons
    · intro hMem
      rcases List.mem_map.mp hMem with ⟨row, hRow, hKey⟩
      have hBelow := h.below row hRow
      omega
    · exact h.distinct
  below := by
    intro row hRow
    rcases List.mem_cons.mp hRow with rfl | hOld
    · exact Nat.lt_succ_self _
    · exact Nat.lt_succ_of_lt (h.below row hOld)

theorem Keyed.set
    {t : Table α}
    (h : t.Keyed)
    (key : Nat)
    (a : α) : (t.set key a).Keyed := by
  have hKeys :
      (t.set key a).rows.map Prod.fst =
        t.rows.map Prod.fst := by
    unfold Table.set
    rw [List.map_map]
    apply List.map_congr_left
    intro row _
    by_cases hRow : row.1 = key <;> simp [hRow]
  constructor
  · rw [hKeys]
    exact h.distinct
  · intro row hRow
    have hMem : row.1 ∈ t.rows.map Prod.fst := by
      rw [← hKeys]
      exact List.mem_map_of_mem hRow
    rcases List.mem_map.mp hMem with ⟨old, hOld, hKey⟩
    rw [← hKey]
    exact h.below old hOld

theorem Keyed.erase
    {t : Table α}
    (h : t.Keyed)
    (key : Nat) : (t.erase key).Keyed where
  distinct :=
    h.distinct.sublist (List.filter_sublist.map Prod.fst)
  below := fun row hRow =>
    h.below row (List.mem_of_mem_filter hRow)

/- A number that was not given out yet is not found. -/
theorem Keyed.lt_next
    {t : Table α}
    (h : t.Keyed)
    {key : Nat}
    {a : α}
    (hFound : t.get? key = some a) : key < t.next := by
  rcases List.lookup_eq_some_iff.mp hFound with
    ⟨before, behind, hRows, _⟩
  apply h.below (key, a)
  rw [hRows]
  simp

------------------------------------------------------------
-- Contents
------------------------------------------------------------

/- What is in the rows. -/
def contents
    (t : Table α) : List α :=
  t.rows.map Prod.snd

/- A row that is found lies between rows of other numbers. -/
theorem Keyed.split
    {t : Table α}
    (h : t.Keyed)
    {key : Nat}
    {a : α}
    (hFound : t.get? key = some a) :
    ∃ before behind,
      t.rows = before ++ (key, a) :: behind ∧
        (∀ row ∈ before, row.1 ≠ key) ∧
          ∀ row ∈ behind, row.1 ≠ key := by
  rcases List.lookup_eq_some_iff.mp hFound with
    ⟨before, behind, hRows, hBefore⟩
  refine ⟨before, behind, hRows, ?_, ?_⟩
  · intro row hRow hKey
    have hNe := hBefore row hRow
    simp [hKey] at hNe
  · intro row hRow hKey
    have hDistinct := h.distinct
    rw [hRows, List.map_append, List.map_cons] at hDistinct
    have hTail := (List.nodup_append.mp hDistinct).2.1
    apply (List.nodup_cons.mp hTail).1
    exact List.mem_map.mpr ⟨row, hRow, hKey⟩

/- What a table contains is found under some number. -/
theorem Keyed.get?_of_mem
    {t : Table α}
    (h : t.Keyed)
    {a : α}
    (hMem : a ∈ t.contents) : ∃ key, t.get? key = some a := by
  rcases List.mem_map.mp hMem with ⟨⟨key, b⟩, hRow, rfl⟩
  rcases List.append_of_mem hRow with ⟨before, behind, hRows⟩
  refine ⟨key, ?_⟩
  apply List.lookup_eq_some_iff.mpr
  refine ⟨before, behind, hRows, ?_⟩
  intro row hBefore
  have hDistinct := h.distinct
  rw [hRows, List.map_append] at hDistinct
  have hApart := (List.nodup_append.mp hDistinct).2.2
  have hNe : row.1 ≠ key :=
    hApart row.1 (List.mem_map_of_mem hBefore) key
      (List.mem_map_of_mem List.mem_cons_self)
  simpa using Ne.symm hNe

/- A row may be replaced by itself. -/
theorem Keyed.set_self
    {t : Table α}
    (h : t.Keyed)
    {key : Nat}
    {a : α}
    (hFound : t.get? key = some a) : t.set key a = t := by
  rcases h.split hFound with
    ⟨before, behind, hRows, hBefore, hBehind⟩
  have hSame :
      ∀ row ∈ t.rows,
        (if row.1 = key then (key, a) else row) = row := by
    intro row hRow
    rw [hRows] at hRow
    rcases List.mem_append.mp hRow with hFirst | hRest
    · exact if_neg (hBefore row hFirst)
    · rcases List.mem_cons.mp hRest with rfl | hLast
      · exact if_pos rfl
      · exact if_neg (hBehind row hLast)
  unfold Table.set
  rw [List.map_congr_left hSame, List.map_id']

/- A row that is found, and all the others. -/
theorem Keyed.contents_erase
    {t : Table α}
    (h : t.Keyed)
    {key : Nat}
    {a : α}
    (hFound : t.get? key = some a) :
    t.contents.Perm (a :: (t.erase key).contents) := by
  rcases h.split hFound with
    ⟨before, behind, hRows, hBefore, hBehind⟩
  have hErase :
      (t.erase key).rows = before ++ behind := by
    unfold Table.erase
    rw [hRows, List.filter_append, List.filter_cons]
    rw [List.filter_eq_self.mpr, List.filter_eq_self.mpr]
    · simp
    · intro row hRow
      simpa using hBehind row hRow
    · intro row hRow
      simpa using hBefore row hRow
  unfold contents
  rw [hErase, hRows, List.map_append, List.map_cons,
    List.map_append]
  exact List.perm_middle

/- A row that is erased may have been replaced before. -/
theorem erase_set
    (t : Table α)
    (key : Nat)
    (b : α) : (t.set key b).erase key = t.erase key := by
  have hRows :
      ∀ rows : List (Nat × α),
        (rows.map fun row =>
            if row.1 = key then (key, b) else row).filter
            (fun row => row.1 != key) =
          rows.filter fun row => row.1 != key := by
    intro rows
    induction rows with
    | nil => rfl
    | cons row rest ih =>
        by_cases hRow : row.1 = key
        · simp [hRow, ih]
        · simp [hRow, ih]
  unfold Table.set Table.erase
  rw [hRows]

/- A row that is replaced, and all the others. -/
theorem Keyed.contents_set
    {t : Table α}
    (h : t.Keyed)
    {key : Nat}
    {a : α}
    (hFound : t.get? key = some a)
    (b : α) :
    (t.set key b).contents.Perm
      (b :: (t.erase key).contents) := by
  have hSet :=
    (h.set key b).contents_erase (get?_set_self hFound b)
  rw [erase_set] at hSet
  exact hSet

end Table

end Offload
