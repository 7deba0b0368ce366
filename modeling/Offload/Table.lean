/-
  Rows under numbers that are never given out twice.

  What several holders share (a pool and the buffers it
  handed out, a board and the tickets for it) lives in one
  row; each holder keeps the row's number.

  Key definitions include:
    * `Table`
    * `Table.get?`
    * `Table.insert`
    * `Table.set`
    * `Table.lens`
-/

namespace Offload

/-
  `next` is above every number in `rows`. The newest row
  comes first.
-/
structure Table (α : Type) where
  next : Nat
  rows : List (Nat × α)

namespace Table

variable {α : Type}

/- No rows. -/
def empty : Table α :=
  ⟨0, []⟩

/- The row with a number. -/
def get?
    (t : Table α)
    (key : Nat) : Option α :=
  t.rows.lookup key

/- Add a row and return its number. -/
def insert
    (t : Table α)
    (a : α) : Nat × Table α :=
  (t.next, ⟨t.next + 1, (t.next, a) :: t.rows⟩)

/- Replace the content of a row. -/
def set
    (t : Table α)
    (key : Nat)
    (a : α) : Table α :=
  { t with
    rows := t.rows.map fun row =>
      if row.1 = key then (key, a) else row }

/- Remove a row. Its number is not used again. -/
def erase
    (t : Table α)
    (key : Nat) : Table α :=
  { t with rows := t.rows.filter fun row => row.1 != key }

/- The numbers in use, oldest first. -/
def keys
    (t : Table α) : List Nat :=
  (t.rows.map Prod.fst).reverse

end Table

end Offload
