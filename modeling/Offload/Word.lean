/-
  Sizes and addresses as 64-bit machine words.

  Sizes and addresses are natural numbers; a computation
  that must fit in a word says so by returning `none` when
  it does not.

  Key definitions include:
    * `Word.limit`
    * `Word.add?`
    * `Word.mul?`
    * `Word.total`
    * `Word.sum?`
    * `Word.saturatingSum`
    * `Word.alignUp`
-/

namespace Offload

namespace Word

/- The first number that does not fit in a word. -/
def limit : Nat :=
  0x1_0000_0000_0000_0000

/- A number, if it fits in a word. -/
def check
    (n : Nat) : Option Nat :=
  if n < limit then some n else none

/- A sum of two words, if it fits. -/
def add?
    (a b : Nat) : Option Nat :=
  check (a + b)

/- A product of two words, if it fits. -/
def mul?
    (a b : Nat) : Option Nat :=
  check (a * b)

/- The sum of a list. -/
def total
    (ns : List Nat) : Nat :=
  ns.foldr (· + ·) 0

/-
  The sum of a list, if it fits. Terms are never negative,
  so it fits exactly when every partial sum does.
-/
def sum?
    (ns : List Nat) : Option Nat :=
  check (total ns)

/- The sum of a list, held at the largest word. -/
def saturatingSum
    (ns : List Nat) : Nat :=
  min (total ns) (limit - 1)

/- The first multiple of `step` that is not below `n`. -/
def alignUp
    (step n : Nat) : Nat :=
  (n + (step - 1)) / step * step

/- The bytes missing to the next multiple of `step`. -/
def padding
    (step n : Nat) : Nat :=
  alignUp step n - n

end Word

end Offload
