/-
  Time spans of at most 2^64 - 1 seconds and 999999999
  nanoseconds.

  Key definitions include:
    * `Duration`
    * `Duration.max`
    * `Duration.ofMillis`
    * `Duration.ofSeconds`
-/

namespace Offload

/- A span in nanoseconds. -/
structure Duration where
  nanos : Nat
deriving DecidableEq

namespace Duration

/- The empty span. -/
def zero : Duration :=
  ⟨0⟩

/- The longest span, used for a wait without a deadline. -/
def max : Duration :=
  ⟨0xFFFF_FFFF_FFFF_FFFF * 1000000000 + 999999999⟩

/- A span of milliseconds. -/
def ofMillis
    (n : Nat) : Duration :=
  ⟨n * 1000000⟩

/- A span of seconds. -/
def ofSeconds
    (n : Nat) : Duration :=
  ⟨n * 1000000000⟩

/- Whether the span is empty. -/
def isZero
    (d : Duration) : Bool :=
  d.nanos == 0

/-
  The moment a span after `now`. A wait of the longest span
  has no deadline.
-/
def deadline
    (d : Duration)
    (now : Nat) : Option Nat :=
  if d = max then none else some (now + d.nanos)

end Duration

end Offload
