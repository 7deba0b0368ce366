import Offload.Memory.Buffer

/-
  Regions bound to a job.

  Key definitions include:
    * `Direction`
    * `Binding`
    * `NamedBinding`
-/

namespace Offload

/- Whether a job reads a region or writes it. -/
inductive Direction where
  | input
  | output
deriving DecidableEq

namespace Direction

/- Both directions. -/
def all : List Direction :=
  [.input, .output]

/- The name of a direction. -/
def name : Direction → String
  | .input => "Input"
  | .output => "Output"

/- The direction with a name. -/
def ofName?
    (s : String) : Option Direction :=
  all.find? fun d => d.name == s

end Direction

/- A region that a job reads or writes. -/
structure Binding where
  addr : Nat
  size : Nat
  direction : Direction
deriving DecidableEq

namespace Binding

/- A region to read. -/
def input
    (addr size : Nat) : Binding :=
  ⟨addr, size, .input⟩

/- A region to write. -/
def output
    (addr size : Nat) : Binding :=
  ⟨addr, size, .output⟩

/- A whole segment. -/
def ofSegment
    (s : Segment)
    (direction : Direction) : Binding :=
  ⟨s.addr, s.size, direction⟩

end Binding

/- A binding with the name the domain knows it by. -/
structure NamedBinding where
  name : String
  binding : Binding
deriving DecidableEq

end Offload
