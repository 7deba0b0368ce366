import Offload.Memory.Allocator

/-
  Allocators by name. Each name is given an allocator once.

  Key definitions include:
    * `Registry`
    * `Registry.get?`
    * `Registry.getOrCreate`
    * `Registry.names`
-/

namespace Offload

/- Registered allocators with the names they go by. -/
structure Registry where
  entries : List (String × Allocator)

namespace Registry

variable {ε : Type}

/- The name of the shared contiguous allocator. -/
def contiguousName : String :=
  "edgeflow-contiguous"

/- The name of the shared segment allocator. -/
def segmentName : String :=
  "edgeflow-segment"

/- No allocators. -/
def empty : Registry :=
  ⟨[]⟩

/- The allocator with a name. -/
def get?
    (r : Registry)
    (name : String) : Option Allocator :=
  r.entries.lookup name

/- The names in alphabetical order. -/
def names
    (r : Registry) : List String :=
  (r.entries.map Prod.fst).mergeSort fun a b =>
    decide (a ≤ b)

/-
  The allocator with a name, registered now if there was
  none; also whether that happened.
-/
def getOrCreate
    (name : String)
    (make : Allocator) :
    Op ε (Registry × Platform) (Bool × Allocator) := do
  let (r, _) ← Op.get
  match r.get? name with
  | some a => return (false, a)
  | none =>
    Op.within Lens.snd
      (Platform.log .debug "registered allocator"
        [("name", name)])
    Op.within Lens.fst
      (Op.set ⟨r.entries ++ [(name, make)]⟩)
    return (true, make)

/- The shared contiguous allocator. -/
def contiguous : Op ε (Registry × Platform) Allocator := do
  let (_, a) ← getOrCreate contiguousName
    ⟨contiguousName, .contiguous⟩
  return a

/- The shared segment allocator. -/
def segmented : Op ε (Registry × Platform) Allocator := do
  let (_, a) ← getOrCreate segmentName
    ⟨segmentName, .segmented⟩
  return a

/- The registry in one line. -/
def describe
    (r : Registry) : String :=
  Description.record "AllocatorRegistry"
    [("names", Description.list Quoted.encode r.names)]

end Registry

end Offload
