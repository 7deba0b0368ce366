import Offload.Dispatch.Transport
import Offload.Dispatch.Upcase
import Offload.Memory.Pool
import Offload.Memory.Registry

/-
  Everything that dispatchers and their callers share.

  What has several holders lives in a table here and is
  referred to by its number.

  Key definitions include:
    * `Machine`
    * `Machine.fresh`
    * `Machine.onPlatform`
    * `Machine.onPool`
    * `Machine.onCache`
-/

namespace Offload

/-
  The platform, the allocators, the files, the tables of
  shared things, and the time in nanoseconds.
-/
structure Machine where
  platform : Platform
  registry : Registry
  files : FileTree
  pools : Table Pool
  caches : Table IdCache
  boards : Table Board
  gates : List (String × Gate)
  engines : Table Engine
  transports : Table Transport
  now : Nat

namespace Machine

variable {ε α : Type}

/- A machine with a fresh device. -/
def fresh
    (capacity : MemoryTarget → Nat) : Machine where
  platform := Platform.fresh capacity
  registry := Registry.empty
  files := FileTree.empty
  pools := Table.empty
  caches := Table.empty
  boards := Table.empty
  gates := []
  engines := Table.empty
  transports := Table.empty
  now := 0

------------------------------------------------------------
-- Parts
------------------------------------------------------------

/- The platform of a machine. -/
def platformPart : Lens Machine Platform :=
  ⟨platform, fun p m => { m with platform := p }⟩

/- The allocators of a machine. -/
def registryPart : Lens Machine Registry :=
  ⟨registry, fun r m => { m with registry := r }⟩

/- The pools of a machine. -/
def poolsPart : Lens Machine (Table Pool) :=
  ⟨pools, fun t m => { m with pools := t }⟩

/- The id caches of a machine. -/
def cachesPart : Lens Machine (Table IdCache) :=
  ⟨caches, fun t m => { m with caches := t }⟩

/- The completion boards of a machine. -/
def boardsPart : Lens Machine (Table Board) :=
  ⟨boards, fun t m => { m with boards := t }⟩

/- The engines of a machine. -/
def enginesPart : Lens Machine (Table Engine) :=
  ⟨engines, fun t m => { m with engines := t }⟩

/- The transports of a machine. -/
def transportsPart : Lens Machine (Table Transport) :=
  ⟨transports, fun t m => { m with transports := t }⟩

/- Run on the platform. -/
def onPlatform
    (x : Op ε Platform α) : Op ε Machine α :=
  Op.within platformPart x

/- Run on the allocators. -/
def onRegistry
    (x : Op ε (Registry × Platform) α) : Op ε Machine α :=
  Op.within (registryPart.both platformPart) x

/- Add a row to a table and answer its number. -/
def add
    {τ : Type}
    (part : Lens Machine (Table τ))
    (row : τ) : Op ε Machine Nat :=
  Op.within part (Op.update fun t => t.insert row)

/-
  Run on one row of a table and on the platform. Without the
  row the fallback is the result.
-/
def onRow
    {τ : Type}
    (part : Lens Machine (Table τ))
    (key : Nat)
    (fallback : Except ε α)
    (x : Op ε (τ × Platform) α) : Op ε Machine α :=
  fun m =>
    match (part.get m).get? key with
    | none => (fallback, m)
    | some row =>
      match x (row, m.platform) with
      | (r, (row', p)) =>
        (r, part.set ((part.get m).set key row')
          { m with platform := p })

/- Run on a pool. -/
def onPool
    (key : Nat)
    (x : Op Error (Pool × Platform) α) :
    Op Error Machine α :=
  onRow poolsPart key (.error .poolInactive) x

/- Run on a pool without a way to fail. -/
def onPoolSilently
    (key : Nat)
    (x : Op ε (Pool × Platform) Unit) :
    Op ε Machine Unit :=
  onRow poolsPart key (.ok ()) x

/- Run on an id cache. -/
def onCache
    (key : Nat)
    (x : Op Error (IdCache × Platform) α) :
    Op Error Machine α :=
  onRow cachesPart key
    (.error (.invalidState "no such cache")) x

/- Run on an id cache without a way to fail. -/
def onCacheSilently
    (key : Nat)
    (x : Op ε (IdCache × Platform) Unit) :
    Op ε Machine Unit :=
  onRow cachesPart key (.ok ()) x

------------------------------------------------------------
-- Telemetry
------------------------------------------------------------

/- Record a log event. -/
def log
    (level : Level)
    (message : String)
    (fields : List (String × String)) :
    Op ε Machine Unit :=
  onPlatform (Platform.log level message fields)

/- Record a log event that may be missing. -/
def logged
    (event : Option LogEvent)
    (m : Machine) : Machine :=
  match event with
  | none => m
  | some e =>
    { m with
      platform := { m.platform with
        telemetry := m.platform.telemetry.log e } }

/- Record a log event that may be missing, in an operation. -/
def logMaybe
    (event : Option LogEvent) : Op ε Machine Unit :=
  Op.modify (logged event)

/- Add one to a counter, or one sample to a histogram. -/
def count
    (meter : Meter) : Op ε Machine Unit :=
  onPlatform (Platform.count meter)

------------------------------------------------------------
-- Gates
------------------------------------------------------------

/- A gate, closed unless somebody changed that. -/
def gate
    (m : Machine)
    (name : String) : Gate :=
  (m.gates.lookup name).getD Gate.closed

/- Replace a gate. -/
def setGate
    (name : String)
    (g : Gate)
    (m : Machine) : Machine :=
  { m with
    gates := (name, g)
      :: m.gates.filter fun e => e.1 != name }

/- Pass a gate, if it lets somebody pass. -/
def passGate?
    (m : Machine)
    (name : String) : Option Machine :=
  (m.gate name).pass?.map fun g => m.setGate name g

end Machine

end Offload
