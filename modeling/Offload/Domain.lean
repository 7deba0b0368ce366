/-
  Where a job runs and where memory lives.

  Key definitions include:
    * `MemoryTarget`
    * `ComputeDomain`
    * `ComputeDomain.memoryTarget`
    * `ComputeDomain.ofName?`
-/

namespace Offload

------------------------------------------------------------
-- Memory Targets
------------------------------------------------------------

/-
  The seven regions of physical memory: general memory,
  on-chip memory, four accelerator scratch regions and the
  vector core's memory.
-/
inductive MemoryTarget where
  | generic
  | onChip
  | scratch0
  | scratch1
  | scratch2
  | scratch3
  | vector
deriving DecidableEq

namespace MemoryTarget

/- All targets in the order that resolves flags. -/
def all : List MemoryTarget :=
  [.generic, .onChip, .scratch0, .scratch1, .scratch2,
   .scratch3, .vector]

/- The position of a target among all. -/
def index : MemoryTarget → Nat
  | .generic => 0
  | .onChip => 1
  | .scratch0 => 2
  | .scratch1 => 3
  | .scratch2 => 4
  | .scratch3 => 5
  | .vector => 6

/- The name used in configuration and messages. -/
def name : MemoryTarget → String
  | .generic => "GENERIC"
  | .onChip => "OCM"
  | .scratch0 => "DMS0"
  | .scratch1 => "DMS1"
  | .scratch2 => "DMS2"
  | .scratch3 => "DMS3"
  | .vector => "EV74"

/- The name used in descriptions. -/
def describe : MemoryTarget → String
  | .generic => "Generic"
  | .onChip => "Ocm"
  | .scratch0 => "Dms0"
  | .scratch1 => "Dms1"
  | .scratch2 => "Dms2"
  | .scratch3 => "Dms3"
  | .vector => "Ev74"

/- The target with a name, spelled exactly. -/
def ofName?
    (s : String) : Option MemoryTarget :=
  all.find? fun t => t.name == s

end MemoryTarget

------------------------------------------------------------
-- Compute Domains
------------------------------------------------------------

/-
  The three processors a job can run on.
-/
inductive ComputeDomain where
  | host
  | vector
  | accelerator
deriving DecidableEq

namespace ComputeDomain

/- All domains. -/
def all : List ComputeDomain :=
  [.host, .vector, .accelerator]

/- The memory a domain reads its input from. -/
def memoryTarget : ComputeDomain → MemoryTarget
  | .host => .generic
  | .vector => .vector
  | .accelerator => .scratch0

/- The name used in configuration and messages. -/
def name : ComputeDomain → String
  | .host => "host"
  | .vector => "vector"
  | .accelerator => "accelerator"

/- The name used in descriptions. -/
def describe : ComputeDomain → String
  | .host => "Host"
  | .vector => "Vector"
  | .accelerator => "Accelerator"

/- The names a domain answers to, in lower case. -/
def aliases : ComputeDomain → List String
  | .host => ["host", "a65", "apu"]
  | .vector => ["vector", "evxx", "ev74", "cvu"]
  | .accelerator => ["accelerator", "mla"]

/-
  A text with its ASCII capitals made small. Names of
  domains are ASCII, so no other letter can match one.
-/
def foldCase
    (s : String) : String :=
  String.ofList (s.toList.map Char.toLower)

/- The domain that answers to a name in any ASCII case. -/
def ofName?
    (s : String) : Option ComputeDomain :=
  all.find? fun d => d.aliases.contains (foldCase s)

end ComputeDomain

end Offload
