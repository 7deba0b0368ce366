import Offload.Domain
import Offload.Telemetry.Event

/-
  Cache policies, allocation flags and placement hints.

  Flags have one bit per target and one per policy. When
  several bits of a kind are set, the last one wins; when
  none is, the default is taken.

  Key definitions include:
    * `CachePolicy`
    * `MemoryFlags`
    * `MemoryFlags.target`
    * `MemoryFlags.cache`
    * `PlacementHint`
    * `PlacementHint.ofFields`
-/

namespace Offload

------------------------------------------------------------
-- Cache Policies
------------------------------------------------------------

/-
  How the processor caches a buffer. Only a cached buffer
  needs maintenance; read-only is a convention.
-/
inductive CachePolicy where
  | uncached
  | cached
  | readOnly
deriving DecidableEq

namespace CachePolicy

/- All policies in the order that resolves flags. -/
def all : List CachePolicy :=
  [.uncached, .cached, .readOnly]

/- The name used in configuration and messages. -/
def name : CachePolicy → String
  | .uncached => "DEFAULT"
  | .cached => "CACHED"
  | .readOnly => "RDONLY"

/- The name used in descriptions. -/
def describe : CachePolicy → String
  | .uncached => "Default"
  | .cached => "Cached"
  | .readOnly => "ReadOnly"

/- The policy with a name, spelled exactly. -/
def ofName?
    (s : String) : Option CachePolicy :=
  all.find? fun p => p.name == s

/- Whether the processor's cache needs maintenance. -/
def isCached
    (p : CachePolicy) : Bool :=
  p == .cached

end CachePolicy

------------------------------------------------------------
-- Flags
------------------------------------------------------------

/- Requested target and policy as bits. -/
structure MemoryFlags where
  bits : UInt32
deriving DecidableEq

namespace MemoryFlags

/- Flags with every bit of two flags. -/
def union
    (a b : MemoryFlags) : MemoryFlags :=
  ⟨a.bits ||| b.bits⟩

/- The bits that both flags have. -/
def inter
    (a b : MemoryFlags) : MemoryFlags :=
  ⟨a.bits &&& b.bits⟩

/- Whether every bit of `b` is set in `a`. -/
def contains
    (a b : MemoryFlags) : Bool :=
  a.inter b == b

/- The bit of a target. -/
def ofTarget
    (t : MemoryTarget) : MemoryFlags :=
  ⟨(1 : UInt32) <<< UInt32.ofNat t.index⟩

/- The bit of a policy. -/
def ofCache : CachePolicy → MemoryFlags
  | .uncached => ⟨(1 : UInt32) <<< 16⟩
  | .cached => ⟨(1 : UInt32) <<< 17⟩
  | .readOnly => ⟨(1 : UInt32) <<< 18⟩

/- Flags for one target and one policy. -/
def of
    (t : MemoryTarget)
    (p : CachePolicy) : MemoryFlags :=
  (ofTarget t).union (ofCache p)

/- Every bit that has a meaning. -/
def known : MemoryFlags :=
  (MemoryTarget.all.map ofTarget
    ++ CachePolicy.all.map ofCache).foldl union ⟨0⟩

/- The last target whose bit is set. -/
def target
    (f : MemoryFlags) : MemoryTarget :=
  (MemoryTarget.all.reverse.find? fun t =>
    f.contains (ofTarget t)).getD .generic

/- The last policy whose bit is set. -/
def cache
    (f : MemoryFlags) : CachePolicy :=
  (CachePolicy.all.reverse.find? fun p =>
    f.contains (ofCache p)).getD .uncached

end MemoryFlags

------------------------------------------------------------
-- Placement Hints
------------------------------------------------------------

/-
  The placement a stage wants its input in, as it answers
  the allocation query of the stage before it.
-/
structure PlacementHint where
  target : MemoryTarget
  cache : CachePolicy
deriving DecidableEq

namespace PlacementHint

/- The name of the allocation query. -/
def queryName : String :=
  "simaai-allocation-meta"

/- The field that names the target. -/
def targetField : String :=
  "memory_type"

/- The field that names the policy. -/
def cacheField : String :=
  "memory_flag"

/- What stands before the name of a target. -/
def targetLead : String :=
  "GST_SIMAAI_MEMORY_TARGET_"

/- What stands before the name of a policy. -/
def cacheLead : String :=
  "GST_SIMAAI_MEMORY_FLAG_"

/- The hint that a set of flags resolves to. -/
def ofFlags
    (f : MemoryFlags) : PlacementHint :=
  ⟨f.target, f.cache⟩

/- The flags of a hint. -/
def flags
    (h : PlacementHint) : MemoryFlags :=
  MemoryFlags.of h.target h.cache

/- The text of the target field. -/
def targetText
    (h : PlacementHint) : String :=
  targetLead ++ h.target.name

/- The text of the policy field. -/
def cacheText
    (h : PlacementHint) : String :=
  cacheLead ++ h.cache.name

/- What follows a lead in a list of characters. -/
def afterLead
    (lead : List Char)
    (s : List Char) : Option (List Char) :=
  match lead, s with
  | [], rest => some rest
  | _ :: _, [] => none
  | c :: lead', d :: rest =>
    if c = d then afterLead lead' rest else none

/- The target a field names, if it names one. -/
def target?
    (text : String) : Option MemoryTarget :=
  (afterLead targetLead.toList text.toList).bind fun rest =>
    MemoryTarget.ofName? (String.ofList rest)

/- The policy a field names, if it names one. -/
def cache?
    (text : String) : Option CachePolicy :=
  (afterLead cacheLead.toList text.toList).bind fun rest =>
    CachePolicy.ofName? (String.ofList rest)

/-
  The hint in a pair of fields. A field that names nothing
  known counts as the default.
-/
def ofFields
    (targetText cacheText : String) : PlacementHint :=
  ⟨(target? targetText).getD .generic,
   (cache? cacheText).getD .uncached⟩

/- The warning about a field that names nothing known. -/
def warning
    (field text message : String) : LogEvent :=
  ⟨.warn, message, [(field, text)]⟩

/- The warnings about a pair of fields. -/
def warnings
    (targetText cacheText : String) : List LogEvent :=
  (if (target? targetText).isNone then
    [warning targetField targetText
      ("unknown memory type in allocation query, "
        ++ "using GENERIC")]
   else []) ++
  (if (cache? cacheText).isNone then
    [warning cacheField cacheText
      ("unknown memory flag in allocation query, "
        ++ "using DEFAULT")]
   else [])

end PlacementHint

end Offload
