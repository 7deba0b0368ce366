import Offload.Error

/-
  Metrics.

  A meter is a counter, a gauge or a histogram with its
  labels. Counters add up, a gauge keeps its last value and
  of a histogram the number of samples is kept.

  Key definitions include:
    * `Meter`
    * `Meter.key`
    * `Metrics`
    * `Metrics.read`
    * `Metrics.add`
    * `Metrics.put`
-/

namespace Offload

------------------------------------------------------------
-- Meters
------------------------------------------------------------

/- What is measured, with the labels of the measurement. -/
inductive Meter where
  | allocations (target : MemoryTarget)
  | allocationFailures (target : MemoryTarget)
  | poolAcquisitions (pool : String)
  | poolWaits (pool : String)
  | poolAvailable (pool : String)
  | idCacheHits
  | idCacheMisses
  | idCacheBypasses
  | jobsDispatched (domain : ComputeDomain) (node : String)
  | jobFailures
      (domain : ComputeDomain)
      (node : String)
      (cause : DispatchError)
  | jobDuration (domain : ComputeDomain) (node : String)
deriving DecidableEq

namespace Meter

/- The name of a meter. -/
def name : Meter → String
  | .allocations _ => "edgeflow_allocations"
  | .allocationFailures _ => "edgeflow_allocation_failures"
  | .poolAcquisitions _ => "edgeflow_pool_acquisitions"
  | .poolWaits _ => "edgeflow_pool_waits"
  | .poolAvailable _ => "edgeflow_pool_buffers_available"
  | .idCacheHits => "edgeflow_id_cache_hits"
  | .idCacheMisses => "edgeflow_id_cache_misses"
  | .idCacheBypasses => "edgeflow_id_cache_bypasses"
  | .jobsDispatched .. => "edgeflow_jobs_dispatched"
  | .jobFailures .. => "edgeflow_job_failures"
  | .jobDuration .. => "edgeflow_job_duration_ns"

/- The labels of a meter in alphabetical order. -/
def labels : Meter → List (String × String)
  | .allocations t => [("target", t.name)]
  | .allocationFailures t => [("target", t.name)]
  | .poolAcquisitions p => [("pool", p)]
  | .poolWaits p => [("pool", p)]
  | .poolAvailable p => [("pool", p)]
  | .idCacheHits => []
  | .idCacheMisses => []
  | .idCacheBypasses => []
  | .jobsDispatched d n => [("domain", d.name), ("node", n)]
  | .jobFailures d n e =>
    [("domain", d.name), ("error", e.label), ("node", n)]
  | .jobDuration d n => [("domain", d.name), ("node", n)]

/- One label with its value. -/
def labelText
    (l : String × String) : String :=
  l.1 ++ "=" ++ l.2

/- The name with the labels, as a meter is listed. -/
def key
    (m : Meter) : String :=
  m.name ++ "\x7b"
    ++ ",".intercalate (m.labels.map labelText) ++ "\x7d"

end Meter

------------------------------------------------------------
-- Descriptions
------------------------------------------------------------

/- The kind of a meter, its unit and what it counts. -/
structure MeterInfo where
  name : String
  kind : String
  unit : String
  about : String

namespace MeterInfo

/- A counter of things. -/
def counter
    (name about : String) : MeterInfo :=
  ⟨name, "counter", "count", about⟩

/- All meters. -/
def all : List MeterInfo :=
  [counter "edgeflow_allocations"
     "Physical buffers allocated",
   counter "edgeflow_allocation_failures"
     "Physical allocations that failed",
   counter "edgeflow_pool_acquisitions"
     "Buffers handed out by pools",
   counter "edgeflow_pool_waits"
     "Acquisitions that blocked on an empty pool",
   ⟨"edgeflow_pool_buffers_available", "gauge", "count",
     "Idle buffers in a pool"⟩,
   counter "edgeflow_id_cache_hits"
     "Buffer id lookups served from cache",
   counter "edgeflow_id_cache_misses"
     "Buffer id lookups that attached and mapped",
   counter "edgeflow_id_cache_bypasses"
     "Buffer id lookups mapped without caching",
   counter "edgeflow_jobs_dispatched"
     "Jobs posted to a compute domain",
   counter "edgeflow_job_failures"
     "Jobs that failed, by error",
   ⟨"edgeflow_job_duration_ns", "histogram", "nanoseconds",
     "Time from post to completion"⟩]

end MeterInfo

------------------------------------------------------------
-- Recorded Values
------------------------------------------------------------

/-
  The values recorded so far. A meter that was never
  recorded has no entry.
-/
structure Metrics where
  entries : List (Meter × Nat)

namespace Metrics

/- Nothing recorded. -/
def empty : Metrics :=
  ⟨[]⟩

/- The value of a meter, if it was recorded. -/
def find?
    (m : Metrics)
    (meter : Meter) : Option Nat :=
  m.entries.lookup meter

/- The value of a meter, zero if it was never recorded. -/
def read
    (m : Metrics)
    (meter : Meter) : Nat :=
  (m.find? meter).getD 0

/- Give a meter a value. -/
def put
    (m : Metrics)
    (meter : Meter)
    (value : Nat) : Metrics :=
  ⟨(meter, value)
    :: m.entries.filter fun e => e.1 ≠ meter⟩

/- Add one to a meter. -/
def add
    (m : Metrics)
    (meter : Meter) : Metrics :=
  m.put meter (m.read meter + 1)

end Metrics

end Offload
