import Offload.Proofs.Table
import Offload.Telemetry

/-
  What is recorded, meter by meter.

  A meter keeps its value while others are given theirs. The
  meters about jobs are told from all others: what is
  recorded of memory, of pools and of caches is recorded
  beside them. The gauges of pools are told from the others
  as well: what is counted leaves them.

  Key definitions include:
    * `Meter.isJob`
    * `Telemetry.SameJobs`
    * `Meter.isGauge`
    * `Telemetry.SameGauges`

  Main results:
    * `Metrics.find?_put`
    * `Metrics.read_add`
    * `Telemetry.SameJobs.count`
    * `Telemetry.SameGauges.count`
-/

namespace Offload

------------------------------------------------------------
-- Values
------------------------------------------------------------

namespace Metrics

/- A meter is given a value, and the others keep theirs. -/
theorem find?_put
    (meter other : Meter)
    (value : Nat)
    (m : Metrics) :
    (m.put meter value).find? other =
      if other = meter then some value else m.find? other := by
  have hRest :
      (m.entries.filter fun e => e.1 ≠ meter).lookup other =
        if other = meter then none
        else m.entries.lookup other := by
    rw [← Table.lookup_filter_ne other meter m.entries]
    simp only [bne, ne_eq, decide_not, beq_eq_decide]
  unfold find? put
  rw [List.lookup_cons, hRest]
  by_cases hMeter : other = meter
  · simp [hMeter]
  · have hOther : (other == meter) = false := by
      simpa using hMeter
    simp [hMeter, hOther]

theorem read_put
    (meter other : Meter)
    (value : Nat)
    (m : Metrics) :
    (m.put meter value).read other =
      if other = meter then value else m.read other := by
  rw [read, find?_put]
  split <;> rfl

theorem read_add
    (meter other : Meter)
    (m : Metrics) :
    (m.add meter).read other =
      m.read other + if other = meter then 1 else 0 := by
  rw [add, read_put]
  split
  · rename_i hMeter
    rw [hMeter]
  · rfl

end Metrics

------------------------------------------------------------
-- Meters of Jobs
------------------------------------------------------------

/- Whether a meter is about the jobs of a stage. -/
def Meter.isJob : Meter → Bool
  | .jobsDispatched .. => true
  | .jobFailures .. => true
  | .jobDuration .. => true
  | _ => false

namespace Telemetry

/- The meters about jobs have the values that they had. -/
def SameJobs
    (t t' : Telemetry) : Prop :=
  ∀ meter : Meter,
    meter.isJob = true →
      t'.metrics.read meter = t.metrics.read meter

variable {t t' t'' : Telemetry}

theorem SameJobs.refl
    (t : Telemetry) : t.SameJobs t :=
  fun _ _ => rfl

theorem SameJobs.trans
    (h : t.SameJobs t')
    (h' : t'.SameJobs t'') : t.SameJobs t'' :=
  fun meter hJob => (h' meter hJob).trans (h meter hJob)

/- A meter about something else is given a value. -/
theorem SameJobs.gauge
    {meter : Meter}
    (hOther : meter.isJob = false)
    (value : Nat)
    (t : Telemetry) : t.SameJobs (t.gauge meter value) := by
  intro job hJob
  have hNe : job ≠ meter := by
    rintro rfl
    rw [hOther] at hJob
    cases hJob
  exact (Metrics.read_put meter job value _).trans (if_neg hNe)

theorem SameJobs.count
    {meter : Meter}
    (hOther : meter.isJob = false)
    (t : Telemetry) : t.SameJobs (t.count meter) :=
  SameJobs.gauge hOther _ t

end Telemetry

------------------------------------------------------------
-- Gauges of Pools
------------------------------------------------------------

/- Whether a meter counts allocations. -/
def Meter.isAllocation : Meter → Bool
  | .allocations _ => true
  | .allocationFailures _ => true
  | _ => false

theorem Meter.isJob_of_isAllocation
    {meter : Meter}
    (h : meter.isAllocation = true) : meter.isJob = false := by
  cases meter with
  | allocations _ => rfl
  | allocationFailures _ => rfl
  | _ => cases h

/- Whether a meter is the gauge of a pool. -/
def Meter.isGauge : Meter → Bool
  | .poolAvailable _ => true
  | _ => false

theorem Meter.isGauge_of_isAllocation
    {meter : Meter}
    (h : meter.isAllocation = true) :
    meter.isGauge = false := by
  cases meter with
  | allocations _ => rfl
  | allocationFailures _ => rfl
  | _ => cases h

namespace Telemetry

/- The gauges of pools have the values that they had. -/
def SameGauges
    (t t' : Telemetry) : Prop :=
  ∀ meter : Meter,
    meter.isGauge = true →
      t'.metrics.find? meter = t.metrics.find? meter

variable {t t' t'' : Telemetry}

theorem SameGauges.refl
    (t : Telemetry) : t.SameGauges t :=
  fun _ _ => rfl

theorem SameGauges.trans
    (h : t.SameGauges t')
    (h' : t'.SameGauges t'') : t.SameGauges t'' :=
  fun meter hGauge => (h' meter hGauge).trans (h meter hGauge)

/- Something else is counted. -/
theorem SameGauges.count
    {meter : Meter}
    (hOther : meter.isGauge = false)
    (t : Telemetry) : t.SameGauges (t.count meter) := by
  intro gauge hGauge
  have hNe : gauge ≠ meter := by
    rintro rfl
    rw [hOther] at hGauge
    cases hGauge
  exact (Metrics.find?_put meter gauge _ _).trans (if_neg hNe)

end Telemetry

end Offload
