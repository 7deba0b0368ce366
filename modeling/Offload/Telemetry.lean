import Offload.Telemetry.Event
import Offload.Telemetry.Meter

/-
  What a run leaves for its operator: metrics, log events
  and spans.

  Key definitions include:
    * `Telemetry`
    * `Telemetry.log`
    * `Telemetry.count`
    * `Telemetry.gauge`
-/

namespace Offload

/- Recorded metrics, and events and spans newest first. -/
structure Telemetry where
  metrics : Metrics
  events : List LogEvent
  spans : List Span

namespace Telemetry

/- Nothing recorded. -/
def empty : Telemetry :=
  ⟨Metrics.empty, [], []⟩

/- Record a log event. -/
def log
    (t : Telemetry)
    (e : LogEvent) : Telemetry :=
  { t with events := e :: t.events }

/- Add one to a counter, or one sample to a histogram. -/
def count
    (t : Telemetry)
    (m : Meter) : Telemetry :=
  { t with metrics := t.metrics.add m }

/- Set a gauge. -/
def gauge
    (t : Telemetry)
    (m : Meter)
    (value : Nat) : Telemetry :=
  { t with metrics := t.metrics.put m value }

/- Record a span. -/
def span
    (t : Telemetry)
    (s : Span) : Telemetry :=
  { t with spans := s :: t.spans }

/- The events in order, with none left behind. -/
def takeEvents
    (t : Telemetry) : List LogEvent × Telemetry :=
  (t.events.reverse, { t with events := [] })

/- The spans in order, with none left behind. -/
def takeSpans
    (t : Telemetry) : List Span × Telemetry :=
  (t.spans.reverse, { t with spans := [] })

end Telemetry

end Offload
