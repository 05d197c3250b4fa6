import TopologyExporter.Files.Error
import TopologyExporter.Json.Fault
import TopologyExporter.Metric.Error
import TopologyExporter.Text.Quoted
import TopologyExporter.Time.Duration

/-!
# Collector errors

Why one collector failed in one scrape. None of these ends the exporter: what the collector
published before is kept.
-/

namespace TopologyExporter

/-- The failure of a collector. -/
inductive CollectorError
  | serialization (reason : Json.DecodeError)
  | persistence (path : String) (reason : FileError)
  | metrics (reason : MetricError)
  | sinkClosed
  | timeout (collector : String) (limit : Duration)
  | panicked (collector : String)
  | aborted (collector : String)
deriving Repr, DecidableEq, Inhabited

namespace CollectorError

/-- The text of the error behind this one. -/
def source? : CollectorError → Option String
  | serialization reason => some reason.message
  | persistence _ reason => some reason.message
  | metrics reason => some reason.message
  | sinkClosed => none
  | timeout _ _ => none
  | panicked _ => none
  | aborted _ => none

/-- The text of the error. -/
def message : CollectorError → String
  | serialization reason => "failed to serialize target groups: " ++ reason.message
  | persistence path reason =>
    "failed to persist " ++ Text.quoted path ++ ": " ++ reason.message
  | metrics reason => "failed to build metric: " ++ reason.message
  | sinkClosed => "metrics sink closed"
  | timeout collector limit =>
    "collector " ++ collector ++ " did not finish within " ++ limit.describe
  | panicked collector => "collector " ++ collector ++ " panicked"
  | aborted collector => "collector " ++ collector ++ " was aborted"

end CollectorError

end TopologyExporter
