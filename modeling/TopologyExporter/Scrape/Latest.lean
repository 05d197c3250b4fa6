import TopologyExporter.Metric.Registry
import TopologyExporter.Scrape.Report
import TopologyExporter.Sink.Channel

/-!
# The latest metrics

What each collector sent in its last successful call. It is served until a later call of the
collector succeeds.
-/

namespace TopologyExporter

/-- The descriptors of all collectors, and the families of those that have succeeded. -/
structure LatestMetrics where
  descriptors : List Descriptor
  families : Keyed String (List Family)
deriving Repr, DecidableEq, Inhabited

namespace LatestMetrics

/-- Nothing published yet. -/
def make (descriptors : List Descriptor) : LatestMetrics := ⟨descriptors, .empty⟩

/-- What a collector published last. -/
def familiesFor (m : LatestMetrics) (collector : String) : List Family :=
  (m.families.get? collector).getD []

/-- All families that are served. -/
def collect (m : LatestMetrics) : List Family := m.families.values.flatten

/-- Replaces what a collector published. -/
def replace (m : LatestMetrics) (collector : String) (families : List Family) : LatestMetrics :=
  { m with families := m.families.put collector families }

/-- Publishes the outcomes of a scrape in order: each success takes what was received from its
collector, and what a failed collector sent is dropped. -/
def publish (m : LatestMetrics) (received : List SinkItem) : List Outcome → LatestMetrics
  | [] => m
  | o :: rest =>
    if o.isSuccess then
      -- a second success of the same name finds nothing left to take
      (m.replace o.collector (familiesOf o.collector received)).publish
        (received.filter (·.collector ≠ o.collector)) rest
    else m.publish received rest

end LatestMetrics

end TopologyExporter
