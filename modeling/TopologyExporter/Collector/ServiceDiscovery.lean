import TopologyExporter.Collector.Basic
import TopologyExporter.Filter.Collector
import TopologyExporter.Target.Group

/-!
# The collector for service discovery

Replaces the service discovery file by one with the target groups of each snapshot.
-/

namespace TopologyExporter

/-- The file that is replaced, the filters that select the targets, and the scrape gauges. -/
structure ServiceDiscoveryCollector where
  destination : String
  filter : TargetFilter
  gauges : ScrapeGauges
deriving Inhabited

namespace ServiceDiscoveryCollector

/-- The collector of a namespace and director. -/
def make (space : String) (identity : DirectorIdentity) (destination : String)
    (filter : TargetFilter) : Except CollectorError ServiceDiscoveryCollector :=
  Except.mapError .metrics do
    let gauges ← ScrapeGauges.make space "service_discovery" "Service Discovery" identity
    pure ⟨destination, filter, gauges⟩

/-- The content of the file for a snapshot. -/
def content (c : ServiceDiscoveryCollector) (s : Snapshot) : Bytes :=
  TargetGroup.encodeAll (targetGroups c.filter s)

/-- What a call does: it replaces the file and then sends its scrape gauges. -/
def call (c : ServiceDiscoveryCollector) (s : Snapshot) (clock : RunClock) : Call :=
  ⟨.replace c.destination (c.content s) :: (c.gauges.families clock).map .send, .returns none⟩

/-- As a collector. -/
def toCollector (c : ServiceDiscoveryCollector) : Collector :=
  ⟨BuiltIn.serviceDiscovery.name, c.gauges.descriptors, fun _ => c.call⟩

end ServiceDiscoveryCollector

end TopologyExporter
