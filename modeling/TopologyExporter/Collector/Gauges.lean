import TopologyExporter.Metric.Family
import TopologyExporter.Metric.Identity
import TopologyExporter.Time.Duration

/-!
# Scrape gauges

When a collector last ran and how long it took: the two gauges that every collector publishes at the
end of a successful run.
-/

namespace TopologyExporter

/-- What the clocks showed at the end of a run: the seconds since 1970, and how long the run
took. -/
structure RunClock where
  now : Nat
  elapsed : Duration
deriving Repr, DecidableEq, Inhabited

/-- The descriptors of the two gauges of a collector. -/
structure ScrapeGauges where
  timestamp : Descriptor
  duration : Descriptor
deriving Repr, DecidableEq, Inhabited

namespace ScrapeGauges

/-- The gauges of a collector: `subject` is its part of the names, and `title` is what the help
texts call it. -/
def make (space subject title : String) (identity : DirectorIdentity) :
    Except MetricError ScrapeGauges := do
  let gauge (name help : String) : Except MetricError Descriptor :=
    Descriptor.make (qualifiedName space name) help identity.constLabels []
  let timestamp ← gauge ("last_" ++ subject ++ "_scrape_timestamp")
    ("Number of seconds since 1970 since last scrape of " ++ title ++ " from BOSH.")
  let duration ← gauge ("last_" ++ subject ++ "_scrape_duration_seconds")
    ("Duration of the last scrape of " ++ title ++ " from BOSH.")
  pure ⟨timestamp, duration⟩

/-- The descriptors, in the order in which the gauges are sent. -/
def descriptors (g : ScrapeGauges) : List Descriptor := [g.timestamp, g.duration]

/-- The families of a run, in the order in which they are sent. -/
def families (g : ScrapeGauges) (clock : RunClock) : List Family :=
  [g.timestamp.single .gauge (.ofNat clock.now), g.duration.single .gauge clock.elapsed.seconds]

end ScrapeGauges

end TopologyExporter
