import TopologyExporter.Metric.Identity
import TopologyExporter.Metric.Registry
import TopologyExporter.Scrape.Report

/-!
# The exporter's own metrics

How many cycles there were, how many of them failed, and when the last one took place.

* `ExporterMetrics.recordFetchError` counts a cycle without a snapshot;
* `ExporterMetrics.recordScrape` counts a completed one.
-/

namespace TopologyExporter

/-- The metrics that the exporter keeps about itself, in the order of registration. -/
inductive ExporterSeries
  | scrapes
  | scrapeErrors
  | collectorErrors
  | lastError
  | lastTimestamp
  | lastDuration
deriving Repr, DecidableEq, Inhabited

namespace ExporterSeries

/-- All of them, in the order of registration. -/
def all : List ExporterSeries :=
  [scrapes, scrapeErrors, collectorErrors, lastError, lastTimestamp, lastDuration]

/-- The name without the namespace. -/
def baseName : ExporterSeries → String
  | scrapes => "scrapes_total"
  | scrapeErrors => "scrape_errors_total"
  | collectorErrors => "collector_errors_total"
  | lastError => "last_scrape_error"
  | lastTimestamp => "last_scrape_timestamp"
  | lastDuration => "last_scrape_duration_seconds"

/-- The help text. -/
def help : ExporterSeries → String
  | scrapes => "Total number of times BOSH was scraped for metrics."
  | scrapeErrors => "Total number of times an error occurred scraping BOSH."
  | collectorErrors => "Total number of failed collector runs."
  | lastError =>
    "Whether the last scrape of metrics from BOSH resulted in an error (1 for error, 0 for success)."
  | lastTimestamp => "Number of seconds since 1970 since last scrape from BOSH."
  | lastDuration => "Duration of the last scrape from BOSH."

/-- The labels that vary. -/
def variableLabels : ExporterSeries → List String
  | collectorErrors => ["collector"]
  | _ => []

/-- The kind. -/
def kind : ExporterSeries → MetricKind
  | scrapes => .counter
  | scrapeErrors => .counter
  | collectorErrors => .counter
  | _ => .gauge

/-- The descriptor, if the namespace allows one. -/
def descriptor (space : String) (identity : DirectorIdentity) (s : ExporterSeries) :
    Except MetricError Descriptor :=
  Descriptor.make (qualifiedName space s.baseName) s.help identity.constLabels s.variableLabels

end ExporterSeries

/-- The exporter's own metrics: their descriptors and what has been counted so far. -/
structure ExporterMetrics where
  descriptors : List (ExporterSeries × Descriptor)
  scrapes : Nat
  scrapeErrors : Nat
  collectorErrors : Keyed String Nat
  lastError : Binary64
  lastTimestamp : Binary64
  lastDuration : Binary64
deriving Repr, DecidableEq, Inhabited

namespace ExporterMetrics

/-- Metrics that have counted nothing yet. -/
def make (space : String) (identity : DirectorIdentity) : Except MetricError ExporterMetrics := do
  let descriptors ← ExporterSeries.all.mapM fun s => do pure (s, ← s.descriptor space identity)
  pure ⟨descriptors, 0, 0, .empty, 0, 0, 0⟩

/-! ## Recording -/

/-- How often a collector failed. -/
def errorsOf (m : ExporterMetrics) (collector : String) : Nat :=
  (m.collectorErrors.get? collector).getD 0

/-- Counts a failure of a collector. -/
def countError (errors : Keyed String Nat) (collector : String) : Keyed String Nat :=
  errors.put collector ((errors.get? collector).getD 0 + 1)

/-- Looks up how often a collector failed; from then on it has a sample even if it never did. -/
def readErrors (m : ExporterMetrics) (collector : String) : Nat × ExporterMetrics :=
  let count := m.errorsOf collector
  (count, { m with collectorErrors := m.collectorErrors.put collector count })

/-- Counts a cycle that was skipped because there was no snapshot. -/
def recordFetchError (m : ExporterMetrics) : ExporterMetrics :=
  { m with scrapes := m.scrapes + 1, scrapeErrors := m.scrapeErrors + 1, lastError := 1 }

/-- Counts a completed cycle, which ended at the time `now` in seconds since 1970. -/
def recordScrape (m : ExporterMetrics) (report : ScrapeReport) (now : Nat) : ExporterMetrics :=
  { m with
    scrapes := m.scrapes + 1
    scrapeErrors := if report.isSuccess then m.scrapeErrors else m.scrapeErrors + 1
    collectorErrors :=
      report.failures.foldl (fun errors o => countError errors o.collector) m.collectorErrors
    lastError := if report.isSuccess then 0 else 1
    lastTimestamp := .ofNat now
    lastDuration := report.duration.seconds }

/-! ## Families -/

/-- The rows of a family: the values of its varying labels with the value of each sample. -/
def rows (m : ExporterMetrics) : ExporterSeries → List (List String × Binary64)
  | .scrapes => [([], .ofNat m.scrapes)]
  | .scrapeErrors => [([], .ofNat m.scrapeErrors)]
  | .collectorErrors => m.collectorErrors.entries.map fun e => ([e.1], .ofNat e.2)
  | .lastError => [([], m.lastError)]
  | .lastTimestamp => [([], m.lastTimestamp)]
  | .lastDuration => [([], m.lastDuration)]

/-- The family of one of the metrics. -/
def families (m : ExporterMetrics) (s : ExporterSeries) : List Family :=
  (m.descriptors.filter (·.1 = s)).map fun e => e.2.family s.kind (m.rows s)

/-- Registers all metrics, each as a source of its own; `tag` names the source. The first that is
refused ends it. -/
def register {σ : Type} (m : ExporterMetrics) (tag : ExporterSeries → σ) (r : Registry σ) :
    Except MetricError Unit × Registry σ :=
  m.descriptors.foldl
    (fun (result, r) e =>
      match result with
      -- what was registered before the refusal stays
      | .error e => (.error e, r)
      | .ok () => r.register [e.2] (tag e.1))
    (.ok (), r)

end ExporterMetrics

end TopologyExporter
