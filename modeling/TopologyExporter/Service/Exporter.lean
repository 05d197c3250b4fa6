import TopologyExporter.Loop.Cycle
import TopologyExporter.Settings.Collectors

/-!
# The exporter

The parts of a running exporter together: a scrape loop, and the registry that serves its metrics
and the latest metrics of its collectors.

* `Exporter.start` puts one together from settings;
* `Exporter.gather` is what it serves.
-/

namespace TopologyExporter

/-- A source of served families: one of the exporter's own metrics, or the latest metrics of the
collectors. -/
inductive MetricSource
  | own (series : ExporterSeries)
  | latest
deriving Repr, DecidableEq, Inhabited

/-- A running exporter. -/
structure Exporter where
  loop : ScrapeLoop
  registry : Registry MetricSource
deriving Inhabited

/-- Why an exporter does not start. -/
inductive StartError
  | settings (reason : SettingsError)
  | setup (reason : SetupError)
  | metrics (reason : MetricError)
deriving Repr, DecidableEq, Inhabited

namespace StartError

/-- The text of the error. -/
def message : StartError → String
  | settings reason => reason.message
  | setup reason => reason.message
  | metrics reason => reason.message

/-- The text of the error behind this one. -/
def source? : StartError → Option String
  | settings reason => reason.source?
  | setup reason => reason.source?
  | metrics _ => none

/-- The error with the one behind it, as it is shown at the end of a program: every line of the
latter is indented. -/
def report (e : StartError) : String :=
  let indented (text : String) : String :=
    "\n".intercalate ((Text.split '\n' text).map ("    " ++ ·))
  "Error: " ++ e.message ++
    match e.source? with
    | none => "\n"
    | some text => "\n\nCaused by:\n" ++ indented text ++ "\n"

end StartError

namespace Exporter

/-- The families of a source. -/
def familiesOf (l : ScrapeLoop) : MetricSource → List Family
  | .own series => l.metrics.families series
  | .latest => l.orchestrator.latest.collect

/-- All families that the exporter serves. -/
def gather (e : Exporter) : List Family := e.registry.gather (familiesOf e.loop)

/-- The components whose health is known from the start. -/
def components (o : Orchestrator) : List String :=
  fetcherComponent :: orchestratorComponent :: o.names

/-- The health registry at the start, at the time `now`. -/
def initialHealth (o : Orchestrator) (now : Nat) : HealthRegistry :=
  (components o).foldl (fun h name => h.register name now) .empty

/-- The registry of the exporter's own metrics and the latest metrics of an orchestrator. -/
def registryOf (metrics : ExporterMetrics) (o : Orchestrator) :
    Except MetricError (Registry MetricSource) := do
  let (result, registry) := metrics.register MetricSource.own .empty
  result
  let (result, registry) := registry.register o.latest.descriptors .latest
  result
  pure registry

/-- The exporter that runs some collectors, started at the time `now`. -/
def withCollectors (s : Settings) (collectors : List Collector) (now : Nat) :
    Except StartError Exporter := do
  let orchestrator := Orchestrator.make collectors s.collectorLimit
  let metrics ← (ExporterMetrics.make s.space s.identity).mapError .metrics
  let registry ← (registryOf metrics orchestrator).mapError .metrics
  pure {
    registry
    loop :=
      { fetcher := .ofFile s.topologyFile
        orchestrator, metrics
        health := initialHealth orchestrator now
        director := s.directorName
        interval := s.scrapeInterval
        cycles := 0 } }

/-- The exporter of some settings, started at the time `now`. -/
def start [PatternCompiler] (s : Settings) (now : Nat) : Except StartError Exporter := do
  let collectors ← s.enabledCollectors.mapError .setup
  withCollectors s collectors now

end Exporter

end TopologyExporter
