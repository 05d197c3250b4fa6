import TopologyExporter.Health.Registry
import TopologyExporter.Log.Event
import TopologyExporter.Loop.Fetcher
import TopologyExporter.Metric.Exporter
import TopologyExporter.Scrape.Orchestrator

/-!
# Cycles

One cycle of the scrape loop: a snapshot is fetched and scraped, and what came of it is recorded in
the metrics, the health registry and the log.

* `ScrapeLoop.skip` is a cycle without a snapshot;
* `ScrapeLoop.record` is the end of a cycle with one;
* `ScrapeLoop.runOnce` is a whole cycle.
-/

namespace TopologyExporter

/-- A scrape loop: where its snapshots come from, who scrapes them, and its records. `cycles` counts
the cycles so far. -/
structure ScrapeLoop where
  fetcher : Fetcher
  orchestrator : Orchestrator
  health : HealthRegistry
  metrics : ExporterMetrics
  director : String
  interval : Duration
  cycles : Nat
deriving Inhabited

/-- What the clocks show during a cycle: the seconds since 1970, and the times of the scrape. -/
structure CycleClock where
  now : Nat
  scrape : ScrapeClock
deriving Inhabited

/-- A cycle that is over: the report if there was a snapshot, the loop and the files after it, the
events in order, and how many milliseconds it took. -/
structure Cycle where
  report : Option ScrapeReport
  loop : ScrapeLoop
  storage : Storage
  events : List LogEvent
  elapsed : Nat
deriving Inhabited

namespace ScrapeLoop

/-- The loop after a cycle that was skipped because of an error, with the events of the cycle. -/
def skip (l : ScrapeLoop) (error : FetchError) (now : Nat) : ScrapeLoop × List LogEvent :=
  ({ l with
      metrics := l.metrics.recordFetchError
      health := l.health.recordFetchFailure error now
      cycles := l.cycles + 1 },
    [.fetchFailed l.director error])

/-- The loop after a scrape, with the events of the cycle. -/
def record (l : ScrapeLoop) (scraped : Scraped) (now : Nat) : ScrapeLoop × List LogEvent :=
  let report := scraped.report
  ({ l with
      orchestrator := scraped.orchestrator
      metrics := l.metrics.recordScrape report now
      health := l.health.recordScrape report now
      cycles := l.cycles + 1 },
    report.publishEvents ++ report.cycleEvents l.director)

/-- Runs one cycle. -/
def runOnce (l : ScrapeLoop) (storage : Storage) (clock : CycleClock) :
    Except CapacityError Cycle :=
  let fetched := l.fetcher l.cycles storage.tree
  match fetched.result with
  | .error e =>
    let (loop, events) := l.skip e clock.now
    .ok ⟨none, loop, storage, events, fetched.elapsed⟩
  | .ok s => do
    let scraped ← l.orchestrator.scrape storage s clock.scrape
    let (loop, events) := l.record scraped clock.now
    pure ⟨some scraped.report, loop, scraped.storage, events, fetched.elapsed + scraped.elapsed⟩

end ScrapeLoop

/-! ## Parts -/

/-- The interval of a loop if none is set. -/
def defaultInterval : Duration := .ofSeconds 30

/-- What the director is called in the log if no one says. -/
def unknownDirector : String := "unknown"

/-- The parts that a loop is put together from. -/
structure LoopParts where
  fetcher : Option Fetcher
  orchestrator : Option Orchestrator
  metrics : Option ExporterMetrics
  health : Option HealthRegistry
  director : Option String
  interval : Duration
deriving Inhabited

/-- A part without which there is no loop. -/
inductive MissingPart
  | fetcher
  | orchestrator
  | metrics
  | interval
deriving Repr, DecidableEq, Inhabited

/-- The text of the error. -/
def MissingPart.message : MissingPart → String
  | fetcher => "Fetcher is required"
  | orchestrator => "Orchestrator is required"
  | metrics => "Exporter metrics are required"
  | interval => "Scrape interval must be positive"

/-- The loop of some parts; the first that is missing is the error. -/
def LoopParts.build (p : LoopParts) : Except MissingPart ScrapeLoop :=
  match p.fetcher, p.orchestrator, p.metrics with
  | none, _, _ => .error .fetcher
  | some _, none, _ => .error .orchestrator
  | some _, some _, none => .error .metrics
  | some fetcher, some orchestrator, some metrics =>
    -- with no time between cycles the loop would never come to its signal
    if p.interval.isZero then .error .interval
    else
      .ok
        { fetcher, orchestrator, metrics
          health := p.health.getD .empty
          director := p.director.getD unknownDirector
          interval := p.interval
          cycles := 0 }

end TopologyExporter
