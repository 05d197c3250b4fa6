import TopologyExporter.Scrape.Latest
import TopologyExporter.Scrape.Run

/-!
# The orchestrator

Runs all collectors on a snapshot and publishes what the successful ones sent.

* `Orchestrator.start` is the run of a scrape at its beginning;
* `Orchestrator.conclude` is what a run that is over means for the orchestrator;
* `Orchestrator.scrape` follows a run from the one to the other.
-/

namespace TopologyExporter

/-- The collectors in the order of registration, the time limit of each call, the capacity of the
channel, what is published, and the number of scrapes so far. -/
structure Orchestrator where
  collectors : List Collector
  limit : Duration
  buffer : Nat
  latest : LatestMetrics
  scrapes : Nat
deriving Inhabited

/-- What the clocks show during a scrape: at the end of each collector's call, and for all of it. -/
structure ScrapeClock where
  calls : String → RunClock
  elapsed : Duration
deriving Inhabited

/-- A scrape that is over: its report, the orchestrator and the files after it, and how many
milliseconds of the time that pauses and limits count in have passed. -/
structure Scraped where
  report : ScrapeReport
  orchestrator : Orchestrator
  storage : Storage
  elapsed : Nat
deriving Inhabited

/-- The outcomes of a run, in the order of its tasks. -/
def Run.outcomes (r : Run) : List Outcome := r.tasks.map fun t => ⟨t.collector, t.outcome⟩

namespace Orchestrator

/-- The time limit of a call if none is set. -/
def defaultLimit : Duration := .ofSeconds 10

/-- The capacity of the channel if none is set. -/
def defaultBuffer : Nat := 1000

/-- An orchestrator that has not scraped yet. -/
def make (collectors : List Collector) (limit : Duration := defaultLimit)
    (buffer : Nat := defaultBuffer) : Orchestrator :=
  ⟨collectors, limit, buffer, .make (collectors.flatMap Collector.descriptors), 0⟩

/-- The names of the collectors in the order of registration. -/
def names (o : Orchestrator) : List String := o.collectors.map Collector.name

/-- The calls of the next scrape. -/
def calls (o : Orchestrator) (s : Snapshot) (clock : String → RunClock) : List (String × Call) :=
  o.collectors.map fun c => (c.name, c.call o.scrapes s (clock c.name))

/-- The run of the next scrape. -/
def start (o : Orchestrator) (storage : Storage) (s : Snapshot) (clock : String → RunClock) :
    Except CapacityError Run := do
  let channel ← Channel.make o.buffer
  pure (.start (o.calls s clock) o.limit channel storage)

/-- Publishes what came of a run. -/
def conclude (o : Orchestrator) (r : Run) (elapsed : Duration) : Scraped where
  report := ⟨r.outcomes, elapsed⟩
  orchestrator :=
    { o with latest := o.latest.publish r.received r.outcomes, scrapes := o.scrapes + 1 }
  storage := r.storage
  elapsed := r.now

/-- Scrapes a snapshot. -/
def scrape (o : Orchestrator) (storage : Storage) (s : Snapshot) (clock : ScrapeClock) :
    Except CapacityError Scraped := do
  let run ← o.start storage s clock.calls
  pure (o.conclude run.finish clock.elapsed)

end Orchestrator

end TopologyExporter
