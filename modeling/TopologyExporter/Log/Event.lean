import TopologyExporter.Fetch.Error
import TopologyExporter.Scrape.Report

/-!
# Log events

What the exporter reports about itself while it runs, as fields with a message.
-/

namespace TopologyExporter

/-- How grave an event is. -/
inductive LogLevel
  | info
  | warn
deriving Repr, DecidableEq, Inhabited

/-- The name of a level. -/
def LogLevel.name : LogLevel → String
  | info => "INFO"
  | warn => "WARN"

/-- The value of a field. -/
inductive LogValue
  | text (s : String)
  | number (n : Nat)
deriving Repr, DecidableEq, Inhabited

/-- An event: its level, its message and its fields. -/
structure LogEvent where
  level : LogLevel
  message : String
  fields : List (String × LogValue)
deriving Repr, DecidableEq, Inhabited

namespace LogEvent

/-- An event that tells something. -/
def info (message : String) (fields : List (String × LogValue) := []) : LogEvent :=
  ⟨.info, message, fields⟩

/-- An event that warns of something. -/
def warn (message : String) (fields : List (String × LogValue) := []) : LogEvent :=
  ⟨.warn, message, fields⟩

/-- The event of a start of the exporter. -/
def exporterStarted (director version : String) (collectors : List String) : LogEvent :=
  .info "BOSH exporter started"
    [("event", .text "exporter_started"), ("director", .text director),
      ("exporter_version", .text version), ("collectors", .text (Text.quotedList collectors))]

/-- The event of an end of the exporter. -/
def exporterShutdown (director reason : String) : LogEvent :=
  .info "BOSH exporter shutting down"
    [("event", .text "exporter_shutdown"), ("director", .text director), ("reason", .text reason)]

/-- The event of a cycle that is skipped. -/
def fetchFailed (director : String) (error : FetchError) : LogEvent :=
  .warn "Failed to fetch topology, skipping scrape cycle"
    [("event", .text "fetch_failed"), ("director", .text director),
      ("error", .text error.message)]

/-- The event of a collector that failed in a cycle. -/
def collectorFailed (director : String) (collector : String) (error : CollectorError) : LogEvent :=
  .warn "Collector failed"
    [("event", .text "collector_failed"), ("director", .text director),
      ("collector", .text collector), ("error", .text error.message)]

/-- The event of a completed cycle. -/
def scrapeCompleted (director : String) (report : ScrapeReport) : LogEvent :=
  .info "Scrape cycle complete"
    [("event", .text "scrape_completed"), ("director", .text director),
      ("collectors", .number report.outcomes.length), ("failed", .number report.failures.length),
      ("elapsed_ms", .number report.duration.millisWord)]

/-- The event of a collector whose earlier output goes on being served. -/
def outputKept (collector : String) (error : CollectorError) : LogEvent :=
  .warn "Collector failed, keeping previously published metrics"
    [("collector", .text collector), ("error", .text error.message)]

end LogEvent

namespace ScrapeReport

/-- The events of publishing a scrape. -/
def publishEvents (r : ScrapeReport) : List LogEvent :=
  r.errors.map fun e => .outputKept e.1 e.2

/-- The events of a completed cycle: one for each failure, and one for the cycle. -/
def cycleEvents (r : ScrapeReport) (director : String) : List LogEvent :=
  (r.errors.map fun e => .collectorFailed director e.1 e.2) ++ [.scrapeCompleted director r]

end ScrapeReport

end TopologyExporter
