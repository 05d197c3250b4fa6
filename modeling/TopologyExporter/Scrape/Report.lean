import TopologyExporter.Collector.Error

/-!
# Scrape reports

What came of one scrape: the outcome of every collector, in the order of registration.
-/

namespace TopologyExporter

/-- The outcome of one collector; without an error it succeeded. -/
structure Outcome where
  collector : String
  error : Option CollectorError
deriving Repr, DecidableEq, Inhabited

namespace Outcome

/-- Whether the collector succeeded. -/
def isSuccess (o : Outcome) : Bool := o.error.isNone

end Outcome

/-- The outcomes of a scrape and how long it took. -/
structure ScrapeReport where
  outcomes : List Outcome
  duration : Duration
deriving Repr, DecidableEq, Inhabited

namespace ScrapeReport

/-- Whether every collector succeeded. -/
def isSuccess (r : ScrapeReport) : Bool := r.outcomes.all Outcome.isSuccess

/-- The outcomes of the collectors that failed. -/
def failures (r : ScrapeReport) : List Outcome := r.outcomes.filter fun o => !o.isSuccess

/-- The collectors that failed, with their errors. -/
def errors (r : ScrapeReport) : List (String × CollectorError) :=
  r.outcomes.filterMap fun o => o.error.map fun e => (o.collector, e)

/-- Whether there are outcomes and all are failures. -/
def allFailed (r : ScrapeReport) : Bool :=
  !r.outcomes.isEmpty && r.failures.length = r.outcomes.length

/-- The first outcome of a collector. -/
def outcome? (r : ScrapeReport) (collector : String) : Option Outcome :=
  r.outcomes.find? (·.collector = collector)

end ScrapeReport

end TopologyExporter
