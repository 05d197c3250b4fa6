import TopologyExporter.Fetch.Error
import TopologyExporter.Health.Answer
import TopologyExporter.Scrape.Report

/-!
# The health registry

Keeps the health of every component by name: the fetcher, the orchestrator and each collector. It
becomes ready with the first scrape that is recorded.
-/

namespace TopologyExporter

/-- The component that stands for fetching. -/
def fetcherComponent : String := "fetcher"

/-- The component that stands for running the collectors. -/
def orchestratorComponent : String := "orchestrator"

/-- The health of all components, and whether a scrape has been completed. -/
structure HealthRegistry where
  components : Keyed String ComponentHealth
  ready : Bool
deriving Repr, DecidableEq, Inhabited

namespace HealthRegistry

/-- No components, not ready. -/
def empty : HealthRegistry := ⟨.empty, false⟩

/-- Sets the health of a component. -/
def update (r : HealthRegistry) (name : String) (health : ComponentHealth) : HealthRegistry :=
  { r with components := r.components.put name health }

/-- Adds a component, which is healthy at first. -/
def register (r : HealthRegistry) (name : String) (now : Int) : HealthRegistry :=
  r.update name (.healthy now)

/-- Records a cycle that was skipped because there was no snapshot. -/
def recordFetchFailure (r : HealthRegistry) (error : FetchError) (now : Int) : HealthRegistry :=
  r.update fetcherComponent (.degraded error.message now)

/-- The health of a collector after an outcome. -/
def ofOutcome (o : Outcome) (now : Int) : ComponentHealth :=
  match o.error with
  | none => .healthy now
  | some e => .degraded e.message now

/-- The components after a scrape: the fetcher worked, every collector did as its outcome says, and
the orchestrator is unhealthy if all of them failed. -/
def componentsAfter (components : Keyed String ComponentHealth)
    (report : ScrapeReport) (now : Int) :
    Keyed String ComponentHealth :=
  -- in this order: a collector may have the name of another component
  let components := components.put fetcherComponent (.healthy now)
  let components :=
    report.outcomes.foldl (fun c o => c.put o.collector (ofOutcome o now)) components
  components.put orchestratorComponent
    (if report.allFailed then .unhealthy "All collectors failed" now else .healthy now)

/-- Records a completed scrape. -/
def recordScrape (r : HealthRegistry) (report : ScrapeReport) (now : Int) : HealthRegistry :=
  ⟨componentsAfter r.components report now, true⟩

/-- The health of all components. -/
def health (r : HealthRegistry) : HealthAnswer := .ofComponents r.components

/-- Whether the exporter is ready: a scrape was completed, and no component is unhealthy. -/
def readinessOf (scraped : Bool) (health : HealthAnswer) : ReadinessAnswer :=
  let reason :=
    if !scraped then some "No scrape cycle completed yet"
    else if health.status = .unhealthy then some "Critical component unhealthy"
    else none
  ⟨reason.isNone, reason⟩

/-- Whether the exporter is ready now. -/
def readiness (r : HealthRegistry) : ReadinessAnswer := readinessOf r.ready r.health

end HealthRegistry

end TopologyExporter
