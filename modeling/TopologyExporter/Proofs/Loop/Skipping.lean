import TopologyExporter.Proofs.Loop.Records

/-!
# Skipped cycles — all that they change

A cycle whose fetch fails is over before any collector is called. What it leaves behind are records
of the error: three of the metrics, the health of the fetcher, and an event. Whether the exporter is
ready depends on the health of all components together, the fetcher among them; it does not change
either, because the fetcher is never unhealthy, before or after.

## Results

* `HealthRegistry.not_unhealthy_record`   — only of the orchestrator is it recorded that it is
  unhealthy.
* `ScrapeLoop.Runs.fetcher_not_unhealthy` — the fetcher never is, in no loop that can be reached.
* `HealthRegistry.readiness_fetchFailed`  — a failed fetch leaves the answer to a probe as it was.
* `skipped_cycle_leaves_rest`             — what a skipped cycle changes, and all that it leaves.
-/

namespace TopologyExporter

-- ---------------------------------------------------------------------------
-- Health
-- ---------------------------------------------------------------------------

namespace HealthRegistry

variable {r : HealthRegistry} {name : String}

theorem ofOutcome_not_unhealthy (o : Outcome) (now : Int) :
    (ofOutcome o now).status ≠ .unhealthy := by
  unfold ofOutcome
  cases o.error with
  | none => simp [ComponentHealth.healthy]
  | some error => simp [ComponentHealth.degraded]

/-- The entries of collectors, whatever they are called, make nothing unhealthy. -/
theorem not_unhealthy_foldl {outcomes : List Outcome} {components : Keyed String ComponentHealth}
    (now : Int) (h : ∀ health, components.get? name = some health →
      health.status ≠ .unhealthy) :
    ∀ health,
      (outcomes.foldl (fun c o => c.put o.collector (ofOutcome o now)) components).get? name =
        some health →
      health.status ≠ .unhealthy := by
  induction outcomes generalizing components with
  | nil => exact h
  | cons o rest ih =>
    refine ih fun health hGet => ?_
    rw [Keyed.get?_put] at hGet
    split at hGet
    · exact Option.some.inj hGet ▸ ofOutcome_not_unhealthy o now
    · exact h health hGet

/-- **Only of the orchestrator is it recorded that it is unhealthy**, whatever the collectors are
called. -/
theorem not_unhealthy_record (c : HealthCall) (hName : name ≠ orchestratorComponent)
    (h : ∀ health, r.components.get? name = some health → health.status ≠ .unhealthy) :
    ∀ health, (r.record c).components.get? name = some health →
      health.status ≠ .unhealthy := by
  cases c with
  | fetchFailed error now =>
    intro health hGet
    change (r.components.put _ _).get? name = _ at hGet
    rw [Keyed.get?_put] at hGet
    split at hGet
    · rw [← Option.some.inj hGet]
      simp [ComponentHealth.degraded]
    · exact h health hGet
  | scraped report now =>
    intro health hGet
    change (componentsAfter r.components report now).get? name = _ at hGet
    rw [componentsAfter, Keyed.get?_put, if_neg hName] at hGet
    refine not_unhealthy_foldl now (fun health' hFetcher => ?_) health hGet
    rw [Keyed.get?_put] at hFetcher
    split at hFetcher
    · rw [← Option.some.inj hFetcher]
      simp [ComponentHealth.healthy]
    · exact h health' hFetcher

/-- A failed fetch changes the entry of the fetcher, … -/
theorem get?_fetchFailed (r : HealthRegistry) (error : FetchError) (now : Int) :
    (r.recordFetchFailure error now).components.get? fetcherComponent =
      some (.degraded error.message now) := by
  show (r.components.put _ _).get? _ = _
  rw [Keyed.get?_put, if_pos rfl]

/-- … and no other. -/
theorem get?_fetchFailed_of_ne (r : HealthRegistry) (error : FetchError) (now : Int)
    (hName : name ≠ fetcherComponent) :
    (r.recordFetchFailure error now).components.get? name = r.components.get? name := by
  show (r.components.put _ _).get? _ = _
  rw [Keyed.get?_put, if_neg hName]

/-- **A failed fetch leaves the answer to a probe as it was**, if the fetcher was not unhealthy: it
is not so afterwards, and the others are as they were. -/
theorem readiness_fetchFailed (error : FetchError) (now : Int)
    (h : ∀ health, r.components.get? fetcherComponent = some health →
      health.status ≠ .unhealthy) :
    (r.recordFetchFailure error now).readiness = r.readiness := by
  have hStatus : (r.recordFetchFailure error now).health.status = .unhealthy ↔
      r.health.status = .unhealthy := by
    rw [status_eq_unhealthy_iff, status_eq_unhealthy_iff]
    refine exists_congr fun name => ?_
    by_cases hName : name = fetcherComponent
    · subst hName
      rw [statusOf_eq_some_iff, statusOf_eq_some_iff, get?_fetchFailed]
      constructor
      · rintro ⟨health, hGet, hUnhealthy⟩
        rw [← Option.some.inj hGet] at hUnhealthy
        simp [ComponentHealth.degraded] at hUnhealthy
      · rintro ⟨health, hGet, hUnhealthy⟩
        exact absurd hUnhealthy (h health hGet)
    · rw [statusOf, statusOf, get?_fetchFailed_of_ne r error now hName]
  have hReady : (r.recordFetchFailure error now).ready = r.ready := rfl
  simp only [readiness, readinessOf, hReady, hStatus]

end HealthRegistry

-- ---------------------------------------------------------------------------
-- Loops
-- ---------------------------------------------------------------------------

namespace ScrapeLoop

variable {first l l' : ScrapeLoop} {report : Option ScrapeReport} {events : List LogEvent}

/-- A cycle records in the health what its fetch or its scrape came to. -/
theorem Cycles.health_eq (h : l.Cycles report events l') :
    ∃ c, l'.health = l.health.record c := by
  cases h with
  | skipped error now => exact ⟨.fetchFailed error now, rfl⟩
  | completed hScrape now => exact ⟨.scraped _ now, rfl⟩

/-- **The fetcher is never unhealthy**, by induction on the cycles. -/
theorem Runs.fetcher_not_unhealthy (h : first.Runs l) (hHealthy : first.health.AllHealthy) :
    ∀ health, l.health.components.get? fetcherComponent = some health →
      health.status ≠ .unhealthy := by
  induction h with
  | start =>
    intro health hGet
    simp [hHealthy _ health hGet]
  | cycle _ hCycle ih =>
    obtain ⟨c, hRecord⟩ := hCycle.health_eq
    rw [hRecord]
    exact HealthRegistry.not_unhealthy_record c (by decide) ih

end ScrapeLoop

/-- **A skipped cycle leaves the rest as it is.** Take a loop at whose start every component that is
known is healthy, after any number of cycles, with any fetches, any outcomes and any order of steps
in its scrapes. If its next fetch fails, whatever the error:

* the cycle returns no report, logs the error, and leaves the files and the orchestrator, with all
  that it serves, as they are; it would do the same with any other orchestrator, so that no
  collector is called;
* of the metrics it counts a scrape and a failed one and shows the error, and changes no other;
* of the health it says that the fetcher is degraded, with the text of the error, and changes no
  other entry, nor whether a scrape has been completed; and the answer to a probe for readiness is
  what it was. -/
theorem skipped_cycle_leaves_rest {first l : ScrapeLoop} (hHealthy : first.health.AllHealthy)
    (hPast : first.Runs l) (storage : Storage) (clock : CycleClock) {error : FetchError}
    (hFetch : (l.fetch storage.tree).result = .error error) :
    ∃ c, l.runOnce storage clock = .ok c ∧
      (c.report = none ∧ c.events = [.fetchFailed l.director error] ∧ c.storage = storage ∧
        c.loop.orchestrator = l.orchestrator ∧
        ∀ o : Orchestrator, ({ l with orchestrator := o } : ScrapeLoop).runOnce storage clock =
          .ok { c with loop := { c.loop with orchestrator := o } }) ∧
      c.loop.metrics =
        { l.metrics with
          scrapes := l.metrics.scrapes + 1
          scrapeErrors := l.metrics.scrapeErrors + 1
          lastError := 1 } ∧
      c.loop.health.components.get? fetcherComponent = some (.degraded error.message clock.now) ∧
      (∀ name, name ≠ fetcherComponent →
        c.loop.health.components.get? name = l.health.components.get? name) ∧
      c.loop.health.ready = l.health.ready ∧
      c.loop.health.readiness = l.health.readiness := by
  have hRun :
      ∀ o : Orchestrator, ({ l with orchestrator := o } : ScrapeLoop).runOnce storage clock =
      .ok ⟨none, { (l.skip error clock.now).1 with orchestrator := o }, storage,
        [.fetchFailed l.director error], (l.fetch storage.tree).elapsed⟩ := by
    intro o
    have hSame : (l.fetcher l.cycles storage.tree).result = .error error := hFetch
    simp only [ScrapeLoop.runOnce, hSame]
    rfl
  have hFetcher := hPast.fetcher_not_unhealthy hHealthy
  refine ⟨_, hRun l.orchestrator, ⟨rfl, rfl, rfl, rfl, hRun⟩, rfl, ?_, ?_, rfl, ?_⟩
  · exact l.health.get?_fetchFailed error clock.now
  · exact fun name hName => l.health.get?_fetchFailed_of_ne error clock.now hName
  · exact HealthRegistry.readiness_fetchFailed error clock.now hFetcher

/-- A loop over a collector that always fails; all its fetches but the first do so, too. -/
private def failingLoop : ScrapeLoop :=
  { (default : ScrapeLoop) with
    fetcher := fun number _ => ⟨if number = 0 then .ok [] else .error (.unavailable "down"), 0⟩
    orchestrator := .make [⟨"broken", [], fun _ _ _ => ⟨[], .panics⟩⟩] (.ofSeconds 10) 1
    health := .registered [("fetcher", 0), ("orchestrator", 0), ("broken", 0)] }

private def failedCycle : Cycle :=
  match failingLoop.runOnce ⟨.empty, []⟩ default with
  | .ok c => c
  | .error _ => default

private theorem failedCycle_runs : failingLoop.Runs failedCycle.loop := by
  have hOk : (failingLoop.runOnce ⟨.empty, []⟩ default).isOk = true := by decide +kernel
  have hCycle : failingLoop.Cycles failedCycle.report failedCycle.events failedCycle.loop := by
    unfold failedCycle
    split
    · exact ScrapeLoop.runOnce_takes ‹_›
    · rename_i error hError
      simp [hError, Except.isOk, Except.toBool] at hOk
  exact .cycle .start hCycle

/-- After a scrape in which all collectors failed, a fetch that fails leaves the exporter as unready
as it was, for the same reason. -/
theorem failing_cycle_leaves_rest :
    failingLoop.health.AllHealthy ∧ failingLoop.Runs failedCycle.loop ∧
    ∃ c, failedCycle.loop.runOnce ⟨.empty, []⟩ default = .ok c ∧
      c.loop.metrics.scrapes = 2 ∧
      c.loop.health.components.get? "fetcher" =
        some (.degraded "topology source unavailable: down" 0) ∧
      c.loop.health.components.get? "orchestrator" = some (.unhealthy "All collectors failed" 0) ∧
      c.loop.health.readiness = ⟨false, some "Critical component unhealthy"⟩ := by
  have hHealthy : failingLoop.health.AllHealthy := (HealthRegistry.registered_fresh _).1
  have hFetch : (failedCycle.loop.fetch .empty).result = .error (.unavailable "down") := by
    decide +kernel
  obtain ⟨c, hRun, -, hMetrics, hFetcher, hOthers, -, hReadiness⟩ :=
    skipped_cycle_leaves_rest hHealthy failedCycle_runs ⟨.empty, []⟩ default hFetch
  refine ⟨hHealthy, failedCycle_runs, c, hRun, ?_, ?_, ?_, ?_⟩
  · rw [hMetrics]
    decide +kernel
  · exact hFetcher.trans (by decide +kernel)
  · exact (hOthers "orchestrator" (by decide)).trans (by decide +kernel)
  · exact hReadiness.trans (by decide +kernel)

end TopologyExporter
