import TopologyExporter.Proofs.Health.Registry
import TopologyExporter.Service.Endpoint

/-!
# Probes — what they answer after any calls

The health of every component after any scrapes and failed fetches is what was recorded last of it,
and the probes answer by the last report alone: `/healthz` fails while all collectors of it failed,
and `/readyz` fails as well as long as there is none.

## Results

* `Exporter.respond_health`, `respond_readiness` — the probes answer by the overall status.
* `probes_follow_last_report`                    — entries and answers after any calls.
-/

namespace TopologyExporter

open HealthCall

-- ---------------------------------------------------------------------------
-- Answers of the probes
-- ---------------------------------------------------------------------------

namespace Exporter

private theorem health_path : Endpoint.ofPath? (Endpoint.path "/healthz") = some .health := by
  decide +kernel

private theorem readiness_path : Endpoint.ofPath? (Endpoint.path "/readyz") = some .readiness := by
  decide +kernel

private theorem allows_get : allowedMethods.contains "GET" = true := by decide

/-- The probe for health fails exactly while something is unhealthy. -/
theorem respond_health (e : Exporter) :
    (e.respond ⟨"GET", "/healthz"⟩).1.status =
      if e.loop.health.health.status = .unhealthy then 503 else 200 := by
  simp only [respond, health_path, allows_get, answer, Response.probe, Response.text]
  by_cases h : e.loop.health.health.status = .unhealthy <;> simp [h]

/-- The probe for readiness succeeds exactly once a scrape has been recorded, while nothing is
unhealthy. -/
theorem respond_readiness (e : Exporter) :
    (e.respond ⟨"GET", "/readyz"⟩).1.status =
      if e.loop.health.ready = true ∧ e.loop.health.health.status ≠ .unhealthy then 200
      else 503 := by
  have hAnswer := HealthRegistry.readiness_ready_iff (r := e.loop.health)
  simp only [respond, readiness_path, allows_get, answer, Response.probe, Response.text]
  by_cases h : e.loop.health.ready = true ∧ e.loop.health.health.status ≠ .unhealthy
  · simp [hAnswer.mpr h, h]
  · simp [mt hAnswer.mp h, h]

end Exporter

-- ---------------------------------------------------------------------------
-- Whole runs
-- ---------------------------------------------------------------------------

open HealthRegistry

/-- Without a report that was recorded a registry does not become ready. -/
theorem ready_iff_lastReport? {r : HealthRegistry} (h : r.ready = false) (calls : List HealthCall) :
    (r.after calls).ready = true ↔ ∃ report now, lastReport? calls = some (report, now) := by
  rw [ready_after, h, Bool.false_or, List.any_eq_true, lastReport?]
  constructor
  · rintro ⟨c, hMem, hReport⟩
    have hFound : (calls.reverse.findSome? report?).isSome := by
      rw [List.findSome?_isSome_iff]
      exact ⟨c, List.mem_reverse.mpr hMem, hReport⟩
    obtain ⟨⟨report, now⟩, hLast⟩ := Option.isSome_iff_exists.mp hFound
    exact ⟨report, now, hLast⟩
  · rintro ⟨report, now, hLast⟩
    obtain ⟨c, hMem, hReport⟩ := List.exists_of_findSome?_eq_some hLast
    exact ⟨c, List.mem_reverse.mp hMem, by simp [hReport]⟩

/-- **What was recorded last counts.** Register any components and record any failed fetches and
reports, in each of which the collectors have names of their own. Then

* a collector is healthy, or degraded with the text of its error, as the last report says that has
  an outcome of it;
* the fetcher is degraded exactly if the last call recorded a failed fetch;
* the orchestrator is unhealthy exactly if the last report has outcomes and all of them are
  failures;
* the overall status is the worst of all, in whatever order they are taken;
* the probe for health fails exactly while the orchestrator is unhealthy;
* the probe for readiness succeeds exactly if there was a report, and the last one is empty or has a
  success, whatever fetches failed since. -/
theorem probes_follow_last_report (components : List (String × Int)) (calls : List HealthCall)
    (hApart : ∀ c ∈ calls, ∀ report now, c.report? = some (report, now) → report.NamesApart)
    (e : Exporter) (hHealth : e.loop.health = (registered components).after calls) :
    (∀ name o now, name ≠ fetcherComponent → name ≠ orchestratorComponent →
      lastOutcome? name calls = some (o, now) →
      e.loop.health.components.get? name = some (match o.error with
        | none => .healthy now
        | some error => .degraded error.message now)) ∧
    (e.loop.health.statusOf fetcherComponent = some .degraded ↔
      ∃ error now, calls.getLast? = some (.fetchFailed error now)) ∧
    (e.loop.health.statusOf orchestratorComponent = some .unhealthy ↔
      ∃ report now, lastReport? calls = some (report, now) ∧ report.outcomes ≠ [] ∧
        ∀ o ∈ report.outcomes, o.isSuccess = false) ∧
    (∀ statuses, statuses.Perm (e.loop.health.components.values.map ComponentHealth.status) →
      .worst statuses = e.loop.health.health.status ∧
      (∀ s ∈ statuses, s.badness ≤ e.loop.health.health.status.badness) ∧
      (statuses ≠ [] → e.loop.health.health.status ∈ statuses)) ∧
    (e.respond ⟨"GET", "/healthz"⟩).1.status =
      (if e.loop.health.statusOf orchestratorComponent = some .unhealthy then 503 else 200) ∧
    ((e.respond ⟨"GET", "/readyz"⟩).1.status = 200 ↔
      ∃ report now, lastReport? calls = some (report, now) ∧
        (report.outcomes = [] ∨ ∃ o ∈ report.outcomes, o.isSuccess = true)) := by
  obtain ⟨hAll, hReady⟩ := registered_fresh components
  have hOrchestrator := orchestrator_unhealthy_iff hAll calls
  have hStatus := status_after hApart hAll
  rw [Exporter.respond_health, Exporter.respond_readiness, hHealth]
  refine ⟨?_, ?_, ?_, ?_, ?_, ?_⟩
  · intro name o now hFetcher hName hLast
    rw [collector_after hApart hFetcher hName, hLast]
    rfl
  · rw [statusOf, fetcher_after hApart]
    cases hLast : calls.getLast? with
    | none =>
      simp only [Option.bind_none, Option.none_or, reduceCtorEq, exists_false, iff_false]
      intro hDegraded
      obtain ⟨h, hGet, hEq⟩ := Option.map_eq_some_iff.mp hDegraded
      simp [hAll _ h hGet] at hEq
    | some c =>
      cases c with
      | fetchFailed error now => simp [entryOf?, ComponentHealth.degraded]
      | scraped report now =>
        simp [entryOf?, ComponentHealth.healthy, fetcherComponent, orchestratorComponent]
  · rw [hOrchestrator]
    simp only [ScrapeReport.allFailed_iff]
  · intro statuses hPerm
    have hWorst := Status.worst_perm hPerm
    refine ⟨hWorst, fun s hs => ?_, fun hSome => ?_⟩
    · show s.badness ≤ (Status.worst _).badness
      rw [← hWorst]
      exact Status.badness_le_worst hs
    · show Status.worst _ ∈ statuses
      rw [← hWorst]
      exact Status.worst_mem hSome
  · simp only [hStatus]
  · have hOr (A : Prop) [Decidable A] : (if A then 200 else 503) = 200 ↔
        A := by split <;> simp [*]
    rw [hOr, ready_iff_lastReport? hReady, Ne, hStatus, hOrchestrator]
    constructor
    · rintro ⟨⟨report, now, hLast⟩, hSome⟩
      refine ⟨report, now, hLast, ?_⟩
      have hNot : ¬report.allFailed = true :=
        fun hAllFailed => hSome ⟨report, now, hLast, hAllFailed⟩
      rw [ScrapeReport.allFailed_iff] at hNot
      grind
    · rintro ⟨report, now, hLast, hGood⟩
      refine ⟨⟨report, now, hLast⟩, ?_⟩
      rintro ⟨report', now', hLast', hAllFailed⟩
      rw [hLast] at hLast'
      cases hLast'
      rw [ScrapeReport.allFailed_iff] at hAllFailed
      grind

/-- Calls with a scrape in which all failed, one that is better, and a fetch that fails after it. -/
private def eventfulCalls : List HealthCall :=
  [.scraped ⟨[⟨"files", some .sinkClosed⟩], .ofSeconds 0⟩ 10,
    .scraped ⟨[⟨"files", none⟩, ⟨"gauges", some (.panicked "gauges")⟩],
      .ofSeconds 0⟩ 20,
    .fetchFailed (.unavailable "refused") 30]

/-- An exporter whose health is what these calls recorded. -/
private def eventfulExporter : Exporter :=
  { (default : Exporter) with
    loop := { (default : Exporter).loop with
      health := (registered [("fetcher", 0), ("orchestrator", 0), ("files", 0)]).after
        eventfulCalls } }

/-- After these calls both probes succeed, although a fetch failed last, and the panic is still
shown. -/
theorem eventful_probes_succeed :
    (∀ c ∈ eventfulCalls, ∀ report now, c.report? = some (report, now) →
      report.NamesApart) ∧
    (eventfulExporter.respond ⟨"GET", "/readyz"⟩).1.status = 200 ∧
    (eventfulExporter.respond ⟨"GET", "/healthz"⟩).1.status = 200 ∧
    eventfulExporter.loop.health.statusOf fetcherComponent = some .degraded ∧
    eventfulExporter.loop.health.components.get? "gauges" =
      some (.degraded "collector gauges panicked" 20) := by
  have hApart : ∀ c ∈ eventfulCalls, ∀ report now, c.report? = some (report, now) →
      report.NamesApart := by
    intro c hc report now hReport
    simp only [eventfulCalls, List.mem_cons, List.not_mem_nil, or_false] at hc
    rcases hc with rfl | rfl | rfl <;> cases hReport <;> exact ⟨by decide, by decide, by decide⟩
  obtain ⟨hCollector, hFetcher, hOrchestrator, -, hHealth, hReady⟩ :=
    probes_follow_last_report _ _ hApart eventfulExporter rfl
  refine ⟨hApart, hReady.mpr ⟨_, _, rfl, .inr ⟨⟨"files", none⟩, by decide, rfl⟩⟩, ?_,
    hFetcher.mpr ⟨_, _, rfl⟩, ?_⟩
  · rw [hHealth, if_neg]
    intro hUnhealthy
    obtain ⟨report, now, hLast, -, hAll⟩ := hOrchestrator.mp hUnhealthy
    cases hLast
    exact absurd (hAll ⟨"files", none⟩ (by decide)) (by decide)
  · rw [hCollector "gauges" ⟨"gauges", some (.panicked "gauges")⟩ 20 (by decide)
      (by decide) rfl]
    decide +kernel

end TopologyExporter
