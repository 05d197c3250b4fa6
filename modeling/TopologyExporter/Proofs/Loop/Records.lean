import TopologyExporter.Proofs.Health.Registry
import TopologyExporter.Proofs.Loop.Cycle

/-!
# Records of a cycle — four that agree

A cycle leaves its traces in four places: what it returns, the exporter's own metrics, the health of
the components, and the log. Each is written by code of its own, and the metrics and the health stay
from one cycle to the next. After every cycle all four say alike whether it succeeded, and how many
collectors failed.

## Results

* `ExporterMetrics.totalErrors_recordScrape` — how many failures the metrics count.
* `HealthRegistry.degradedCollectors_record` — which collectors are degraded after a scrape.
* `ScrapeLoop.runOnce_takes`                 — a cycle that is run is one of those considered
  here.
* `records_of_cycle_agree`                   — the four records after every cycle of any loop.
-/

namespace TopologyExporter

-- ---------------------------------------------------------------------------
-- Reports
-- ---------------------------------------------------------------------------

namespace ScrapeReport

variable {r : ScrapeReport}

theorem isSuccess_iff_failures : r.isSuccess = true ↔ r.failures = [] := by
  simp [isSuccess, failures, List.filter_eq_nil_iff]

/-- Every failure has one error. -/
theorem errors_length (r : ScrapeReport) : r.errors.length = r.failures.length := by
  rw [errors, failures]
  induction r.outcomes with
  | nil => rfl
  | cons o rest ih =>
    cases hError : o.error with
    | none => simpa [hError, Outcome.isSuccess] using ih
    | some error => simpa [hError, Outcome.isSuccess] using ih

theorem errors_eq_nil_iff : r.errors = [] ↔ r.isSuccess = true := by
  rw [isSuccess_iff_failures, ← List.length_eq_zero_iff, ← List.length_eq_zero_iff,
    errors_length]

/-- Where every collector succeeded, not all of them failed. -/
theorem allFailed_eq_false (h : r.isSuccess = true) : r.allFailed = false := by
  rw [allFailed, isSuccess_iff_failures.mp h]
  cases r.outcomes <;> simp

end ScrapeReport

-- ---------------------------------------------------------------------------
-- Metrics
-- ---------------------------------------------------------------------------

namespace ExporterMetrics

/-- How many failures of collectors have been counted, of all collectors together. -/
def totalErrors (m : ExporterMetrics) : Nat := m.collectorErrors.values.sum

/-- A completed cycle counts every failure once. -/
theorem totalErrors_recordScrape (m : ExporterMetrics) (r : ScrapeReport) (now : Nat) :
    (m.recordScrape r now).totalErrors = m.totalErrors + r.failures.length := by
  show (r.failures.foldl (fun errors o => countError errors o.collector)
    m.collectorErrors).values.sum =
    m.collectorErrors.values.sum + r.failures.length
  generalize m.collectorErrors = errors
  induction r.failures generalizing errors with
  | nil => rfl
  | cons o rest ih =>
    have hOne : (countError errors o.collector).values.sum = errors.values.sum + 1 := by
      have hPut := errors.sum_put o.collector ((errors.get? o.collector).getD 0 + 1)
      rw [countError]
      omega
    rw [List.foldl_cons, ih, hOne, List.length_cons]
    omega

theorem lastError_recordScrape (m : ExporterMetrics) (r : ScrapeReport) (now : Nat) :
    (m.recordScrape r now).lastError = 0 ↔ r.isSuccess = true := by
  have hOne : (1 : Binary64) ≠ 0 := by decide +kernel
  unfold recordScrape
  split <;> simp [*]

theorem lastError_recordFetchError (m : ExporterMetrics) : m.recordFetchError.lastError ≠ 0 := by
  show (1 : Binary64) ≠ 0
  decide +kernel

end ExporterMetrics

-- ---------------------------------------------------------------------------
-- Health
-- ---------------------------------------------------------------------------

namespace HealthRegistry

variable {h : HealthRegistry} {r : ScrapeReport} {names : List String}

/-- The collectors that are degraded: the components other than the fetcher and the orchestrator. -/
def degradedCollectors (h : HealthRegistry) : List String :=
  h.components.keys.filter fun name =>
    name ≠ fetcherComponent ∧ name ≠ orchestratorComponent ∧
      h.statusOf name = some .degraded

/-- Whether every component is healthy that is none of the collectors of a loop, nor its fetcher or
orchestrator. -/
def OthersHealthy (h : HealthRegistry) (names : List String) : Prop :=
  ∀ name ∉ names, name ≠ fetcherComponent → name ≠ orchestratorComponent →
    ∀ health, h.components.get? name = some health → health.status = .healthy

theorem mem_degradedCollectors_iff {name : String} :
    name ∈ h.degradedCollectors ↔
      name ≠ fetcherComponent ∧ name ≠ orchestratorComponent ∧
      h.statusOf name = some .degraded := by
  rw [degradedCollectors, List.mem_filter, decide_eq_true_eq, and_iff_right_iff_imp]
  rintro ⟨-, -, hDegraded⟩
  by_contra hKey
  simp [statusOf, (Keyed.get?_eq_none_iff _ _).mpr hKey] at hDegraded

/-- The entries of other components than those of a loop stay as they are. -/
theorem OthersHealthy.record {c : HealthCall} (hOthers : h.OthersHealthy names)
    (hReport : ∀ report now, c.report? = some (report, now) →
      report.NamesApart ∧ report.outcomes.map Outcome.collector = names) :
    (h.record c).OthersHealthy names := by
  intro name hName hFetcher hOrchestrator health hGet
  have hSilent : c.entryOf? name = none := by
    cases c with
    | fetchFailed error now => simp [HealthCall.entryOf?, hFetcher]
    | scraped report now =>
      have hNone : report.outcome? name = none := by
        rw [ScrapeReport.outcome?, List.find?_eq_none]
        intro o ho hEq
        exact hName ((hReport _ _ rfl).2 ▸ of_decide_eq_true hEq ▸ List.mem_map_of_mem ho)
      simp [HealthCall.entryOf?, hFetcher, hOrchestrator, hNone]
  rw [get?_record fun report now hEq => (hReport report now hEq).1, hSilent, Option.none_or] at hGet
  exact hOthers name hName hFetcher hOrchestrator health hGet

/-- After a scrape the entry of a collector is that of its outcome. -/
theorem statusOf_scraped (h : HealthRegistry) (hApart : r.NamesApart) (now : Int) {o : Outcome}
    (ho : o ∈ r.outcomes) :
    (h.record (.scraped r now)).statusOf o.collector =
      some (if o.isSuccess then .healthy else .degraded) := by
  have hFetcher : o.collector ≠ fetcherComponent := fun hEq =>
    hApart.notFetcher (hEq ▸ List.mem_map_of_mem ho)
  have hOrchestrator : o.collector ≠ orchestratorComponent := fun hEq =>
    hApart.notOrchestrator (hEq ▸ List.mem_map_of_mem ho)
  have hOutcome : r.outcome? o.collector = some o :=
    (r.outcome?_eq_some_iff hApart.distinct).mpr ⟨ho, rfl⟩
  rw [statusOf, get?_record fun report now hEq => by cases hEq; exact hApart, HealthCall.entryOf?,
    if_neg hOrchestrator, if_neg hFetcher, hOutcome, Option.map_some, Option.some_or,
    Option.map_some, ofOutcome, Outcome.isSuccess]
  cases o.error with
  | none => rfl
  | some error => rfl

section Scraped

variable (now : Int) (hOthers : h.OthersHealthy names) (hApart : r.NamesApart)
  (hNames : r.outcomes.map Outcome.collector = names)
include hOthers hApart hNames

/-- **After a scrape exactly the collectors that failed are degraded.** -/
theorem degradedCollectors_record :
    (h.record (.scraped r now)).degradedCollectors.Perm (r.failures.map Outcome.collector) := by
  have hDegraded : (h.record (.scraped r now)).degradedCollectors.Nodup :=
    (Keyed.distinct _).filter _
  have hFailed : (r.failures.map Outcome.collector).Nodup :=
    hApart.distinct.sublist (List.filter_sublist.map _)
  rw [List.perm_ext_iff_of_nodup hDegraded hFailed]
  intro name
  rw [mem_degradedCollectors_iff, List.mem_map]
  constructor
  · rintro ⟨hFetcher, hOrchestrator, hStatus⟩
    by_cases hName : name ∈ names
    · rw [← hNames] at hName
      obtain ⟨o, ho, rfl⟩ := List.mem_map.mp hName
      rw [statusOf_scraped h hApart now ho] at hStatus
      refine ⟨o, List.mem_filter.mpr ⟨ho, ?_⟩, rfl⟩
      cases hSuccess : o.isSuccess with
      | false => rfl
      | true => simp [hSuccess] at hStatus
    · obtain ⟨health, hGet, hEq⟩ := statusOf_eq_some_iff.mp hStatus
      have hHealthy := hOthers.record (c := .scraped r now)
        (fun report now hEq => by cases hEq; exact ⟨hApart, hNames⟩) name hName
          hFetcher hOrchestrator
        health hGet
      simp [hHealthy] at hEq
  · rintro ⟨o, ho, rfl⟩
    obtain ⟨hMem, hFailure⟩ := List.mem_filter.mp ho
    refine ⟨fun hEq => hApart.notFetcher (hEq ▸ List.mem_map_of_mem hMem),
      fun hEq => hApart.notOrchestrator (hEq ▸ List.mem_map_of_mem hMem), ?_⟩
    rw [statusOf_scraped h hApart now hMem]
    simpa using hFailure

/-- After a scrape everything is healthy exactly if every collector succeeded. -/
theorem status_scraped :
    (h.record (.scraped r now)).health.status = .healthy ↔ r.isSuccess = true := by
  rw [status_eq_healthy_iff, ScrapeReport.isSuccess, List.all_eq_true]
  constructor
  · intro hAll o ho
    obtain ⟨health, hGet, hStatus⟩ :=
      statusOf_eq_some_iff.mp (statusOf_scraped h hApart now ho)
    cases hSuccess : o.isSuccess with
    | true => rfl
    | false => simp [hAll _ _ hGet, hSuccess] at hStatus
  · intro hAll name health hGet
    by_cases hName : name ∈ names
    · rw [← hNames] at hName
      obtain ⟨o, ho, rfl⟩ := List.mem_map.mp hName
      have hStatus := statusOf_scraped h hApart now ho
      rw [hAll o ho, statusOf, hGet] at hStatus
      exact Option.some.inj hStatus
    have hEach : ∀ report now', (HealthCall.scraped r now).report? = some (report, now') →
        report.NamesApart ∧ report.outcomes.map Outcome.collector = names := by
      rintro _ _ ⟨⟩
      exact ⟨hApart, hNames⟩
    by_cases hFetcher : name = fetcherComponent
    · rw [hFetcher, get?_record fun report now' hEq => (hEach report now' hEq).1] at hGet
      rw [← Option.some.inj hGet]
      rfl
    by_cases hOrchestrator : name = orchestratorComponent
    · rw [hOrchestrator, get?_record_orchestrator] at hGet
      have hSome := ScrapeReport.allFailed_eq_false (List.all_eq_true.mpr hAll)
      rw [← Option.some.inj hGet, ScrapeReport.orchestratorHealth, hSome]
      rfl
    exact hOthers.record hEach name hName hFetcher hOrchestrator health hGet

end Scraped

/-- After a failed fetch not everything is healthy. -/
theorem status_fetchFailed (error : FetchError) (now : Int) :
    (h.record (.fetchFailed error now)).health.status ≠ .healthy := by
  rw [Ne, status_eq_healthy_iff]
  intro hAll
  have hDegraded := hAll fetcherComponent (.degraded error.message now) (by
    rw [get?_record fun report now hEq => by cases hEq]
    rfl)
  simp [ComponentHealth.degraded] at hDegraded

end HealthRegistry

-- ---------------------------------------------------------------------------
-- Log
-- ---------------------------------------------------------------------------

namespace LogEvent

/-- The value of a field of an event. -/
def field? (e : LogEvent) (name : String) : Option LogValue := e.fields.lookup name

/-- The events of a kind. -/
def ofKind (kind : String) (events : List LogEvent) : List LogEvent :=
  events.filter fun e => e.field? "event" = some (.text kind)

end LogEvent

namespace ScrapeReport

variable (r : ScrapeReport) (director : String)

/-- The events of a completed cycle. -/
def logged : List LogEvent := r.publishEvents ++ r.cycleEvents director

/-- A completed cycle is logged without a warning exactly if every collector succeeded. -/
theorem logged_warns_iff : (∀ e ∈ r.logged director, e.level ≠ .warn) ↔
    r.isSuccess = true := by
  rw [← errors_eq_nil_iff]
  constructor
  · intro hNone
    cases hErrors : r.errors with
    | nil => rfl
    | cons e rest =>
      have hWarn := hNone (.outputKept e.1 e.2) (by simp [logged, publishEvents, hErrors])
      simp [LogEvent.outputKept, LogEvent.warn] at hWarn
  · intro hNil e he
    simp [logged, publishEvents, cycleEvents, hNil] at he
    simp [he, LogEvent.scrapeCompleted, LogEvent.info]

/-- A completed cycle is logged as such once, after every failure was; that older output is kept is
no event of a kind. -/
theorem ofKind_logged (kind : String) :
    LogEvent.ofKind kind (r.logged director) =
      (if kind = "collector_failed" then
        r.errors.map fun e => LogEvent.collectorFailed director e.1 e.2 else []) ++
      if kind = "scrape_completed" then [LogEvent.scrapeCompleted director r] else [] := by
  have hKept : LogEvent.ofKind kind r.publishEvents = [] := by
    rw [LogEvent.ofKind, List.filter_eq_nil_iff]
    intro e he
    obtain ⟨error, -, rfl⟩ := List.mem_map.mp he
    have hNone : (LogEvent.outputKept error.1 error.2).field? "event" = none := rfl
    simp [hNone]
  have hFailed (e : String × CollectorError) :
      (LogEvent.collectorFailed director e.1 e.2).field? "event" =
        some (.text "collector_failed") := rfl
  have hCompleted :
      (LogEvent.scrapeCompleted director r).field? "event" = some (.text "scrape_completed") := rfl
  rw [LogEvent.ofKind] at hKept ⊢
  rw [logged, cycleEvents, List.filter_append, List.filter_append, hKept, List.nil_append,
    List.filter_map, List.filter_singleton, hCompleted]
  congr 1
  · by_cases hKind : kind = "collector_failed"
    · simp [Function.comp_def, hFailed, hKind]
    · simp [Function.comp_def, hFailed, hKind, Ne.symm hKind]
  · simp [eq_comm]

/-- A completed cycle tells how many collectors failed. -/
theorem scrapeCompleted_failed :
    (LogEvent.scrapeCompleted director r).field? "failed" = some (.number r.failures.length) := rfl

end ScrapeReport

-- ---------------------------------------------------------------------------
-- Cycles
-- ---------------------------------------------------------------------------

namespace ScrapeLoop

/-- A cycle: it is skipped for some error, or a scrape is made, whose steps may come in any order.
It returns a report if there was a scrape, and logs events. -/
inductive Cycles (l : ScrapeLoop) : Option ScrapeReport → List LogEvent → ScrapeLoop → Prop
  | skipped (error : FetchError) (now : Nat) :
      Cycles l none (l.skip error now).2 (l.skip error now).1
  | completed {storage : Storage} {s : Snapshot} {clock : String → RunClock}
      {moves : List RunEvent}
      {scraped : Scraped} (hScrape : l.orchestrator.Scrapes storage s clock moves scraped)
      (now : Nat) :
      Cycles l (some scraped.report) (l.record scraped now).2 (l.record scraped now).1

/-- A loop after some cycles. -/
inductive Runs (first : ScrapeLoop) : ScrapeLoop → Prop
  | start : Runs first first
  | cycle {l l' : ScrapeLoop} {report : Option ScrapeReport} {events : List LogEvent}
      (hPast : Runs first l) (hCycle : l.Cycles report events l') : Runs first l'

variable {first l l' : ScrapeLoop} {report : Option ScrapeReport} {events : List LogEvent}

/-- A cycle over some files is one of these. -/
theorem RunsOnce.takes {storage : Storage} {c : Cycle} (h : l.RunsOnce storage c) :
    l.Cycles c.report c.events c.loop := by
  cases h with
  | skipped hFetch now => exact .skipped _ now
  | completed hFetch hScrape now => exact .completed hScrape now

/-- **A cycle that is run is one of these.** -/
theorem runOnce_takes {storage : Storage} {clock : CycleClock} {c : Cycle}
    (h : l.runOnce storage clock = .ok c) : l.Cycles c.report c.events c.loop :=
  (RunsOnce.of_runOnce h).takes

/-- What every cycle of a loop leaves as it is: who the collectors are, and that nothing but them,
the fetcher and the orchestrator is ever anything but healthy. -/
structure Keeps (names : List String) (l : ScrapeLoop) : Prop where
  collectors : l.orchestrator.names = names
  others     : l.health.OthersHealthy names

variable {names : List String}

/-- A report of a loop names each of its collectors once. -/
theorem Keeps.names_apart (h : l.Keeps names) (hDistinct : names.Nodup)
    (hFetcher : fetcherComponent ∉ names) (hOrchestrator : orchestratorComponent ∉ names)
    {storage : Storage} {s : Snapshot}
    {clock : String → RunClock} {moves : List RunEvent} {scraped : Scraped}
    (hScrape : l.orchestrator.Scrapes storage s clock moves scraped) :
    scraped.report.NamesApart ∧ scraped.report.outcomes.map Outcome.collector = names := by
  have hNames := hScrape.names_eq.trans h.collectors
  exact ⟨⟨hNames ▸ hDistinct, hNames ▸ hFetcher, hNames ▸ hOrchestrator⟩, hNames⟩

theorem Keeps.cycle (h : l.Keeps names) (hDistinct : names.Nodup)
    (hFetcher : fetcherComponent ∉ names) (hOrchestrator : orchestratorComponent ∉ names)
    (hCycle : l.Cycles report events l') :
    l'.Keeps names := by
  cases hCycle with
  | skipped error now =>
    refine ⟨h.collectors, h.others.record (c := .fetchFailed error now) ?_⟩
    rintro _ _ ⟨⟩
  | @completed storage s clock moves scraped hScrape now =>
    have hReport := h.names_apart hDistinct hFetcher hOrchestrator hScrape
    refine ⟨?_, h.others.record (c := .scraped scraped.report now) ?_⟩
    · cases hScrape
      exact h.collectors
    · rintro _ _ ⟨⟩
      exact hReport

theorem Runs.keeps (h : first.Runs l) (hDistinct : first.orchestrator.names.Nodup)
    (hFetcher : fetcherComponent ∉ first.orchestrator.names)
    (hOrchestrator : orchestratorComponent ∉ first.orchestrator.names)
    (hHealthy : first.health.AllHealthy) : l.Keeps first.orchestrator.names := by
  induction h with
  | start => exact ⟨rfl, fun name _ _ _ health hGet => hHealthy name health hGet⟩
  | cycle _ hCycle ih => exact ih.cycle hDistinct hFetcher hOrchestrator hCycle

end ScrapeLoop

/-- **The records of a cycle agree.** Take a loop whose collectors have names of their own and where
everything is healthy at first, and any number of its cycles, with any fetches, any outcomes and
any order of steps in its scrapes. After each of them these say the same: it returned the report of
a success; the metrics show no error; everything is healthy; nothing was logged as a warning. And if
a scrape was made, as many collectors failed by the report as were counted, are degraded, were
logged, and are told of in the event of the completed cycle. -/
theorem records_of_cycle_agree {first l l' : ScrapeLoop} {report : Option ScrapeReport}
    {events : List LogEvent} (hDistinct : first.orchestrator.names.Nodup)
    (hFetcher : fetcherComponent ∉ first.orchestrator.names)
    (hOrchestrator : orchestratorComponent ∉ first.orchestrator.names)
    (hHealthy : first.health.AllHealthy) (hPast : first.Runs l)
    (hCycle : l.Cycles report events l') :
    ((∃ r, report = some r ∧ r.isSuccess = true) ↔ l'.metrics.lastError = 0) ∧
    ((∃ r, report = some r ∧ r.isSuccess = true) ↔ l'.health.health.status = .healthy) ∧
    ((∃ r, report = some r ∧ r.isSuccess = true) ↔ ∀ e ∈ events, e.level ≠ .warn) ∧
    ∀ r, report = some r →
      l'.metrics.totalErrors = l.metrics.totalErrors + r.failures.length ∧
      l'.health.degradedCollectors.length = r.failures.length ∧
      (LogEvent.ofKind "collector_failed" events).length = r.failures.length ∧
      ∃ e, LogEvent.ofKind "scrape_completed" events = [e] ∧
        e.field? "failed" = some (.number r.failures.length) := by
  have hKeeps := hPast.keeps hDistinct hFetcher hOrchestrator hHealthy
  cases hCycle with
  | skipped error now =>
    have hMetrics := l.metrics.lastError_recordFetchError
    have hStatus := l.health.status_fetchFailed error now
    simp only [reduceCtorEq, false_and, exists_false, false_iff, false_implies,
      implies_true, and_true]
    refine ⟨hMetrics, hStatus, fun hNone => ?_⟩
    exact hNone (.fetchFailed l.director error) (by simp [ScrapeLoop.skip]) rfl
  | @completed storage s clock moves scraped hScrape now =>
    obtain ⟨hApart, hNames⟩ := hKeeps.names_apart hDistinct hFetcher hOrchestrator hScrape
    have hMetrics := l.metrics.lastError_recordScrape scraped.report now
    have hStatus := HealthRegistry.status_scraped now hKeeps.others hApart hNames
    have hWarns := scraped.report.logged_warns_iff l.director
    simp only [Option.some.injEq, exists_eq_left', forall_eq']
    refine ⟨hMetrics.symm, hStatus.symm, hWarns.symm, ?_⟩
    have hFailed := scraped.report.ofKind_logged l.director "collector_failed"
    have hCompleted := scraped.report.ofKind_logged l.director "scrape_completed"
    refine ⟨l.metrics.totalErrors_recordScrape _ _, ?_, ?_, _, hCompleted,
      scraped.report.scrapeCompleted_failed l.director⟩
    · have hPerm := HealthRegistry.degradedCollectors_record now hKeeps.others hApart hNames
      exact hPerm.length_eq.trans (List.length_map _)
    · show (LogEvent.ofKind _ (scraped.report.logged l.director)).length = _
      simp [hFailed, ScrapeReport.errors_length]

/-- A collector that panics in its first scrape and then works. -/
private def shaky : Collector :=
  ⟨"shaky", [], fun number _ _ => ⟨[], if number = 0 then .panics else .returns none⟩⟩

/-- A loop of this collector beside one that always works; its first fetch fails. -/
private def shakyLoop : ScrapeLoop :=
  { (default : ScrapeLoop) with
    fetcher := fun number _ => ⟨if number = 0 then .error (.unavailable "down") else .ok [], 0⟩
    orchestrator := .make [⟨"calm", [], fun _ _ _ => ⟨[], .returns none⟩⟩, shaky]
      (.ofSeconds 10) 1
    health := .empty }

/-- The next cycle of a loop. -/
private def cycleOf (l : ScrapeLoop) : Cycle :=
  match l.runOnce ⟨.empty, []⟩ default with
  | .ok c => c
  | .error _ => default

private theorem cycleOf_cycles {l : ScrapeLoop}
    (h : (l.runOnce ⟨.empty, []⟩ default).isOk = true) :
    l.Cycles (cycleOf l).report (cycleOf l).events (cycleOf l).loop := by
  unfold cycleOf
  split
  · exact ScrapeLoop.runOnce_takes ‹_›
  · rename_i error hError
    simp [hError, Except.isOk, Except.toBool] at h

private def skippedLoop : ScrapeLoop := (cycleOf shakyLoop).loop

private def shakenLoop : ScrapeLoop := (cycleOf skippedLoop).loop

/-- After a fetch that failed and a scrape with a panic, the next scrape makes good all records. -/
theorem shaky_records_agree :
    shakyLoop.orchestrator.names.Nodup ∧
    shakyLoop.Runs shakenLoop ∧
    shakenLoop.health.degradedCollectors = ["shaky"] ∧
    shakenLoop.metrics.lastError = 1 ∧
    (cycleOf shakenLoop).loop.metrics.lastError = 0 ∧
    (cycleOf shakenLoop).loop.health.health.status = .healthy ∧
    (cycleOf shakenLoop).loop.health.degradedCollectors.length = 0 := by
  have hDistinct : shakyLoop.orchestrator.names.Nodup := by decide
  have hSkipped : shakyLoop.Runs skippedLoop := .cycle .start (cycleOf_cycles (by decide +kernel))
  have hShaken : shakyLoop.Runs shakenLoop := .cycle hSkipped (cycleOf_cycles (by decide +kernel))
  have hLast := cycleOf_cycles (l := shakenLoop) (by decide +kernel)
  have hEmpty : shakyLoop.health.AllHealthy := fun name health hGet => by
    simp [shakyLoop, HealthRegistry.empty, Keyed.get?, Keyed.empty] at hGet
  obtain ⟨hMetrics, hStatus, -, hCounts⟩ :=
    records_of_cycle_agree hDistinct (by decide) (by decide) hEmpty hShaken hLast
  obtain ⟨r, hReport, hSuccess⟩ : ∃ r, (cycleOf shakenLoop).report = some r ∧
      r.isSuccess = true :=
    hMetrics.mpr (by decide +kernel)
  refine ⟨hDistinct, hShaken, by decide +kernel, by decide +kernel,
    hMetrics.mp ⟨r, hReport, hSuccess⟩, hStatus.mp ⟨r, hReport, hSuccess⟩, ?_⟩
  rw [(hCounts r hReport).2.1, ScrapeReport.isSuccess_iff_failures.mp hSuccess]
  rfl

end TopologyExporter
