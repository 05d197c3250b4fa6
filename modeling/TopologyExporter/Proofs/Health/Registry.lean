import Mathlib.Data.List.Induction
import TopologyExporter.Health.Registry
import TopologyExporter.Proofs.Text.Keyed

/-!
# The health registry — what is recorded last counts

Every call that records something says how some components are doing. The entry of a component is
what the last call said that said anything about it, or what was there at first. No call says of
anything but the orchestrator that it is unhealthy.

## Results

* `Status.worst_cons` etc.        — the worst of some statuses, whatever their order.
* `HealthRegistry.get?_record`    — what one call changes.
* `HealthRegistry.get?_after`     — the entries after any calls.
* `HealthRegistry.status_after`   — when the overall status is unhealthy.
-/

namespace TopologyExporter

-- ---------------------------------------------------------------------------
-- The worst status
-- ---------------------------------------------------------------------------

namespace Status

/-- How bad a status is. -/
def badness : Status → Nat
  | healthy => 0
  | degraded => 1
  | unhealthy => 2

variable {statuses statuses' : List Status} {s : Status}

theorem worse_assoc (a b c : Status) : (a.worse b).worse c = a.worse (b.worse c) := by
  cases a <;> cases b <;> cases c <;> rfl

theorem worse_comm (a b : Status) : a.worse b = b.worse a := by
  cases a <;> cases b <;> rfl

@[simp] theorem healthy_worse (s : Status) : healthy.worse s = s := by cases s <;> rfl

theorem foldl_worse (s : Status) (statuses : List Status) :
    statuses.foldl worse s = s.worse (worst statuses) := by
  induction statuses generalizing s with
  | nil => cases s <;> rfl
  | cons first rest ih =>
    rw [worst, List.foldl_cons, List.foldl_cons, ih, ih, healthy_worse, worse_assoc]

@[simp] theorem worst_nil : worst [] = healthy := rfl

theorem worst_cons (s : Status) (statuses : List Status) :
    worst (s :: statuses) = s.worse (worst statuses) := by
  rw [worst, List.foldl_cons, healthy_worse, foldl_worse]

/-- The order of statuses does not matter. -/
theorem worst_perm (h : statuses.Perm statuses') : worst statuses = worst statuses' := by
  induction h with
  | nil => rfl
  | cons s _ ih => rw [worst_cons, worst_cons, ih]
  | swap a b rest =>
    rw [worst_cons, worst_cons, worst_cons, worst_cons, ← worse_assoc,
      worse_comm b a, worse_assoc]
  | trans _ _ ih ih' => rw [ih, ih']

/-- No status is worse than the worst. -/
theorem badness_le_worst (h : s ∈ statuses) : s.badness ≤ (worst statuses).badness := by
  induction statuses with
  | nil => simp at h
  | cons first rest ih =>
    have hWorse (a b : Status) : a.badness ≤ (a.worse b).badness ∧
        b.badness ≤ (a.worse b).badness := by
      cases a <;> cases b <;> decide
    rw [worst_cons]
    rcases List.mem_cons.mp h with rfl | hRest
    · exact (hWorse s (worst rest)).1
    · exact Nat.le_trans (ih hRest) (hWorse first (worst rest)).2

/-- The worst of some statuses is one of them. -/
theorem worst_mem (h : statuses ≠ []) : worst statuses ∈ statuses := by
  induction statuses with
  | nil => exact absurd rfl h
  | cons first rest ih =>
    have hEither (a b : Status) : a.worse b = a ∨ a.worse b = b := by
      cases a <;> cases b <;> decide
    rw [worst_cons]
    rcases hEither first (worst rest) with hFirst | hRest
    · rw [hFirst]
      exact List.mem_cons_self ..
    · rw [hRest]
      cases rest with
      | nil =>
        rw [worst_nil] at hRest ⊢
        have hHealthy : first = healthy := by
          rw [worse_comm, healthy_worse] at hRest
          exact hRest
        simp [hHealthy]
      | cons second rest => exact List.mem_cons_of_mem _ (ih (by simp))

theorem worst_eq_unhealthy_iff : worst statuses = unhealthy ↔ unhealthy ∈ statuses := by
  constructor
  · intro h
    have hNil : statuses ≠ [] := by
      rintro rfl
      simp at h
    exact h ▸ worst_mem hNil
  · intro h
    have hLe := badness_le_worst h
    cases hWorst : worst statuses with
    | unhealthy => rfl
    | healthy => simp [hWorst, badness] at hLe
    | degraded => simp [hWorst, badness] at hLe

theorem worst_eq_healthy_iff : worst statuses = healthy ↔ ∀ s ∈ statuses, s = healthy := by
  constructor
  · intro h s hs
    have hLe := badness_le_worst hs
    rw [h] at hLe
    cases s with
    | healthy => rfl
    | degraded => simp [badness] at hLe
    | unhealthy => simp [badness] at hLe
  · intro h
    by_cases hNil : statuses = []
    · rw [hNil, worst_nil]
    · exact h _ (worst_mem hNil)

end Status

-- ---------------------------------------------------------------------------
-- Reports
-- ---------------------------------------------------------------------------

namespace ScrapeReport

variable {report : ScrapeReport}

/-- Whether every collector of a report has a name of its own, and none that of another
component. -/
structure NamesApart (report : ScrapeReport) : Prop where
  distinct        : (report.outcomes.map Outcome.collector).Nodup
  notFetcher      : fetcherComponent ∉ report.outcomes.map Outcome.collector
  notOrchestrator : orchestratorComponent ∉ report.outcomes.map Outcome.collector

/-- All collectors failed if there are some and each of them did. -/
theorem allFailed_iff :
    report.allFailed = true ↔
      report.outcomes ≠ [] ∧ ∀ o ∈ report.outcomes, o.isSuccess = false := by
  rw [allFailed, Bool.and_eq_true, Bool.not_eq_true', decide_eq_true_eq, failures,
    List.length_filter_eq_length_iff]
  simp

/-- The health of the orchestrator after a scrape. -/
def orchestratorHealth (report : ScrapeReport) (now : Int) : ComponentHealth :=
  if report.allFailed then .unhealthy "All collectors failed" now else .healthy now

theorem orchestratorHealth_unhealthy_iff {now : Int} :
    (report.orchestratorHealth now).status = .unhealthy ↔ report.allFailed = true := by
  unfold orchestratorHealth
  split <;> simp [*, ComponentHealth.unhealthy, ComponentHealth.healthy]

end ScrapeReport

-- ---------------------------------------------------------------------------
-- Calls that record
-- ---------------------------------------------------------------------------

/-- A call that records something in a health registry, at a time. -/
inductive HealthCall
  | fetchFailed (error : FetchError) (now : Int)
  | scraped (report : ScrapeReport) (now : Int)
deriving Repr, DecidableEq, Inhabited

namespace HealthCall

/-- The report that a call records, if it does, with the time. -/
def report? : HealthCall → Option (ScrapeReport × Int)
  | fetchFailed _ _ => none
  | scraped report now => some (report, now)

/-- The outcome of a collector that a call records, if it does, with the time. -/
def outcome? (name : String) (c : HealthCall) : Option (Outcome × Int) :=
  c.report?.bind fun r => (r.1.outcome? name).map (·, r.2)

/-- What a call says about a component, if it says anything. -/
def entryOf? (name : String) : HealthCall → Option ComponentHealth
  | fetchFailed error now =>
    if name = fetcherComponent then some (.degraded error.message now) else none
  | scraped report now =>
    if name = orchestratorComponent then some (report.orchestratorHealth now)
    else if name = fetcherComponent then some (.healthy now)
    else (report.outcome? name).map (HealthRegistry.ofOutcome · now)

end HealthCall

namespace HealthRegistry

variable {r : HealthRegistry} {c : HealthCall} {calls : List HealthCall} {name : String}
  {h : ComponentHealth}

/-- The registry after a call. -/
def record (r : HealthRegistry) : HealthCall → HealthRegistry
  | .fetchFailed error now => r.recordFetchFailure error now
  | .scraped report now => r.recordScrape report now

/-- The registry after some calls, one after the other. -/
def after (r : HealthRegistry) (calls : List HealthCall) : HealthRegistry := calls.foldl record r

@[simp] theorem after_nil : r.after [] = r := rfl

@[simp] theorem after_append (calls later : List HealthCall) :
    r.after (calls ++ later) = (r.after calls).after later :=
  List.foldl_append

@[simp] theorem after_singleton : r.after [c] = r.record c := rfl

/-- **One call changes what it says something about**, and nothing else. -/
theorem get?_record
    (hApart : ∀ report now, c.report? = some (report, now) → report.NamesApart) :
    (r.record c).components.get? name = (c.entryOf? name).or (r.components.get? name) := by
  cases c with
  | fetchFailed error now =>
    show (r.components.put _ _).get? name = _
    rw [Keyed.get?_put, HealthCall.entryOf?]
    split <;> rfl
  | scraped report now =>
    obtain ⟨hDistinct, hFetcher, -⟩ := hApart report now rfl
    show (componentsAfter r.components report now).get? name = _
    rw [componentsAfter, Keyed.get?_put, HealthCall.entryOf?]
    split
    case isTrue => rfl
    case isFalse =>
      rw [Keyed.get?_foldl_put hDistinct, ScrapeReport.outcome?]
      by_cases hName : name = fetcherComponent
      · have hNone : report.outcomes.find? (·.collector = name) = none := by
          rw [List.find?_eq_none]
          intro o ho hEq
          exact hFetcher (hName ▸ of_decide_eq_true hEq ▸ List.mem_map_of_mem ho)
        rw [hNone, if_pos hName, Keyed.get?_put, if_pos hName]
        rfl
      · rw [if_neg hName, Keyed.get?_put, if_neg hName]

/-- What a report says about the orchestrator is said last, whatever its collectors are called. -/
theorem get?_record_orchestrator :
    (r.record c).components.get? orchestratorComponent =
      (c.entryOf? orchestratorComponent).or (r.components.get? orchestratorComponent) := by
  cases c with
  | fetchFailed error now =>
    show (r.components.put _ _).get? orchestratorComponent = _
    rw [Keyed.get?_put, if_neg (by decide)]
    rfl
  | scraped report now =>
    show (componentsAfter r.components report now).get? orchestratorComponent = _
    rw [componentsAfter, Keyed.get?_put, if_pos rfl]
    rfl

/-- Where each of some calls changes what it says something about, the last word counts. -/
theorem get?_after_of (hEach : ∀ c ∈ calls, ∀ r : HealthRegistry,
      (r.record c).components.get? name = (c.entryOf? name).or (r.components.get? name)) :
    (r.after calls).components.get? name =
      (calls.reverse.findSome? (HealthCall.entryOf? name)).or (r.components.get? name) := by
  induction calls using List.reverseRecOn with
  | nil => rfl
  | append_singleton calls c ih =>
    have hEarlier := ih fun c hc => hEach c (List.mem_append_left _ hc)
    rw [after_append, after_singleton, hEach c (by simp), hEarlier, List.reverse_append,
      List.reverse_singleton, List.singleton_append, List.findSome?_cons]
    cases c.entryOf? name <;> rfl

/-- **After any calls the last word counts**: the entry of a component is what the last call said
that said anything about it. -/
theorem get?_after
    (hApart : ∀ c ∈ calls, ∀ report now, c.report? = some (report, now) →
      report.NamesApart) :
    (r.after calls).components.get? name =
      (calls.reverse.findSome? (HealthCall.entryOf? name)).or (r.components.get? name) :=
  get?_after_of fun c hc _ => get?_record (hApart c hc)

/-- A registry is ready once a scrape has been recorded. -/
theorem ready_after : (r.after calls).ready = (r.ready || calls.any fun c => c.report?.isSome) := by
  induction calls using List.reverseRecOn with
  | nil => simp
  | append_singleton calls c ih =>
    rw [after_append, after_singleton, List.any_append]
    cases c with
    | fetchFailed error now =>
      show (r.after calls).ready = _
      simp [ih, HealthCall.report?]
    | scraped report now =>
      show true = _
      simp [HealthCall.report?]

-- ---------------------------------------------------------------------------
-- The overall status
-- ---------------------------------------------------------------------------

/-- Whether every component that is known is healthy. -/
def AllHealthy (r : HealthRegistry) : Prop :=
  ∀ name h, r.components.get? name = some h → h.status = .healthy

/-- How a component is doing, if it is known. -/
def statusOf (r : HealthRegistry) (name : String) : Option Status :=
  (r.components.get? name).map ComponentHealth.status

theorem statusOf_eq_some_iff {s : Status} :
    r.statusOf name = some s ↔ ∃ h, r.components.get? name = some h ∧ h.status = s :=
  Option.map_eq_some_iff

/-- A status is the status of a component. -/
theorem mem_statuses_iff {s : Status} :
    s ∈ r.components.values.map ComponentHealth.status ↔
      ∃ name, r.statusOf name = some s := by
  simp only [List.mem_map, Keyed.mem_values_iff, statusOf_eq_some_iff]
  constructor
  · rintro ⟨h, ⟨name, hGet⟩, rfl⟩
    exact ⟨name, h, hGet, rfl⟩
  · rintro ⟨name, h, hGet, rfl⟩
    exact ⟨h, ⟨name, hGet⟩, rfl⟩

theorem status_eq_unhealthy_iff :
    r.health.status = .unhealthy ↔ ∃ name, r.statusOf name = some .unhealthy := by
  rw [← mem_statuses_iff]
  exact Status.worst_eq_unhealthy_iff

theorem status_eq_healthy_iff : r.health.status = .healthy ↔ r.AllHealthy := by
  show Status.worst _ = _ ↔ _
  rw [Status.worst_eq_healthy_iff]
  constructor
  · intro hAll name h hGet
    exact hAll _ (mem_statuses_iff.mpr ⟨name, statusOf_eq_some_iff.mpr ⟨h, hGet, rfl⟩⟩)
  · intro hAll s hs
    obtain ⟨name, hName⟩ := mem_statuses_iff.mp hs
    obtain ⟨h, hGet, rfl⟩ := statusOf_eq_some_iff.mp hName
    exact hAll name h hGet

/-- A registry in which some components have been registered, each at a time. -/
def registered (components : List (String × Int)) : HealthRegistry :=
  components.foldl (fun r c => r.register c.1 c.2) .empty

theorem register_allHealthy {r : HealthRegistry} (h : r.AllHealthy) (name : String) (now : Int) :
    (r.register name now).AllHealthy := by
  intro other health hGet
  rw [register, update, Keyed.get?_put] at hGet
  split at hGet
  · rw [← Option.some.inj hGet]
    rfl
  · exact h other health hGet

/-- Components are registered healthy, and a registry is not ready at first. -/
theorem registered_fresh (components : List (String × Int)) :
    (registered components).AllHealthy ∧ (registered components).ready = false := by
  induction components using List.reverseRecOn with
  | nil =>
    exact ⟨fun name h hGet => by simp [registered, empty, Keyed.get?, Keyed.empty] at hGet, rfl⟩
  | append_singleton components c ih =>
    have hLast : registered (components ++ [c]) = (registered components).register c.1 c.2 := by
      simp [registered]
    rw [hLast]
    exact ⟨register_allHealthy ih.1 c.1 c.2, ih.2⟩

/-- A registry is ready once a scrape has been recorded, while nothing is unhealthy. -/
theorem readinessOf_ready_iff {scraped : Bool} {answer : HealthAnswer} :
    (readinessOf scraped answer).ready = true ↔
      scraped = true ∧ answer.status ≠ .unhealthy := by
  cases scraped with
  | false => simp [readinessOf]
  | true => by_cases h : answer.status = .unhealthy <;> simp [readinessOf, h]

theorem readiness_ready_iff :
    r.readiness.ready = true ↔ r.ready = true ∧ r.health.status ≠ .unhealthy :=
  readinessOf_ready_iff

end HealthRegistry

-- ---------------------------------------------------------------------------
-- Each kind of component
-- ---------------------------------------------------------------------------

namespace HealthCall

/-- The last report that some calls record, with the time. -/
def lastReport? (calls : List HealthCall) : Option (ScrapeReport × Int) :=
  calls.reverse.findSome? report?

/-- The last outcome of a collector that some calls record, with the time. -/
def lastOutcome? (name : String) (calls : List HealthCall) : Option (Outcome × Int) :=
  calls.reverse.findSome? (outcome? name)

variable {c : HealthCall} {calls : List HealthCall} {name : String} {h : ComponentHealth}

/-- Every report says something about the orchestrator, and nothing else does. -/
theorem entryOf?_orchestrator :
    entryOf? orchestratorComponent = fun c => c.report?.map fun r =>
      r.1.orchestratorHealth r.2 := by
  funext c
  cases c with
  | fetchFailed error now => rfl
  | scraped report now => rfl

/-- Of a collector the reports with an outcome of it say something, and nothing else does. -/
theorem entryOf?_collector (hFetcher : name ≠ fetcherComponent)
    (hOrchestrator : name ≠ orchestratorComponent) :
    entryOf? name = fun c => (c.outcome? name).map fun o => HealthRegistry.ofOutcome o.1 o.2 := by
  funext c
  cases c with
  | fetchFailed error now => simp [entryOf?, outcome?, report?, hFetcher]
  | scraped report now =>
    simp only [entryOf?, hOrchestrator, hFetcher, if_false, outcome?, report?, Option.bind_some,
      Option.map_map]
    rfl

/-- Only of the orchestrator is it ever said that it is unhealthy. -/
theorem eq_orchestrator_of_unhealthy (hEntry : c.entryOf? name = some h)
    (hStatus : h.status = .unhealthy) :
    name = orchestratorComponent := by
  by_contra hName
  cases c with
  | fetchFailed error now =>
    rw [entryOf?] at hEntry
    split at hEntry
    · rw [← Option.some.inj hEntry] at hStatus
      simp [ComponentHealth.degraded] at hStatus
    · simp at hEntry
  | scraped report now =>
    rw [entryOf?, if_neg hName] at hEntry
    split at hEntry
    · rw [← Option.some.inj hEntry] at hStatus
      simp [ComponentHealth.healthy] at hStatus
    · obtain ⟨o, -, rfl⟩ := Option.map_eq_some_iff.mp hEntry
      unfold HealthRegistry.ofOutcome at hStatus
      split at hStatus <;> simp [ComponentHealth.healthy, ComponentHealth.degraded] at hStatus

end HealthCall

namespace HealthRegistry

open HealthCall

variable {r : HealthRegistry} {calls : List HealthCall} {name : String} {h : ComponentHealth}

/-- The entry of the orchestrator is that of the last report, whatever the collectors are called. -/
theorem orchestrator_after :
    (r.after calls).components.get? orchestratorComponent =
      ((lastReport? calls).map fun r => r.1.orchestratorHealth r.2).or
        (r.components.get? orchestratorComponent) := by
  rw [get?_after_of fun c _ _ => get?_record_orchestrator, entryOf?_orchestrator, lastReport?,
    List.map_findSome?]
  rfl

/-- The orchestrator is unhealthy exactly if the last report has outcomes and all are failures. -/
theorem orchestrator_unhealthy_iff (hHealthy : r.AllHealthy) (calls : List HealthCall) :
    (r.after calls).statusOf orchestratorComponent = some .unhealthy ↔
      ∃ report now, lastReport? calls = some (report, now) ∧ report.allFailed = true := by
  rw [statusOf_eq_some_iff, orchestrator_after]
  cases hLast : lastReport? calls with
  | none =>
    simp only [Option.map_none, Option.none_or, reduceCtorEq, false_and, exists_false, iff_false,
      not_exists, not_and]
    intro h hFirst hUnhealthy
    simp [hHealthy _ h hFirst] at hUnhealthy
  | some last =>
    obtain ⟨report, now⟩ := last
    simp [ScrapeReport.orchestratorHealth_unhealthy_iff]

section After

variable (hApart : ∀ c ∈ calls, ∀ report now, c.report? = some (report, now) →
  report.NamesApart)
include hApart

/-- The entry of a collector is that of the last report with an outcome of it. -/
theorem collector_after (hFetcher : name ≠ fetcherComponent)
    (hOrchestrator : name ≠ orchestratorComponent) :
    (r.after calls).components.get? name =
      ((lastOutcome? name calls).map fun o => ofOutcome o.1 o.2).or (r.components.get? name) := by
  rw [get?_after hApart, entryOf?_collector hFetcher hOrchestrator, lastOutcome?,
    List.map_findSome?]
  rfl

/-- The entry of the fetcher is that of the last call, whatever it is. -/
theorem fetcher_after :
    (r.after calls).components.get? fetcherComponent =
      (calls.getLast?.bind (entryOf? fetcherComponent)).or
        (r.components.get? fetcherComponent) := by
  rw [get?_after hApart]
  cases calls using List.reverseRecOn with
  | nil => rfl
  | append_singleton calls c =>
    have hSays : ∃ h, c.entryOf? fetcherComponent = some h := by
      cases c with
      | fetchFailed error now => exact ⟨_, rfl⟩
      | scraped report now => exact ⟨_, rfl⟩
    obtain ⟨h, hEntry⟩ := hSays
    simp [hEntry]

/-- Where all components were healthy at first, only the orchestrator is ever unhealthy. -/
theorem unhealthy_after (hHealthy : r.AllHealthy)
    (hStatus : (r.after calls).statusOf name = some .unhealthy) : name = orchestratorComponent := by
  obtain ⟨h, hGet, hUnhealthy⟩ := statusOf_eq_some_iff.mp hStatus
  rw [get?_after hApart, Option.or_eq_some_iff] at hGet
  rcases hGet with hSaid | ⟨-, hFirst⟩
  · obtain ⟨c, -, hEntry⟩ := List.exists_of_findSome?_eq_some hSaid
    exact eq_orchestrator_of_unhealthy hEntry hUnhealthy
  · simp [hHealthy name h hFirst] at hUnhealthy

/-- **The exporter is unhealthy exactly if the orchestrator is.** -/
theorem status_after (hHealthy : r.AllHealthy) :
    (r.after calls).health.status = .unhealthy ↔
      (r.after calls).statusOf orchestratorComponent = some .unhealthy := by
  rw [status_eq_unhealthy_iff]
  constructor
  · rintro ⟨name, hStatus⟩
    exact unhealthy_after hApart hHealthy hStatus ▸ hStatus
  · exact fun hStatus => ⟨_, hStatus⟩

end After

end HealthRegistry

end TopologyExporter
