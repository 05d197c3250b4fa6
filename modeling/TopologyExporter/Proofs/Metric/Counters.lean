import Mathlib.Data.List.Induction
import TopologyExporter.Proofs.Metric.Descriptor
import TopologyExporter.Proofs.Text.Keyed

/-!
# Counters — every cycle is accounted for

The exporter's own metrics are changed by two kinds of calls, each with rules of its own for what is
counted, what is set and what is left. `ExporterMetrics.Accounts` says what the metrics show after a
list of calls by that list alone; every call keeps it.

## Results

* `ExporterMetrics.Accounts.record` — what the metrics show after one more call.
* `ExporterMetrics.Accounts.after`  — and after any calls.
* `every_cycle_is_accounted_for`    — with what follows for the counters and for the series
  served.
-/

namespace TopologyExporter

-- ---------------------------------------------------------------------------
-- Calls
-- ---------------------------------------------------------------------------

/-- A call on the exporter's own metrics. -/
inductive MetricCall
  | fetchFailed
  | scraped (report : ScrapeReport) (now : Nat)
  /-- How often a collector failed is looked up. -/
  | read (collector : String)

namespace MetricCall

/-- Whether a call is for a cycle. -/
def isCycle : MetricCall → Bool
  | fetchFailed => true
  | scraped _ _ => true
  | read _ => false

/-- Whether a call is for a cycle that failed: nothing was fetched, or some collector failed. -/
def isFailure : MetricCall → Bool
  | fetchFailed => true
  | scraped report _ => report.outcomes.any fun o => !o.isSuccess
  | read _ => false

/-- The collectors that failed in the cycle of a call, once for each failed outcome. -/
def failed : MetricCall → List String
  | scraped report _ => (report.outcomes.filter fun o => !o.isSuccess).map Outcome.collector
  | _ => []

/-- The report of a completed cycle, with the time of its end. -/
def completed? : MetricCall → Option (ScrapeReport × Nat)
  | scraped report now => some (report, now)
  | _ => none

/-- A cycle that failed is a cycle. -/
theorem isCycle_of_isFailure {c : MetricCall} (h : c.isFailure = true) : c.isCycle = true := by
  cases c with
  | fetchFailed => rfl
  | scraped report now => rfl
  | read collector => simp [isFailure] at h

end MetricCall

namespace ExporterMetrics

variable {m : ExporterMetrics} {calls : List MetricCall}

/-- The metrics after a call. -/
def record (m : ExporterMetrics) : MetricCall → ExporterMetrics
  | .fetchFailed => m.recordFetchError
  | .scraped report now => m.recordScrape report now
  | .read collector => (m.readErrors collector).2

/-- The metrics after some calls. -/
def after (m : ExporterMetrics) (calls : List MetricCall) : ExporterMetrics := calls.foldl record m

theorem after_concat (m : ExporterMetrics) (calls : List MetricCall) (c : MetricCall) :
    m.after (calls ++ [c]) = (m.after calls).record c := by
  rw [after, List.foldl_concat]
  rfl

-- ---------------------------------------------------------------------------
-- What one call changes
-- ---------------------------------------------------------------------------

theorem isSuccess_eq_not_isFailure (report : ScrapeReport) (now : Nat) :
    report.isSuccess = !(MetricCall.scraped report now).isFailure := by
  rw [ScrapeReport.isSuccess, MetricCall.isFailure, List.not_any_eq_all_not]
  simp

theorem scrapes_record (m : ExporterMetrics) (c : MetricCall) :
    (m.record c).scrapes = m.scrapes + if c.isCycle then 1 else 0 := by
  cases c <;> rfl

theorem scrapeErrors_record (m : ExporterMetrics) (c : MetricCall) :
    (m.record c).scrapeErrors = m.scrapeErrors + if c.isFailure then 1 else 0 := by
  cases c with
  | fetchFailed => rfl
  | read collector => rfl
  | scraped report now =>
    show (if report.isSuccess then m.scrapeErrors else m.scrapeErrors + 1) = _
    rw [isSuccess_eq_not_isFailure report now]
    cases (MetricCall.scraped report now).isFailure <;> rfl

theorem lastError_record (m : ExporterMetrics) (c : MetricCall) :
    (m.record c).lastError = if c.isCycle then if c.isFailure then 1 else 0 else m.lastError := by
  cases c with
  | fetchFailed => rfl
  | read collector => rfl
  | scraped report now =>
    show (if report.isSuccess then 0 else 1) =
      if (MetricCall.scraped report now).isFailure then 1 else 0
    rw [isSuccess_eq_not_isFailure report now]
    cases (MetricCall.scraped report now).isFailure <;> rfl

theorem lastCompleted_record (m : ExporterMetrics) (c : MetricCall) :
    ((m.record c).lastTimestamp, (m.record c).lastDuration) =
      match c.completed? with
      | none => (m.lastTimestamp, m.lastDuration)
      | some (report, now) => (.ofNat now, report.duration.seconds) := by
  cases c <;> rfl

/-- Counting failures one by one, each counts for its own name. -/
theorem get?_foldl_countError (errors : Keyed String Nat) (failures : List Outcome)
    (name : String) :
    ((failures.foldl (fun errors o => countError errors o.collector) errors).get? name).getD 0 =
      (errors.get? name).getD 0 + (failures.map Outcome.collector).count name := by
  induction failures generalizing errors with
  | nil => rfl
  | cons o rest ih =>
    rw [List.foldl_cons, ih, countError, Keyed.get?_put, List.map_cons, List.count_cons]
    by_cases hName : name = o.collector
    · simp [hName]
      omega
    · simp [hName, Ne.symm hName]

/-- And the names counted are those that were there and those that failed. -/
theorem mem_keys_foldl_countError (errors : Keyed String Nat) (failures : List Outcome)
    (name : String) :
    name ∈ (failures.foldl (fun errors o => countError errors o.collector) errors).keys ↔
      name ∈ errors.keys ∨ name ∈ failures.map Outcome.collector := by
  induction failures generalizing errors with
  | nil => simp
  | cons o rest ih =>
    rw [List.foldl_cons, ih, countError, Keyed.mem_keys_put, List.map_cons, List.mem_cons, or_assoc]
    tauto

theorem errorsOf_record (m : ExporterMetrics) (c : MetricCall) (name : String) :
    (m.record c).errorsOf name = m.errorsOf name + c.failed.count name := by
  cases c with
  | fetchFailed => rfl
  | scraped report now => exact get?_foldl_countError m.collectorErrors report.failures name
  | read collector =>
    show ((m.collectorErrors.put collector (m.errorsOf collector)).get? name).getD 0 =
      m.errorsOf name
    rw [Keyed.get?_put]
    by_cases hName : name = collector
    · rw [if_pos hName, hName]
      rfl
    · rw [if_neg hName]
      rfl

/-- A name has a series once it failed or was looked up. -/
theorem mem_keys_record (m : ExporterMetrics) (c : MetricCall) (name : String) :
    name ∈ (m.record c).collectorErrors.keys ↔
      name ∈ m.collectorErrors.keys ∨ name ∈ c.failed ∨ c = .read name := by
  cases c with
  | fetchFailed => simp [record, recordFetchError, MetricCall.failed]
  | scraped report now =>
    have hKeys := mem_keys_foldl_countError m.collectorErrors report.failures name
    simpa [record, recordScrape, MetricCall.failed, ScrapeReport.failures] using hKeys
  | read collector =>
    show name ∈ (m.collectorErrors.put collector (m.errorsOf collector)).keys ↔ _
    rw [Keyed.mem_keys_put]
    simp [MetricCall.failed, or_comm, eq_comm]

-- ---------------------------------------------------------------------------
-- What the metrics show
-- ---------------------------------------------------------------------------

/-- What the metrics show after some calls, said by the calls. -/
structure Accounts (m : ExporterMetrics) (calls : List MetricCall) : Prop where
  /-- Every cycle counts once. -/
  scrapes : m.scrapes = calls.countP MetricCall.isCycle
  /-- So does every cycle that failed, however many collectors failed in it. -/
  scrapeErrors : m.scrapeErrors = calls.countP MetricCall.isFailure
  /-- Every failed outcome counts once for the collector it names. -/
  errorsOf : ∀ name, m.errorsOf name = (calls.flatMap MetricCall.failed).count name
  /-- There is a series for each name that failed or was looked up. -/
  series : ∀ name, name ∈ m.collectorErrors.keys ↔
    name ∈ calls.flatMap MetricCall.failed ∨ .read name ∈ calls
  /-- The last cycle says whether there was an error. -/
  lastError : m.lastError =
    match (calls.filter MetricCall.isCycle).getLast? with
    | none => 0
    | some c => if c.isFailure then 1 else 0
  /-- The last completed cycle says when there was one and how long it took. -/
  lastCompleted : (m.lastTimestamp, m.lastDuration) =
    match (calls.filterMap MetricCall.completed?).getLast? with
    | none => (0, 0)
    | some (report, now) => (.ofNat now, report.duration.seconds)

/-- **One more call** shows as it should. -/
theorem Accounts.record (h : m.Accounts calls) (c : MetricCall) :
    (m.record c).Accounts (calls ++ [c]) where
  scrapes := by
    rw [scrapes_record, h.scrapes, List.countP_append, List.countP_singleton]
  scrapeErrors := by
    rw [scrapeErrors_record, h.scrapeErrors, List.countP_append, List.countP_singleton]
  errorsOf name := by
    rw [errorsOf_record, h.errorsOf, List.flatMap_append, List.count_append, List.flatMap_singleton]
  series name := by
    rw [mem_keys_record, h.series, List.flatMap_append, List.mem_append, List.flatMap_singleton,
      List.mem_append, List.mem_singleton]
    tauto
  lastError := by
    rw [lastError_record, h.lastError, List.filter_append, List.filter_singleton]
    cases c.isCycle with
    | true => simp
    | false => simp
  lastCompleted := by
    rw [lastCompleted_record, List.filterMap_append]
    cases hCompleted : c.completed? with
    | none =>
      have hNone : [c].filterMap MetricCall.completed? = [] := by simp [hCompleted]
      rw [hNone, List.append_nil]
      exact h.lastCompleted
    | some completed =>
      have hSome : [c].filterMap MetricCall.completed? = [completed] := by simp [hCompleted]
      rw [hSome, List.getLast?_concat]

/-- New metrics account for no calls. -/
theorem Accounts.make {space : String} {identity : DirectorIdentity}
    (h : make space identity = .ok m) :
    m.Accounts [] := by
  obtain ⟨rfl, -⟩ := make_eq_ok h
  exact ⟨rfl, rfl, fun _ => rfl, fun _ => by simp [Keyed.keys, Keyed.empty], rfl, rfl⟩

/-- **Any calls** show as they should. -/
theorem Accounts.after (h : m.Accounts []) (calls : List MetricCall) :
    (m.after calls).Accounts calls := by
  induction calls using List.reverseRecOn with
  | nil => exact h
  | append_singleton calls c ih =>
    rw [after_concat]
    exact ih.record c

theorem descriptors_after (m : ExporterMetrics) (calls : List MetricCall) :
    (m.after calls).descriptors = m.descriptors := by
  induction calls using List.reverseRecOn with
  | nil => rfl
  | append_singleton calls c ih =>
    rw [after_concat, ← ih]
    cases c <;> rfl

end ExporterMetrics

open ExporterMetrics in
/-- **Every cycle is accounted for.** After any calls on new metrics, with reports of any length in
which names may be repeated, `Accounts` holds. So there are never more failed cycles than cycles,
and one more call counts one failed cycle at most. What is looked up or served for a collector is
how many of its outcomes were failures, and there is one series for each collector that failed or
was looked up. -/
theorem every_cycle_is_accounted_for {space : String} {identity : DirectorIdentity}
    {first : ExporterMetrics} (hMake : make space identity = .ok first) (calls : List MetricCall) :
    (first.after calls).Accounts calls ∧
    (first.after calls).scrapeErrors ≤ (first.after calls).scrapes ∧
    (∀ c, (first.after (calls ++ [c])).scrapeErrors ≤ (first.after calls).scrapeErrors + 1) ∧
    (∀ name, ((first.after calls).readErrors name).1 =
      (calls.flatMap MetricCall.failed).count name) ∧
    (∀ s, (first.after calls).families s =
      [(s.wanted space identity).family s.kind ((first.after calls).rows s)]) ∧
    (((first.after calls).rows .collectorErrors).map Prod.fst).Nodup ∧
    ∀ row, row ∈ (first.after calls).rows .collectorErrors ↔
      ∃ name, row = ([name], .ofNat ((calls.flatMap MetricCall.failed).count name)) ∧
        (name ∈ calls.flatMap MetricCall.failed ∨ .read name ∈ calls) := by
  have hAccounts := (Accounts.make hMake).after calls
  refine ⟨hAccounts, ?_, ?_, hAccounts.errorsOf, ?_, ?_, ?_⟩
  · rw [hAccounts.scrapes, hAccounts.scrapeErrors]
    exact List.countP_mono_left fun c _ => MetricCall.isCycle_of_isFailure
  · intro c
    rw [after_concat, scrapeErrors_record]
    split <;> omega
  · refine families_eq ?_
    rw [descriptors_after, (make_eq_ok hMake).1]
  · exact (first.after calls).collectorErrors.singletons_nodup _
  · intro row
    rw [rows, List.mem_map]
    constructor
    · rintro ⟨⟨name, count⟩, hEntry, rfl⟩
      have hGet := (Keyed.get?_eq_some_iff _ _ _).mpr hEntry
      have hCount := hAccounts.errorsOf name
      rw [errorsOf, hGet, Option.getD_some] at hCount
      exact ⟨name, by rw [hCount], (hAccounts.series name).mp (List.mem_map_of_mem hEntry)⟩
    · rintro ⟨name, rfl, hSeries⟩
      obtain ⟨⟨key, count⟩, hEntry, rfl⟩ :=
        List.mem_map.mp ((hAccounts.series name).mpr hSeries)
      have hGet := (Keyed.get?_eq_some_iff _ _ _).mpr hEntry
      have hCount := hAccounts.errorsOf key
      rw [errorsOf, hGet, Option.getD_some] at hCount
      exact ⟨(key, count), hEntry, by rw [hCount]⟩

/-- A report in which a collector failed twice beside another. -/
private def twiceFailed : ScrapeReport :=
  ⟨[⟨"a", some .sinkClosed⟩, ⟨"b", none⟩, ⟨"a", some .sinkClosed⟩,
    ⟨"c", some .sinkClosed⟩], .ofSeconds 2⟩

/-- A report of a success. -/
private def goodReport : ScrapeReport := ⟨[⟨"a", none⟩], .ofSeconds 1⟩

/-- A look at a collector that never failed, two reports, a fetch that failed, and another look. -/
private def fourCycles : List MetricCall :=
  [.read "quiet", .scraped twiceFailed 5, .scraped goodReport 7, .scraped twiceFailed 9,
    .fetchFailed, .read "a"]

theorem four_cycles_are_accounted_for :
    ∃ first, ExporterMetrics.make "bosh" ⟨"env", "name", "uuid"⟩ = .ok first ∧
      (first.after fourCycles).scrapes = 4 ∧ (first.after fourCycles).scrapeErrors = 3 ∧
      (first.after fourCycles).errorsOf "a" = 4 ∧ (first.after fourCycles).errorsOf "b" = 0 ∧
      (first.after fourCycles).lastError = 1 ∧
      ((first.after fourCycles).lastTimestamp, (first.after fourCycles).lastDuration) =
        (.ofNat 9, (Duration.ofSeconds 2).seconds) ∧
      (["quiet"], .ofNat 0) ∈ (first.after fourCycles).rows .collectorErrors ∧
      ∀ value, (["b"], value) ∉ (first.after fourCycles).rows .collectorErrors := by
  obtain ⟨first, hMake⟩ : ∃ first, ExporterMetrics.make "bosh" ⟨"env", "name", "uuid"⟩ =
      .ok first := ⟨_, rfl⟩
  obtain ⟨hAccounts, -, -, -, -, -, hRows⟩ := every_cycle_is_accounted_for hMake fourCycles
  refine ⟨first, hMake, hAccounts.scrapes, hAccounts.scrapeErrors, hAccounts.errorsOf "a",
    hAccounts.errorsOf "b", hAccounts.lastError, hAccounts.lastCompleted, ?_, ?_⟩
  · exact (hRows _).mpr ⟨"quiet", rfl, .inr (by simp [fourCycles])⟩
  · rintro value hRow
    obtain ⟨name, hName, hSeries⟩ := (hRows _).mp hRow
    cases hName
    simp [fourCycles, MetricCall.failed, twiceFailed, goodReport, Outcome.isSuccess] at hSeries

end TopologyExporter
