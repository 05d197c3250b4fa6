import TopologyExporter.Proofs.Scrape.Account
import TopologyExporter.Proofs.Text.Keyed
import TopologyExporter.Scrape.Orchestrator

/-!
# Publication — what is served after scrapes

Whatever the order of the steps of a scrape, its report has the result of every collector in the
order of registration. Of a collector that succeeded exactly what its call sent is served from then
on, and of one that failed exactly what was served before.

## Results

* `LatestMetrics.familiesFor_publish`  — what publishing the outcomes of a scrape changes.
* `Orchestrator.Scrapes.outcome`       — the outcome of a collector, and what is served of it
  after.
* `Orchestrator.Reached.served`        — after any scrapes, the output of the last success is
  served.
-/

namespace TopologyExporter

-- ---------------------------------------------------------------------------
-- Reporting and publishing outcomes
-- ---------------------------------------------------------------------------

/-- Where names are distinct, the outcome of a collector is the one with its name. -/
theorem ScrapeReport.outcome?_eq_some_iff {r : ScrapeReport}
    (hDistinct : (r.outcomes.map Outcome.collector).Nodup) {name : String} {o : Outcome} :
    r.outcome? name = some o ↔ o ∈ r.outcomes ∧ o.collector = name := by
  rw [outcome?]
  constructor
  · intro hFind
    exact ⟨List.mem_of_find?_eq_some hFind, by simpa using List.find?_some hFind⟩
  · rintro ⟨ho, rfl⟩
    obtain ⟨o', hFind⟩ : ∃ o', r.outcomes.find? (·.collector = o.collector) = some o' :=
      Option.isSome_iff_exists.mp (List.find?_isSome.mpr ⟨o, ho, by simp⟩)
    have hName : o'.collector = o.collector := by simpa using List.find?_some hFind
    rw [hFind, List.inj_on_of_nodup_map hDistinct (List.mem_of_find?_eq_some hFind) ho hName]

namespace LatestMetrics

variable (m : LatestMetrics) {collector name : String} {families : List Family}

theorem familiesFor_replace_self : (m.replace name families).familiesFor name = families := by
  simp [familiesFor, replace, Keyed.get?_put]

theorem familiesFor_replace_of_ne (h : collector ≠ name) :
    (m.replace name families).familiesFor collector = m.familiesFor collector := by
  simp [familiesFor, replace, Keyed.get?_put, h]

/-- What a collector without an outcome published stays. -/
theorem familiesFor_publish_of_notMem {outcomes : List Outcome}
    (h : collector ∉ outcomes.map Outcome.collector) (received : List SinkItem) :
    (m.publish received outcomes).familiesFor collector = m.familiesFor collector := by
  induction outcomes generalizing m received with
  | nil => rfl
  | cons o rest ih =>
    rw [List.map_cons, List.mem_cons, not_or] at h
    rw [publish]
    split
    · rw [ih _ h.2, familiesFor_replace_of_ne _ h.1]
    · exact ih _ h.2 _

/-- Removing the items of one collector keeps those of another. -/
theorem familiesOf_filter_of_ne (h : collector ≠ name) (received : List SinkItem) :
    familiesOf collector (received.filter (·.collector ≠ name)) =
      familiesOf collector received := by
  rw [familiesOf, familiesOf, List.filter_filter]
  congr 1
  apply List.filter_congr
  intro item _
  by_cases hItem : item.collector = collector
  · simp [hItem, h]
  · simp [hItem]

/-- **Publishing separates the collectors**: one that succeeded has from then on what was received
from it, and one that failed what it had before. -/
theorem familiesFor_publish {outcomes : List Outcome} {o : Outcome}
    (hNames : (outcomes.map Outcome.collector).Nodup) (hMem : o ∈ outcomes)
    (received : List SinkItem) :
    (m.publish received outcomes).familiesFor o.collector =
      if o.isSuccess then familiesOf o.collector received else m.familiesFor o.collector := by
  induction outcomes generalizing m received with
  | nil => simp at hMem
  | cons first rest ih =>
    rw [List.map_cons, List.nodup_cons] at hNames
    rw [publish]
    rcases List.mem_cons.mp hMem with rfl | hRest
    · -- its own turn; the later outcomes are of others
      split
      · rw [familiesFor_publish_of_notMem _ hNames.1, familiesFor_replace_self]
      · exact familiesFor_publish_of_notMem _ hNames.1 _
    · have hNe : o.collector ≠ first.collector := fun hEq =>
        hNames.1 (hEq ▸ List.mem_map_of_mem hRest)
      split
      · rw [ih _ hNames.2 hRest, familiesOf_filter_of_ne hNe, familiesFor_replace_of_ne _ hNe]
      · exact ih _ hNames.2 hRest _

end LatestMetrics

-- ---------------------------------------------------------------------------
-- Scrapes
-- ---------------------------------------------------------------------------

/-- A scrape whose steps come in any order: what was seen of it, and what it came to. -/
inductive Orchestrator.Scrapes (o : Orchestrator) (storage : Storage) (s : Snapshot)
    (clock : String → RunClock) : List RunEvent → Scraped → Prop
  | concluded {first last : Run} {events : List RunEvent}
      (hStart : o.start storage s clock = .ok first)
      (hHistory : first.History events last) (hOver : last.isOver = true) (elapsed : Duration) :
      Scrapes o storage s clock events (o.conclude last elapsed)

/-- A channel can be made of every capacity from one to the greatest. -/
theorem Channel.make_eq_ok_iff {α : Type} {capacity : Nat} {c : Channel α} :
    Channel.make capacity = .ok c ↔
      0 < capacity ∧ capacity ≤ maxCapacity ∧ c = ⟨capacity, [], true⟩ := by
  unfold Channel.make
  split
  case isTrue hZero => simp [hZero]
  case isFalse hZero =>
    split
    case isTrue hGreat => simp [Nat.not_le.mpr hGreat]
    case isFalse hGreat => simp [Nat.pos_of_ne_zero hZero, Nat.not_lt.mp hGreat, eq_comm]

namespace Orchestrator

variable {o : Orchestrator} {storage : Storage} {s : Snapshot} {clock : String → RunClock}
  {events : List RunEvent} {scraped : Scraped} {i : Nat} {c : Collector}

theorem calls_names : (o.calls s clock).map Prod.fst = o.names := by
  simp [calls, names]

/-- A scrape begins with a task for each collector and an empty channel, if there can be such a
channel. -/
theorem start_eq_ok_iff {first : Run} :
    o.start storage s clock = .ok first ↔
      0 < o.buffer ∧ o.buffer ≤ maxCapacity ∧
        first = .start (o.calls s clock) o.limit ⟨o.buffer, [], true⟩ storage := by
  unfold start
  constructor
  · intro h
    cases hMake : (Channel.make o.buffer : Except CapacityError (Channel SinkItem)) with
    | error e => simp [hMake, bind, Except.bind] at h
    | ok channel =>
      obtain ⟨hRoom, hMost, rfl⟩ := Channel.make_eq_ok_iff.mp hMake
      simp only [hMake, bind, Except.bind, pure, Except.pure, Except.ok.injEq] at h
      exact ⟨hRoom, hMost, h.symm⟩
  · rintro ⟨hRoom, hMost, rfl⟩
    have hMake : (Channel.make o.buffer : Except CapacityError (Channel SinkItem)) =
        .ok ⟨o.buffer, [], true⟩ := Channel.make_eq_ok_iff.mpr ⟨hRoom, hMost, rfl⟩
    simp only [hMake, bind, Except.bind]
    rfl

theorem accounted_of_start {first : Run} (h : o.start storage s clock = .ok first) :
    first.Accounted (o.calls s clock) o.limit [] := by
  obtain ⟨-, -, rfl⟩ := start_eq_ok_iff.mp h
  exact .start rfl rfl storage

/-- The report names every collector once, in the order of registration. -/
theorem Scrapes.names_eq (h : o.Scrapes storage s clock events scraped) :
    scraped.report.outcomes.map Outcome.collector = o.names := by
  cases h with | @concluded first last events hStart hHistory hOver elapsed =>
  have hAccount := hHistory.accounted (accounted_of_start hStart)
  rw [← @calls_names o s clock]
  apply List.ext_getElem?
  intro i
  show ((last.tasks.map fun t => (⟨t.collector, t.outcome⟩ : Outcome)).map
    Outcome.collector)[i]? = _
  rw [List.map_map, List.getElem?_map, List.getElem?_map]
  cases hTask : last.tasks[i]? with
  | none =>
    have hCall : (o.calls s clock)[i]? = none := by
      rw [List.getElem?_eq_none_iff, ← hAccount.length, ← List.getElem?_eq_none_iff, hTask]
    rw [hCall]
    rfl
  | some t =>
    obtain ⟨c, hCall⟩ := hAccount.exists_call hTask
    rw [hCall]
    exact congrArg some (hAccount.tasks i t c hTask hCall).collector

/-- **The outcome of a collector**: its task ended once, with a result of its own call, and that is
what the report says. If it succeeded, all that its call sends was sent, and is served from then on;
otherwise nothing changes for it. -/
theorem Scrapes.outcome (h : o.Scrapes storage s clock events scraped) (hNames : o.names.Nodup)
    (hCollector : o.collectors[i]? = some c) :
    ∃ error,
      scraped.report.outcomes[i]? = some ⟨c.name, error⟩ ∧
      endingsOf i events = [error] ∧
      (c.call o.scrapes s (clock c.name)).Result c.name o.limit error ∧
      (error = none → sentBy i events = (c.call o.scrapes s (clock c.name)).output) ∧
      scraped.orchestrator.latest.familiesFor c.name =
        if error.isNone then sentBy i events else o.latest.familiesFor c.name := by
  have hReport := h.names_eq
  cases h with | @concluded first last events hStart hHistory hOver elapsed =>
  have hAccount := hHistory.accounted (accounted_of_start hStart)
  have hCall : (o.calls s clock)[i]? = some (c.name, c.call o.scrapes s (clock c.name)) := by
    simp [calls, hCollector]
  obtain ⟨t, hTask⟩ : ∃ t, last.tasks[i]? = some t := by
    have hi : i < last.tasks.length := hAccount.length ▸ (List.getElem?_eq_some_iff.mp hCall).1
    exact ⟨_, List.getElem?_eq_getElem hi⟩
  have hOwn := hAccount.tasks i t _ hTask hCall
  rw [Run.isOver, Bool.and_eq_true, List.all_eq_true, List.isEmpty_iff] at hOver
  obtain ⟨error, hEnded⟩ := Task.exists_ended (hOver.1 t (List.mem_of_getElem? hTask))
  have hOutcome : last.outcomes[i]? = some ⟨c.name, error⟩ := by
    simp [Run.outcomes, hTask, hOwn.collector, Task.outcome, hEnded]
  -- all that tasks sent has been received when the run is over
  have hReceived : last.received = events.filterMap (sinkItem? (o.calls s clock)) := by
    rw [← hAccount.queue, hOver.2, List.append_nil]
  refine ⟨error, hOutcome, ?_, hOwn.result error hEnded, ?_, ?_⟩
  · rw [hOwn.endings_eq, Task.endings, hEnded]
  · rintro rfl
    have hSent := hOwn.sent_eq (by simp [hEnded])
    rwa [hOwn.steps_nil _ hEnded, familiesOfSteps, List.filterMap_nil, List.append_nil] at hSent
  · show (o.latest.publish last.received last.outcomes).familiesFor c.name = _
    have hPublished := o.latest.familiesFor_publish (hReport ▸ hNames)
      (List.mem_of_getElem? hOutcome) last.received
    rw [hReceived, familiesOf_sinkItems (calls_names ▸ hNames) hCall] at hPublished
    rw [hReceived]
    exact hPublished

end Orchestrator

-- ---------------------------------------------------------------------------
-- Any number of scrapes
-- ---------------------------------------------------------------------------

/-- What is remembered of a scrape: the calls that were made, and what it reported. -/
structure PastScrape where
  calls : List (String × Call)
  report : ScrapeReport
deriving Repr, DecidableEq, Inhabited

namespace PastScrape

/-- Whether the collector at a position succeeded. -/
def succeeded (p : PastScrape) (i : Nat) : Bool := p.report.outcomes[i]?.any Outcome.isSuccess

/-- The complete output of the call of the collector at a position. -/
def output (p : PastScrape) (i : Nat) : List Family :=
  (p.calls[i]?.map fun c => c.2.output).getD []

end PastScrape

/-- The complete output of the last successful call of the collector at a position, or nothing if
there was none. -/
def lastOutput (i : Nat) (past : List PastScrape) : List Family :=
  past.foldl (fun output p => if p.succeeded i then p.output i else output) []

/-- The orchestrator after any scrapes, of any snapshots, over any files, in any order of steps. -/
inductive Orchestrator.Reached (first : Orchestrator) : List PastScrape → Orchestrator → Prop
  | start : Reached first [] first
  | scrape {past : List PastScrape} {o : Orchestrator} {storage : Storage} {s : Snapshot}
      {clock : String → RunClock} {events : List RunEvent} {scraped : Scraped}
      (hPast : Reached first past o) (hScrape : o.Scrapes storage s clock events scraped) :
      Reached first (past ++ [⟨o.calls s clock, scraped.report⟩]) scraped.orchestrator

namespace Orchestrator

variable {first o : Orchestrator} {past : List PastScrape} {i : Nat} {c : Collector}

/-- Scrapes change what is published and nothing else that matters to a scrape. -/
theorem Reached.collectors_eq (h : first.Reached past o) :
    o.collectors = first.collectors ∧ o.limit = first.limit := by
  induction h with
  | start => exact ⟨rfl, rfl⟩
  | scrape _ hScrape ih =>
    cases hScrape
    exact ih

/-- **After any scrapes the last success is served**, or what was served at first if there was
none. -/
theorem Reached.served (h : first.Reached past o) (hNames : first.names.Nodup)
    (hFirst : first.latest.familiesFor c.name = []) (hCollector : first.collectors[i]? = some c) :
    o.latest.familiesFor c.name = lastOutput i past := by
  induction h with
  | start => exact hFirst
  | @scrape past o storage s clock events scraped hPast hScrape ih =>
    have hSame := hPast.collectors_eq.1
    obtain ⟨error, hOutcome, -, -, hOutput, hServed⟩ :=
      hScrape.outcome (by simpa [names, hSame] using hNames) (hSame ▸ hCollector)
    rw [hServed, ih, lastOutput, lastOutput, List.foldl_append]
    cases error with
    | none =>
      have hCall : (o.calls s clock)[i]? = some (c.name, c.call o.scrapes s (clock c.name)) := by
        simp [calls, hSame, hCollector]
      simp [PastScrape.succeeded, PastScrape.output, hOutcome, Outcome.isSuccess, hCall,
        hOutput rfl]
    | some error => simp [PastScrape.succeeded, hOutcome, Outcome.isSuccess]

end Orchestrator

/-- **Scrapes publish exactly the successes.** For collectors of distinct names, a buffer of any
size and any number of scrapes whose steps come in any order:

* a scrape reports every collector once, in the order of registration, with the result that its own
  call came to;
* of a collector that succeeded, all that this call sends has been sent and is served after the
  scrape, in its order and with nothing of others, and of one that failed, what was served before;
* so what is served of a collector is at any time the complete output of its last success. -/
theorem served_is_last_success (collectors : List Collector) (limit : Duration) (buffer : Nat)
    (hNames : (collectors.map Collector.name).Nodup) {past : List PastScrape} {o : Orchestrator}
    (hPast : (Orchestrator.make collectors limit buffer).Reached past o) :
    (∀ storage s clock events scraped, o.Scrapes storage s clock events scraped →
      scraped.report.outcomes.map Outcome.collector = collectors.map Collector.name ∧
      ∀ i c, collectors[i]? = some c →
        ∃ error,
          scraped.report.outcomes[i]? = some ⟨c.name, error⟩ ∧
          endingsOf i events = [error] ∧
          (c.call o.scrapes s (clock c.name)).Result c.name limit error ∧
          (error = none → sentBy i events = (c.call o.scrapes s (clock c.name)).output) ∧
          scraped.orchestrator.latest.familiesFor c.name =
            if error.isNone then sentBy i events else o.latest.familiesFor c.name) ∧
    ∀ i c, collectors[i]? = some c → o.latest.familiesFor c.name = lastOutput i past := by
  obtain ⟨hSame, hLimit⟩ := hPast.collectors_eq
  have hNames' : o.names.Nodup := by rwa [Orchestrator.names, hSame]
  constructor
  · intro storage s clock events scraped hScrape
    refine ⟨?_, ?_⟩
    · rw [hScrape.names_eq, Orchestrator.names, hSame]
      rfl
    · intro i c hCollector
      have hOutcome := hScrape.outcome hNames' (by rwa [hSame])
      rwa [hLimit] at hOutcome
  · intro i c hCollector
    exact hPast.served hNames rfl hCollector

private def up : Family := ⟨"up", "Whether it is up.", .gauge, []⟩

private def seen : Family := ⟨"seen", "When it was seen.", .gauge, []⟩

private def steady : Collector :=
  ⟨"steady", [], fun _ _ _ => ⟨[.send up, .send seen], .returns none⟩⟩

private def broken : Collector :=
  ⟨"broken", [], fun _ _ _ => ⟨[.send seen], .returns (some .sinkClosed)⟩⟩

private def pair : Orchestrator := .make [steady, broken] (.ofSeconds 10) 1

private def pairRun : Run :=
  .start (pair.calls [] fun _ => default) pair.limit ⟨1, [], true⟩ ⟨.empty, []⟩

/-- The channel has room for one item, so that the collectors take turns. -/
private def turns : List Move :=
  [.proceed 0, .receive, .proceed 1, .receive, .proceed 0, .proceed 1, .receive, .proceed 0]

private def pairOver : List RunEvent × Run := (pairRun.replay? turns).getD ([], pairRun)

/-- Of two collectors that take turns, the one that fails after it has sent is not served. -/
theorem steady_served_beside_broken :
    ([steady, broken].map Collector.name).Nodup ∧
    ∃ past o, (Orchestrator.make [steady, broken] (.ofSeconds 10) 1).Reached past o ∧
      o.latest.familiesFor "steady" = [up, seen] ∧ o.latest.familiesFor "broken" = [] := by
  have hNames : ([steady, broken].map Collector.name).Nodup := by decide
  have hMoves : pairRun.replay? turns = some pairOver := by decide +kernel
  have hOver : pairOver.2.isOver = true := by decide +kernel
  have hScrape : pair.Scrapes ⟨.empty, []⟩ [] (fun _ => default) _ _ :=
    .concluded rfl (.of_replay? hMoves) hOver ⟨1⟩
  have hReached := Orchestrator.Reached.scrape .start hScrape
  have hServed := (served_is_last_success _ _ _ hNames hReached).2
  refine ⟨hNames, _, _, hReached, ?_, ?_⟩
  · exact (hServed 0 steady rfl).trans (by decide +kernel)
  · exact (hServed 1 broken rfl).trans (by decide +kernel)

end TopologyExporter
