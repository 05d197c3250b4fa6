import TopologyExporter.Loop.Cycle
import TopologyExporter.Proofs.Scrape.Progress

/-!
# Cycles over files

`ScrapeLoop.RunsOnce` is one cycle of a loop over given files: what is fetched decides whether it is
skipped or a scrape is made, whose steps may come in any order and whose limits may strike at any
moment. `ScrapeLoop.runOnce` is such a cycle.

## Results

* `ScrapeLoop.RunsOnce.of_runOnce` — a cycle that is run is one of these.
* `ScrapeLoop.RunsOnce.keeps`      — what a cycle leaves as it is.
* `ScrapeLoop.RunsOnce.counts`     — every cycle is counted, once.
-/

namespace TopologyExporter

namespace ScrapeLoop

/-- What a loop fetches next. -/
def fetch (l : ScrapeLoop) (tree : FileTree) : Fetched := l.fetcher l.cycles tree

/-- A cycle of a loop over some files: it is skipped if the fetch fails, and otherwise a scrape is
made of what was fetched. -/
inductive RunsOnce (l : ScrapeLoop) (storage : Storage) : Cycle → Prop
  | skipped {error : FetchError}
      (hFetch : (l.fetch storage.tree).result = .error error) (now : Nat) :
      RunsOnce l storage ⟨none, (l.skip error now).1, storage, (l.skip error now).2,
        (l.fetch storage.tree).elapsed⟩
  | completed {s : Snapshot} {clock : String → RunClock} {moves : List RunEvent}
      {scraped : Scraped}
      (hFetch : (l.fetch storage.tree).result = .ok s)
      (hScrape : l.orchestrator.Scrapes storage s clock moves scraped) (now : Nat) :
      RunsOnce l storage ⟨some scraped.report, (l.record scraped now).1, scraped.storage,
        (l.record scraped now).2, (l.fetch storage.tree).elapsed + scraped.elapsed⟩

variable {l : ScrapeLoop} {storage : Storage} {c : Cycle}

namespace RunsOnce

/-- **A cycle that is run is one of these.** -/
theorem of_runOnce {clock : CycleClock} (h : l.runOnce storage clock = .ok c) :
    l.RunsOnce storage c := by
  simp only [runOnce] at h
  split at h
  case h_1 error hFetch =>
    cases h
    exact .skipped hFetch _
  case h_2 s hFetch =>
    cases hScrape : l.orchestrator.scrape storage s clock.scrape with
    | error e => simp [hScrape, bind, Except.bind] at h
    | ok scraped =>
      simp only [hScrape, bind, Except.bind, pure, Except.pure, Except.ok.injEq] at h
      obtain ⟨moves, hMoves⟩ := Orchestrator.scrape_onTime hScrape
      exact h ▸ .completed hFetch hMoves.scrapes _

/-- **A cycle leaves the parts of its loop as they are**: who fetches, who collects and under which
limit, and how often. -/
theorem keeps (h : l.RunsOnce storage c) :
    c.loop.fetcher = l.fetcher ∧ c.loop.interval = l.interval ∧
    c.loop.orchestrator.collectors = l.orchestrator.collectors ∧
    c.loop.orchestrator.limit = l.orchestrator.limit ∧
    c.loop.orchestrator.buffer = l.orchestrator.buffer := by
  cases h with
  | skipped hFetch now => exact ⟨rfl, rfl, rfl, rfl, rfl⟩
  | completed hFetch hScrape now =>
    cases hScrape
    exact ⟨rfl, rfl, rfl, rfl, rfl⟩

/-- **Every cycle is counted once**, by its loop and in the metrics, whatever came of it. -/
theorem counts (h : l.RunsOnce storage c) :
    c.loop.cycles = l.cycles + 1 ∧ c.loop.metrics.scrapes = l.metrics.scrapes + 1 := by
  cases h <;> exact ⟨rfl, rfl⟩

end RunsOnce

end ScrapeLoop

end TopologyExporter
