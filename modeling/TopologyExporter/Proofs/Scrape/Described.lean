import Mathlib.Data.List.Lattice
import Mathlib.Data.List.Pairwise
import TopologyExporter.Proofs.Collector.Described
import TopologyExporter.Proofs.Loop.Records

/-!
# Latest metrics — they are described

Where collectors send what they describe, so are the latest metrics: of each collector there is
nothing yet, or one family for each of its descriptors. Every scrape keeps this, whatever comes of
it.

## Results

* `LatestMetrics.Describes.collect_fits`, `collect_names` — what holds of all that is served.
* `Orchestrator.Scrapes.describes`                        — a scrape keeps the latest metrics
  described.
* `ScrapeLoop.Runs.described`                             — and so do cycles.
-/

namespace TopologyExporter

namespace LatestMetrics

variable {m : LatestMetrics} {collectors : List Collector} {name : String}

/-- Publishing brings no names but those of the outcomes. -/
theorem mem_keys_publish {received : List SinkItem} {outcomes : List Outcome}
    (h : name ∈ (m.publish received outcomes).families.keys) :
    name ∈ m.families.keys ∨ name ∈ outcomes.map Outcome.collector := by
  induction outcomes generalizing m received with
  | nil => exact .inl h
  | cons o rest ih =>
    rw [List.map_cons, List.mem_cons]
    rw [publish] at h
    split at h
    · obtain hKey | hRest := ih h
      · obtain rfl | hKey := (Keyed.mem_keys_put ..).mp hKey
        · exact .inr (.inl rfl)
        · exact .inl hKey
      · exact .inr (.inr hRest)
    · exact (ih h).imp_right .inr

/-- Whether the latest metrics are of some collectors only, and have of each of them nothing yet or
a family for each of its descriptors. -/
structure Describes (m : LatestMetrics) (collectors : List Collector) : Prop where
  names : ∀ name ∈ m.families.keys, name ∈ collectors.map Collector.name
  fits  : ∀ c ∈ collectors, m.familiesFor c.name = [] ∨
    List.Forall₂ Family.FitsTo (m.familiesFor c.name) c.descriptors

theorem Describes.make (ds : List Descriptor) (collectors : List Collector) :
    (make ds).Describes collectors :=
  ⟨fun _ h => absurd h List.not_mem_nil, fun _ _ => .inl rfl⟩

/-- What is there under a name comes from a collector, and has no names but those it describes. -/
theorem Describes.entry (h : m.Describes collectors) {e : String × List Family}
    (he : e ∈ m.families.entries) :
    ∃ c ∈ collectors, c.name = e.1 ∧
      (e.2.map Family.name).Sublist (c.descriptors.map Descriptor.name) ∧
      ∀ f ∈ e.2, ∃ d ∈ c.descriptors, f.FitsTo d := by
  obtain ⟨c, hc, hName⟩ := List.mem_map.mp (h.names e.1 (List.mem_map_of_mem he))
  have hFamilies : m.familiesFor c.name = e.2 := by
    rw [familiesFor, hName, (Keyed.get?_eq_some_iff _ _ _).mpr he]
    rfl
  refine ⟨c, hc, hName, ?_⟩
  obtain hNone | hFits := h.fits c hc
  · rw [← hFamilies, hNone]
    exact ⟨List.nil_sublist _, fun f hf => absurd hf List.not_mem_nil⟩
  · rw [hFamilies] at hFits
    exact ⟨Family.names_of_fits hFits ▸ List.Sublist.refl _,
      fun f hf => exists_of_forall₂ hFits hf⟩

/-- **All that is served is described.** -/
theorem Describes.collect_fits (h : m.Describes collectors) :
    ∀ f ∈ m.collect, ∃ d ∈ collectors.flatMap Collector.descriptors, f.FitsTo d := by
  intro f hf
  obtain ⟨families, hFamilies, hf⟩ := List.mem_flatten.mp hf
  obtain ⟨e, he, rfl⟩ := List.mem_map.mp hFamilies
  obtain ⟨c, hc, -, -, hFits⟩ := h.entry he
  obtain ⟨d, hd, hFit⟩ := hFits f hf
  exact ⟨d, List.mem_flatMap.mpr ⟨c, hc, hd⟩, hFit⟩

/-- **All that is served has distinct names**, if all that is described has. -/
theorem Describes.collect_names (h : m.Describes collectors)
    (hDistinct : ((collectors.flatMap Collector.descriptors).map Descriptor.name).Nodup) :
    (m.collect.map Family.name).Nodup := by
  have hNames : m.collect.map Family.name = m.families.entries.flatMap fun e =>
      e.2.map Family.name := by
    rw [collect, Keyed.values, List.map_flatten, List.map_map, List.flatMap_def]
    rfl
  rw [List.map_flatMap, List.nodup_flatMap] at hDistinct
  obtain ⟨hEach, hApart⟩ := hDistinct
  have hSymm : Std.Symm
      (Function.onFun List.Disjoint fun c : Collector => c.descriptors.map Descriptor.name) :=
    ⟨fun _ _ h => List.Disjoint.symm h⟩
  rw [hNames, List.nodup_flatMap]
  constructor
  · intro e he
    obtain ⟨c, hc, -, hSublist, -⟩ := h.entry he
    exact (hEach c hc).sublist hSublist
  · -- entries of different names are of different collectors
    refine (List.pairwise_map.mp m.families.distinct).imp_of_mem fun {e e'} he he' hNe => ?_
    obtain ⟨c, hc, hName, hSublist, -⟩ := h.entry he
    obtain ⟨c', hc', hName', hSublist', -⟩ := h.entry he'
    have hOther : c ≠ c' := fun hEq =>
      hNe (hName.symm.trans ((congrArg Collector.name hEq).trans hName'))
    have hDisjoint := hApart.forall hc hc' hOther
    exact fun name hMem hMem' => hDisjoint (hSublist.subset hMem) (hSublist'.subset hMem')

end LatestMetrics

/-- **A scrape keeps the latest metrics described**: those of a collector stay or are replaced by
all that its call sends. -/
theorem Orchestrator.Scrapes.describes {o : Orchestrator} {storage : Storage} {s : Snapshot}
    {clock : String → RunClock} {events : List RunEvent} {scraped : Scraped}
    (h : o.Scrapes storage s clock events scraped) (hNames : o.names.Nodup)
    (hSends : ∀ c ∈ o.collectors, c.SendsDescribed)
    (hLatest : o.latest.Describes o.collectors) :
    scraped.orchestrator.collectors = o.collectors ∧
      scraped.orchestrator.latest.Describes o.collectors := by
  have hReport := h.names_eq
  have hFits : ∀ c ∈ o.collectors, scraped.orchestrator.latest.familiesFor c.name = [] ∨
      List.Forall₂ Family.FitsTo (scraped.orchestrator.latest.familiesFor c.name)
        c.descriptors := by
    intro c hc
    obtain ⟨i, hi⟩ := List.mem_iff_getElem?.mp hc
    obtain ⟨error, -, -, -, hSent, hServed⟩ := h.outcome hNames hi
    rw [hServed]
    cases error with
    | some error => exact hLatest.fits c hc
    | none =>
      rw [hSent rfl]
      exact .inr (hSends c hc ..)
  have hKeys : ∀ name ∈ scraped.orchestrator.latest.families.keys, name ∈ o.names := by
    intro name hName
    rw [← hReport]
    cases h
    obtain hKey | hOutcome := LatestMetrics.mem_keys_publish hName
    · exact hReport ▸ hLatest.names name hKey
    · exact hOutcome
  cases h
  exact ⟨rfl, hKeys, hFits⟩

/-- **Cycles keep the latest metrics described**, and the descriptors as they were. -/
theorem ScrapeLoop.Runs.described {first l : ScrapeLoop} (h : first.Runs l)
    (hNames : first.orchestrator.names.Nodup)
    (hSends : ∀ c ∈ first.orchestrator.collectors, c.SendsDescribed)
    (hLatest : first.orchestrator.latest.Describes first.orchestrator.collectors) :
    l.orchestrator.collectors = first.orchestrator.collectors ∧
      l.metrics.descriptors = first.metrics.descriptors ∧
      l.orchestrator.latest.Describes first.orchestrator.collectors := by
  induction h with
  | start => exact ⟨rfl, rfl, hLatest⟩
  | cycle _ hCycle ih =>
    obtain ⟨hCollectors, hDescriptors, hDescribed⟩ := ih
    cases hCycle with
    | skipped error now => exact ⟨hCollectors, hDescriptors, hDescribed⟩
    | completed hScrape now =>
      rw [← hCollectors] at hSends hDescribed
      rw [Orchestrator.names, ← hCollectors] at hNames
      obtain ⟨hSame, hAfter⟩ := hScrape.describes hNames hSends hDescribed
      exact ⟨hSame.trans hCollectors, hDescriptors, hCollectors ▸ hAfter⟩

end TopologyExporter
