import TopologyExporter.Pattern.Compiled
import TopologyExporter.Proofs.Metric.Registration
import TopologyExporter.Proofs.Scrape.Described
import TopologyExporter.Service.Endpoint

/-!
# Exposition — what is served is described

The descriptors are fixed when an exporter is put together, and the families come from later cycles.
All descriptors have names of their own, so that none is refused; every family fits one of them, the
families that are gathered do so as well, and they can be written.

## Results

* `ExporterMetrics.families_fit`    — the families of the exporter's own metrics fit their
  descriptors.
* `Exporter.registryOf_ok`          — descriptors with names of their own are registered.
* `Exporter.OffersDescribed.serves` — what is gathered from sources that are described.
* `served_is_described`             — what is served after any cycles, whatever collectors are
  enabled.
-/

namespace TopologyExporter

-- ---------------------------------------------------------------------------
-- The exporter's own metrics
-- ---------------------------------------------------------------------------

section Own

variable {space : String} {identity : DirectorIdentity} {m : ExporterMetrics}

theorem ExporterSeries.wanted_labelsApart (s : ExporterSeries) :
    (s.wanted space identity).LabelsApart :=
  identity.labelsApart _ _ (by cases s <;> decide)

namespace ExporterMetrics

/-- A row has a value for each label that varies. -/
theorem length_of_mem_rows {s : ExporterSeries} {row : List String × Binary64}
    (h : row ∈ m.rows s) :
    row.1.length = s.variableLabels.length := by
  cases s with
  | collectorErrors =>
    obtain ⟨e, -, rfl⟩ := List.mem_map.mp h
    rfl
  | _ =>
    obtain rfl := List.mem_singleton.mp h
    rfl

/-- No two rows have the same values. -/
theorem rows_nodup (m : ExporterMetrics) (s : ExporterSeries) :
    ((m.rows s).map Prod.fst).Nodup := by
  cases s with
  | collectorErrors => exact m.collectorErrors.singletons_nodup _
  | _ => exact List.nodup_singleton _

/-- **The family of a series fits its descriptor**, whatever has been counted. -/
theorem families_fit
    (hDescriptors : m.descriptors = ExporterSeries.all.map fun s => (s, s.wanted space identity))
    (series : List ExporterSeries) :
    List.Forall₂ Family.FitsTo (series.flatMap m.families)
      (series.map fun s => s.wanted space identity) := by
  induction series with
  | nil => exact .nil
  | cons s rest ih =>
    rw [List.flatMap_cons, families_eq hDescriptors]
    have hRows : ∀ row ∈ m.rows s, row.1.length = s.variableLabels.length :=
      fun _ => length_of_mem_rows
    exact .cons (Descriptor.family_fitsTo s.wanted_labelsApart _ hRows (m.rows_nodup s)) ih

end ExporterMetrics

end Own

-- ---------------------------------------------------------------------------
-- Registering
-- ---------------------------------------------------------------------------

section Registered

variable [PatternCompiler] {s : Settings} {selected : List BuiltIn} {collectors : List Collector}
  {metrics : ExporterMetrics}

/-- **No name is described twice** by the exporter's own metrics and the collectors of some
settings. -/
theorem registered_names (hSelected : selected.Nodup)
    (hSetUp : List.Forall₂ (fun b c => s.setUp b = .ok c) selected collectors)
    (hMetrics : ExporterMetrics.make s.space s.identity = .ok metrics) :
    ((metrics.descriptors.map Prod.snd ++ collectors.flatMap Collector.descriptors).map
      Descriptor.name).Nodup := by
  have hAll := BuiltIn.names_nodup s.space hSelected
  rw [List.map_append] at hAll ⊢
  rw [Settings.described_names hSetUp, (ExporterMetrics.make_eq_ok hMetrics).1]
  exact hAll

/-- All these names are names of metrics. -/
theorem registered_named
    (hSetUp : List.Forall₂ (fun b c => s.setUp b = .ok c) selected collectors)
    (hMetrics : ExporterMetrics.make s.space s.identity = .ok metrics) :
    ∀ d ∈ metrics.descriptors.map Prod.snd ++ collectors.flatMap Collector.descriptors,
      isMetricName d.name = true := by
  obtain ⟨rfl, hOwn⟩ := ExporterMetrics.make_eq_ok hMetrics
  intro d hd
  obtain hd | hd := List.mem_append.mp hd
  · obtain ⟨e, he, rfl⟩ := List.mem_map.mp hd
    obtain ⟨series, -, rfl⟩ := List.mem_map.mp he
    exact hOwn series
  · obtain ⟨c, hc, hd⟩ := List.mem_flatMap.mp hd
    obtain ⟨b, -, hb⟩ := exists_of_forall₂_right hSetUp hc
    exact (Settings.setUp_described hb).2.2 d hd

end Registered

namespace Exporter

/-- **Descriptors with names of their own are registered**, first the exporter's own and then those
of the latest metrics. -/
theorem registryOf_ok {m : ExporterMetrics} {o : Orchestrator}
    (hNames : ((m.descriptors.map Prod.snd ++ o.latest.descriptors).map Descriptor.name).Nodup) :
    ∃ own registry, m.register MetricSource.own .empty = (.ok (), own) ∧
      own.register o.latest.descriptors .latest = (.ok (), registry) ∧
      registryOf m o = .ok registry ∧
      registry.sources = (m.descriptors.map fun e => MetricSource.own e.1) ++
      [MetricSource.latest] := by
  rw [List.map_append, List.map_map, List.nodup_append] at hNames
  obtain ⟨hOwn, hLatest, hApart⟩ := hNames
  obtain ⟨own, hRegister, hKnows, hSources, hDescribed⟩ :=
    ExporterMetrics.register_ok Registry.Knows.empty hOwn
      (fun _ _ => List.not_mem_nil) rfl MetricSource.own
  have hNew :
      ∀ d ∈ o.latest.descriptors, d.name ∉ [] ++ m.descriptors.map fun e => e.2.name :=
    fun d hd hMem => hApart _ hMem _ (List.mem_map_of_mem hd) rfl
  obtain ⟨registry, hRegister', -, hSources', -⟩ :=
    Registry.register_ok hKnows hLatest hNew hDescribed MetricSource.latest
  refine ⟨own, registry, hRegister, hRegister', ?_, ?_⟩
  · rw [registryOf, hRegister]
    dsimp only
    rw [hRegister']
    rfl
  · rw [hSources', hSources]
    rfl

/-- Collectors are put together with metrics that can be registered beside them. -/
theorem withCollectors_ok {s : Settings} {collectors : List Collector} {metrics : ExporterMetrics}
    {registry : Registry MetricSource}
    (hMetrics : ExporterMetrics.make s.space s.identity = .ok metrics)
    (hRegistry : registryOf metrics (.make collectors s.collectorLimit) = .ok registry)
    (now : Nat) :
    ∃ e, withCollectors s collectors now = .ok e ∧ e.registry = registry ∧
      e.loop.metrics = metrics ∧
      e.loop.orchestrator = .make collectors s.collectorLimit := by
  have hStart : withCollectors s collectors now = .ok _ := bind_eq_ok.mpr
    ⟨metrics, mapError_eq_ok.mpr hMetrics,
      bind_eq_ok.mpr ⟨registry, mapError_eq_ok.mpr hRegistry, rfl⟩⟩
  exact ⟨_, hStart, rfl, rfl, rfl⟩

-- ---------------------------------------------------------------------------
-- Serving
-- ---------------------------------------------------------------------------

private theorem metrics_path : Endpoint.ofPath? (Endpoint.path "/metrics") = some .metrics := by
  decide +kernel

private theorem get_is_allowed : allowedMethods.contains "GET" = true := by decide

/-- Families with names and samples are answered. -/
theorem respond_metrics {e : Exporter} (hSamples : ∀ f ∈ e.gather, f.samples ≠ [])
    (hNames : ∀ f ∈ e.gather, f.name ≠ "") :
    (e.respond ⟨"GET", "/metrics"⟩).1.status = 200 := by
  obtain ⟨text, hText⟩ := Exposition.render_ok hSamples hNames
  simp only [respond, metrics_path, get_is_allowed, answer, metricsAnswer, hText, Response.text]
  rfl

/-- The families of all sources before they are gathered. -/
def offered (e : Exporter) : List Family := e.registry.sources.flatMap (familiesOf e.loop)

/-- Whether an exporter has every source once, the descriptors of its own metrics are those of a
namespace and a director, and its latest metrics are described by some collectors. -/
structure OffersDescribed (e : Exporter) (space : String) (identity : DirectorIdentity)
    (collectors : List Collector) : Prop where
  sources : e.registry.sources = ExporterSeries.all.map MetricSource.own ++ [MetricSource.latest]
  own     : e.loop.metrics.descriptors = ExporterSeries.all.map fun s =>
    (s, s.wanted space identity)
  latest  : e.loop.orchestrator.latest.Describes collectors

/-- Whether what an exporter serves is well-formed and described by some descriptors, and lacks
nothing that has been recorded or published. -/
structure ServesDescribed (e : Exporter) (ds : List Descriptor) : Prop where
  names     : (e.gather.map Family.name).Nodup
  named     : ∀ f ∈ e.gather, isMetricName f.name = true
  samples   : ∀ f ∈ e.gather, f.samples ≠ []
  labels    : ∀ f ∈ e.gather, (f.samples.map Sample.labels).Nodup
  described : ∀ f ∈ e.gather, ∃ d ∈ ds, f.FitsTo d
  complete  : ∀ source, ∀ f ∈ familiesOf e.loop source, f.samples ≠ [] →
    Registry.sortSamples f ∈ e.gather
  answered  : (e.respond ⟨"GET", "/metrics"⟩).1.status = 200

namespace OffersDescribed

variable {e : Exporter} {space : String} {identity : DirectorIdentity} {collectors : List Collector}

theorem mem_sources (h : e.OffersDescribed space identity collectors) (source : MetricSource) :
    source ∈ e.registry.sources := by
  rw [h.sources, List.mem_append]
  cases source with
  | own series => exact .inl (List.mem_map_of_mem series.mem_all)
  | latest => exact .inr List.mem_cons_self

theorem offered_eq (h : e.OffersDescribed space identity collectors) :
    e.offered = ExporterSeries.all.flatMap e.loop.metrics.families ++
    e.loop.orchestrator.latest.collect := by
  rw [offered, h.sources, List.flatMap_append, List.flatMap_map, List.flatMap_singleton]
  rfl

theorem descriptors_eq (h : e.OffersDescribed space identity collectors) :
    e.loop.metrics.descriptors.map Prod.snd = ExporterSeries.all.map fun s =>
      s.wanted space identity := by
  rw [h.own, List.map_map]
  rfl

/-- All that is offered is described. -/
theorem fits (h : e.OffersDescribed space identity collectors) :
    ∀ f ∈ e.offered,
      ∃ d ∈ e.loop.metrics.descriptors.map Prod.snd ++ collectors.flatMap Collector.descriptors,
        f.FitsTo d := by
  intro f hf
  rw [h.offered_eq] at hf
  rw [h.descriptors_eq]
  obtain hf | hf := List.mem_append.mp hf
  · obtain ⟨d, hd, hFit⟩ := exists_of_forall₂ (ExporterMetrics.families_fit h.own _) hf
    exact ⟨d, List.mem_append_left _ hd, hFit⟩
  · obtain ⟨d, hd, hFit⟩ := h.latest.collect_fits f hf
    exact ⟨d, List.mem_append_right _ hd, hFit⟩

/-- All that is offered has distinct names if all that is described has. -/
theorem names_nodup (h : e.OffersDescribed space identity collectors)
    (hNames :
      ((e.loop.metrics.descriptors.map Prod.snd ++ collectors.flatMap Collector.descriptors).map
      Descriptor.name).Nodup) : (e.offered.map Family.name).Nodup := by
  rw [h.descriptors_eq, List.map_append, List.nodup_append] at hNames
  obtain ⟨hOwn, hOthers, hApart⟩ := hNames
  rw [h.offered_eq, List.map_append, Family.names_of_fits (ExporterMetrics.families_fit h.own _),
    List.nodup_append]
  refine ⟨hOwn, h.latest.collect_names hOthers, fun name hName name' hName' => ?_⟩
  obtain ⟨f, hf, rfl⟩ := List.mem_map.mp hName'
  obtain ⟨d, hd, hFit⟩ := h.latest.collect_fits f hf
  exact hFit.name ▸ hApart name hName d.name (List.mem_map_of_mem hd)

/-- **What is served is described** if what is offered is, under names of their own. -/
theorem serves {ds : List Descriptor} (h : e.OffersDescribed space identity collectors)
    (hDescriptors : ds = e.loop.metrics.descriptors.map Prod.snd ++
      collectors.flatMap Collector.descriptors)
    (hNames : (ds.map Descriptor.name).Nodup) (hNamed : ∀ d ∈ ds, isMetricName d.name = true) :
    e.ServesDescribed ds := by
  have hDistinct := h.names_nodup (hDescriptors ▸ hNames)
  have hGathered : ∀ f ∈ e.gather, ∃ d ∈ ds, f.FitsTo d :=
    Registry.gatherAll_fitsTo hDistinct (hDescriptors ▸ h.fits)
  have hGatheredNamed : ∀ f ∈ e.gather, isMetricName f.name = true := by
    intro f hf
    obtain ⟨d, hd, hFit⟩ := hGathered f hf
    exact hFit.name ▸ hNamed d hd
  have hSamples : ∀ f ∈ e.gather, f.samples ≠ [] := Registry.gatherAll_samples _
  exact {
    names := Registry.gatherAll_names _
    named := hGatheredNamed
    samples := hSamples
    labels := fun f hf => by
      obtain ⟨d, -, hFit⟩ := hGathered f hf
      exact hFit.distinct
    described := hGathered
    complete := fun source f hf hSome =>
      have hOffered : f ∈ e.offered := List.mem_flatMap.mpr ⟨source, h.mem_sources source, hf⟩
      (Registry.mem_gatherAll_iff hDistinct).mpr ⟨f, hOffered, hSome, rfl⟩
    answered := respond_metrics hSamples fun f hf => isMetricName_ne_empty (hGatheredNamed f hf) }

end OffersDescribed

end Exporter

/-- **What is served is well-formed and described.** For every namespace and director for which the
metrics and the selected collectors can be made, the exporter starts: both the own metrics and the
latest metrics are registered in one new registry. Each family that a collector sends, in whatever
call, fits exactly one of its descriptors. After any cycles, with any snapshots and any order of
steps in the scrapes, the gathered families have distinct names, none is empty, no two samples of
one have the same labels, each fits one of the descriptors that were registered, nothing that has
samples is left out, and `GET /metrics` is answered with 200. -/
theorem served_is_described [PatternCompiler] {s : Settings} {selected : List BuiltIn}
    {collectors : List Collector} {metrics : ExporterMetrics} (hSelected : selected.Nodup)
    (hCollectors : selected.mapM s.setUp = .ok collectors)
    (hMetrics : ExporterMetrics.make s.space s.identity = .ok metrics) (now : Nat) :
    ∃ own e, metrics.register MetricSource.own .empty = (.ok (), own) ∧
      own.register (Orchestrator.make collectors s.collectorLimit).latest.descriptors .latest =
        (.ok (), e.registry) ∧
      Exporter.withCollectors s collectors now = .ok e ∧
      (∀ c ∈ collectors, ∀ number snapshot clock,
        ∀ f ∈ (c.call number snapshot clock).output, ∃ d ∈ c.descriptors, f.FitsTo d ∧
          ∀ d' ∈ c.descriptors, d'.name = f.name → d' = d) ∧
      ∀ l, e.loop.Runs l → ({ e with loop := l } : Exporter).ServesDescribed
        (metrics.descriptors.map Prod.snd ++ collectors.flatMap Collector.descriptors) := by
  have hSetUp := forall₂_of_mapM hCollectors
  have hSends : ∀ c ∈ collectors, c.SendsDescribed := by
    intro c hc
    obtain ⟨b, -, hb⟩ := exists_of_forall₂_right hSetUp hc
    exact (Settings.setUp_described hb).1
  have hOwn : metrics.descriptors =
      ExporterSeries.all.map fun series => (series, series.wanted s.space s.identity) :=
    congrArg _ (ExporterMetrics.make_eq_ok hMetrics).1
  have hNames := registered_names hSelected hSetUp hMetrics
  have hNamed := registered_named hSetUp hMetrics
  obtain ⟨own, registry, hRegister, hRegister', hRegistry, hSources⟩ :=
    Exporter.registryOf_ok (o := .make collectors s.collectorLimit) hNames
  obtain ⟨e, hStart, rfl, rfl, hOrchestrator⟩ :=
    Exporter.withCollectors_ok hMetrics hRegistry now
  refine ⟨own, e, hRegister, hRegister', hStart, ?_, ?_⟩
  · intro c hc number snapshot clock f hf
    obtain ⟨d, hd, hFit⟩ := exists_of_forall₂ (hSends c hc number snapshot clock) hf
    refine ⟨d, hd, hFit, fun d' hd' hName => ?_⟩
    -- no two descriptors share a name
    exact List.inj_on_of_nodup_map hNames
      (List.mem_append_right _ (List.mem_flatMap.mpr ⟨c, hc, hd'⟩))
      (List.mem_append_right _ (List.mem_flatMap.mpr ⟨c, hc, hd⟩)) (hName.trans hFit.name)
  · intro l hRuns
    have hDistinct : e.loop.orchestrator.names.Nodup := by
      rw [hOrchestrator]
      exact Settings.setUp_names_nodup hSelected hSetUp
    have hKeeps := hRuns.described hDistinct
    rw [hOrchestrator] at hKeeps
    obtain ⟨-, hKept, hLatest⟩ : _ ∧ _ ∧ l.orchestrator.latest.Describes collectors :=
      hKeeps hSends (.make _ collectors)
    have hOffers :
        ({ e with loop := l } : Exporter).OffersDescribed s.space s.identity collectors := by
      refine ⟨?_, hKept.trans hOwn, hLatest⟩
      rw [hSources, hOwn, List.map_map]
      rfl
    refine hOffers.serves ?_ hNames hNamed
    rw [hKept]

/-- Settings of which most are the defaults. -/
private def plainSettings : Settings where
  space := "bosh"
  environment := "lab"
  directorName := "director"
  directorUuid := "0d1"
  port := 9190
  targetsFile := "targets.json"
  zones := ""
  processes := ""
  collectors := ""
  interval := 30
  limit := 10
  topologyFile := "topology.json"

private def plainCollectors : List Collector :=
  ([BuiltIn.deployments].mapM plainSettings.setUp).toOption.getD []

private def plainMetrics : ExporterMetrics :=
  (ExporterMetrics.make plainSettings.space plainSettings.identity).toOption.getD default

private def plainExporter : Exporter :=
  (Exporter.withCollectors plainSettings plainCollectors 0).toOption.getD default

/-- Two deployments of one name beside one without a name. -/
private def twins : Snapshot := [⟨"cf", []⟩, ⟨"cf", [default]⟩, ⟨"", []⟩]

private def twinsScraped : Scraped :=
  (plainExporter.loop.orchestrator.scrape ⟨.empty, []⟩ twins default).toOption.getD default

private def twinsLoop : ScrapeLoop := (plainExporter.loop.record twinsScraped 0).1

private theorem eq_ok_of_isOk {ε α : Type} {x : Except ε α} {a : α} (h : x.isOk = true) :
    x = .ok (x.toOption.getD a) := by
  cases x with
  | ok => rfl
  | error e => simp [Except.isOk, Except.toBool] at h

/-- After a scrape of these deployments three families of the collector are served, the first with
one sample for each name. -/
theorem twins_are_served_described :
    [BuiltIn.deployments].Nodup ∧
    [BuiltIn.deployments].mapM plainSettings.setUp = .ok plainCollectors ∧
    ExporterMetrics.make plainSettings.space plainSettings.identity = .ok plainMetrics ∧
    Exporter.withCollectors plainSettings plainCollectors 0 = .ok plainExporter ∧
    plainExporter.loop.Runs twinsLoop ∧
    (twinsLoop.orchestrator.latest.collect.map fun f => f.samples.length) = [2, 1, 1] ∧
    (({ plainExporter with loop := twinsLoop } : Exporter).gather.map Family.name).Nodup ∧
    (({ plainExporter with loop := twinsLoop } : Exporter).respond
      ⟨"GET", "/metrics"⟩).1.status = 200 := by
  have hSelected : [BuiltIn.deployments].Nodup := by decide
  have hCollectors : [BuiltIn.deployments].mapM plainSettings.setUp = .ok plainCollectors :=
    eq_ok_of_isOk (by decide +kernel)
  have hMetrics : ExporterMetrics.make plainSettings.space plainSettings.identity =
      .ok plainMetrics :=
    eq_ok_of_isOk (by decide +kernel)
  have hScrape : plainExporter.loop.orchestrator.scrape ⟨.empty, []⟩ twins default =
      .ok twinsScraped :=
    eq_ok_of_isOk (by decide +kernel)
  obtain ⟨events, hOnTime⟩ := Orchestrator.scrape_onTime hScrape
  have hRuns : plainExporter.loop.Runs twinsLoop := .cycle .start (.completed hOnTime.scrapes 0)
  obtain ⟨own, e, -, -, hStart, -, hServes⟩ :=
    served_is_described hSelected hCollectors hMetrics 0
  have hSame : plainExporter = e := by
    rw [plainExporter, hStart]
    rfl
  subst hSame
  have hServed := hServes twinsLoop hRuns
  exact ⟨hSelected, hCollectors, hMetrics, hStart, hRuns, by decide +kernel, hServed.names,
    hServed.answered⟩

end TopologyExporter
