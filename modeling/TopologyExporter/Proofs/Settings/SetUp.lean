import TopologyExporter.Proofs.Filter.Construction
import TopologyExporter.Proofs.Metric.Construction
import TopologyExporter.Proofs.Service.Exposition

/-!
# Setting up collectors — exactly when it succeeds

Four settings are free texts that can make the set-up fail: the collectors, the namespace, and for
service discovery alone the patterns of processes. Nothing else does, and what has been set up is
never refused later: the exporter's own metrics can be made beside it, and all can be registered.

## Results

* `Settings.exists_setUp_iff`         — when a single collector can be set up.
* `Settings.collectors_of_settings`   — when all can, which they are, and that the exporter then
  starts.
-/

namespace TopologyExporter

/-- No collector has the name of a component of the exporter. -/
theorem BuiltIn.name_ne_component (b : BuiltIn) :
    b.name ≠ fetcherComponent ∧ b.name ≠ orchestratorComponent := by
  cases b <;> decide

namespace Settings

variable {s : Settings} {b : BuiltIn} {collectors : List Collector}

-- ---------------------------------------------------------------------------
-- Selected collectors
-- ---------------------------------------------------------------------------

/-- Whether a collector is selected: it is listed, or nothing is. -/
def Selects (s : Settings) (b : BuiltIn) : Prop :=
  (∀ entry, ¬Text.IsListed s.collectors entry) ∨ Text.IsListed s.collectors b.name

/-- Some collector is selected if only names of collectors are listed. -/
theorem exists_selects
    (hKnown : ∀ entry, Text.IsListed s.collectors entry → ∃ b : BuiltIn, b.name = entry) :
    ∃ b, s.Selects b := by
  by_cases hSome : ∃ entry, Text.IsListed s.collectors entry
  · obtain ⟨entry, hEntry⟩ := hSome
    obtain ⟨b, rfl⟩ := hKnown entry hEntry
    exact ⟨b, .inr hEntry⟩
  · exact ⟨.deployments, .inl (not_exists.mp hSome)⟩

section Compiler

variable [PatternCompiler]

-- ---------------------------------------------------------------------------
-- Single collectors
-- ---------------------------------------------------------------------------

/-- Whether every entry of the setting for processes can be compiled. -/
def HasPatterns (s : Settings) : Prop :=
  ∀ entry, Text.IsListed s.processes entry → ∃ p, PatternCompiler.compile entry = .ok p

theorem exists_targetFilter_iff : (∃ filter, s.targetFilter = .ok filter) ↔ s.HasPatterns := by
  have hProcesses : (∃ f, ProcessFilter.ofEntries (Text.listSetting s.processes) = .ok f) ↔ _ :=
    ProcessFilter.exists_ofEntries_iff
  simp only [Text.isEntry_listSetting_iff] at hProcesses
  rw [HasPatterns, ← hProcesses]
  constructor
  · rintro ⟨filter, hFilter⟩
    obtain ⟨process, hProcess, -⟩ := bind_eq_ok.mp hFilter
    exact ⟨process, hProcess⟩
  · rintro ⟨process, hProcess⟩
    exact ⟨_, bind_eq_ok.mpr ⟨process, hProcess, rfl⟩⟩

/-- **A collector can be set up** for a namespace; that for service discovery also needs
patterns. -/
theorem exists_setUp_iff : (∃ c, s.setUp b = .ok c) ↔
    IsNamespace s.space ∧ (b = .serviceDiscovery → s.HasPatterns) := by
  constructor
  · rintro ⟨c, hSetUp⟩
    have hMake := setUp_make hSetUp
    cases b with
    | deployments =>
      obtain ⟨d, hMake, -⟩ := hMake
      exact ⟨DeploymentsCollector.exists_make_iff.mp ⟨d, hMake⟩, BuiltIn.noConfusion⟩
    | serviceDiscovery =>
      obtain ⟨_, d, hMake, -⟩ := hMake
      obtain ⟨filter, hFilter, -⟩ := bind_eq_ok.mp hSetUp
      exact ⟨ServiceDiscoveryCollector.exists_make_iff.mp ⟨d, hMake⟩,
        fun _ => exists_targetFilter_iff.mp ⟨filter, mapError_eq_ok.mp hFilter⟩⟩
  · rintro ⟨hSpace, hPatterns⟩
    cases b with
    | deployments =>
      obtain ⟨d, hMake⟩ : ∃ d, DeploymentsCollector.make s.space s.identity = .ok d :=
        DeploymentsCollector.exists_make_iff.mpr hSpace
      exact ⟨d.toCollector, by rw [setUp, hMake]⟩
    | serviceDiscovery =>
      obtain ⟨filter, hFilter⟩ := exists_targetFilter_iff.mpr (hPatterns rfl)
      obtain ⟨d, hMake⟩ :
          ∃ d, ServiceDiscoveryCollector.make s.space s.identity s.targetsFile filter = .ok d :=
        ServiceDiscoveryCollector.exists_make_iff.mpr hSpace
      exact ⟨d.toCollector,
        bind_eq_ok.mpr ⟨filter, mapError_eq_ok.mpr hFilter, by rw [hMake]⟩⟩

-- ---------------------------------------------------------------------------
-- All collectors
-- ---------------------------------------------------------------------------

/-- Whether settings give what it takes to set up the collectors that they select. -/
structure CanBeSetUp (s : Settings) : Prop where
  known    : ∀ entry, Text.IsListed s.collectors entry → ∃ b : BuiltIn, b.name = entry
  space    : IsNamespace s.space
  patterns : s.Selects .serviceDiscovery → s.HasPatterns

/-- What is set up when it is clear which collectors are selected. -/
theorem enabledCollectors_eq_ok (h : s.enabledCollectors = .ok collectors) :
    (∀ entry, Text.IsListed s.collectors entry → ∃ b : BuiltIn, b.name = entry) ∧
    ∃ selected : List BuiltIn, selected.Sublist BuiltIn.all ∧
      (∀ b, b ∈ selected ↔ s.Selects b) ∧
      selected.mapM s.setUp = .ok collectors := by
  obtain ⟨filter, hFilter, hAll⟩ := bind_eq_ok.mp h
  rw [mapError_eq_ok] at hFilter
  have hKnown := CollectorFilter.exists_ofEntries_iff.mp ⟨filter, hFilter⟩
  simp only [Text.isEntry_listSetting_iff] at hKnown
  refine ⟨hKnown, _, List.filter_sublist, fun b => ?_, hAll⟩
  have hMem : b ∈ BuiltIn.all := by cases b <;> decide
  rw [List.mem_filter, and_iff_right hMem, CollectorFilter.admits_ofEntries_iff hFilter]
  simp only [Text.isEntry_listSetting_iff, Selects]

/-- The collectors can be set up exactly by settings that give what it takes. -/
theorem exists_enabledCollectors_iff : (∃ cs, s.enabledCollectors = .ok cs) ↔ s.CanBeSetUp := by
  constructor
  · rintro ⟨cs, hEnabled⟩
    obtain ⟨hKnown, selected, -, hSelected, hAll⟩ := enabledCollectors_eq_ok hEnabled
    have hEach : ∀ b, s.Selects b → IsNamespace s.space ∧
        (b = .serviceDiscovery → s.HasPatterns) :=
      fun b hb => exists_setUp_iff.mp (exists_of_mapM hAll ((hSelected b).mpr hb))
    obtain ⟨b, hb⟩ := exists_selects hKnown
    exact ⟨hKnown, (hEach b hb).1, fun hSelects => (hEach _ hSelects).2 rfl⟩
  · rintro ⟨hKnown, hSpace, hPatterns⟩
    obtain ⟨filter, hFilter⟩ :
        ∃ f, CollectorFilter.ofEntries (Text.listSetting s.collectors) = .ok f := by
      rw [CollectorFilter.exists_ofEntries_iff]
      simpa only [Text.isEntry_listSetting_iff] using hKnown
    have hEach : ∀ b ∈ BuiltIn.all.filter fun b => filter.admits b.name, ∃ c,
        s.setUp b = .ok c := by
      intro b hb
      refine exists_setUp_iff.mpr ⟨hSpace, ?_⟩
      rintro rfl
      have hAdmits := (List.mem_filter.mp hb).2
      rw [CollectorFilter.admits_ofEntries_iff hFilter] at hAdmits
      simp only [Text.isEntry_listSetting_iff] at hAdmits
      exact hPatterns hAdmits
    obtain ⟨cs, hAll⟩ := mapM_ok hEach
    exact ⟨cs, bind_eq_ok.mpr ⟨filter, mapError_eq_ok.mpr hFilter, hAll⟩⟩

/-- What was selected and set up starts. -/
theorem start_ok {selected : List BuiltIn} (hEnabled : s.enabledCollectors = .ok collectors)
    (hSublist : selected.Sublist BuiltIn.all) (hAll : selected.mapM s.setUp = .ok collectors)
    (hSpace : IsNamespace s.space) (now : Nat) : ∃ e, Exporter.start s now = .ok e := by
  have hBuiltIn : BuiltIn.all.Nodup := by decide
  obtain ⟨metrics, hMetrics⟩ : ∃ m, ExporterMetrics.make s.space s.identity = .ok m :=
    ExporterMetrics.exists_make_iff.mpr hSpace
  obtain ⟨-, registry, -, -, hRegistry, -⟩ :=
    Exporter.registryOf_ok (o := .make collectors s.collectorLimit)
      (registered_names (hBuiltIn.sublist hSublist) (forall₂_of_mapM hAll) hMetrics)
  obtain ⟨e, hStart, -⟩ := Exporter.withCollectors_ok hMetrics hRegistry now
  exact ⟨e, bind_eq_ok.mpr ⟨collectors, mapError_eq_ok.mpr hEnabled, hStart⟩⟩

end Compiler

/-- **When collectors can be set up, and what follows.** For all settings, and whatever compiles the
patterns, the collectors can be set up if and only if each entry listed for collectors is the name
of one, the namespace is empty or can name a metric, and, where service discovery is selected, each
entry listed for processes compiles. Once they are set up, their names are those of the selected
ones, in the order of registration and whatever the order in which they are listed; there is at
least one, no two share a name, and none has that of a component of the exporter. The exporter's own
metrics can then be made in the same namespace and for the same director, and the exporter
starts. -/
theorem collectors_of_settings [PatternCompiler] (s : Settings) :
    ((∃ cs, s.enabledCollectors = .ok cs) ↔ s.CanBeSetUp) ∧
    ∀ cs, s.enabledCollectors = .ok cs →
      (∃ selected : List BuiltIn, selected.Sublist [.deployments, .serviceDiscovery] ∧
        (∀ b, b ∈ selected ↔ s.Selects b) ∧
        cs.map Collector.name = selected.map BuiltIn.name) ∧
      cs ≠ [] ∧ (cs.map Collector.name).Nodup ∧
      (∀ c ∈ cs, c.name ≠ fetcherComponent ∧ c.name ≠ orchestratorComponent) ∧
      (∃ metrics, ExporterMetrics.make s.space s.identity = .ok metrics) ∧
      ∀ now, ∃ e, Exporter.start s now = .ok e := by
  refine ⟨exists_enabledCollectors_iff, fun cs hEnabled => ?_⟩
  obtain ⟨hKnown, hSpace, -⟩ := exists_enabledCollectors_iff.mp ⟨cs, hEnabled⟩
  obtain ⟨-, selected, hSublist, hSelected, hAll⟩ := enabledCollectors_eq_ok hEnabled
  have hNames : cs.map Collector.name = selected.map BuiltIn.name :=
    names_of_setUp (forall₂_of_mapM hAll)
  refine ⟨⟨selected, hSublist, hSelected, hNames⟩, ?_, enabledCollectors_names hEnabled,
    fun c hc => ?_, ExporterMetrics.exists_make_iff.mpr hSpace,
      start_ok hEnabled hSublist hAll hSpace⟩
  · rintro rfl
    obtain ⟨b, hb⟩ := exists_selects hKnown
    rw [List.map_nil, eq_comm, List.map_eq_nil_iff] at hNames
    exact List.not_mem_nil (hNames ▸ (hSelected b).mpr hb)
  · have hMem : c.name ∈ selected.map BuiltIn.name := hNames ▸ List.mem_map_of_mem hc
    obtain ⟨b, -, hName⟩ := List.mem_map.mp hMem
    exact hName ▸ b.name_ne_component

/-- Settings in which one collector is listed twice among blanks, and the only pattern is none. -/
private def untidySettings : Settings where
  space := "bosh"
  environment := "lab"
  directorName := "director"
  directorUuid := "0d1"
  port := 9190
  targetsFile := "targets.json"
  zones := ""
  processes := " ( "
  collectors := " Deployments, ,Deployments ,"
  interval := 30
  limit := 10
  topologyFile := "topology.json"

/-- Where service discovery is not selected, what is no pattern does not matter. -/
theorem untidy_settings_start :
    Text.listSetting untidySettings.processes = ["("] ∧
    (PatternCompiler.compile "(").isOk = false ∧
    ∃ cs, untidySettings.enabledCollectors = .ok cs ∧
      cs.map Collector.name = ["Deployments"] ∧
      ∃ e, Exporter.start untidySettings 0 = .ok e := by
  have hNames : untidySettings.enabledCollectors.toOption.map (List.map Collector.name) =
      some ["Deployments"] := by
    decide +kernel
  refine ⟨by decide +kernel, by decide +kernel, ?_⟩
  cases hEnabled : untidySettings.enabledCollectors with
  | error e => simp [hEnabled, Except.toOption] at hNames
  | ok cs =>
    obtain ⟨-, -, -, -, -, hStart⟩ := (collectors_of_settings untidySettings).2 cs hEnabled
    exact ⟨cs, rfl, by simpa [hEnabled, Except.toOption] using hNames, hStart 0⟩

end Settings

end TopologyExporter
