import TopologyExporter.Collector.Deployments
import TopologyExporter.Collector.ServiceDiscovery
import TopologyExporter.Metric.Exporter
import TopologyExporter.Proofs.Outcome

/-!
# Descriptors — what construction gives

Where a metric can be constructed at all, its descriptor is just what was asked for. So the
descriptors of the exporter's own metrics and of the collectors are known from the namespace and the
director alone.

## Results

* `Descriptor.make_eq_ok`      — a descriptor is what was asked for.
* `ExporterMetrics.make_eq_ok` — new metrics have counted nothing, and have one descriptor for
  each series.
* `DeploymentsCollector.make_eq_ok`, `ServiceDiscoveryCollector.make_eq_ok` — what collectors
  describe.
-/

namespace TopologyExporter

-- ---------------------------------------------------------------------------
-- Single descriptors
-- ---------------------------------------------------------------------------

/-- **A descriptor is what was asked for**, and has a name that a metric can have. -/
theorem Descriptor.make_eq_ok {name help : String} {constLabels : Labels}
    {variableLabels : List String} {d : Descriptor}
    (h : make name help constLabels variableLabels = .ok d) :
    d = ⟨name, help, constLabels, variableLabels⟩ ∧ isMetricName name = true := by
  unfold make at h
  split at h
  · simp at h
  · split at h
    · simp at h
    · rename_i hName
      obtain ⟨_, -, h⟩ := bind_eq_ok.mp h
      obtain ⟨_, -, h⟩ := bind_eq_ok.mp h
      exact ⟨(Except.ok.inj h).symm, by simpa using hName⟩

-- ---------------------------------------------------------------------------
-- The exporter's own metrics
-- ---------------------------------------------------------------------------

namespace ExporterSeries

theorem mem_all (s : ExporterSeries) : s ∈ all := by
  cases s <;> decide

/-- The descriptor that a series asks for. -/
def wanted (space : String) (identity : DirectorIdentity) (s : ExporterSeries) : Descriptor :=
  ⟨qualifiedName space s.baseName, s.help, identity.constLabels, s.variableLabels⟩

end ExporterSeries

namespace ExporterMetrics

variable {space : String} {identity : DirectorIdentity} {m : ExporterMetrics}

/-- **New metrics have counted nothing**, and have one descriptor for each series. -/
theorem make_eq_ok (h : make space identity = .ok m) :
    m = ⟨ExporterSeries.all.map fun s => (s, s.wanted space identity), 0, 0,
      .empty, 0, 0, 0⟩ ∧
      ∀ s : ExporterSeries, isMetricName (qualifiedName space s.baseName) = true := by
  obtain ⟨descriptors, hAll, h⟩ := bind_eq_ok.mp h
  have hWanted (s : ExporterSeries) (e : ExporterSeries × Descriptor)
      (hMake : (do pure (s, ← s.descriptor space identity) : Except MetricError _) = .ok e) :
      e = (s, s.wanted space identity) ∧
      isMetricName (qualifiedName space s.baseName) = true := by
    obtain ⟨d, hDescriptor, hPair⟩ := bind_eq_ok.mp hMake
    obtain ⟨rfl, hName⟩ := Descriptor.make_eq_ok hDescriptor
    exact ⟨(Except.ok.inj hPair).symm, hName⟩
  obtain rfl := mapM_eq_map hAll fun s e hMake => (hWanted s e hMake).1
  refine ⟨(Except.ok.inj h).symm, fun s => ?_⟩
  obtain ⟨e, hMake⟩ := exists_of_mapM hAll s.mem_all
  exact (hWanted s e hMake).2

/-- The family of a series. -/
theorem families_eq
    (hDescriptors : m.descriptors = ExporterSeries.all.map fun s => (s, s.wanted space identity))
    (s : ExporterSeries) : m.families s = [(s.wanted space identity).family s.kind (m.rows s)] := by
  rw [families, hDescriptors]
  cases s <;> rfl

end ExporterMetrics

-- ---------------------------------------------------------------------------
-- Collectors
-- ---------------------------------------------------------------------------

/-- The gauges that a collector asks for: its part of the names, and what the help texts call it. -/
def ScrapeGauges.wanted (space : String) (identity : DirectorIdentity) (subject title : String) :
    ScrapeGauges where
  timestamp := ⟨qualifiedName space ("last_" ++ subject ++ "_scrape_timestamp"),
    "Number of seconds since 1970 since last scrape of " ++ title ++ " from BOSH.",
    identity.constLabels, []⟩
  duration := ⟨qualifiedName space ("last_" ++ subject ++ "_scrape_duration_seconds"),
    "Duration of the last scrape of " ++ title ++ " from BOSH.", identity.constLabels, []⟩

theorem ScrapeGauges.make_eq_ok {space subject title : String} {identity : DirectorIdentity}
    {g : ScrapeGauges} (h : make space subject title identity = .ok g) :
    g = .wanted space identity subject title ∧
    ∀ d ∈ g.descriptors, isMetricName d.name = true := by
  obtain ⟨timestamp, hTimestamp, h⟩ := bind_eq_ok.mp h
  obtain ⟨duration, hDuration, h⟩ := bind_eq_ok.mp h
  obtain ⟨rfl, hName⟩ := Descriptor.make_eq_ok hTimestamp
  obtain ⟨rfl, hName'⟩ := Descriptor.make_eq_ok hDuration
  obtain rfl := Except.ok.inj h
  exact ⟨rfl, by simp [descriptors, hName, hName']⟩

/-- The descriptor of the numbers of instances. -/
def DeploymentsCollector.wanted (space : String) (identity : DirectorIdentity) :
    DeploymentsCollector where
  instances :=
    ⟨qualifiedName space "deployment_instances", "Number of instances in this deployment.",
      identity.constLabels, [deploymentLabel]⟩
  gauges := .wanted space identity "deployments" "Deployments"

theorem DeploymentsCollector.make_eq_ok {space : String} {identity : DirectorIdentity}
    {c : DeploymentsCollector} (h : make space identity = .ok c) :
    c = .wanted space identity ∧ ∀ d ∈ c.descriptors, isMetricName d.name = true := by
  obtain ⟨instances, hInstances, h⟩ := bind_eq_ok.mp (mapError_eq_ok.mp h)
  obtain ⟨gauges, hGauges, h⟩ := bind_eq_ok.mp h
  obtain ⟨rfl, hName⟩ := Descriptor.make_eq_ok hInstances
  obtain ⟨rfl, hNames⟩ := ScrapeGauges.make_eq_ok hGauges
  obtain rfl := Except.ok.inj h
  exact ⟨rfl, List.forall_mem_cons.mpr ⟨hName, hNames⟩⟩

theorem ServiceDiscoveryCollector.make_eq_ok {space destination : String}
    {identity : DirectorIdentity} {filter : TargetFilter} {c : ServiceDiscoveryCollector}
    (h : make space identity destination filter = .ok c) :
    c = ⟨destination, filter,
        .wanted space identity "service_discovery" "Service Discovery"⟩ ∧
      ∀ d ∈ c.gauges.descriptors, isMetricName d.name = true := by
  obtain ⟨gauges, hGauges, h⟩ := bind_eq_ok.mp (mapError_eq_ok.mp h)
  obtain ⟨rfl, hNames⟩ := ScrapeGauges.make_eq_ok hGauges
  obtain rfl := Except.ok.inj h
  exact ⟨rfl, hNames⟩

end TopologyExporter
