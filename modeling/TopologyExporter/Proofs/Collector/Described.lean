import TopologyExporter.Proofs.Metric.Labelled
import TopologyExporter.Proofs.Scrape.Task
import TopologyExporter.Proofs.Settings.Collectors

/-!
# Collectors — they send what they describe

Whatever the snapshot, a built-in collector sends one family for each of its descriptors, in their
order, and the family fits the descriptor. The names of the descriptors are known from the
namespace.

## Results

* `qualifiedName_inj`        — names in one namespace differ as they do without it.
* `Settings.setUp_described` — what a built-in collector describes, and that it sends just that.
* `Settings.described_names`, `BuiltIn.names_nodup` — no name is described twice.
-/

namespace TopologyExporter

-- ---------------------------------------------------------------------------
-- Names
-- ---------------------------------------------------------------------------

/-- **A namespace keeps names apart.** -/
theorem qualifiedName_inj {space name name' : String} (hName : name ≠ "") (hName' : name' ≠ "")
    (h : qualifiedName space name = qualifiedName space name') : name = name' := by
  rw [qualifiedName, qualifiedName, if_neg hName, if_neg hName'] at h
  split at h
  · exact h
  · exact (String.append_right_inj _).mp h

/-- The names of what a built-in collector sends, without the namespace. -/
def BuiltIn.baseNames : BuiltIn → List String
  | .deployments => ["deployment_instances", "last_deployments_scrape_timestamp",
      "last_deployments_scrape_duration_seconds"]
  | .serviceDiscovery => ["last_service_discovery_scrape_timestamp",
      "last_service_discovery_scrape_duration_seconds"]

/-- The names of the exporter's own metrics, without the namespace. -/
def ExporterSeries.baseNames : List String := all.map baseName

namespace BuiltIn

theorem baseNames_nodup (b : BuiltIn) : b.baseNames.Nodup := by
  cases b <;> decide

theorem baseNames_disjoint {b b' : BuiltIn} (h : b ≠ b') :
    ∀ name ∈ b.baseNames, name ∉ b'.baseNames := by
  cases b with
  | deployments =>
    cases b' with
    | deployments => exact absurd rfl h
    | serviceDiscovery => decide
  | serviceDiscovery =>
    cases b' with
    | deployments => decide
    | serviceDiscovery => exact absurd rfl h

theorem own_disjoint (b : BuiltIn) :
    ∀ name ∈ ExporterSeries.baseNames, name ∉ b.baseNames := by
  cases b <;> decide

theorem baseNames_ne_empty (b : BuiltIn) : ∀ name ∈ b.baseNames, name ≠ "" := by
  cases b <;> decide

/-- Own metrics and selected collectors have names of their own. -/
theorem names_nodup (space : String) {selected : List BuiltIn} (h : selected.Nodup) :
    ((ExporterSeries.baseNames ++ selected.flatMap baseNames).map (qualifiedName space)).Nodup := by
  have hOwn : ∀ name ∈ ExporterSeries.baseNames, name ≠ "" := by decide
  have hSome : ∀ name ∈ ExporterSeries.baseNames ++ selected.flatMap baseNames,
      name ≠ "" := by
    intro name hName
    obtain hName | hName := List.mem_append.mp hName
    · exact hOwn name hName
    · obtain ⟨b, -, hb⟩ := List.mem_flatMap.mp hName
      exact b.baseNames_ne_empty name hb
  refine List.Nodup.map_on (fun a ha b hb => qualifiedName_inj (hSome a ha) (hSome b hb)) ?_
  refine List.Nodup.append (by decide) ?_ ?_
  · exact List.nodup_flatMap.mpr ⟨fun b _ => b.baseNames_nodup,
      h.imp fun hNe _ => baseNames_disjoint hNe _⟩
  · intro name hName hMem
    obtain ⟨b, -, hb⟩ := List.mem_flatMap.mp hMem
    exact b.own_disjoint name hName hb

end BuiltIn

-- ---------------------------------------------------------------------------
-- Labels
-- ---------------------------------------------------------------------------

/-- The labels of a director. -/
theorem DirectorIdentity.constLabels_perm (i : DirectorIdentity) :
    i.constLabels.entries.Perm
      [("environment", i.environment), ("bosh_name", i.name), ("bosh_uuid", i.uuid)] := by
  have hNames : ["environment", "bosh_name", "bosh_uuid"].Nodup := by decide
  exact Labels.foldl_insert_perm .empty hNames

/-- Labels beside those of a director are apart if they have other names. -/
theorem DirectorIdentity.labelsApart (i : DirectorIdentity) (name help : String)
    {labels : List String} (h : (["environment", "bosh_name", "bosh_uuid"] ++ labels).Nodup) :
    (⟨name, help, i.constLabels, labels⟩ : Descriptor).LabelsApart :=
  ((i.constLabels_perm.map Prod.fst).append_right labels).nodup_iff.mpr h

-- ---------------------------------------------------------------------------
-- Calls
-- ---------------------------------------------------------------------------

/-- Whether a collector sends one family for each of its descriptors, whatever it is called with. -/
def Collector.SendsDescribed (c : Collector) : Prop :=
  ∀ number s clock, List.Forall₂ Family.FitsTo (c.call number s clock).output c.descriptors

/-- What sending some families puts out. -/
theorem familiesOfSteps_sends (families : List Family) :
    familiesOfSteps (families.map .send) = families := by
  rw [familiesOfSteps, List.filterMap_map]
  exact List.filterMap_some

variable {space : String} {identity : DirectorIdentity}

theorem ScrapeGauges.wanted_fitsTo (subject title : String) (clock : RunClock) :
    List.Forall₂ Family.FitsTo ((wanted space identity subject title).families clock)
      (wanted space identity subject title).descriptors := by
  refine .cons ?_ (.cons ?_ .nil)
  · exact Descriptor.single_fitsTo (identity.labelsApart _ _ (by decide)) rfl ..
  · exact Descriptor.single_fitsTo (identity.labelsApart _ _ (by decide)) rfl ..

/-- The family of the numbers of instances has one sample for each name of a deployment. -/
theorem DeploymentsCollector.wanted_sendsDescribed :
    (wanted space identity).toCollector.SendsDescribed := by
  intro _ s clock
  show List.Forall₂ _ (familiesOfSteps (List.map .send _)) _
  rw [familiesOfSteps_sends]
  refine .cons ?_ (ScrapeGauges.wanted_fitsTo _ _ clock)
  refine Descriptor.family_fitsTo (identity.labelsApart _ _ (by decide)) _ ?_ ?_
  · intro row hRow
    obtain ⟨e, -, rfl⟩ := List.mem_map.mp hRow
    rfl
  · exact (counts s).singletons_nodup _

theorem ServiceDiscoveryCollector.wanted_sendsDescribed (destination : String)
    (filter : TargetFilter) :
    (toCollector ⟨destination, filter,
      .wanted space identity "service_discovery" "Service Discovery"⟩).SendsDescribed := by
  intro _ s clock
  show List.Forall₂ _ (familiesOfSteps (.replace _ _ :: List.map .send _)) _
  have hSkip (steps : List CallStep) (content : Bytes) :
      familiesOfSteps (.replace destination content :: steps) = familiesOfSteps steps := rfl
  rw [hSkip, familiesOfSteps_sends]
  exact ScrapeGauges.wanted_fitsTo _ _ clock

namespace Settings

variable [PatternCompiler] {s : Settings} {b : BuiltIn} {c : Collector}
  {collectors : List Collector} {selected : List BuiltIn}

/-- **A built-in collector sends what it describes**: metrics of its own names in the namespace. -/
theorem setUp_described (h : s.setUp b = .ok c) :
    c.SendsDescribed ∧ c.descriptors.map Descriptor.name =
      b.baseNames.map (qualifiedName s.space) ∧
      ∀ d ∈ c.descriptors, isMetricName d.name = true := by
  have hMake := setUp_make h
  cases b with
  | deployments =>
    obtain ⟨d, hMake, rfl⟩ := hMake
    obtain ⟨rfl, hNames⟩ := DeploymentsCollector.make_eq_ok hMake
    exact ⟨DeploymentsCollector.wanted_sendsDescribed, by rfl, hNames⟩
  | serviceDiscovery =>
    obtain ⟨filter, d, hMake, rfl⟩ := hMake
    obtain ⟨rfl, hNames⟩ := ServiceDiscoveryCollector.make_eq_ok hMake
    exact ⟨ServiceDiscoveryCollector.wanted_sendsDescribed _ _, by rfl, hNames⟩

/-- **The names of all that some built-in collectors describe** are theirs in the namespace. -/
theorem described_names (h : List.Forall₂ (fun b c => s.setUp b = .ok c) selected collectors) :
    (collectors.flatMap Collector.descriptors).map Descriptor.name =
      (selected.flatMap BuiltIn.baseNames).map (qualifiedName s.space) := by
  induction h with
  | nil => rfl
  | cons hHead _ ih =>
    rw [List.flatMap_cons, List.flatMap_cons, List.map_append, List.map_append, ih,
      (setUp_described hHead).2.1]

end Settings

end TopologyExporter
