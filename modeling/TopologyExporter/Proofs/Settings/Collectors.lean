import TopologyExporter.Proofs.Collector.Backing
import TopologyExporter.Proofs.Metric.Descriptor
import TopologyExporter.Settings.Collectors

/-!
# The collectors of the settings — what they have in common

Whatever the settings select, the collectors have distinct names, and only that for service
discovery replaces a file.

## Results

* `Settings.enabledCollectors_forall₂` — the collectors are built-in ones, set up in their
  order.
* `Settings.enabledCollectors_names`   — they have distinct names.
* `Settings.enabledCollectors_files`   — beside that for service discovery none replaces a file.
-/

namespace TopologyExporter

/-- A call of the collector of deployments replaces no file. -/
theorem DeploymentsCollector.files_call (d : DeploymentsCollector) (s : Snapshot)
    (clock : RunClock) :
    (d.call s clock).files = 0 := by
  rw [Call.files, call, List.countP_eq_zero]
  simp [CallStep.isReplace]

namespace Settings

variable [PatternCompiler] {s : Settings} {b : BuiltIn} {c : Collector}
  {collectors : List Collector}

/-- A built-in collector is set up for the namespace and the director of the settings. -/
theorem setUp_make (h : s.setUp b = .ok c) :
    match b with
    | .deployments =>
      ∃ d, DeploymentsCollector.make s.space s.identity = .ok d ∧ c = d.toCollector
    | .serviceDiscovery =>
      ∃ filter d, ServiceDiscoveryCollector.make s.space s.identity s.targetsFile filter =
        .ok d ∧
        c = d.toCollector := by
  cases b with
  | deployments =>
    unfold setUp at h
    dsimp only at h ⊢
    split at h
    case h_1 d hMake => exact ⟨d, hMake, (Except.ok.inj h).symm⟩
    case h_2 => simp at h
  | serviceDiscovery =>
    obtain ⟨filter, -, h⟩ := bind_eq_ok.mp h
    split at h
    case h_1 d hMake => exact ⟨filter, d, hMake, (Except.ok.inj h).symm⟩
    case h_2 => simp at h

/-- A built-in collector is set up under its own name, as what it is. -/
theorem setUp_eq_ok (h : s.setUp b = .ok c) :
    match b with
    | .deployments => ∃ d : DeploymentsCollector, c = d.toCollector
    | .serviceDiscovery =>
      ∃ d : ServiceDiscoveryCollector, c = d.toCollector ∧ d.destination = s.targetsFile := by
  have hMake := setUp_make h
  cases b with
  | deployments =>
    obtain ⟨d, -, rfl⟩ := hMake
    exact ⟨d, rfl⟩
  | serviceDiscovery =>
    obtain ⟨filter, d, hMake, rfl⟩ := hMake
    exact ⟨d, rfl, by rw [(ServiceDiscoveryCollector.make_eq_ok hMake).1]⟩

theorem setUp_name (h : s.setUp b = .ok c) : c.name = b.name := by
  have hSetUp := setUp_eq_ok h
  cases b with
  | deployments =>
    obtain ⟨d, rfl⟩ := hSetUp
    rfl
  | serviceDiscovery =>
    obtain ⟨d, rfl, -⟩ := hSetUp
    rfl

/-- **The collectors are built-in ones**, in the order of registration. -/
theorem enabledCollectors_forall₂ (h : s.enabledCollectors = .ok collectors) :
    ∃ selected : List BuiltIn, selected.Sublist BuiltIn.all ∧
      List.Forall₂ (fun b c => s.setUp b = .ok c) selected collectors := by
  obtain ⟨selected, -, h⟩ := bind_eq_ok.mp h
  exact ⟨_, List.filter_sublist, forall₂_of_mapM h⟩

/-- Collectors that were set up one by one have the names of the built-in ones. -/
theorem names_of_setUp {selected : List BuiltIn}
    (h : List.Forall₂ (fun b c => s.setUp b = .ok c) selected collectors) :
    collectors.map Collector.name = selected.map BuiltIn.name := by
  induction h with
  | nil => rfl
  | cons hHead _ ih => rw [List.map_cons, List.map_cons, setUp_name hHead, ih]

/-- Different built-in collectors have distinct names. -/
theorem setUp_names_nodup {selected : List BuiltIn} (hSelected : selected.Nodup)
    (h : List.Forall₂ (fun b c => s.setUp b = .ok c) selected collectors) :
    (collectors.map Collector.name).Nodup := by
  rw [names_of_setUp h]
  refine hSelected.map fun b b' hName => ?_
  revert hName
  cases b <;> cases b' <;> decide

/-- **They have distinct names.** -/
theorem enabledCollectors_names (h : s.enabledCollectors = .ok collectors) :
    (collectors.map Collector.name).Nodup := by
  obtain ⟨selected, hSublist, hSetUp⟩ := enabledCollectors_forall₂ h
  have hAll : BuiltIn.all.Nodup := by decide
  exact setUp_names_nodup (hAll.sublist hSublist) hSetUp

/-- **Beside that for service discovery none replaces a file.** -/
theorem enabledCollectors_files (h : s.enabledCollectors = .ok collectors) {i : Nat}
    (hCollector : collectors[i]? = some c) (hName : c.name = BuiltIn.serviceDiscovery.name) :
    (∃ d : ServiceDiscoveryCollector, c = d.toCollector ∧ d.destination = s.targetsFile) ∧
    ∀ j other, j ≠ i → collectors[j]? = some other →
      ∀ number snapshot clock, (other.call number snapshot clock).files = 0 := by
  obtain ⟨selected, hSublist, hSetUp⟩ := enabledCollectors_forall₂ h
  have hBuiltIn {j : Nat} {other : Collector} (hOther : collectors[j]? = some other) :
      ∃ b, s.setUp b = .ok other := by
    have hMem : other ∈ collectors := List.mem_of_getElem? hOther
    clear hSublist h hCollector hOther
    induction hSetUp with
    | nil => simp at hMem
    | cons hHead _ ih =>
      rcases List.mem_cons.mp hMem with rfl | hRest
      · exact ⟨_, hHead⟩
      · exact ih hRest
  constructor
  · obtain ⟨b, hHere⟩ := hBuiltIn hCollector
    cases b with
    | deployments =>
      have hOther := setUp_name hHere
      rw [hName] at hOther
      exact absurd hOther (by decide)
    | serviceDiscovery => exact setUp_eq_ok hHere
  · intro j other hj hOther number snapshot clock
    obtain ⟨b, hHere⟩ := hBuiltIn hOther
    cases b with
    | deployments =>
      obtain ⟨d, rfl⟩ := setUp_eq_ok hHere
      exact d.files_call snapshot clock
    | serviceDiscovery =>
      -- of one name there is one collector only
      have hi : j < (collectors.map Collector.name).length := by
        simpa using (List.getElem?_eq_some_iff.mp hOther).1
      refine absurd ((List.getElem?_inj hi (enabledCollectors_names h)).mp ?_) hj
      simp [hOther, hCollector, setUp_name hHere, hName]

end Settings

end TopologyExporter
