import TopologyExporter.Proofs.Collector.Described

/-!
# Construction — which metrics can be made

A metric can be made if it has a help text and its names are names. The help texts and labels of the
exporter and of its collectors are fixed, and so are their names up to the namespace, so that this
alone decides: if one of these metrics can be made, then all can.

## Results

* `isMetricName_qualifiedName_iff`          — which namespaces make names of names.
* `Descriptor.make_ok`                      — what it takes to make a metric.
* `ScrapeGauges.exists_make_iff`, `DeploymentsCollector.exists_make_iff`,
  `ServiceDiscoveryCollector.exists_make_iff` — for which namespaces there are collectors.
* `ExporterMetrics.exists_make_iff`         — and the exporter's own metrics.
-/

namespace TopologyExporter

variable {space name help : String} {identity : DirectorIdentity}

-- ---------------------------------------------------------------------------
-- Names
-- ---------------------------------------------------------------------------

/-- Whether a text can be the namespace of metrics: it is empty, or can itself name a metric. -/
def IsNamespace (space : String) : Prop := space = "" ∨ isMetricName space = true

instance (space : String) : Decidable (IsNamespace space) := inferInstanceAs (Decidable (_ ∨ _))

section Names

variable {first : Char → Bool} {c : Char} {rest : List Char}

theorem isNameOf_cons (h : name.toList = c :: rest) :
    isNameOf first name = (first c && rest.all fun d => first d || d.isDigit) := by
  rw [isNameOf, h]

/-- What can start a name can stand later in it. -/
theorem all_of_isNameOf (h : isNameOf first name = true) :
    (name.toList.all fun d => first d || d.isDigit) = true := by
  cases hChars : name.toList with
  | nil => rfl
  | cons c rest =>
    rw [isNameOf_cons hChars, Bool.and_eq_true] at h
    rw [List.all_cons, h.1, h.2]
    rfl

/-- What is put before a name decides whether it still is one. -/
theorem isNameOf_append {front : List Char} (hFront : front ≠ [])
    (hName : isNameOf first name = true) :
    isNameOf first (String.ofList (front ++ name.toList)) =
      isNameOf first (String.ofList front) := by
  obtain ⟨c, rest, rfl⟩ := List.exists_cons_of_ne_nil hFront
  rw [List.cons_append, isNameOf_cons String.toList_ofList, isNameOf_cons String.toList_ofList,
    List.all_append, all_of_isNameOf hName, Bool.and_true]

theorem isNameOf_concat {front : List Char} (hFront : front ≠ []) (hLast : first c = true) :
    isNameOf first (String.ofList (front ++ [c])) = isNameOf first (String.ofList front) :=
  String.toList_singleton c ▸ isNameOf_append hFront (by simp [isNameOf, hLast])

end Names

/-- **A namespace makes names of names**, and nothing else does. -/
theorem isMetricName_qualifiedName_iff (hName : isMetricName name = true) :
    isMetricName (qualifiedName space name) = true ↔ IsNamespace space := by
  have hSome : name ≠ "" := by
    rintro rfl
    exact absurd hName (by decide)
  rw [qualifiedName, if_neg hSome, IsNamespace]
  split
  · rename_i hEmpty
    simp [hEmpty, hName]
  · rename_i hSpace
    have hFront : space.toList ≠ [] := by simpa using hSpace
    have hText : space ++ "_" ++ name = String.ofList (space.toList ++ ['_'] ++ name.toList) := by
      rw [String.ofList_append, String.ofList_append, String.ofList_toList, String.ofList_toList]
    rw [hText, isMetricName, isNameOf_append (List.append_ne_nil_of_left_ne_nil hFront _) hName,
      isNameOf_concat hFront (by decide), String.ofList_toList, or_iff_right hSpace]
    rfl

-- ---------------------------------------------------------------------------
-- Single metrics
-- ---------------------------------------------------------------------------

namespace Descriptor

variable {constLabels : Labels} {variableLabels : List String}

theorem checkConstLabels_ok {labels : List (String × String)}
    (h : ∀ l ∈ labels, isLabelName l.1 = true) :
    checkConstLabels labels = .ok () := by
  induction labels with
  | nil => rfl
  | cons l rest ih =>
    rw [List.forall_mem_cons] at h
    rw [checkConstLabels, if_pos h.1, ih h.2]

theorem checkVariableLabels_ok {names : List String} (h : ∀ l ∈ names, isLabelName l = true) :
    checkVariableLabels names = .ok () := by
  induction names with
  | nil => rfl
  | cons l rest ih =>
    rw [List.forall_mem_cons] at h
    rw [checkVariableLabels, if_pos h.1, ih h.2]

/-- **A metric can be made** if it has a help text, and its name and labels are names. -/
theorem make_ok (hHelp : help ≠ "") (hName : isMetricName name = true)
    (hConst : ∀ l ∈ constLabels.entries, isLabelName l.1 = true)
    (hVariable : ∀ l ∈ variableLabels, isLabelName l = true) :
    make name help constLabels variableLabels =
      .ok ⟨name, help, constLabels, variableLabels⟩ := by
  rw [make, if_neg hHelp, hName, checkConstLabels_ok hConst, checkVariableLabels_ok hVariable]
  rfl

/-- A metric about a director can be made in a namespace. -/
theorem make_qualified_ok (identity : DirectorIdentity) (hSpace : IsNamespace space)
    (hHelp : help ≠ "") (hName : isMetricName name = true)
    (hVariable : ∀ l ∈ variableLabels, isLabelName l = true) :
    make (qualifiedName space name) help identity.constLabels variableLabels =
      .ok ⟨qualifiedName space name, help, identity.constLabels, variableLabels⟩ := by
  refine make_ok hHelp ((isMetricName_qualifiedName_iff hName).mpr hSpace)
    (fun l hl => ?_) hVariable
  have hNames : ∀ name ∈ ["environment", "bosh_name", "bosh_uuid"],
      isLabelName name = true := by decide
  exact hNames l.1 ((identity.constLabels_perm.map Prod.fst).mem_iff.mp (List.mem_map_of_mem hl))

end Descriptor

-- ---------------------------------------------------------------------------
-- Collectors and the exporter's own metrics
-- ---------------------------------------------------------------------------

theorem ScrapeGauges.make_ok (identity : DirectorIdentity) (subject title : String)
    (hSpace : IsNamespace space) (hTimestamp :
      isMetricName ("last_" ++ subject ++ "_scrape_timestamp") = true)
    (hDuration : isMetricName ("last_" ++ subject ++ "_scrape_duration_seconds") = true) :
    make space subject title identity = .ok (.wanted space identity subject title) := by
  have hNone : ∀ l ∈ ([] : List String), isLabelName l = true := List.forall_mem_nil _
  exact bind_eq_ok.mpr ⟨_, Descriptor.make_qualified_ok identity hSpace
    (by simp) hTimestamp hNone, bind_eq_ok.mpr
      ⟨_, Descriptor.make_qualified_ok identity hSpace (by simp) hDuration hNone, rfl⟩⟩

/-- **There is a collector of deployments for namespaces**, and for nothing else. -/
theorem DeploymentsCollector.exists_make_iff : (∃ c, make space identity = .ok c) ↔
    IsNamespace space := by
  constructor
  · rintro ⟨c, hMake⟩
    obtain ⟨rfl, hNames⟩ := make_eq_ok hMake
    exact (isMetricName_qualifiedName_iff (by decide)).mp (hNames _ List.mem_cons_self)
  · intro hSpace
    have hGauges := ScrapeGauges.make_ok identity "deployments" "Deployments" hSpace
      (by decide) (by decide)
    have hInstances : Descriptor.make (qualifiedName space "deployment_instances")
        "Number of instances in this deployment." identity.constLabels [deploymentLabel] = .ok _ :=
      Descriptor.make_qualified_ok identity hSpace (by decide) (by decide) (by decide)
    exact ⟨_,
      mapError_eq_ok.mpr
        (bind_eq_ok.mpr ⟨_, hInstances, bind_eq_ok.mpr ⟨_, hGauges, rfl⟩⟩)⟩

/-- **There is one for service discovery for namespaces**, and for nothing else. -/
theorem ServiceDiscoveryCollector.exists_make_iff {destination : String} {filter : TargetFilter} :
    (∃ c, make space identity destination filter = .ok c) ↔ IsNamespace space := by
  constructor
  · rintro ⟨c, hMake⟩
    obtain ⟨rfl, hNames⟩ := make_eq_ok hMake
    exact (isMetricName_qualifiedName_iff (by decide)).mp (hNames _ List.mem_cons_self)
  · intro hSpace
    have hGauges := ScrapeGauges.make_ok identity "service_discovery" "Service Discovery" hSpace
      (by decide) (by decide)
    exact ⟨_, mapError_eq_ok.mpr (bind_eq_ok.mpr ⟨_, hGauges, rfl⟩)⟩

/-- **The exporter's own metrics can be made for namespaces**, and for nothing else. -/
theorem ExporterMetrics.exists_make_iff : (∃ m, make space identity = .ok m) ↔
    IsNamespace space := by
  constructor
  · rintro ⟨m, hMake⟩
    exact (isMetricName_qualifiedName_iff (by decide)).mp ((make_eq_ok hMake).2 .scrapes)
  · intro hSpace
    have hEach : ∀ s ∈ ExporterSeries.all, ∃ e,
        (do pure (s, ← s.descriptor space identity) :
          Except MetricError (ExporterSeries × Descriptor)) = .ok e := by
      intro s _
      have hDescriptor : s.descriptor space identity = .ok _ :=
        Descriptor.make_qualified_ok identity hSpace (by cases s <;> decide) (by cases s <;> decide)
          (by cases s <;> decide)
      exact ⟨_, bind_eq_ok.mpr ⟨_, hDescriptor, rfl⟩⟩
    obtain ⟨ds, hAll⟩ := mapM_ok hEach
    exact ⟨_, bind_eq_ok.mpr ⟨ds, hAll, rfl⟩⟩

end TopologyExporter
