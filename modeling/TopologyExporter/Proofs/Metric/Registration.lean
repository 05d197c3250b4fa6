import Mathlib.Data.List.Nodup
import TopologyExporter.Metric.Exporter
import TopologyExporter.Proofs.Text.Keyed

/-!
# Registration — descriptors of new names are accepted

A registry refuses what clashes with what it knows, and all that clashes has a name in common. So
sources whose descriptors have names of their own are registered, one after the other.

## Results

* `Registry.register_ok`        — a source with new names is registered.
* `ExporterMetrics.register_ok` — and so are the exporter's own metrics, each as a source of its
  own.
-/

namespace TopologyExporter

namespace Registry

variable {σ : Type} {r : Registry σ} {names : List String} {own : List (List String)}
  {ds : List Descriptor}

/-- Whether some identities are of metrics with some names only. -/
def NamedBy (names : List String) (identities : List (List String)) : Prop :=
  ∀ identity ∈ identities, ∃ name ∈ names, ∃ values, identity = name :: values

theorem NamedBy.not_contains {identities : List (List String)} (h : NamedBy names identities)
    {d : Descriptor} (hName : d.name ∉ names) : identities.contains d.identity = false := by
  rw [List.contains_eq_mem, decide_eq_false_iff_not]
  intro hMem
  obtain ⟨name, hKnown, values, hEq⟩ := h _ hMem
  cases hEq
  exact hName hKnown

theorem NamedBy.mono {names' : List String} {identities : List (List String)}
    (h : NamedBy names identities) (hNames : ∀ name ∈ names, name ∈ names') :
    NamedBy names' identities := fun identity hMem =>
  (h identity hMem).imp fun _ => And.imp_left (hNames _)

/-- Whether a registry knows metrics of some names only. -/
structure Knows (r : Registry σ) (names : List String) : Prop where
  identities : NamedBy names r.identities
  shapes     : ∀ name ∈ r.shapes.keys, name ∈ names

theorem Knows.empty : (Registry.empty : Registry σ).Knows [] :=
  ⟨fun _ h => absurd h List.not_mem_nil, fun _ h => absurd h List.not_mem_nil⟩

/-- Descriptors of new names pass the check one after the other. -/
theorem enroll_ok (hKnows : r.Knows names) (hOwn : NamedBy names own)
    (hNames : (ds.map Descriptor.name).Nodup) (hNew : ∀ d ∈ ds, d.name ∉ names) :
    ∃ own' shapes, r.enroll own ds = (.ok own', shapes) ∧
      NamedBy (names ++ ds.map Descriptor.name) own' ∧
      ∀ name ∈ shapes.keys, name ∈ names ++ ds.map Descriptor.name := by
  induction ds generalizing r names own with
  | nil =>
    refine ⟨own, r.shapes, rfl, ?_, ?_⟩
    · simpa using hOwn
    · simpa using hKnows.shapes
  | cons d rest ih =>
    rw [List.map_cons, List.nodup_cons] at hNames
    rw [List.forall_mem_cons] at hNew
    have hShape : r.shapes.get? d.name = none :=
      (Keyed.get?_eq_none_iff _ _).mpr fun hKey => hNew.1 (hKnows.shapes _ hKey)
    have hStays : ∀ name ∈ names, name ∈ d.name :: names :=
      fun _ h => List.mem_cons_of_mem _ h
    have hKnows' : ({ r with shapes := r.shapes.put d.name d.shape } : Registry σ).Knows
        (d.name :: names) := by
      refine ⟨hKnows.identities.mono hStays, fun name hKey => ?_⟩
      obtain rfl | hKey := (Keyed.mem_keys_put ..).mp hKey
      · exact List.mem_cons_self
      · exact hStays _ (hKnows.shapes _ hKey)
    have hOwn' : NamedBy (d.name :: names) (d.identity :: own) :=
      List.forall_mem_cons.mpr ⟨⟨d.name, List.mem_cons_self, _, rfl⟩, hOwn.mono hStays⟩
    have hNew' : ∀ d' ∈ rest, d'.name ∉ d.name :: names := by
      intro d' hd' hMem
      obtain hEq | hMem := List.mem_cons.mp hMem
      · exact hNames.1 (List.mem_map.mpr ⟨d', hd', hEq⟩)
      · exact hNew.2 d' hd' hMem
    obtain ⟨own', shapes, hRest, hOwnNames, hShapes⟩ := ih hKnows' hOwn' hNames.2 hNew'
    have hMoved : ∀ name ∈ d.name :: names ++ rest.map Descriptor.name,
        name ∈ names ++ (d :: rest).map Descriptor.name := by
      simp only [List.mem_append, List.mem_cons, List.map_cons]
      tauto
    refine ⟨own', shapes, ?_, hOwnNames.mono hMoved,
      fun name hKey => hMoved _ (hShapes name hKey)⟩
    rw [enroll, hKnows.identities.not_contains hNew.1, hShape, hOwn.not_contains hNew.1]
    exact hRest

/-- **A source with new names is registered**, unless it has no descriptors and is not the first
such. -/
theorem register_ok (hKnows : r.Knows names) (hNames : (ds.map Descriptor.name).Nodup)
    (hNew : ∀ d ∈ ds, d.name ∉ names) (hDescribed : r.hasUndescribed = false) (source : σ) :
    ∃ r', r.register ds source = (.ok (), r') ∧ r'.Knows (names ++ ds.map Descriptor.name) ∧
      r'.sources = r.sources ++ [source] ∧ (ds ≠ [] → r'.hasUndescribed = false) := by
  have hNone : NamedBy names [] := fun _ h => absurd h List.not_mem_nil
  obtain ⟨own, shapes, hEnroll, hOwn, hShapes⟩ := enroll_ok hKnows hNone hNames hNew
  refine ⟨⟨own ++ r.identities, shapes, r.sources ++ [source], r.hasUndescribed ||
    ds.isEmpty⟩, ?_, ?_, rfl, ?_⟩
  · rw [register, hEnroll]
    dsimp only
    rw [hDescribed, Bool.and_false, if_neg (by decide)]
  · refine ⟨fun identity hMem => ?_, hShapes⟩
    obtain hMem | hMem := List.mem_append.mp hMem
    · exact hOwn identity hMem
    · exact hKnows.identities.mono (fun _ h => List.mem_append_left _ h) identity hMem
  · intro hSome
    rw [hDescribed, Bool.false_or, List.isEmpty_eq_false_iff]
    exact hSome

end Registry

open Registry in
/-- **The exporter's own metrics are registered** in a registry that knows none of their names. -/
theorem ExporterMetrics.register_ok {σ : Type} {m : ExporterMetrics} {r : Registry σ}
    {names : List String} (hKnows : r.Knows names)
    (hNames : (m.descriptors.map fun e => e.2.name).Nodup)
    (hNew : ∀ e ∈ m.descriptors, e.2.name ∉ names) (hDescribed : r.hasUndescribed = false)
    (tag : ExporterSeries → σ) :
    ∃ r', m.register tag r = (.ok (), r') ∧
      r'.Knows (names ++ m.descriptors.map fun e => e.2.name) ∧
      r'.sources = r.sources ++ (m.descriptors.map fun e => tag e.1) ∧
      r'.hasUndescribed = false := by
  unfold register
  revert hNames hNew
  generalize m.descriptors = descriptors
  intro hNames hNew
  induction descriptors generalizing r names with
  | nil => exact ⟨r, rfl, by simpa using hKnows, by simp, hDescribed⟩
  | cons e rest ih =>
    rw [List.map_cons, List.nodup_cons] at hNames
    rw [List.forall_mem_cons] at hNew
    have hOne : ([e.2].map Descriptor.name).Nodup := List.nodup_singleton _
    obtain ⟨r', hHere, hKnows', hSources, hDescribed'⟩ :=
      Registry.register_ok hKnows hOne (by simpa using hNew.1) hDescribed (tag e.1)
    have hNew' : ∀ e' ∈ rest, e'.2.name ∉ names ++ [e.2].map Descriptor.name := by
      intro e' he' hMem
      obtain hMem | hMem := List.mem_append.mp hMem
      · exact hNew.2 e' he' hMem
      · rw [List.map_singleton, List.mem_singleton] at hMem
        exact hNames.1 (List.mem_map.mpr ⟨e', he', hMem⟩)
    obtain ⟨r'', hRest, hKnows'', hSources', hDescribed''⟩ :=
      ih hKnows' (hDescribed' (by simp)) hNames.2 hNew'
    refine ⟨r'', ?_, by simpa using hKnows'', by simpa [hSources] using hSources', hDescribed''⟩
    rw [List.foldl_cons]
    dsimp only
    rw [hHere]
    exact hRest

end TopologyExporter
