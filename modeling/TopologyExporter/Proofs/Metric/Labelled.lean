import TopologyExporter.Metric.Exposition
import TopologyExporter.Proofs.Metric.Descriptor
import TopologyExporter.Proofs.Metric.Gathering
import TopologyExporter.Proofs.Text.Labels

/-!
# Families — how they fit their descriptors

A family that is put together from a descriptor has its name and help, and each of its samples has
the constant labels of the descriptor and a value for each label that varies. Where the values
differ, so do the labels. Gathering changes none of this, and what has been gathered can be written.

## Results

* `Descriptor.labelsFor_perm`, `labelsFor_inj` — the labels of a sample, and what they tell.
* `Descriptor.family_fitsTo`                   — a family fits the descriptor that it is of.
* `Registry.gatherAll_fitsTo`                  — families that fit are gathered as families that
  fit.
* `Exposition.render_ok`                       — families with names and samples can be written.
-/

namespace TopologyExporter

-- ---------------------------------------------------------------------------
-- Labels of samples
-- ---------------------------------------------------------------------------

namespace Descriptor

variable {d : Descriptor} {values values' : List String}

/-- Whether the labels of a descriptor have names of their own. -/
def LabelsApart (d : Descriptor) : Prop :=
  (d.constLabels.entries.map Prod.fst ++ d.variableLabels).Nodup

/-- **A sample has the constant labels and those that vary.** -/
theorem labelsFor_perm (hApart : d.LabelsApart)
    (hLength : values.length = d.variableLabels.length) :
    (d.labelsFor values).entries.Perm (d.constLabels.entries ++ d.variableLabels.zip values) := by
  refine Labels.foldl_insert_perm d.constLabels ?_
  rw [List.map_append, List.map_fst_zip (Nat.le_of_eq hLength.symm)]
  exact hApart

/-- Names in the same order have the same values if the pairs are the same in some order. -/
theorem eq_of_zip_perm {names : List String} (hNames : names.Nodup)
    (hLength : values.length = names.length) (hLength' : values'.length = names.length)
    (h : (names.zip values).Perm (names.zip values')) :
    values = values' := by
  induction names generalizing values values' with
  | nil =>
    rw [List.length_nil, List.length_eq_zero_iff] at hLength hLength'
    rw [hLength, hLength']
  | cons name rest ih =>
    obtain ⟨value, values, rfl⟩ := List.exists_cons_of_length_eq_add_one hLength
    obtain ⟨value', values', rfl⟩ := List.exists_cons_of_length_eq_add_one hLength'
    rw [List.nodup_cons] at hNames
    rw [List.zip_cons_cons, List.zip_cons_cons] at h
    have hHead : (name, value) ∈ (name, value') :: rest.zip values' :=
      h.mem_iff.mp List.mem_cons_self
    obtain hEq | hMem := List.mem_cons.mp hHead
    · cases hEq
      have hRest := ih hNames.2 (Nat.succ.inj hLength) (Nat.succ.inj hLength') h.cons_inv
      rw [hRest]
    · exact absurd (List.of_mem_zip hMem).1 hNames.1

/-- **The labels tell the values.** -/
theorem labelsFor_inj (hApart : d.LabelsApart) (hLength : values.length = d.variableLabels.length)
    (hLength' : values'.length = d.variableLabels.length)
    (h : d.labelsFor values = d.labelsFor values') :
    values = values' := by
  have hPerm := (labelsFor_perm hApart hLength).symm.trans (h ▸ labelsFor_perm hApart hLength')
  have hVariable : d.variableLabels.Nodup := (List.nodup_append.mp hApart).2.1
  exact eq_of_zip_perm hVariable hLength hLength' ((List.perm_append_left_iff _).mp hPerm)

end Descriptor

-- ---------------------------------------------------------------------------
-- Families
-- ---------------------------------------------------------------------------

/-- Whether a family is one that a descriptor describes: it has the name and the help, each sample
has exactly the constant labels with their values and the labels that vary, and no two samples have
the same labels. -/
structure Family.FitsTo (f : Family) (d : Descriptor) : Prop where
  name     : f.name = d.name
  help     : f.help = d.help
  labels   : ∀ s ∈ f.samples, ∃ values : List String,
    values.length = d.variableLabels.length ∧
    s.labels.entries.Perm (d.constLabels.entries ++ d.variableLabels.zip values)
  distinct : (f.samples.map Sample.labels).Nodup

/-- Families that fit descriptors one by one have their names. -/
theorem Family.names_of_fits {families : List Family} {ds : List Descriptor}
    (h : List.Forall₂ Family.FitsTo families ds) :
    families.map Family.name = ds.map Descriptor.name := by
  induction h with
  | nil => rfl
  | cons hHead _ ih => rw [List.map_cons, List.map_cons, hHead.name, ih]

namespace Descriptor

variable {d : Descriptor} {rows : List (List String × Binary64)}

/-- **A family fits its descriptor** if its rows have distinct values, one for each label that
varies. -/
theorem family_fitsTo (hApart : d.LabelsApart) (kind : MetricKind)
    (hRows : ∀ row ∈ rows, row.1.length = d.variableLabels.length)
    (hDistinct : (rows.map Prod.fst).Nodup) :
    (d.family kind rows).FitsTo d where
  name := rfl
  help := rfl
  labels := by
    intro s hs
    obtain ⟨row, hRow, rfl⟩ := List.mem_map.mp hs
    exact ⟨row.1, hRows row hRow, labelsFor_perm hApart (hRows row hRow)⟩
  distinct := by
    have hLabels : (d.family kind rows).samples.map Sample.labels =
        (rows.map Prod.fst).map d.labelsFor := by
      simp [family]
    rw [hLabels]
    refine hDistinct.map_on fun values hValues values' hValues' => ?_
    obtain ⟨row, hRow, rfl⟩ := List.mem_map.mp hValues
    obtain ⟨row', hRow', rfl⟩ := List.mem_map.mp hValues'
    exact labelsFor_inj hApart (hRows row hRow) (hRows row' hRow')

theorem single_fitsTo (hApart : d.LabelsApart) (hNone : d.variableLabels = []) (kind : MetricKind)
    (value : Binary64) : (d.single kind value).FitsTo d :=
  family_fitsTo hApart kind (by simp [hNone]) (List.nodup_singleton _)

end Descriptor

-- ---------------------------------------------------------------------------
-- Gathered and written
-- ---------------------------------------------------------------------------

/-- The order of the samples does not matter. -/
theorem Family.FitsTo.sortSamples {f : Family} {d : Descriptor} (h : f.FitsTo d) :
    (Registry.sortSamples f).FitsTo d := by
  have hPerm : (Registry.sortSamples f).samples.Perm f.samples := List.mergeSort_perm ..
  refine ⟨h.name, h.help, fun s hs => h.labels s (hPerm.mem_iff.mp hs), ?_⟩
  exact (hPerm.map Sample.labels).nodup_iff.mpr h.distinct

/-- **Families that fit some descriptors are gathered as such**, if they have distinct names. -/
theorem Registry.gatherAll_fitsTo {families : List Family} {ds : List Descriptor}
    (hNames : (families.map Family.name).Nodup)
    (hFits : ∀ f ∈ families, ∃ d ∈ ds, f.FitsTo d) :
    ∀ f ∈ gatherAll families, ∃ d ∈ ds, f.FitsTo d := by
  intro f hf
  obtain ⟨g, hg, -, rfl⟩ := (mem_gatherAll_iff hNames).mp hf
  obtain ⟨d, hd, hFit⟩ := hFits g hg
  exact ⟨d, hd, hFit.sortSamples⟩

/-- The name of a metric is not empty. -/
theorem isMetricName_ne_empty {name : String} (h : isMetricName name = true) : name ≠ "" := by
  rintro rfl
  simp [isMetricName, isNameOf] at h

/-- **Families with names and samples can be written.** -/
theorem Exposition.render_ok {families : List Family}
    (hSamples : ∀ f ∈ families, f.samples ≠ []) (hNames : ∀ f ∈ families, f.name ≠ "") :
    ∃ text, render families = .ok text := by
  have hEach : ∀ f ∈ families, ∃ text, renderFamily f = .ok text := by
    intro f hf
    rw [renderFamily, if_neg (by simpa using hSamples f hf), if_neg (hNames f hf)]
    exact ⟨_, rfl⟩
  obtain ⟨texts, hTexts⟩ := mapM_ok hEach
  rw [render, hTexts]
  exact ⟨_, rfl⟩

end TopologyExporter
