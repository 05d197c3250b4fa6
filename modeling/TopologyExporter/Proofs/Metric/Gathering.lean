import Mathlib.Data.List.Nodup
import TopologyExporter.Metric.Registry

/-!
# Gathering — families by name

Whatever families are gathered, there is one of each name, and none is empty. Families of distinct
names are gathered as they are, but for the order of families and samples and for those that are
empty.

## Results

* `Registry.merge_sorted`, `Registry.merge_perm`  — what adding one family does.
* `Registry.gatherAll_names`, `gatherAll_samples` — what holds of all that is gathered.
* `Registry.mem_gatherAll_iff`                    — families of distinct names are gathered as
  they are.
-/

namespace TopologyExporter

namespace Registry

variable {f g : Family} {acc families : List Family}

/-- Whether families are in the order of their names, one of each. -/
abbrev ByName (families : List Family) : Prop := families.Pairwise fun f g => f.name < g.name

-- ---------------------------------------------------------------------------
-- Adding one family
-- ---------------------------------------------------------------------------

/-- The names after a family was added are those from before and its own. -/
theorem name_of_mem_merge (h : g ∈ merge f acc) :
    g.name = f.name ∨ ∃ g' ∈ acc, g'.name = g.name := by
  induction acc with
  | nil => exact .inl (by rw [merge, List.mem_singleton] at h; rw [h])
  | cons first rest ih =>
    rw [merge] at h
    split at h
    · obtain rfl | h := List.mem_cons.mp h
      · exact .inl rfl
      · exact .inr ⟨g, h, rfl⟩
    · split at h
      · obtain rfl | h := List.mem_cons.mp h
        · exact .inr ⟨first, List.mem_cons_self, rfl⟩
        · exact .inr ⟨g, List.mem_cons_of_mem _ h, rfl⟩
      · obtain rfl | h := List.mem_cons.mp h
        · exact .inr ⟨g, List.mem_cons_self, rfl⟩
        · exact (ih h).imp_right fun ⟨g', hMem, hName⟩ =>
            ⟨g', List.mem_cons_of_mem _ hMem, hName⟩

/-- **Adding a family keeps the order**, and that there is one family of each name. -/
theorem merge_sorted (h : ByName acc) : ByName (merge f acc) := by
  induction acc with
  | nil => exact List.pairwise_singleton ..
  | cons first rest ih =>
    obtain ⟨hFirst, hRest⟩ := List.pairwise_cons.mp h
    rw [merge]
    split
    · rename_i hLess
      refine List.pairwise_cons.mpr ⟨fun g hg => ?_, h⟩
      obtain rfl | hg := List.mem_cons.mp hg
      · exact hLess
      · exact String.lt_trans hLess (hFirst g hg)
    · split
      · exact List.pairwise_cons.mpr ⟨fun g hg => hFirst g hg, hRest⟩
      · rename_i hNotLess hNe
        refine List.pairwise_cons.mpr ⟨fun g hg => ?_, ih hRest⟩
        obtain hName | ⟨g', hg', hName⟩ := name_of_mem_merge hg
        · exact hName ▸ lt_of_not_lt_of_ne hNotLess hNe
        · exact hName ▸ hFirst g' hg'

/-- Adding a family that has samples brings no family without. -/
theorem merge_samples (hFamily : f.samples ≠ []) (h : ∀ g ∈ acc, g.samples ≠ []) :
    ∀ g ∈ merge f acc, g.samples ≠ [] := by
  induction acc with
  | nil =>
    intro g hg
    rw [merge, List.mem_singleton] at hg
    exact hg ▸ hFamily
  | cons first rest ih =>
    rw [List.forall_mem_cons] at h
    rw [merge]
    split
    · exact List.forall_mem_cons.mpr ⟨hFamily, List.forall_mem_cons.mpr h⟩
    · split
      · exact List.forall_mem_cons.mpr ⟨by simp [h.1], h.2⟩
      · exact List.forall_mem_cons.mpr ⟨h.1, ih h.2⟩

/-- **A family of a new name is added as it is.** -/
theorem merge_perm (h : ∀ g ∈ acc, g.name ≠ f.name) : (merge f acc).Perm (f :: acc) := by
  induction acc with
  | nil => exact .refl _
  | cons first rest ih =>
    rw [List.forall_mem_cons] at h
    rw [merge]
    split
    · exact .refl _
    · rw [if_neg (Ne.symm h.1)]
      exact ((ih h.2).cons first).trans (.swap f first rest)

-- ---------------------------------------------------------------------------
-- Adding all
-- ---------------------------------------------------------------------------

/-- Families added one after the other. -/
def mergeAll (acc families : List Family) : List Family :=
  families.foldl (fun acc f => merge f acc) acc

theorem mergeAll_sorted (h : ByName acc) (families : List Family) :
    ByName (mergeAll acc families) := by
  induction families generalizing acc with
  | nil => exact h
  | cons f rest ih => exact ih (merge_sorted h)

theorem mergeAll_samples (hFamilies : ∀ f ∈ families, f.samples ≠ [])
    (h : ∀ g ∈ acc, g.samples ≠ []) :
    ∀ g ∈ mergeAll acc families, g.samples ≠ [] := by
  induction families generalizing acc with
  | nil => exact h
  | cons f rest ih =>
    rw [List.forall_mem_cons] at hFamilies
    exact ih hFamilies.2 (merge_samples hFamilies.1 h)

theorem mergeAll_perm (h : ((acc ++ families).map Family.name).Nodup) :
    (mergeAll acc families).Perm (acc ++ families) := by
  induction families generalizing acc with
  | nil => rw [List.append_nil]; exact .refl _
  | cons f rest ih =>
    have hMoved : (f :: acc ++ rest).Perm (acc ++ f :: rest) := List.perm_middle.symm
    have hNew : ∀ g ∈ acc, g.name ≠ f.name := by
      rw [List.map_append, List.nodup_append] at h
      exact fun g hg => h.2.2 _ (List.mem_map_of_mem hg) _ (List.mem_map_of_mem List.mem_cons_self)
    have hMerged := merge_perm hNew
    have hRest : ((merge f acc ++ rest).map Family.name).Nodup :=
      (((hMerged.append_right rest).trans hMoved).map Family.name).nodup_iff.mpr h
    exact (ih hRest).trans ((hMerged.append_right rest).trans hMoved)

-- ---------------------------------------------------------------------------
-- All that is gathered
-- ---------------------------------------------------------------------------

/-- A family with its samples in order. -/
def sortSamples (f : Family) : Family := { f with samples := f.samples.mergeSort sampleLe }

theorem gatherAll_eq (families : List Family) :
    gatherAll families = (mergeAll [] (families.filter fun f => !f.samples.isEmpty)).map
      sortSamples := rfl

/-- **There is one family of each name.** -/
theorem gatherAll_names (families : List Family) :
    ((gatherAll families).map Family.name).Nodup := by
  have hSorted := mergeAll_sorted .nil (families.filter fun f => !f.samples.isEmpty)
  have hNames : (gatherAll families).map Family.name =
      (mergeAll [] (families.filter fun f => !f.samples.isEmpty)).map Family.name := by
    rw [gatherAll_eq, List.map_map]
    rfl
  rw [hNames]
  refine List.pairwise_map.mpr (hSorted.imp fun {f g} hLess hEq => ?_)
  exact String.lt_irrefl g.name (hEq ▸ hLess)

/-- **None is empty.** -/
theorem gatherAll_samples (families : List Family) :
    ∀ f ∈ gatherAll families, f.samples ≠ [] := by
  have hNone : ∀ f ∈ families.filter fun f => !f.samples.isEmpty, f.samples ≠ [] := by
    intro f hf
    simpa using (List.mem_filter.mp hf).2
  intro f hf
  rw [gatherAll_eq, List.mem_map] at hf
  obtain ⟨g, hg, rfl⟩ := hf
  have hSamples := mergeAll_samples hNone (fun _ h => absurd h List.not_mem_nil) g hg
  intro hEmpty
  have hPerm : (sortSamples g).samples.Perm g.samples := List.mergeSort_perm ..
  exact hSamples (hEmpty ▸ hPerm).nil_eq.symm

/-- **Families of distinct names are gathered as they are**, each with its samples in order, but for
those that have none. -/
theorem mem_gatherAll_iff (h : (families.map Family.name).Nodup) :
    f ∈ gatherAll families ↔ ∃ g ∈ families, g.samples ≠ [] ∧ f = sortSamples g := by
  have hPerm : (mergeAll [] (families.filter fun f => !f.samples.isEmpty)).Perm _ :=
    mergeAll_perm (by rw [List.nil_append]; exact h.sublist (List.filter_sublist.map Family.name))
  have hMem (g : Family) : g ∈ mergeAll [] (families.filter fun f => !f.samples.isEmpty) ↔
      g ∈ families ∧ g.samples ≠ [] := by
    rw [hPerm.mem_iff, List.nil_append, List.mem_filter]
    simp
  rw [gatherAll_eq, List.mem_map]
  constructor
  · rintro ⟨g, hg, rfl⟩
    obtain ⟨hFamily, hSamples⟩ := (hMem g).mp hg
    exact ⟨g, hFamily, hSamples, rfl⟩
  · rintro ⟨g, hFamily, hSamples, rfl⟩
    exact ⟨g, (hMem g).mpr ⟨hFamily, hSamples⟩, rfl⟩

end Registry

end TopologyExporter
