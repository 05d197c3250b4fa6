import TopologyExporter.Text.Labels

/-!
# Labels — what inserting names gives

## Results

* `entries_ofList`       — names in increasing order are kept as they are.
* `foldl_insert_perm`    — names that are new are added, and nothing else changes.
-/

namespace TopologyExporter.Labels

/-- A name greater than all others goes to the end. -/
theorem insertLabel_of_greatest {name value : String} {labels : List (String × String)}
    (h : ∀ e ∈ labels, e.1 < name) :
    insertLabel name value labels = labels ++ [(name, value)] := by
  induction labels with
  | nil => rfl
  | cons e rest ih =>
    rw [List.forall_mem_cons] at h
    have hNotLess : ¬ name < e.1 := fun hLess => String.lt_irrefl _ (String.lt_trans hLess h.1)
    have hNe : name ≠ e.1 := fun hEq => String.lt_irrefl name (hEq ▸ h.1)
    rw [insertLabel, if_neg hNotLess, if_neg hNe, ih h.2, List.cons_append]

/-- Greater names in increasing order go to the end. -/
theorem entries_foldl_insert (labels : Labels) {es : List (String × String)}
    (h : SortedNames (labels.entries ++ es)) :
    (es.foldl (fun labels e => labels.insert e.1 e.2) labels).entries = labels.entries ++ es := by
  induction es generalizing labels with
  | nil => rw [List.foldl_nil, List.append_nil]
  | cons e es ih =>
    have hGreatest : ∀ e' ∈ labels.entries, e'.1 < e.1 := fun e' he' =>
      (List.pairwise_append.mp h).2.2 e' he' e List.mem_cons_self
    have hEntries : (labels.insert e.1 e.2).entries = labels.entries ++ [e] :=
      insertLabel_of_greatest hGreatest
    have hAgain : labels.entries ++ e :: es = (labels.insert e.1 e.2).entries ++ es := by
      rw [hEntries, List.append_assoc]
      rfl
    rw [hAgain] at h ⊢
    rw [List.foldl_cons, ih (labels.insert e.1 e.2) h]

/-- Names in increasing order are kept as they are. -/
theorem entries_ofList {es : List (String × String)} (h : SortedNames es) :
    (ofList es).entries = es :=
  entries_foldl_insert empty h

theorem ofList_entries (labels : Labels) : ofList labels.entries = labels := by
  have hEntries := entries_ofList labels.sorted
  cases hList : ofList labels.entries
  cases labels
  rw [hList] at hEntries
  cases hEntries
  rfl

/-- A new name is added. -/
theorem insertLabel_perm {name value : String} {labels : List (String × String)}
    (h : name ∉ labels.map Prod.fst) :
    (insertLabel name value labels).Perm ((name, value) :: labels) := by
  induction labels with
  | nil => exact .refl _
  | cons e rest ih =>
    rw [List.map_cons, List.mem_cons, not_or] at h
    rw [insertLabel]
    split
    · exact .refl _
    · rw [if_neg h.1]
      exact ((ih h.2).cons e).trans (.swap _ _ rest)

/-- New names are added one after the other. -/
theorem foldl_insert_perm (labels : Labels) {es : List (String × String)}
    (h : ((labels.entries ++ es).map Prod.fst).Nodup) :
    (es.foldl (fun labels e => labels.insert e.1 e.2) labels).entries.Perm
      (labels.entries ++ es) := by
  induction es generalizing labels with
  | nil =>
    rw [List.append_nil]
    exact .refl _
  | cons e es ih =>
    have hNew : e.1 ∉ labels.entries.map Prod.fst := by
      rw [List.map_append, List.nodup_append] at h
      exact fun hMem => h.2.2 _ hMem _ List.mem_cons_self rfl
    have hMoved : ((labels.insert e.1 e.2).entries ++ es).Perm (labels.entries ++ e :: es) :=
      ((insertLabel_perm hNew).append_right es).trans List.perm_middle.symm
    exact (ih _ ((hMoved.map Prod.fst).nodup_iff.mpr h)).trans hMoved

end TopologyExporter.Labels
