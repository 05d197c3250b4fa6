import TopologyExporter.Filter.Zone

/-!
# Filters — the entries that count

A filter is built from a list of texts. Each text that is not blank is an entry once it is trimmed,
and nothing else of the list matters.

## Results

* `Text.mem_entries`                — the entries of a list of texts.
* `Text.entries_eq_append_cons_iff` — where an entry comes from.
* `ZoneFilter.admits_ofEntries_iff` — which zones the filter of some texts admits.
-/

namespace TopologyExporter

/-- Whether a text is an entry of some texts: one of them is this when it is trimmed, and it is not
blank. -/
def Text.IsEntry (items : List String) (entry : String) : Prop :=
  entry ≠ "" ∧ ∃ item ∈ items, Text.trim item = entry

theorem Text.mem_entries {items : List String} {entry : String} :
    entry ∈ Text.entries items ↔ Text.IsEntry items entry := by
  rw [Text.entries, List.mem_filter, List.mem_map, decide_eq_true_eq, and_comm, Text.IsEntry]

variable {items items' : List String} {entry : String}

theorem Text.entries_append (items items' : List String) :
    entries (items ++ items') = entries items ++ entries items' := by
  rw [entries, List.map_append, List.filter_append, entries, entries]

theorem Text.isEntry_append : IsEntry (items ++ items') entry ↔
    IsEntry items entry ∨ IsEntry items' entry := by
  rw [← mem_entries, entries_append, List.mem_append, mem_entries, mem_entries]

/-- An entry comes from an item, and those around it from the items before and after. -/
theorem Text.entries_eq_append_cons_iff {earlier later : List String} :
    entries items = earlier ++ entry :: later ↔
    ∃ before item after, items = before ++ item :: after ∧
      trim item = entry ∧ entry ≠ "" ∧
      entries before = earlier ∧ entries after = later := by
  constructor
  · intro h
    obtain ⟨trimmed, others, hTrimmed, rfl, hOthers⟩ := List.filter_eq_append_iff.mp h
    obtain ⟨blanks, rest, rfl, hBlanks, hEntry, rfl⟩ := List.filter_eq_cons_iff.mp hOthers
    rw [← List.append_assoc] at hTrimmed
    obtain ⟨before, others, rfl, hBefore, hOthers⟩ := List.map_eq_append_iff.mp hTrimmed
    obtain ⟨item, after, rfl, rfl, rfl⟩ := List.map_eq_cons_iff.mp hOthers
    refine ⟨before, item, after, rfl, rfl, of_decide_eq_true hEntry, ?_, rfl⟩
    rw [entries, hBefore, List.filter_append, List.filter_eq_nil_iff.mpr hBlanks, List.append_nil]
  · rintro ⟨before, item, after, rfl, rfl, hEntry, rfl, rfl⟩
    have hItem : entries (item :: after) = trim item :: entries after :=
      List.filter_cons_of_pos (decide_eq_true hEntry)
    rw [entries_append, hItem]

/-- **A filter admits its entries**, and everything if it has none. The zone itself is not
trimmed. -/
theorem ZoneFilter.admits_ofEntries_iff {items : List String} {zone : String} :
    (ofEntries items).admits zone = true ↔ (∀ entry, ¬Text.IsEntry items entry) ∨
      Text.IsEntry items zone := by
  rw [admits, ofEntries, Bool.or_eq_true, List.isEmpty_iff, List.eq_nil_iff_forall_not_mem,
    List.contains_iff_mem, Text.mem_entries]
  simp only [Text.mem_entries]

end TopologyExporter
