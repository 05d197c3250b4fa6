import Mathlib.Data.List.DropRight
import TopologyExporter.Proofs.Filter.Entries

/-!
# Entries of settings — cutting and trimming

A setting is cut at its commas: its pieces have none, and with commas between them they are the
setting again, which no other pieces are. Trimming takes off the blanks at either end. What has been
trimmed stays as it is when it is trimmed again, so that a filter may as well be built from entries
that are trimmed already.

## Results

* `Text.split_eq_iff`       — the pieces of a text, said without cutting it.
* `Text.trim_eq_iff`        — what is left of a trimmed text, said without trimming it.
* `Text.trim_trim`          — trimming twice is trimming once.
* `Text.entries_entries`    — the entries of entries are those entries.
* `Text.mem_listSetting`    — the entries of a setting.
-/

namespace TopologyExporter.Text

-- ---------------------------------------------------------------------------
-- Cutting
-- ---------------------------------------------------------------------------

variable {sep : Char} {cs : List Char} {pieces : List (List Char)}

/-- Cutting one more character. -/
theorem splitChars_cons (sep c : Char) (rest : List Char) :
    ∃ piece others, splitChars sep rest = piece :: others ∧
    splitChars sep (c :: rest) = if c = sep then [] :: piece :: others
      else (c :: piece) :: others := by
  induction rest generalizing c with
  | nil => exact ⟨[], [], rfl, rfl⟩
  | cons c' rest ih =>
    obtain ⟨piece, others, -, hHere⟩ := ih c'
    by_cases hSep : c' = sep
    · rw [if_pos hSep] at hHere
      exact ⟨_, _, hHere, by rw [splitChars, hHere]⟩
    · rw [if_neg hSep] at hHere
      exact ⟨_, _, hHere, by rw [splitChars, hHere]⟩

/-- The pieces with separators between them are the text. -/
theorem intercalate_splitChars (sep : Char) (cs : List Char) :
    [sep].intercalate (splitChars sep cs) = cs := by
  induction cs with
  | nil => rfl
  | cons c rest ih =>
    obtain ⟨piece, others, hRest, hAll⟩ := splitChars_cons sep c rest
    rw [hRest] at ih
    rw [hAll]
    split
    · rename_i hSep
      rw [List.intercalate_cons_cons, ih, hSep]
      rfl
    · cases others with
      | nil => rw [List.intercalate_singleton] at ih ⊢; rw [ih]
      | cons other others =>
        rw [List.intercalate_cons_cons] at ih ⊢
        rw [← ih]
        rfl

/-- No piece has a separator. -/
theorem sep_notMem_of_mem_splitChars : ∀ piece ∈ splitChars sep cs, sep ∉ piece := by
  induction cs with
  | nil => simp [splitChars]
  | cons c rest ih =>
    obtain ⟨piece, others, hRest, hAll⟩ := splitChars_cons sep c rest
    rw [hRest, List.forall_mem_cons] at ih
    rw [hAll]
    split
    · simpa using ih
    · rename_i hSep
      rw [List.forall_mem_cons]
      refine ⟨fun hMem => ?_, ih.2⟩
      obtain hEq | hMem := List.mem_cons.mp hMem
      · exact hSep hEq.symm
      · exact ih.1 hMem

theorem splitChars_of_notMem (h : sep ∉ cs) : splitChars sep cs = [cs] := by
  induction cs with
  | nil => rfl
  | cons c rest ih =>
    rw [List.mem_cons, not_or] at h
    rw [splitChars, ih h.2]
    dsimp only
    rw [if_neg (Ne.symm h.1)]

theorem splitChars_append (h : sep ∉ cs) (rest : List Char) :
    splitChars sep (cs ++ sep :: rest) = cs :: splitChars sep rest := by
  induction cs with
  | nil =>
    obtain ⟨piece, others, hRest, hAll⟩ := splitChars_cons sep sep rest
    rw [List.nil_append, hAll, if_pos rfl, hRest]
  | cons c cs ih =>
    rw [List.mem_cons, not_or] at h
    rw [List.cons_append, splitChars, ih h.2]
    dsimp only
    rw [if_neg (Ne.symm h.1)]

/-- Cutting gives back pieces that were put together. -/
theorem splitChars_intercalate (hSome : pieces ≠ []) (h : ∀ piece ∈ pieces, sep ∉ piece) :
    splitChars sep ([sep].intercalate pieces) = pieces := by
  induction pieces with
  | nil => exact absurd rfl hSome
  | cons piece pieces ih =>
    rw [List.forall_mem_cons] at h
    cases pieces with
    | nil => rw [List.intercalate_singleton, splitChars_of_notMem h.1]
    | cons other others =>
      rw [List.intercalate_cons_cons, List.append_assoc, List.singleton_append,
        splitChars_append h.1, ih (List.cons_ne_nil _ _) h.2]

/-- **The pieces of a text** are those that have no separator and make the text with separators
between them. -/
theorem splitChars_eq_iff : splitChars sep cs = pieces ↔
    pieces ≠ [] ∧ (∀ piece ∈ pieces, sep ∉ piece) ∧ [sep].intercalate pieces = cs := by
  constructor
  · rintro rfl
    refine ⟨?_, sep_notMem_of_mem_splitChars, intercalate_splitChars sep cs⟩
    cases cs with
    | nil => exact List.cons_ne_nil _ _
    | cons c rest =>
      obtain ⟨piece, others, -, hAll⟩ := splitChars_cons sep c rest
      rw [hAll]
      split <;> exact List.cons_ne_nil _ _
  · rintro ⟨hSome, hNone, rfl⟩
    exact splitChars_intercalate hSome hNone

/-- **The pieces of a string**, likewise. -/
theorem split_eq_iff {s : String} {pieces : List String} : split sep s = pieces ↔
    pieces ≠ [] ∧ (∀ piece ∈ pieces, sep ∉ piece.toList) ∧
      [sep].intercalate (pieces.map String.toList) = s.toList := by
  have hChars : split sep s = pieces ↔ splitChars sep s.toList = pieces.map String.toList := by
    constructor
    · rintro rfl
      rw [split, List.map_map]
      exact (List.map_id'' (fun _ => String.toList_ofList) _).symm
    · intro h
      rw [split, h, List.map_map]
      exact List.map_id'' (fun _ => String.ofList_toList) _
  rw [hChars, splitChars_eq_iff, Ne, List.map_eq_nil_iff, List.forall_mem_map]

-- ---------------------------------------------------------------------------
-- Trimming
-- ---------------------------------------------------------------------------

/-- What is left of a text without the blanks around it: there are only blanks before it and after
it, and it has none at either end. -/
structure IsCore (cs core : List Char) : Prop where
  around : ∃ left right, cs = left ++ (core ++ right) ∧ (∀ c ∈ left, isBlank c = true) ∧
    ∀ c ∈ right, isBlank c = true
  first  : ∀ c ∈ core.head?, isBlank c = false
  last   : ∀ c ∈ core.getLast?, isBlank c = false

theorem isCore_trimChars (cs : List Char) : IsCore cs (trimChars cs) := by
  show IsCore cs ((cs.dropWhile isBlank).rdropWhile isBlank)
  refine ⟨⟨cs.takeWhile isBlank, (cs.dropWhile isBlank).rtakeWhile isBlank, ?_, ?_, ?_⟩, ?_,
    ?_⟩
  · rw [List.rdropWhile_append_rtakeWhile, List.takeWhile_append_dropWhile]
  · exact fun c hc => List.mem_takeWhile_imp hc
  · exact fun c hc => List.mem_rtakeWhile_imp hc
  · intro c hc
    -- what starts the trimmed text starts what is left when the blanks in front are gone
    have hStart := List.head?_dropWhile_not isBlank cs
    obtain ⟨rest, hRest⟩ : (cs.dropWhile isBlank).rdropWhile isBlank <+: cs.dropWhile isBlank :=
      List.rdropWhile_prefix ..
    rw [← hRest, List.head?_append, hc] at hStart
    exact hStart
  · intro c hc
    obtain ⟨hSome, rfl⟩ := List.mem_getLast?_eq_getLast hc
    exact Bool.eq_false_iff.mpr (List.rdropWhile_last_not isBlank _ hSome)

theorem IsCore.trimChars_eq {core : List Char} (h : IsCore cs core) : trimChars cs = core := by
  obtain ⟨⟨left, right, rfl, hLeft, hRight⟩, hFirst, hLast⟩ := h
  have hBack : ((core ++ right).reverse.dropWhile isBlank).reverse = core := by
    rw [List.reverse_append, List.dropWhile_append_of_pos fun c hc => hRight c
      (List.mem_reverse.mp hc)]
    refine List.rdropWhile_eq_self_iff.mpr fun hSome => Bool.eq_false_iff.mp (hLast _ ?_)
    exact List.getLast_mem_getLast? hSome
  rw [trimChars, List.dropWhile_append_of_pos hLeft]
  cases core with
  | nil =>
    rw [List.nil_append, List.dropWhile_eq_nil_iff.mpr hRight]
    rfl
  | cons c rest =>
    have hc : ¬isBlank c = true := Bool.eq_false_iff.mp (hFirst c rfl)
    rw [List.cons_append, List.dropWhile_cons_of_neg hc, ← List.cons_append, hBack]

/-- **Trimming takes off the blanks at either end** and nothing else. -/
theorem trim_eq_iff {item core : String} : trim item = core ↔ IsCore item.toList core.toList := by
  rw [trim, ← String.toList_inj, String.toList_ofList]
  exact ⟨fun h => h ▸ isCore_trimChars _, IsCore.trimChars_eq⟩

/-- **Trimming twice is trimming once.** -/
theorem trim_trim (s : String) : trim (trim s) = trim s := by
  obtain ⟨-, hFirst, hLast⟩ := trim_eq_iff.mp (rfl : trim s = _)
  exact trim_eq_iff.mpr ⟨⟨[], [], by simp⟩, hFirst, hLast⟩

/-- **The entries of entries are those entries.** -/
theorem entries_entries (items : List String) : entries (entries items) = entries items := by
  have hSame : (entries items).map trim = entries items := by
    refine (List.map_congr_left fun entry hEntry => ?_).trans (List.map_id _)
    obtain ⟨-, item, -, rfl⟩ := mem_entries.mp hEntry
    exact trim_trim item
  rw [entries, hSame, List.filter_eq_self]
  intro entry hEntry
  exact decide_eq_true (mem_entries.mp hEntry).1

-- ---------------------------------------------------------------------------
-- Settings
-- ---------------------------------------------------------------------------

/-- Whether a text is an entry of a setting: one of the texts between its commas is this when it is
trimmed, and it is not blank. -/
def IsListed (setting entry : String) : Prop :=
  ∃ pieces : List String, pieces ≠ [] ∧ (∀ piece ∈ pieces, ',' ∉ piece.toList) ∧
    [','].intercalate (pieces.map String.toList) = setting.toList ∧ IsEntry pieces entry

/-- **The entries of a setting** are those that are listed in it. -/
theorem mem_listSetting {setting entry : String} : entry ∈ listSetting setting ↔
    IsListed setting entry := by
  rw [listSetting, mem_entries]
  constructor
  · intro h
    obtain ⟨hSome, hNone, hJoin⟩ := split_eq_iff.mp (rfl : split ',' setting = _)
    exact ⟨_, hSome, hNone, hJoin, h⟩
  · rintro ⟨pieces, hSome, hNone, hJoin, hEntry⟩
    rwa [split_eq_iff.mpr ⟨hSome, hNone, hJoin⟩]

/-- The entries of a setting are those that a filter finds in it. -/
theorem isEntry_listSetting_iff {setting entry : String} :
    IsEntry (listSetting setting) entry ↔ IsListed setting entry := by
  rw [← mem_entries, ← mem_listSetting, listSetting, entries_entries]

end TopologyExporter.Text
