import Mathlib.Algebra.GroupWithZero.Nat
import Mathlib.Data.List.Nodup
import TopologyExporter.Text.Keyed

/-!
# Keyed values — looking up after a change

What a look-up gives after a key was given a value or removed, and how the part of the entries
whose keys pass a test changes along.

## Results

* `get?_put`, `get?_erase`            — look-ups after a change.
* `get?_foldl_put`                    — and after values were given to distinct keys.
* `get?_ofList`                       — of two pairs of one key the later counts.
* `entries_ofList_map`                — renaming keys apart changes nothing.
* `sum_put`                           — the sum of numbers after one was changed.
* `entries_ofList`                    — pairs of distinct keys are kept as they are.
* `erase_put`                         — removing a key that was new undoes giving it a value.
* `put_get?`                          — giving a key the value it has changes nothing.
* `restrict_put`, `restrict_put_skip` — the entries that pass a test after a `put`.
* `restrict_erase`                    — and after an `erase`.
-/

namespace TopologyExporter.Keyed

variable {κ α : Type} [DecidableEq κ]

-- ---------------------------------------------------------------------------
-- Look-ups
-- ---------------------------------------------------------------------------

/-- Entries with one more value, as a look-up sees them. -/
theorem find?_putEntry (key k : κ) (value : α) (entries : List (κ × α)) :
    ((putEntry key value entries).find? (·.1 = k)).map Prod.snd =
      if k = key then some value else (entries.find? (·.1 = k)).map Prod.snd := by
  induction entries with
  | nil =>
    by_cases hk : k = key
    · simp [putEntry, hk]
    · simp [putEntry, hk, Ne.symm hk]
  | cons e rest ih =>
    obtain ⟨k', v⟩ := e
    by_cases hkey : k' = key
    · subst hkey
      by_cases hk : k = k'
      · simp [putEntry, hk]
      · simp [putEntry, hk, Ne.symm hk]
    · by_cases hk : k' = k
      · subst hk
        simp [putEntry, hkey]
      · simpa [putEntry, hkey, hk] using ih

theorem get?_put (m : Keyed κ α) (key k : κ) (value : α) :
    (m.put key value).get? k = if k = key then some value else m.get? k :=
  find?_putEntry key k value m.entries

theorem get?_erase (m : Keyed κ α) (key k : κ) :
    (m.erase key).get? k = if k = key then none else m.get? k := by
  rw [get?, get?, erase, List.find?_filter]
  by_cases hk : k = key
  · subst hk
    rw [if_pos rfl, Option.map_eq_none_iff, List.find?_eq_none]
    intro e _
    simp
  · rw [if_neg hk]
    congr 2
    funext e
    by_cases he : e.1 = k
    · simp [he, hk]
    · simp [he]

theorem get?_eq_none_iff (m : Keyed κ α) (key : κ) : m.get? key = none ↔ key ∉ m.keys := by
  rw [get?, Option.map_eq_none_iff, List.find?_eq_none, keys, List.mem_map]
  constructor
  · rintro h ⟨e, he, rfl⟩
    exact h e he (by simp)
  · intro h e he hKey
    exact h ⟨e, he, by simpa using hKey⟩

theorem get?_eq_some_iff (m : Keyed κ α) (key : κ) (value : α) :
    m.get? key = some value ↔ (key, value) ∈ m.entries := by
  rw [get?, Option.map_eq_some_iff]
  constructor
  · rintro ⟨⟨k, v⟩, hFind, rfl⟩
    have hKey : k = key := by simpa using List.find?_some hFind
    exact hKey ▸ List.mem_of_find?_eq_some hFind
  · intro hMem
    have hFound : (m.entries.find? (·.1 = key)).isSome := by
      rw [List.find?_isSome]
      exact ⟨_, hMem, by simp⟩
    obtain ⟨⟨k, v⟩, hFind⟩ := Option.isSome_iff_exists.mp hFound
    have hKey : k = key := by simpa using List.find?_some hFind
    subst hKey
    refine ⟨_, hFind, ?_⟩
    -- keys are there once, so both entries are the same
    have hSame := List.inj_on_of_nodup_map m.distinct (List.mem_of_find?_eq_some hFind) hMem rfl
    rw [hSame]

theorem mem_keys_iff {m : Keyed κ α} {key : κ} :
    key ∈ m.keys ↔ (m.get? key).isSome = true := by
  rw [← not_iff_not, ← get?_eq_none_iff, Option.not_isSome_iff_eq_none]

theorem mem_keys_put (m : Keyed κ α) (key k : κ) (value : α) :
    k ∈ (m.put key value).keys ↔ k = key ∨ k ∈ m.keys := by
  rw [mem_keys_iff, mem_keys_iff, get?_put]
  by_cases hKey : k = key
  · simp [hKey]
  · simp [hKey]

/-- The values are those of keys. -/
theorem mem_values_iff {m : Keyed κ α} {value : α} :
    value ∈ m.values ↔ ∃ key, m.get? key = some value := by
  simp only [get?_eq_some_iff]
  rw [values, List.mem_map]
  constructor
  · rintro ⟨⟨key, value⟩, hMem, rfl⟩
    exact ⟨key, hMem⟩
  · rintro ⟨key, hMem⟩
    exact ⟨_, hMem, rfl⟩

/-- After values were given to distinct keys, one of these keys has its own, and others have what
they had before. -/
theorem get?_foldl_put {β : Type} {key : β → κ} {value : β → α} {items : List β}
    (h : (items.map key).Nodup) (m : Keyed κ α) (k : κ) :
    (items.foldl (fun m item => m.put (key item) (value item)) m).get? k =
      ((items.find? (key · = k)).map value).or (m.get? k) := by
  induction items generalizing m with
  | nil => rfl
  | cons item rest ih =>
    rw [List.map_cons, List.nodup_cons] at h
    rw [List.foldl_cons, ih h.2, get?_put]
    by_cases hk : key item = k
    · have hNone : rest.find? (key · = k) = none := by
        rw [List.find?_eq_none]
        intro other hOther hEq
        exact h.1 (hk ▸ of_decide_eq_true hEq ▸ List.mem_map_of_mem hOther)
      simp [hNone, hk]
    · simp [hk, Ne.symm hk]

/-- **Of two pairs of one key the later counts.** -/
theorem get?_ofList (es : List (κ × α)) (key : κ) :
    (ofList es).get? key = (es.reverse.find? (·.1 = key)).map Prod.snd := by
  have hFold (m : Keyed κ α) : (es.foldl (fun m e => m.put e.1 e.2) m).get? key =
      ((es.reverse.find? (·.1 = key)).map Prod.snd).or (m.get? key) := by
    induction es generalizing m with
    | nil => rfl
    | cons e rest ih =>
      rw [List.foldl_cons, ih, get?_put, List.reverse_cons, List.find?_append]
      cases hLater : rest.reverse.find? (·.1 = key) with
      | some later => rfl
      | none =>
        by_cases hKey : e.1 = key
        · simp [hKey]
        · simp [hKey, Ne.symm hKey]
  rw [ofList, hFold]
  exact Option.or_none

section Renaming

variable {κ' β : Type} [DecidableEq κ'] {rename : κ → κ'}

/-- Keys that are renamed apart are found where they were. -/
theorem putEntry_map (hApart : Function.Injective rename) (convert : α → β)
    (key : κ) (value : α) (entries : List (κ × α)) :
    putEntry (rename key) (convert value) (entries.map fun e => (rename e.1, convert e.2)) =
      (putEntry key value entries).map fun e => (rename e.1, convert e.2) := by
  induction entries with
  | nil => rfl
  | cons e rest ih =>
    by_cases hKey : e.1 = key
    · simp [putEntry, hKey]
    · simp [putEntry, hKey, hApart.ne hKey, ih]

/-- Renaming keys apart changes neither which values count nor their order. -/
theorem entries_ofList_map (hApart : Function.Injective rename) (convert : α → β)
    (es : List (κ × α)) :
    (ofList (es.map fun e => (rename e.1, convert e.2))).entries =
      (ofList es).entries.map fun e => (rename e.1, convert e.2) := by
  have hFold (m : Keyed κ α) (m' : Keyed κ' β)
      (h : m'.entries = m.entries.map fun e => (rename e.1, convert e.2)) :
      ((es.map fun e => (rename e.1, convert e.2)).foldl (fun m e => m.put e.1 e.2) m').entries =
        (es.foldl (fun m e => m.put e.1 e.2) m).entries.map fun e => (rename e.1, convert e.2) := by
    induction es generalizing m m' with
    | nil => exact h
    | cons e rest ih =>
      refine ih (m.put e.1 e.2) (m'.put (rename e.1) (convert e.2)) ?_
      show putEntry _ _ m'.entries = (putEntry e.1 e.2 m.entries).map _
      rw [h, putEntry_map hApart]
  exact hFold empty empty rfl

end Renaming

/-- Giving a key a number changes the sum by what the number is more or less than before. -/
theorem sum_put (m : Keyed κ Nat) (key : κ) (value : Nat) :
    (m.put key value).values.sum + (m.get? key).getD 0 = m.values.sum + value := by
  obtain ⟨entries, distinct⟩ := m
  show ((putEntry key value entries).map Prod.snd).sum +
      ((entries.find? (·.1 = key)).map Prod.snd).getD 0 = (entries.map Prod.snd).sum + value
  clear distinct
  induction entries with
  | nil => simp [putEntry]
  | cons e rest ih =>
    rw [putEntry, List.find?_cons]
    by_cases hKey : e.1 = key
    · simp only [hKey, if_true, decide_true, List.map_cons, List.sum_cons, Option.map_some,
        Option.getD_some]
      omega
    · simp only [hKey, if_false, decide_false, List.map_cons, List.sum_cons]
      omega

omit [DecidableEq κ] in
/-- Rows that each begin with a key of their own are apart. -/
theorem singletons_nodup {β : Type} (m : Keyed κ α) (value : α → β) :
    ((m.entries.map fun e => ([e.1], value e.2)).map Prod.fst).Nodup := by
  have hKeys : (m.entries.map fun e => ([e.1], value e.2)).map Prod.fst =
      (m.entries.map Prod.fst).map fun key => [key] := by
    rw [List.map_map, List.map_map]
    rfl
  rw [hKeys]
  exact m.distinct.map fun _ _ h => List.head_eq_of_cons_eq h

-- ---------------------------------------------------------------------------
-- Undoing
-- ---------------------------------------------------------------------------

omit [DecidableEq κ] in
private theorem entries_ext {m m' : Keyed κ α} (h : m.entries = m'.entries) : m = m' := by
  cases m
  cases m'
  cases h
  rfl

/-- A key that was not there goes to the end. -/
theorem putEntry_of_notMem {key : κ} {value : α} {entries : List (κ × α)}
    (h : key ∉ entries.map Prod.fst) :
    putEntry key value entries = entries ++ [(key, value)] := by
  induction entries with
  | nil => rfl
  | cons e rest ih =>
    rw [List.map_cons, List.mem_cons, not_or] at h
    rw [putEntry, if_neg (Ne.symm h.1), ih h.2, List.cons_append]

/-- Pairs of new keys go to the end, in their order. -/
theorem entries_foldl_put {m : Keyed κ α} {es : List (κ × α)}
    (h : ((m.entries ++ es).map Prod.fst).Nodup) :
    (es.foldl (fun m e => m.put e.1 e.2) m).entries = m.entries ++ es := by
  induction es generalizing m with
  | nil => rw [List.foldl_nil, List.append_nil]
  | cons e es ih =>
    have hNew : e.1 ∉ m.entries.map Prod.fst := by
      rw [List.map_append, List.nodup_append] at h
      exact fun hMem => h.2.2 _ hMem _ (List.mem_map_of_mem List.mem_cons_self) rfl
    have hEntries : (m.put e.1 e.2).entries = m.entries ++ [e] := putEntry_of_notMem hNew
    have hAgain : m.entries ++ e :: es = (m.put e.1 e.2).entries ++ es := by
      rw [hEntries, List.append_assoc]
      rfl
    rw [List.foldl_cons, ih (hAgain ▸ h), hAgain]

/-- The values of distinct keys are those of the list. -/
theorem entries_ofList {es : List (κ × α)} (h : (es.map Prod.fst).Nodup) :
    (ofList es).entries = es :=
  entries_foldl_put (m := empty) h

theorem ofList_entries (m : Keyed κ α) : ofList m.entries = m :=
  entries_ext (entries_ofList m.distinct)

/-- Removing a key that was new undoes giving it a value. -/
theorem erase_put {m : Keyed κ α} {key : κ} {value : α} (h : key ∉ m.keys) :
    (m.put key value).erase key = m := by
  apply entries_ext
  show (putEntry key value m.entries).filter (·.1 ≠ key) = m.entries
  rw [putEntry_of_notMem h, List.filter_append]
  have hKeep : m.entries.filter (·.1 ≠ key) = m.entries := by
    rw [List.filter_eq_self]
    intro e he
    have hNe : e.1 ≠ key := fun heq => h (heq ▸ List.mem_map_of_mem he)
    simpa using hNe
  rw [hKeep]
  simp

/-- Of two values given to a key the later counts. -/
theorem put_put (m : Keyed κ α) (key : κ) (value value' : α) :
    (m.put key value).put key value' = m.put key value' := by
  apply entries_ext
  show putEntry key value' (putEntry key value m.entries) = putEntry key value' m.entries
  generalize m.entries = entries
  induction entries with
  | nil => simp [putEntry]
  | cons e rest ih =>
    obtain ⟨k, v⟩ := e
    by_cases hk : k = key
    · simp [putEntry, hk]
    · simp [putEntry, hk, ih]

/-- Giving a key the value it has changes nothing. -/
theorem put_get? {m : Keyed κ α} {key : κ} {value : α} (h : m.get? key = some value) :
    m.put key value = m := by
  apply entries_ext
  show putEntry key value m.entries = m.entries
  rw [get?] at h
  generalize m.entries = entries at h
  induction entries with
  | nil => simp at h
  | cons e rest ih =>
    obtain ⟨k, v⟩ := e
    by_cases hk : k = key
    · subst hk
      simp only [List.find?_cons, decide_true, Option.map_some, Option.some.injEq] at h
      rw [putEntry, if_pos rfl, h]
    · simp only [List.find?_cons, hk, decide_false] at h
      rw [putEntry, if_neg hk, ih h]

-- ---------------------------------------------------------------------------
-- The entries that pass a test
-- ---------------------------------------------------------------------------

/-- The entries whose keys pass a test. -/
def restrict (m : Keyed κ α) (test : κ → Bool) : Keyed κ α :=
  ⟨m.entries.filter fun e => test e.1, m.distinct.sublist (List.filter_sublist.map Prod.fst)⟩

theorem get?_restrict (m : Keyed κ α) (test : κ → Bool) (key : κ) :
    (m.restrict test).get? key = if test key then m.get? key else none := by
  rw [get?, get?, restrict, List.find?_filter]
  by_cases hTest : test key = true
  · rw [if_pos hTest]
    congr 2
    funext e
    by_cases he : e.1 = key
    · simp [he, hTest]
    · simp [he]
  · rw [if_neg hTest, Option.map_eq_none_iff, List.find?_eq_none]
    intro e _
    by_cases he : e.1 = key
    · simp [he, hTest]
    · simp [he]

omit [DecidableEq κ] in
theorem restrict_eq_self {m : Keyed κ α} {test : κ → Bool}
    (h : ∀ key ∈ m.keys, test key = true) :
    m.restrict test = m :=
  entries_ext (List.filter_eq_self.mpr fun _ he => h _ (List.mem_map_of_mem he))

theorem restrict_put {m : Keyed κ α} {test : κ → Bool} {key : κ} (value : α)
    (h : test key = true) : (m.put key value).restrict test = (m.restrict test).put key value := by
  apply entries_ext
  show (putEntry key value m.entries).filter (fun e => test e.1) =
    putEntry key value (m.entries.filter fun e => test e.1)
  generalize m.entries = entries
  induction entries with
  | nil => simp [putEntry, h]
  | cons e rest ih =>
    obtain ⟨k, v⟩ := e
    by_cases hk : k = key
    · subst hk
      simp [putEntry, h]
    · by_cases hTest : test k = true
      · simp [putEntry, hk, hTest, ih]
      · simp [putEntry, hk, hTest, ih]

/-- A key that fails the test changes nothing of the rest. -/
theorem restrict_put_skip {m : Keyed κ α} {test : κ → Bool} {key : κ} (value : α)
    (h : test key = false) : (m.put key value).restrict test = m.restrict test := by
  apply entries_ext
  show (putEntry key value m.entries).filter (fun e => test e.1) =
    m.entries.filter fun e => test e.1
  generalize m.entries = entries
  induction entries with
  | nil => simp [putEntry, h]
  | cons e rest ih =>
    obtain ⟨k, v⟩ := e
    by_cases hk : k = key
    · subst hk
      simp [putEntry, h]
    · by_cases hTest : test k = true
      · simp [putEntry, hk, hTest, ih]
      · simp [putEntry, hk, hTest, ih]

theorem restrict_erase (m : Keyed κ α) (test : κ → Bool) (key : κ) :
    (m.erase key).restrict test = (m.restrict test).erase key := by
  apply entries_ext
  show (m.entries.filter _).filter _ = (m.entries.filter _).filter _
  rw [List.filter_filter, List.filter_filter]
  congr 1
  funext e
  rw [Bool.and_comm]

/-- Removing a key that fails the test changes nothing of the rest. -/
theorem restrict_erase_skip {m : Keyed κ α} {test : κ → Bool} {key : κ}
    (h : test key = false) :
    (m.erase key).restrict test = m.restrict test := by
  apply entries_ext
  show (m.entries.filter _).filter _ = m.entries.filter _
  rw [List.filter_filter]
  congr 1
  funext e
  by_cases he : e.1 = key
  · simp [he, h]
  · simp [he]

end TopologyExporter.Keyed
