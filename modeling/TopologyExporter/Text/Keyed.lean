/-!
# Keyed values

Values by key, in the order in which the keys came. Every key is there once.

* `put_keys_nodup` — giving a key a value never makes it appear twice.
-/

namespace TopologyExporter

variable {κ α : Type} [DecidableEq κ]

/-- Gives `key` a value: in place of the one it has, or after all others. -/
def putEntry (key : κ) (value : α) : List (κ × α) → List (κ × α)
  | [] => [(key, value)]
  | (k, v) :: rest => if k = key then (k, value) :: rest else (k, v) :: putEntry key value rest

/-- The keys after one was given a value are those from before and that one. -/
theorem key_of_mem_putEntry {key k : κ} {value : α} {entries : List (κ × α)}
    (h : k ∈ (putEntry key value entries).map Prod.fst) :
    k = key ∨ k ∈ entries.map Prod.fst := by
  fun_induction putEntry key value entries <;> grind

/-- Giving a key a value never makes a key appear twice. -/
theorem put_keys_nodup (key : κ) (value : α) (entries : List (κ × α))
    (h : (entries.map Prod.fst).Nodup) : ((putEntry key value entries).map Prod.fst).Nodup := by
  fun_induction putEntry key value entries with
  | case1 => simp
  | case2 v rest => simpa using h
  | case3 k v rest hne ih =>
    simp only [List.map_cons, List.nodup_cons] at h ⊢
    refine ⟨fun hmem => ?_, ih h.2⟩
    rcases key_of_mem_putEntry hmem with heq | hmem
    · exact hne heq
    · exact h.1 hmem

/-- Values by key. -/
structure Keyed (κ α : Type) where
  entries : List (κ × α)
  distinct : (entries.map Prod.fst).Nodup := by simp
deriving Repr

namespace Keyed

instance [DecidableEq α] : DecidableEq (Keyed κ α) := fun a b =>
  decidable_of_iff (a.entries = b.entries)
    ⟨fun h => by cases a; cases b; simp_all, fun h => h ▸ rfl⟩

/-- No values. -/
def empty : Keyed κ α := ⟨[], .nil⟩

instance : Inhabited (Keyed κ α) := ⟨empty⟩

/-- The keys, in order. -/
def keys (m : Keyed κ α) : List κ := m.entries.map Prod.fst

/-- The values, in the order of their keys. -/
def values (m : Keyed κ α) : List α := m.entries.map Prod.snd

/-- The value of a key. -/
def get? (m : Keyed κ α) (key : κ) : Option α :=
  (m.entries.find? (·.1 = key)).map fun (_, value) => value

/-- Gives a key a value, in place of an earlier one. -/
def put (m : Keyed κ α) (key : κ) (value : α) : Keyed κ α :=
  ⟨putEntry key value m.entries, put_keys_nodup key value m.entries m.distinct⟩

/-- The values of a list of pairs; of two of one key the later counts. -/
def ofList (entries : List (κ × α)) : Keyed κ α :=
  entries.foldl (fun m e => m.put e.1 e.2) empty

/-- Removes a key with its value. -/
def erase (m : Keyed κ α) (key : κ) : Keyed κ α :=
  ⟨m.entries.filter (·.1 ≠ key), m.distinct.sublist (List.filter_sublist.map Prod.fst)⟩

end Keyed

end TopologyExporter
