import Mathlib.Data.List.Nodup
import TopologyExporter.Proofs.Json.Spelling

/-!
# What is read from a value

A list is read if each of its items is. A record is read from an object by the names of its members:
those that nobody knows may repeat and be anything, the others are each there at most once. So the
order of the members does not matter.

## Results

* `readMembers_isSome_iff` — which objects have members that can be read.
* `findSome?_readMembers`  — each field has the value of the member with its name.
-/

namespace TopologyExporter.Json

-- ---------------------------------------------------------------------------
-- Reading values
-- ---------------------------------------------------------------------------

variable {α μ : Type}

/-- The text that a value is. -/
def readText : Value → Option String
  | .text s => s
  | _ => none

/-- The list that a value is, if each of its items is read. -/
def readList (read : Value → Option α) : Value → Option (List α)
  | .list items => items.mapM read
  | _ => none

/-- A field of a record, as it is read from a value. -/
structure FieldReader (μ : Type) where
  name : String
  mayLack : Bool
  read : Value → Option μ

/-- The fields among the members of an object. Each may be there once, and names that are known
count even if the value does not. -/
def readMembers (fields : List (FieldReader μ)) :
    List String → List (Option String × Value) → Option (List μ)
  | _, [] => some []
  | _, (none, _) :: _ => none
  | seen, (some name, v) :: rest =>
    match fields.find? (·.name = name) with
    | none => readMembers fields seen rest
    | some field =>
      if name ∈ seen then none
      else (field.read v).bind fun value =>
        (readMembers fields (name :: seen) rest).map (value :: ·)

/-- The fields that a list consists of, in their order. -/
def readListed : List (FieldReader μ) → List Value → Option (List μ)
  | [], [] => some []
  | [], _ :: _ => none
  | field :: fields, [] => if field.mayLack then readListed fields [] else none
  | field :: fields, v :: values =>
    (field.read v).bind fun value => (readListed fields values).map (value :: ·)

/-- The record that a value is: an object with its fields, or a list of them. -/
def readRecord (fields : List (FieldReader μ)) (build : List μ → Except String α) :
    Value → Option α
  | .list items => (readListed fields items).bind fun values => (build values).toOption
  | .object members => (readMembers fields [] members).bind fun values => (build values).toOption
  | _ => none

-- ---------------------------------------------------------------------------
-- Lists
-- ---------------------------------------------------------------------------

section Lists

variable {read : Value → Option α} {items : List Value} {as : List α}

theorem mapM_eq_some (h : List.Forall₂ (fun a v => read v = some a) as items) :
    items.mapM read = some as := by
  induction h with
  | nil => rfl
  | cons hItem _ ih =>
    rw [List.mapM_cons, hItem, ih]
    rfl

theorem isSome_of_mapM (h : (items.mapM read).isSome) : ∀ v ∈ items, (read v).isSome := by
  induction items with
  | nil => exact List.forall_mem_nil _
  | cons v items ih =>
    rw [List.mapM_cons] at h
    cases hItem : read v with
    | none =>
      rw [hItem] at h
      cases h
    | some a =>
      cases hItems : items.mapM read with
      | none =>
        rw [hItem, hItems] at h
        cases h
      | some as =>
        rw [hItems] at ih
        exact List.forall_mem_cons.mpr ⟨by rw [hItem]; rfl, ih rfl⟩

end Lists

-- ---------------------------------------------------------------------------
-- Members
-- ---------------------------------------------------------------------------

/-- The values of the members with a name. -/
def given (name : String) (members : List (Option String × Value)) : List Value :=
  members.filterMap fun m => if m.1 = some name then some m.2 else none

section Members

variable {readers : List (FieldReader μ)} {seen : List String}
  {members : List (Option String × Value)}
  {name n : String} {v : Value}

theorem mem_given : v ∈ given name members ↔ (some name, v) ∈ members := by
  rw [given, List.mem_filterMap]
  constructor
  · rintro ⟨⟨other, w⟩, hm, hPicked⟩
    by_cases hName : other = some name
    · rw [if_pos hName] at hPicked
      cases hPicked
      cases hName
      exact hm
    · rw [if_neg hName] at hPicked
      cases hPicked
  · intro hm
    exact ⟨_, hm, if_pos rfl⟩

theorem given_cons_self : given name ((some name, v) :: members) = v :: given name members :=
  List.filterMap_cons_some (if_pos rfl)

theorem given_cons_other (h : n ≠ name) :
    given name ((some n, v) :: members) = given name members :=
  List.filterMap_cons_none (if_neg fun hEq => h (Option.some.inj hEq))

/-- Whether the members of an object can be read, after some names that were seen before: each name
is a text, the known ones are there once, and their values are read. -/
structure Acceptable (readers : List (FieldReader μ)) (seen : List String)
    (members : List (Option String × Value)) :
    Prop where
  names : ∀ m ∈ members, m.1.isSome
  once  : ∀ name r, readers.find? (·.name = name) = some r →
    (given name members).length + seen.count name ≤ 1
  read  : ∀ name r, readers.find? (·.name = name) = some r →
    ∀ v ∈ given name members, (r.read v).isSome

theorem acceptable_nil (hSeen : seen.Nodup) : Acceptable readers seen [] where
  names := List.forall_mem_nil _
  once := fun name _ _ => by
    have hCount := List.nodup_iff_count_le_one.mp hSeen name
    rw [given, List.filterMap_nil, List.length_nil]
    omega
  read := fun _ _ _ => List.forall_mem_nil _

/-- A member that nobody knows does not matter. -/
theorem acceptable_cons_unknown (h : readers.find? (·.name = n) = none) :
    Acceptable readers seen ((some n, v) :: members) ↔ Acceptable readers seen members := by
  have hSame (name : String) (r : FieldReader μ)
      (hKnown : readers.find? (·.name = name) = some r) :
      given name ((some n, v) :: members) = given name members := by
    refine given_cons_other ?_
    rintro rfl
    rw [h] at hKnown
    cases hKnown
  constructor
  · intro hAll
    refine ⟨(List.forall_mem_cons.mp hAll.names).2, fun name r hKnown => ?_,
      fun name r hKnown => ?_⟩
    · rw [← hSame name r hKnown]
      exact hAll.once name r hKnown
    · rw [← hSame name r hKnown]
      exact hAll.read name r hKnown
  · intro hRest
    refine ⟨List.forall_mem_cons.mpr ⟨rfl, hRest.names⟩, fun name r hKnown => ?_,
      fun name r hKnown => ?_⟩
    · rw [hSame name r hKnown]
      exact hRest.once name r hKnown
    · rw [hSame name r hKnown]
      exact hRest.read name r hKnown

/-- A member that is known counts as seen from then on. -/
theorem acceptable_cons_known {r : FieldReader μ} (h : readers.find? (·.name = n) = some r) :
    Acceptable readers seen ((some n, v) :: members) ↔
      (r.read v).isSome ∧ Acceptable readers (n :: seen) members := by
  have hCount (name : String) : (given name ((some n, v) :: members)).length + seen.count name =
      (given name members).length + (n :: seen).count name := by
    by_cases hName : n = name
    · subst hName
      rw [given_cons_self, List.length_cons, List.count_cons_self]
      omega
    · rw [given_cons_other hName, List.count_cons_of_ne hName]
  constructor
  · intro hAll
    refine ⟨hAll.read n r h v ?_, (List.forall_mem_cons.mp hAll.names).2, fun name r hKnown => ?_,
      fun name r hKnown w hw => hAll.read name r hKnown w ?_⟩
    · rw [given_cons_self]
      exact List.mem_cons_self
    · rw [← hCount]
      exact hAll.once name r hKnown
    · exact mem_given.mpr (List.mem_cons_of_mem _ (mem_given.mp hw))
  · rintro ⟨hRead, hRest⟩
    refine ⟨List.forall_mem_cons.mpr ⟨rfl, hRest.names⟩, fun name r hKnown => ?_,
      fun name r' hKnown w hw => ?_⟩
    · rw [hCount]
      exact hRest.once name r hKnown
    · obtain hFirst | hLater := List.mem_cons.mp (mem_given.mp hw)
      · cases hFirst
        rw [h] at hKnown
        cases hKnown
        exact hRead
      · exact hRest.read name r' hKnown w (mem_given.mpr hLater)

/-- **Members can be read** if each name is a text, the known ones are there once, and their values
are read. -/
theorem readMembers_isSome_iff (hSeen : seen.Nodup) :
    (readMembers readers seen members).isSome ↔ Acceptable readers seen members := by
  induction members generalizing seen with
  | nil => exact iff_of_true rfl (acceptable_nil hSeen)
  | cons m members ih =>
    obtain ⟨name, v⟩ := m
    cases name with
    | none =>
      refine iff_of_false (by rw [readMembers]; exact Bool.false_ne_true) fun h => ?_
      exact Bool.false_ne_true (List.forall_mem_cons.mp h.names).1
    | some n =>
      rw [readMembers]
      cases hKnown : readers.find? (·.name = n) with
      | none => exact (ih hSeen).trans (acceptable_cons_unknown hKnown).symm
      | some r =>
        dsimp only
        by_cases hMem : n ∈ seen
        · rw [if_pos hMem]
          refine iff_of_false Bool.false_ne_true fun h => ?_
          have hOnce := h.once n r hKnown
          have hCount := List.count_pos_iff.mpr hMem
          rw [given_cons_self, List.length_cons] at hOnce
          omega
        · rw [if_neg hMem, acceptable_cons_known hKnown,
            ← ih (List.nodup_cons.mpr ⟨hMem, hSeen⟩)]
          cases r.read v with
          | none => simp
          | some value => simp

/-- Whether the values of the fields tell which fields they are of. -/
def Tagged (tag : μ → String) (readers : List (FieldReader μ)) : Prop :=
  ∀ r ∈ readers, ∀ v value, r.read v = some value → tag value = r.name

/-- **Each field has the value of the member with its name**, wherever that stands. -/
theorem findSome?_readMembers {tag : μ → String} (hTagged : Tagged tag readers)
    {values : List μ} {r : FieldReader μ} {pick : μ → Option α} {read : Value → Option α}
    (h : readMembers readers seen members = some values)
    (hKnown : readers.find? (·.name = name) = some r)
    (hRead : ∀ v, (r.read v).bind pick = read v)
    (hOther : ∀ value, tag value ≠ name → pick value = none) :
    values.findSome? pick = (given name members).findSome? read := by
  induction members generalizing seen values with
  | nil =>
    cases h
    rfl
  | cons m members ih =>
    obtain ⟨other, v⟩ := m
    cases other with
    | none =>
      rw [readMembers] at h
      cases h
    | some n =>
      rw [readMembers] at h
      cases hFound : readers.find? (·.name = n) with
      | none =>
        rw [hFound] at h
        have hUnknown : n ≠ name := by
          rintro rfl
          rw [hFound] at hKnown
          cases hKnown
        rw [given_cons_other hUnknown]
        exact ih h
      | some field =>
        rw [hFound] at h
        obtain ⟨-, h⟩ := Option.ite_none_left_eq_some.mp h
        obtain ⟨value, hValue, h⟩ := Option.bind_eq_some_iff.mp h
        obtain ⟨later, hLater, rfl⟩ := Option.map_eq_some_iff.mp h
        rw [List.findSome?_cons, ih hLater]
        by_cases hName : n = name
        · subst hName
          obtain rfl : field = r := Option.some.inj (hFound.symm.trans hKnown)
          rw [given_cons_self, List.findSome?_cons, ← hRead, hValue, Option.bind_some]
        · have hTag : tag value = n := by
            rw [hTagged field (List.mem_of_find?_eq_some hFound) v value hValue]
            simpa using List.find?_some hFound
          rw [given_cons_other hName, hOther value (by rwa [hTag])]

theorem tag_eq_of_map {tag : μ → String} {wrap : α → μ} {o : Option α} {value : μ}
    (h : o.map wrap = some value) (hWrap : ∀ a, tag (wrap a) = name) : tag value = name := by
  obtain ⟨a, -, rfl⟩ := Option.map_eq_some_iff.mp h
  exact hWrap a

/-- The value of a field without its tag. -/
theorem findSome?_wrapped {tag : μ → String} (hTagged : Tagged tag readers) {values : List μ}
    {mayLack : Bool} {read : Value → Option α} {wrap : α → μ} {pick : μ → Option α}
    (h : readMembers readers seen members = some values)
    (hKnown : readers.find? (·.name = name) = some ⟨name, mayLack, fun v => (read v).map wrap⟩)
    (hWrap : ∀ a, pick (wrap a) = some a)
    (hOther : ∀ value, tag value ≠ name → pick value = none) :
    values.findSome? pick = (given name members).findSome? read := by
  refine findSome?_readMembers hTagged h hKnown (fun v => ?_) hOther
  cases hValue : read v with
  | none => simp [hValue]
  | some a => simp [hValue, hWrap]

/-- Where a list is read as a record, each of its items is read as the field in its place. -/
theorem isSome_of_readListed {values : List Value}
    (h : (readListed readers values).isSome) {i : Nat} {r : FieldReader μ}
    (hReader : readers[i]? = some r) (hValue : values[i]? = some v) : (r.read v).isSome := by
  induction readers generalizing values i with
  | nil => cases hReader
  | cons field readers ih =>
    cases values with
    | nil => cases hValue
    | cons w values =>
      rw [readListed] at h
      cases hRead : field.read w with
      | none =>
        rw [hRead] at h
        cases h
      | some value =>
        rw [hRead, Option.bind_some, Option.isSome_map] at h
        cases i with
        | zero =>
          cases hReader
          cases hValue
          rw [hRead]
          rfl
        | succ i => exact ih h hReader hValue

-- ---------------------------------------------------------------------------
-- Records
-- ---------------------------------------------------------------------------

/-- Whether a field is there at most once, and then with a value that is read. -/
def FieldReader.Fits (r : FieldReader μ) (members : List (Option String × Value)) : Prop :=
  given r.name members = [] ∨ ∃ v, given r.name members = [v] ∧ (r.read v).isSome

/-- The members of an object are read if they fit the fields; others do not matter. -/
theorem exists_readMembers_eq (hNames : ∀ m ∈ members, m.1.isSome)
    (hFits : ∀ r ∈ readers, r.Fits members) :
    ∃ values, readMembers readers [] members = some values := by
  have hField {name : String} {r : FieldReader μ}
      (hKnown : readers.find? (·.name = name) = some r) :
      given name members = [] ∨ ∃ v, given name members = [v] ∧ (r.read v).isSome := by
    have hName : r.name = name := by simpa using List.find?_some hKnown
    have hFit := hFits r (List.mem_of_find?_eq_some hKnown)
    rwa [FieldReader.Fits, hName] at hFit
  refine Option.isSome_iff_exists.mp
    ((readMembers_isSome_iff List.nodup_nil).mpr ⟨hNames, ?_, ?_⟩)
  · intro name r hKnown
    rw [List.count_nil, Nat.add_zero]
    obtain hNone | ⟨v, hOne, -⟩ := hField hKnown
    · rw [hNone]
      exact Nat.zero_le _
    · rw [hOne]
      exact Nat.le_refl _
  · intro name r hKnown
    obtain hNone | ⟨v, hOne, hRead⟩ := hField hKnown
    · rw [hNone]
      exact List.forall_mem_nil _
    · rw [hOne]
      exact List.forall_mem_singleton.mpr hRead

/-- An object that is read as a record has members that can be read, and what they give makes the
record. -/
theorem acceptable_of_readRecord {build : List μ → Except String α}
    (h : (readRecord readers build (.object members)).isSome) : Acceptable readers [] members ∧
      ∃ values a, readMembers readers [] members = some values ∧ build values = .ok a := by
  rw [readRecord] at h
  cases hMembers : readMembers readers [] members with
  | none =>
    rw [hMembers] at h
    cases h
  | some values =>
    refine ⟨(readMembers_isSome_iff List.nodup_nil).mp (by rw [hMembers]; rfl), values, ?_⟩
    rw [hMembers, Option.bind_some] at h
    cases hBuild : build values with
    | error name =>
      rw [hBuild] at h
      cases h
    | ok a => exact ⟨a, rfl, rfl⟩

/-- A field that is known is there at most once. -/
theorem Acceptable.length_given_le (h : Acceptable readers [] members)
    (hName : name ∈ readers.map FieldReader.name) :
    (given name members).length ≤ 1 := by
  obtain ⟨r, hr, rfl⟩ := List.mem_map.mp hName
  obtain ⟨found, hFound⟩ : ∃ found, readers.find? (·.name = r.name) = some found :=
    Option.isSome_iff_exists.mp (List.find?_isSome.mpr ⟨r, hr, decide_eq_true rfl⟩)
  exact h.once r.name found hFound

end Members

end TopologyExporter.Json
