import TopologyExporter.Fetch.File
import TopologyExporter.Proofs.Json.Following

/-!
# Spellings of a topology

A topology is written as a list of objects. Their members come in any order, with others among them
that nobody asked for, and what is empty may be left out. All these texts are read as the same
snapshot. An object that repeats a member or lacks one that it must have is refused, wherever it
stands.

## Results

* `Snapshot.readList_eq`           — what is spelled is read, in whatever order and with whatever
  else.
* `Snapshot.readList_flawed`       — no value with a flawed object is read.
* `every_spelling_is_the_snapshot` — so each text in a file is the snapshot that it spells, or a
  decoding fault.
-/

namespace TopologyExporter

open Json (Value FieldReader given readText readList readRecord readMembers Acceptable Tagged)
open Json.Decoder (FieldFollows follows_text)

-- ---------------------------------------------------------------------------
-- What is read from a value
-- ---------------------------------------------------------------------------

/-- The field of a process. -/
def Workload.readers : List (FieldReader String) := [⟨"name", false, readText⟩]

/-- The process that a value is. -/
def Workload.ofValue : Value → Option Workload := readRecord readers build

/-- The fields of an instance. -/
def Instance.readers : List (FieldReader Member) :=
  [⟨"name", false, fun v => (readText v).map .name⟩,
    ⟨"id", false, fun v => (readText v).map .id⟩,
    ⟨"index", false, fun v => (readText v).map .index⟩,
    ⟨"ips", true, fun v => (readList readText v).map .ips⟩,
    ⟨"az", true, fun v => (readText v).map .zone⟩,
    ⟨"processes", true, fun v => (readList Workload.ofValue v).map .processes⟩]

/-- The instance that a value is. -/
def Instance.ofValue : Value → Option Instance := readRecord readers build

/-- The fields of a deployment. -/
def Deployment.readers : List (FieldReader Member) :=
  [⟨"name", false, fun v => (readText v).map .name⟩,
    ⟨"instances", true, fun v => (readList Instance.ofValue v).map .instances⟩]

/-- The deployment that a value is. -/
def Deployment.ofValue : Value → Option Deployment := readRecord readers build

theorem Workload.follows : Workload.decoder.Follows ofValue :=
  .record (.cons ⟨rfl, rfl, follows_text _⟩ .nil)

theorem Instance.follows : Instance.decoder.Follows ofValue := by
  refine .record (.cons ⟨rfl, rfl, (follows_text _).fmap⟩ ?_)
  refine .cons ⟨rfl, rfl, (follows_text _).fmap⟩
    (.cons ⟨rfl, rfl, (follows_text _).fmap⟩ ?_)
  refine .cons ⟨rfl, rfl, (follows_text _).list.fmap⟩
    (.cons ⟨rfl, rfl, (follows_text _).fmap⟩ ?_)
  exact .cons ⟨rfl, rfl, Workload.follows.list.fmap⟩ .nil

theorem Deployment.follows : Deployment.decoder.Follows ofValue := by
  refine .record (.cons ⟨rfl, rfl, (follows_text _).fmap⟩ ?_)
  exact .cons ⟨rfl, rfl, Instance.follows.list.fmap⟩ .nil

-- ---------------------------------------------------------------------------
-- Spellings
-- ---------------------------------------------------------------------------

section Spellings

variable {α μ : Type} {name : String} {members : List (Option String × Value)} {as : List α}
  {R : α → Value → Prop} {read : Value → Option α} {wrap : List α → μ}

/-- Whether the members of an object hold some things under a name, as a list in their order. An
empty list may be left out. -/
def ListsUnder (name : String) (R : α → Value → Prop) (as : List α)
    (members : List (Option String × Value)) : Prop :=
  (∃ items, given name members = [.list items] ∧ List.Forall₂ R as items) ∨
    given name members = [] ∧ as = []

/-- Whether a value is a text. -/
def IsText (s : String) (v : Value) : Prop := v = .text (some s)

theorem ListsUnder.fits (h : ListsUnder name R as members)
    (hRead : ∀ a v, R a v → read v = some a) (mayLack : Bool) :
    (⟨name, mayLack, fun v => (readList read v).map wrap⟩ : FieldReader μ).Fits members := by
  obtain ⟨items, hGiven, hItems⟩ | ⟨hGiven, -⟩ := h
  · have hAll : readList read (.list items) = some as := Json.mapM_eq_some (hItems.imp hRead)
    refine .inr ⟨_, hGiven, ?_⟩
    dsimp only
    rw [hAll]
    rfl
  · exact .inl hGiven

theorem ListsUnder.getD_eq (h : ListsUnder name R as members)
    (hRead : ∀ a v, R a v → read v = some a) :
    ((given name members).findSome? (readList read)).getD [] = as := by
  obtain ⟨items, hGiven, hItems⟩ | ⟨hGiven, rfl⟩ := h
  · have hAll : readList read (.list items) = some as := Json.mapM_eq_some (hItems.imp hRead)
    rw [hGiven, List.findSome?_cons, hAll]
    rfl
  · rw [hGiven]
    rfl

end Spellings

/-- Whether an object spells a process. Each name is a text, for half of a pair of escapes names
nothing; members with other names than the one that is known may be anything. -/
structure Workload.HasMembers (p : Workload) (members : List (Option String × Value)) : Prop where
  names : ∀ m ∈ members, m.1.isSome
  name  : given "name" members = [.text (some p.name)]

/-- Whether a value spells a process. -/
def Workload.Spelled (p : Workload) (v : Value) : Prop :=
  ∃ members, v = .object members ∧ p.HasMembers members

/-- Whether an object spells an instance. -/
structure Instance.HasMembers (i : Instance) (members : List (Option String × Value)) : Prop where
  names     : ∀ m ∈ members, m.1.isSome
  name      : given "name" members = [.text (some i.name)]
  id        : given "id" members = [.text (some i.id)]
  index     : given "index" members = [.text (some i.index)]
  ips       : ListsUnder "ips" IsText i.ips members
  zone      : given "az" members = [.text (some i.zone)] ∨ given "az" members = [] ∧ i.zone = ""
  processes : ListsUnder "processes" Workload.Spelled i.processes members

/-- Whether a value spells an instance. -/
def Instance.Spelled (i : Instance) (v : Value) : Prop :=
  ∃ members, v = .object members ∧ i.HasMembers members

/-- Whether an object spells a deployment. -/
structure Deployment.HasMembers (d : Deployment) (members : List (Option String × Value)) :
    Prop where
  names     : ∀ m ∈ members, m.1.isSome
  name      : given "name" members = [.text (some d.name)]
  instances : ListsUnder "instances" Instance.Spelled d.instances members

/-- Whether a value spells a deployment. -/
def Deployment.Spelled (d : Deployment) (v : Value) : Prop :=
  ∃ members, v = .object members ∧ d.HasMembers members

/-- Whether a value spells a snapshot: the list of its deployments, in their order. -/
def Snapshot.Spelled (s : Snapshot) (v : Value) : Prop :=
  ∃ items, v = .list items ∧ List.Forall₂ Deployment.Spelled s items

theorem readText_eq_some (s : String) (v : Value) (h : IsText s v) : readText v = some s := by
  rw [h, readText]

-- ---------------------------------------------------------------------------
-- What is spelled is read
-- ---------------------------------------------------------------------------

/-- The name of a process is read from its member. -/
theorem Workload.name_eq {members : List (Option String × Value)} {values : List String}
    (h : readMembers readers [] members = some values) :
    values.findSome? some = (given "name" members).findSome? readText := by
  have hTagged : Tagged (fun _ => "name") readers := by
    intro r hr v value _
    obtain rfl := List.mem_singleton.mp hr
    rfl
  exact Json.findSome?_readMembers hTagged h rfl (fun _ => Option.bind_fun_some _) fun _ hOther =>
    absurd rfl hOther

theorem Workload.ofValue_eq (p : Workload) (v : Value) (h : p.Spelled v) : ofValue v = some p := by
  obtain ⟨members, rfl, hMembers⟩ := h
  have hFits : ∀ r ∈ readers, r.Fits members :=
    List.forall_mem_singleton.mpr (.inr ⟨_, hMembers.name, rfl⟩)
  obtain ⟨values, hValues⟩ := Json.exists_readMembers_eq hMembers.names hFits
  rw [ofValue, readRecord, hValues, Option.bind_some, build, Json.Decoder.required, name_eq hValues,
    hMembers.name]
  rfl

namespace Instance

/-- The name of the field that a value is of. -/
def Member.tag : Member → String
  | name _ => "name"
  | id _ => "id"
  | index _ => "index"
  | ips _ => "ips"
  | zone _ => "az"
  | processes _ => "processes"

theorem tagged : Tagged Member.tag readers := by
  intro r hr v value hValue
  simp only [readers, List.mem_cons, List.not_mem_nil, or_false] at hr
  rcases hr with rfl | rfl | rfl | rfl | rfl | rfl
  all_goals exact Json.tag_eq_of_map hValue fun _ => rfl

/-- The parts of an instance are read from the members with their names. -/
theorem parts_eq {members : List (Option String × Value)} {values : List Member}
    (h : readMembers readers [] members = some values) :
    values.findSome? Member.name? = (given "name" members).findSome? readText ∧
    values.findSome? Member.id? = (given "id" members).findSome? readText ∧
    values.findSome? Member.index? = (given "index" members).findSome? readText ∧
    values.findSome? Member.ips? = (given "ips" members).findSome? (readList readText) ∧
    values.findSome? Member.zone? = (given "az" members).findSome? readText ∧
    values.findSome? Member.processes? =
      (given "processes" members).findSome? (readList Workload.ofValue) := by
  have hPart {β : Type} {name : String} {mayLack : Bool} {read : Value → Option β}
      {wrap : β → Member}
      {pick : Member → Option β} (hKnown : readers.find? (·.name = name) =
        some ⟨name, mayLack, fun v => (read v).map wrap⟩)
      (hWrap : ∀ b, pick (wrap b) = some b)
      (hOther : ∀ m : Member, m.tag ≠ name → pick m = none) :
      values.findSome? pick = (given name members).findSome? read :=
    Json.findSome?_wrapped tagged h hKnown hWrap hOther
  refine ⟨hPart rfl (fun _ => rfl) ?_, hPart rfl (fun _ => rfl) ?_, hPart rfl (fun _ => rfl) ?_,
    hPart rfl (fun _ => rfl) ?_, hPart rfl (fun _ => rfl) ?_, hPart rfl (fun _ => rfl) ?_⟩
  all_goals
    intro m hm
    cases m <;> first | rfl | exact absurd rfl hm

theorem ofValue_eq (i : Instance) (v : Value) (h : i.Spelled v) : ofValue v = some i := by
  obtain ⟨members, rfl, hMembers⟩ := h
  have hFits : ∀ r ∈ readers, r.Fits members := by
    refine List.forall_mem_cons.mpr ⟨.inr ⟨_, hMembers.name, rfl⟩, ?_⟩
    refine List.forall_mem_cons.mpr ⟨.inr ⟨_, hMembers.id, rfl⟩, ?_⟩
    refine List.forall_mem_cons.mpr ⟨.inr ⟨_, hMembers.index, rfl⟩, ?_⟩
    refine List.forall_mem_cons.mpr ⟨hMembers.ips.fits readText_eq_some true, ?_⟩
    refine List.forall_mem_cons.mpr ⟨?_, ?_⟩
    · exact hMembers.zone.elim (fun hGiven => .inr ⟨_, hGiven, rfl⟩)
        (fun hLacks => .inl hLacks.1)
    · exact List.forall_mem_singleton.mpr (hMembers.processes.fits Workload.ofValue_eq true)
  obtain ⟨values, hValues⟩ := Json.exists_readMembers_eq hMembers.names hFits
  obtain ⟨hName, hId, hIndex, hIps, hZone, hProcesses⟩ := parts_eq hValues
  have hZoneValue : (values.findSome? Member.zone?).getD "" = i.zone := by
    rw [hZone]
    obtain hGiven | ⟨hGiven, hEmpty⟩ := hMembers.zone
    · rw [hGiven]
      rfl
    · rw [hGiven, hEmpty]
      rfl
  rw [hMembers.name] at hName
  rw [hMembers.id] at hId
  rw [hMembers.index] at hIndex
  rw [ofValue, readRecord, hValues, Option.bind_some, build, Json.Decoder.required, hName,
    Json.Decoder.required, hId, Json.Decoder.required, hIndex, hIps, hProcesses,
    hMembers.ips.getD_eq readText_eq_some,
    hMembers.processes.getD_eq Workload.ofValue_eq, hZoneValue]
  rfl

end Instance

namespace Deployment

/-- The name of the field that a value is of. -/
def Member.tag : Member → String
  | name _ => "name"
  | instances _ => "instances"

theorem tagged : Tagged Member.tag readers := by
  intro r hr v value hValue
  simp only [readers, List.mem_cons, List.not_mem_nil, or_false] at hr
  obtain rfl | rfl := hr
  all_goals exact Json.tag_eq_of_map hValue fun _ => rfl

/-- The parts of a deployment are read from the members with their names. -/
theorem parts_eq {members : List (Option String × Value)} {values : List Member}
    (h : readMembers readers [] members = some values) :
    values.findSome? Member.name? = (given "name" members).findSome? readText ∧
    values.findSome? Member.instances? =
      (given "instances" members).findSome? (readList Instance.ofValue) := by
  refine ⟨Json.findSome?_wrapped tagged h rfl (fun _ => rfl) ?_,
    Json.findSome?_wrapped tagged h rfl (fun _ => rfl) ?_⟩
  all_goals
    intro m hm
    cases m <;> first | rfl | exact absurd rfl hm

theorem ofValue_eq (d : Deployment) (v : Value) (h : d.Spelled v) : ofValue v = some d := by
  obtain ⟨members, rfl, hMembers⟩ := h
  have hFits : ∀ r ∈ readers, r.Fits members := by
    refine List.forall_mem_cons.mpr ⟨.inr ⟨_, hMembers.name, rfl⟩, ?_⟩
    exact List.forall_mem_singleton.mpr (hMembers.instances.fits Instance.ofValue_eq true)
  obtain ⟨values, hValues⟩ := Json.exists_readMembers_eq hMembers.names hFits
  obtain ⟨hName, hInstances⟩ := parts_eq hValues
  rw [hMembers.name] at hName
  rw [ofValue, readRecord, hValues, Option.bind_some, build, Json.Decoder.required,
    hName, hInstances, hMembers.instances.getD_eq Instance.ofValue_eq]
  rfl

end Deployment

/-- **What is spelled is read**, whatever the order of the members is and whatever else there is
among them. -/
theorem Snapshot.readList_eq {s : Snapshot} {v : Value} (h : s.Spelled v) :
    readList Deployment.ofValue v = some s := by
  obtain ⟨items, rfl, hItems⟩ := h
  exact Json.mapM_eq_some (hItems.imp Deployment.ofValue_eq)

-- ---------------------------------------------------------------------------
-- Flawed objects
-- ---------------------------------------------------------------------------

/-- Whether an object repeats one of some members, or lacks one of those that it must have. -/
def MembersFlawed (known needed : List String) (members : List (Option String × Value)) : Prop :=
  (∃ name ∈ known, 2 ≤ (given name members).length) ∨
    ∃ name ∈ needed, given name members = []

/-- Whether a record has a list under a name, or in its place if it is written as a list itself. -/
def HasList (name : String) (place : Nat) (v : Value) (items : List Value) : Prop :=
  (∃ members, v = .object members ∧ (some name, .list items) ∈ members) ∨
    ∃ values, v = .list values ∧ values[place]? = some (.list items)

/-- Whether a value is a flawed process. -/
def Workload.IsFlawed (v : Value) : Prop :=
  ∃ members, v = .object members ∧ MembersFlawed ["name"] ["name"] members

/-- Whether a value is a flawed instance, or one with a flawed process. -/
def Instance.IsFlawed (v : Value) : Prop :=
  (∃ members, v = .object members ∧
    MembersFlawed ["name", "id", "index", "ips", "az", "processes"]
      ["name", "id", "index"] members) ∨
  ∃ items, HasList "processes" 5 v items ∧ ∃ p ∈ items, Workload.IsFlawed p

/-- Whether a value is a flawed deployment, or one with a flawed instance. -/
def Deployment.IsFlawed (v : Value) : Prop :=
  (∃ members, v = .object members ∧ MembersFlawed ["name", "instances"] ["name"] members) ∨
  ∃ items, HasList "instances" 1 v items ∧ ∃ i ∈ items, Instance.IsFlawed i

/-- Whether a value is a list with a flawed deployment. -/
def Snapshot.IsFlawed (v : Value) : Prop :=
  ∃ items, v = .list items ∧ ∃ d ∈ items, Deployment.IsFlawed d

section Flaws

variable {α μ : Type} {readers : List (FieldReader μ)} {build : List μ → Except String α}
  {needed : List String}
  {members : List (Option String × Value)} {v : Value} {items : List Value}

/-- A flawed object is not read, if it is not read without what it must have. -/
theorem readRecord_of_flawed (h : MembersFlawed (readers.map FieldReader.name) needed members)
    (hNeeded : ∀ values a, readMembers readers [] members = some values →
      build values = .ok a →
      ∀ name ∈ needed, given name members ≠ []) :
      readRecord readers build (.object members) = none := by
  by_contra hSome
  obtain ⟨hAcceptable, values, a, hValues, hBuild⟩ :=
    Json.acceptable_of_readRecord (Option.ne_none_iff_isSome.mp hSome)
  obtain ⟨name, hName, hRepeated⟩ | ⟨name, hName, hLacking⟩ := h
  · have hOnce := hAcceptable.length_given_le hName
    omega
  · exact hNeeded values a hValues hBuild name hName hLacking

/-- If a record is read, so is each item of a list in it. -/
theorem isSome_of_hasList {name : String} {place : Nat} {mayLack : Bool} {β : Type}
    {read : Value → Option β} {wrap : List β → μ}
    (hKnown : readers.find? (·.name = name) =
      some ⟨name, mayLack, fun v => (readList read v).map wrap⟩)
    (hPlace : readers[place]? = some ⟨name, mayLack, fun v => (readList read v).map wrap⟩)
    (hList : HasList name place v items) (h : (readRecord readers build v).isSome) :
    ∀ w ∈ items, (read w).isSome := by
  have hItems : ((readList read (.list items)).map wrap).isSome := by
    obtain ⟨members, rfl, hMem⟩ | ⟨values, rfl, hValue⟩ := hList
    · exact (Json.acceptable_of_readRecord h).1.read name _ hKnown _ (Json.mem_given.mpr hMem)
    · rw [readRecord] at h
      cases hListed : Json.readListed readers values with
      | none =>
        rw [hListed] at h
        cases h
      | some all => exact Json.isSome_of_readListed (by rw [hListed]; rfl) hPlace hValue
  rw [Option.isSome_map] at hItems
  exact Json.isSome_of_mapM hItems

theorem isSome_of_required {name : String} {pick : μ → Option α} {values : List μ} {a : α}
    (h : Json.Decoder.required name pick values = .ok a) : (values.findSome? pick).isSome := by
  rw [Json.Decoder.required] at h
  cases hFound : values.findSome? pick with
  | none =>
    rw [hFound] at h
    cases h
  | some b => rfl

end Flaws

theorem Workload.ofValue_flawed {v : Value} (h : IsFlawed v) : ofValue v = none := by
  obtain ⟨members, rfl, hFlawed⟩ := h
  refine readRecord_of_flawed hFlawed fun values a hValues hBuild name hName hLacking => ?_
  obtain rfl := List.mem_singleton.mp hName
  rw [build, Json.Decoder.required, name_eq hValues, hLacking] at hBuild
  cases hBuild

/-- An instance has a name, an identifier and an index. -/
theorem Instance.isSome_of_build {values : List Member} {i : Instance} (h : build values = .ok i) :
    (values.findSome? Member.name?).isSome ∧ (values.findSome? Member.id?).isSome ∧
      (values.findSome? Member.index?).isSome := by
  rw [build] at h
  cases hName : Json.Decoder.required "name" Member.name? values with
  | error name =>
    rw [hName] at h
    cases h
  | ok name =>
    cases hId : Json.Decoder.required "id" Member.id? values with
    | error name =>
      rw [hName, hId] at h
      cases h
    | ok id =>
      cases hIndex : Json.Decoder.required "index" Member.index? values with
      | error name =>
        rw [hName, hId, hIndex] at h
        cases h
      | ok index =>
        exact ⟨isSome_of_required hName, isSome_of_required hId, isSome_of_required hIndex⟩

theorem Instance.ofValue_flawed {v : Value} (h : IsFlawed v) : ofValue v = none := by
  obtain ⟨members, rfl, hFlawed⟩ | ⟨items, hList, p, hp, hFlawed⟩ := h
  · refine readRecord_of_flawed hFlawed fun values i hValues hBuild name hName hLacking => ?_
    obtain ⟨hHasName, hHasId, hHasIndex⟩ := isSome_of_build hBuild
    obtain ⟨hNameEq, hIdEq, hIndexEq, -⟩ := parts_eq hValues
    simp only [List.mem_cons, List.not_mem_nil, or_false] at hName
    obtain rfl | rfl | rfl := hName
    · rw [hNameEq, hLacking] at hHasName
      cases hHasName
    · rw [hIdEq, hLacking] at hHasId
      cases hHasId
    · rw [hIndexEq, hLacking] at hHasIndex
      cases hHasIndex
  · by_contra hSome
    have hAll := isSome_of_hasList rfl rfl hList (Option.ne_none_iff_isSome.mp hSome) p hp
    rw [Workload.ofValue_flawed hFlawed] at hAll
    cases hAll

theorem Deployment.ofValue_flawed {v : Value} (h : IsFlawed v) : ofValue v = none := by
  obtain ⟨members, rfl, hFlawed⟩ | ⟨items, hList, i, hi, hFlawed⟩ := h
  · refine readRecord_of_flawed hFlawed fun values d hValues hBuild name hName hLacking => ?_
    obtain rfl := List.mem_singleton.mp hName
    rw [build, Json.Decoder.required, (parts_eq hValues).1, hLacking] at hBuild
    cases hBuild
  · by_contra hSome
    have hAll := isSome_of_hasList rfl rfl hList (Option.ne_none_iff_isSome.mp hSome) i hi
    rw [Instance.ofValue_flawed hFlawed] at hAll
    cases hAll

/-- **A flawed object is not read**, wherever it stands. -/
theorem Snapshot.readList_flawed {v : Value} (h : IsFlawed v) :
    readList Deployment.ofValue v = none := by
  obtain ⟨items, rfl, d, hd, hFlawed⟩ := h
  by_contra hSome
  have hAll := Json.isSome_of_mapM (Option.ne_none_iff_isSome.mp hSome) d hd
  rw [Deployment.ofValue_flawed hFlawed] at hAll
  cases hAll

-- ---------------------------------------------------------------------------
-- Files
-- ---------------------------------------------------------------------------

/-- What is decoded from a text of a value is what is read from the value. -/
theorem Snapshot.decode_eq {v : Value} {text : Bytes} (hText : v.IsSpelledBy text) :
    (Snapshot.decode text).toOption = readList Deployment.ofValue v :=
  Deployment.follows.list.decode hText

/-- **Every spelling of a topology is the same snapshot.** Whichever text of JSON a file holds, with
any blanks and any escapes: if its value is a list of objects that spell some deployments in their
order, then fetching gives these deployments. The members of each object come in any order; there
may be others with any values, also several times; and what is empty may be left out. If an object
for a deployment, an instance or a process repeats a member that is known, or lacks its name, its
identifier or its index, then fetching gives a decoding error. -/
theorem every_spelling_is_the_snapshot {t : FileTree} {path : String} {text : Bytes} {v : Value}
    (hText : v.IsSpelledBy text) (hFile : t.read path = .ok text) :
    (∀ s : Snapshot, s.Spelled v → fetchFile t path = .ok s) ∧
    (Snapshot.IsFlawed v → ∃ reason, fetchFile t path = .error (.decode reason)) := by
  have hDecode := Snapshot.decode_eq hText
  rw [fetchFile, hFile]
  dsimp only
  constructor
  · intro s hSpelled
    rw [Snapshot.readList_eq hSpelled] at hDecode
    cases hResult : Snapshot.decode text with
    | error reason =>
      rw [hResult] at hDecode
      cases hDecode
    | ok s' =>
      rw [hResult] at hDecode
      cases hDecode
      rfl
  · intro hFlawed
    rw [Snapshot.readList_flawed hFlawed] at hDecode
    cases hResult : Snapshot.decode text with
    | error reason => exact ⟨reason, rfl⟩
    | ok s' =>
      rw [hResult] at hDecode
      cases hDecode

section Untidy

open Json (Piece Code Space Item Spells Numeral)

private def filed (topology : Bytes) : FileTree :=
  ⟨⟨[([.given "topology.json"], .file topology FileTree.publicMode)], by simp⟩⟩

private theorem filed_read (topology : Bytes) :
    (filed topology).read "topology.json" = .ok topology := by rfl

private def lineAndBlank : Space :=
  ⟨Json.encode ['\n', ' '], List.forall_mem_cons.mpr
    ⟨by decide, List.forall_mem_singleton.mpr (by decide)⟩⟩

/-- Characters as they are. -/
private def asTheyAre (cs : List Char)
    (h : cs.all fun c => c ≠ '"' ∧ c ≠ '\\' ∧ 0x20 ≤ c.toNat := by decide) :
    List Piece :=
  cs.pmap .plain fun c hc => of_decide_eq_true (List.all_eq_true.mp h c hc)

/-- The first half of the pair that is a smile. -/
private def smileHigh : Piece :=
  .code ⟨⟨'D', 13, by decide⟩, ⟨'8', 8, by decide⟩, ⟨'3', 3, by decide⟩,
    ⟨'d', 13, by decide⟩⟩

/-- The second half. -/
private def smileLow : Piece :=
  .code ⟨⟨'d', 13, by decide⟩, ⟨'E', 14, by decide⟩, ⟨'0', 0, by decide⟩,
    ⟨'0', 0, by decide⟩⟩

/-- The letter m by its code. -/
private def codeOfM : Piece :=
  .code ⟨⟨'0', 0, by decide⟩, ⟨'0', 0, by decide⟩, ⟨'6', 6, by decide⟩,
    ⟨'D', 13, by decide⟩⟩

private def textItem (pieces : List Piece) : Item :=
  ⟨lineAndBlank, .text (Json.text? pieces), Json.encode (Json.quoted pieces), .none⟩

private def listItem (items : List Item) : Item :=
  ⟨.none, .list (items.map Item.value),
    Json.encode ['['] ++
      ((Json.encode [',']).intercalate (items.map Item.text) ++ Json.encode [']']),
    lineAndBlank⟩

private def objectItem (members : List Json.Member) : Item :=
  ⟨lineAndBlank, .object (members.map Json.Member.value),
    Json.encode ['\x7b'] ++
      ((Json.encode [',']).intercalate (members.map Json.Member.text) ++ Json.encode ['\x7d']),
    .none⟩

private def memberOf (name : List Piece) (item : Item) : Json.Member :=
  ⟨.none, name, lineAndBlank, item⟩

private def routerWith (more : List Json.Member) : Item :=
  objectItem ([memberOf (asTheyAre ['i', 'n', 'd', 'e', 'x']) (textItem (asTheyAre ['0'])),
    memberOf (asTheyAre ['i', 'd']) (textItem (asTheyAre ['a'])),
    memberOf (asTheyAre ['n', 'a'] ++ codeOfM :: asTheyAre ['e']) (textItem (asTheyAre ['r']))]
    ++ more)

example : (routerWith []).text = Text.utf8
    "\n \x7b\"index\"\n :\n \"0\",\"id\"\n :\n \"a\",\"na\\u006De\"\n :\n \"r\"\x7d" := by
  decide +kernel

private def topologyOf (routerWith : Item) : Item :=
  listItem [objectItem [memberOf (asTheyAre ['x']) (textItem [smileHigh]),
    memberOf (asTheyAre ['i', 'n', 's', 't', 'a', 'n', 'c', 'e', 's']) (listItem [routerWith]),
    memberOf (asTheyAre ['n', 'a', 'm', 'e'])
      (textItem [smileHigh, smileLow, .short 'n' '\n' (by decide)]),
    memberOf (asTheyAre ['x']) (textItem [])]]

/-- A process without a name. -/
private def nobody : Item :=
  ⟨.none, .object [], Json.encode ['\x7b'] ++
    (lineAndBlank.bytes ++ Json.encode ['\x7d']), .none⟩

private def untidy : Item := topologyOf (routerWith [])

private def staffed : Item :=
  routerWith [memberOf (asTheyAre ['p', 'r', 'o', 'c', 'e', 's', 's', 'e', 's'])
    (listItem [nobody])]

private def nameless : Item := topologyOf staffed

private theorem spells_list {items : List Item} (hSome : items ≠ [])
    (h : ∀ i ∈ items, Spells i.value i.bytes) :
    Spells (listItem items).value (listItem items).bytes :=
  .list items hSome h

private theorem spells_object {members : List Json.Member} (hSome : members ≠ [])
    (h : ∀ m ∈ members, Spells m.item.value m.item.bytes) :
    Spells (objectItem members).value (objectItem members).bytes :=
  .object members hSome h

private theorem spells_routerWith {more : List Json.Member}
    (h : ∀ m ∈ more, Spells m.item.value m.item.bytes) :
    Spells (routerWith more).value (routerWith more).bytes := by
  refine spells_object (List.cons_ne_nil _ _) fun m hm => ?_
  obtain hFirst | hMore := List.mem_append.mp hm
  · simp only [List.mem_cons, List.not_mem_nil, or_false] at hFirst
    obtain rfl | rfl | rfl := hFirst
    all_goals exact .text _
  · exact h m hMore

private theorem spells_topology {routerWith : Item} (h : Spells routerWith.value routerWith.bytes) :
    Spells (topologyOf routerWith).value (topologyOf routerWith).bytes := by
  refine spells_list (List.cons_ne_nil _ _)
    (List.forall_mem_singleton.mpr (spells_object (List.cons_ne_nil _ _) ?_))
  intro m hm
  simp only [List.mem_cons, List.not_mem_nil, or_false] at hm
  obtain rfl | rfl | rfl | rfl := hm
  · exact .text _
  · exact spells_list (List.cons_ne_nil _ _) (List.forall_mem_singleton.mpr h)
  · exact .text _
  · exact .text _

private theorem routerWith_spelled :
    Instance.Spelled ⟨"r", "a", "0", [], "", []⟩ (routerWith []).value := by
  refine ⟨_, rfl, by decide, by rfl, by rfl, by rfl, .inr ⟨by rfl, rfl⟩,
    .inr ⟨by rfl, rfl⟩, .inr ⟨by rfl, rfl⟩⟩

private theorem untidy_spelled :
    Snapshot.Spelled [⟨"😀\n", [⟨"r", "a", "0", [], "", []⟩]⟩] untidy.value := by
  refine ⟨_, rfl,
    .cons ⟨_, rfl, by decide, by rfl, .inl ⟨[(routerWith []).value], by rfl, ?_⟩⟩ .nil⟩
  exact .cons routerWith_spelled .nil

private theorem hasList_of_given {name : String} {place : Nat}
    {members : List (Option String × Value)} {items : List Value}
    (h : given name members = [.list items]) : HasList name place (.object members) items :=
  .inl ⟨members, rfl, Json.mem_given.mp (h ▸ List.mem_singleton_self _)⟩

private theorem nameless_isFlawed : Snapshot.IsFlawed nameless.value := by
  have hNobody : Workload.IsFlawed nobody.value :=
    ⟨[], rfl, .inr ⟨"name", List.mem_singleton_self _, rfl⟩⟩
  have hRouter : Instance.IsFlawed staffed.value :=
    .inr ⟨[nobody.value], hasList_of_given (by rfl), _, List.mem_singleton_self _, hNobody⟩
  exact ⟨_, rfl, _, List.mem_singleton_self _,
    .inr ⟨[staffed.value], hasList_of_given (by rfl), _, List.mem_singleton_self _, hRouter⟩⟩

/-- A smile by its codes, and among the members one that nobody asked for, there twice, once as half
of a pair. -/
theorem untidy_topology_is_read :
    fetchFile (filed untidy.text) "topology.json" =
      .ok [⟨"😀\n", [⟨"r", "a", "0", [], "", []⟩]⟩] ∧
    ∃ reason, fetchFile (filed nameless.text) "topology.json" = .error (.decode reason) := by
  have hUntidy : untidy.value.IsSpelledBy untidy.text :=
    ⟨untidy, rfl, spells_topology (spells_routerWith (List.forall_mem_nil _)), rfl⟩
  have hNameless : nameless.value.IsSpelledBy nameless.text :=
    ⟨nameless, rfl, spells_topology (spells_routerWith (List.forall_mem_singleton.mpr
      (spells_list (List.cons_ne_nil _ _) (List.forall_mem_singleton.mpr (.emptyObject _))))),
        rfl⟩
  exact ⟨(every_spelling_is_the_snapshot hUntidy (filed_read _)).1 _ untidy_spelled,
    (every_spelling_is_the_snapshot hNameless (filed_read _)).2 nameless_isFlawed⟩

end Untidy

end TopologyExporter
