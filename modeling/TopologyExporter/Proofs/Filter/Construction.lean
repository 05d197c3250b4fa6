import TopologyExporter.Filter.Collector
import TopologyExporter.Filter.Process
import TopologyExporter.Pattern.Compiled
import TopologyExporter.Proofs.Outcome
import TopologyExporter.Proofs.Text.Blank

/-!
# Filters — what they are made of

A filter is made of texts by reading their entries one by one. An entry that cannot be read leaves
no filter; otherwise each gives a test, and the filter admits what passes one of the tests. The
three kinds of filters differ only in what they read in an entry, so that all that is said of lists
of entries is said once.

## Results

* `FilterKind.make_eq`              — filters of each kind are made by reading their entries.
* `FilterKind.exists_make_iff`      — which texts make a filter.
* `FilterKind.admits_iff`           — what the filter of some texts admits.
* `FilterKind.make_eq_error_iff`    — of the entries that are refused the first is told.
* `filters_follow_entries`          — so filters depend on the set of their entries alone.
-/

namespace TopologyExporter

-- ---------------------------------------------------------------------------
-- Collectors and processes
-- ---------------------------------------------------------------------------

theorem BuiltIn.ofName?_isSome_iff {name : String} :
    (ofName? name).isSome = true ↔ ∃ b : BuiltIn, b.name = name := by
  rw [ofName?, List.find?_isSome]
  constructor
  · rintro ⟨b, -, hName⟩
    exact ⟨b, of_decide_eq_true hName⟩
  · rintro ⟨b, hName⟩
    exact ⟨b, by cases b <;> decide, decide_eq_true hName⟩

namespace CollectorFilter

variable {items : List String} {f : CollectorFilter}

/-- An entry is kept as it is if it is the name of a collector. -/
theorem check_eq_ok_iff {entry kept : String} :
    check entry = .ok kept ↔ (∃ b : BuiltIn, b.name = entry) ∧ kept = entry := by
  rw [← BuiltIn.ofName?_isSome_iff, check]
  cases BuiltIn.ofName? entry with
  | none => simp
  | some b => simp [eq_comm]

/-- **A filter of collectors can be made** of texts whose entries are all names of collectors. -/
theorem exists_ofEntries_iff : (∃ f, ofEntries items = .ok f) ↔
    ∀ entry, Text.IsEntry items entry → ∃ b : BuiltIn, b.name = entry := by
  simp only [ofEntries, exists_map_mapM_iff, Text.mem_entries, check_eq_ok_iff,
    exists_and_left, exists_eq, and_true]

/-- It has these entries as its names. -/
theorem names_of_ofEntries (h : ofEntries items = .ok f) : f.names = Text.entries items := by
  obtain ⟨names, hAll, rfl⟩ := map_eq_ok.mp h
  rw [mapM_eq_map hAll fun _ _ hCheck => (check_eq_ok_iff.mp hCheck).2, List.map_id']

/-- It admits these names, and every one if it has no entry. -/
theorem admits_ofEntries_iff (h : ofEntries items = .ok f) {name : String} :
    f.admits name = true ↔
    (∀ entry, ¬Text.IsEntry items entry) ∨ Text.IsEntry items name := by
  rw [admits, names_of_ofEntries h, Bool.or_eq_true, List.isEmpty_iff,
    List.eq_nil_iff_forall_not_mem, List.contains_iff_mem, Text.mem_entries]
  simp only [Text.mem_entries]

end CollectorFilter

section Compiler

variable [PatternCompiler]

/-- **A filter of processes can be made** of texts whose entries are all patterns. -/
theorem ProcessFilter.exists_ofEntries_iff {items : List String} :
    (∃ f, ofEntries items = .ok f) ↔
    ∀ entry, Text.IsEntry items entry → ∃ p, PatternCompiler.compile entry = .ok p := by
  simp only [ofEntries, exists_map_mapM_iff, Text.mem_entries, compile, mapError_eq_ok]

-- ---------------------------------------------------------------------------
-- Kinds of filters
-- ---------------------------------------------------------------------------

/-- The kinds of filters. -/
inductive FilterKind
  | zone
  | process
  | collector
deriving Repr, DecidableEq

namespace FilterKind

/-- The filter of some texts, as the test that it puts to queries, or why there is none. -/
def make : FilterKind → List String → Except FilterError (String → Bool)
  | zone, items => .ok (ZoneFilter.ofEntries items).admits
  | process, items => ProcessFilter.admits <$> ProcessFilter.ofEntries items
  | collector, items => CollectorFilter.admits <$> CollectorFilter.ofEntries items

/-- What filters of a kind read in a single entry: a test of its own, or why it is refused. -/
def read : FilterKind → String → Except FilterError (String → Bool)
  | zone, entry => .ok (· == entry)
  | process, entry =>
    match PatternCompiler.compile entry with
    | .ok p => .ok p.isMatch
    | .error reason => .error (.invalidPattern entry reason)
  | collector, entry =>
    if ∃ b ∈ BuiltIn.all, b.name = entry then .ok (· == entry)
    else .error (.unknownCollector entry)

/-- Whether an entry admits a query. -/
def Admits (kind : FilterKind) (entry query : String) : Prop :=
  ∃ test, kind.read entry = .ok test ∧ test query = true

/-- Whether `e` is why the first entry that is refused is refused. -/
def FirstRefused (kind : FilterKind) (items : List String) (e : FilterError) : Prop :=
  ∃ before item after entry, items = before ++ item :: after ∧
    Text.IsCore item.toList entry.toList ∧ entry ≠ "" ∧ kind.read entry = .error e ∧
    ∀ earlier, Text.IsEntry before earlier → ∃ test, kind.read earlier = .ok test

/-- Passing one of some tests, or any query at all if there are none. -/
private def anyOf (tests : List (String → Bool)) (query : String) : Bool :=
  tests.isEmpty || tests.any (· query)

variable {kind : FilterKind} {items items' : List String} {test : String → Bool}

theorem read_process (entry : String) :
    process.read entry = Pattern.isMatch <$> ProcessFilter.compile entry := by
  rw [read, ProcessFilter.compile]
  cases PatternCompiler.compile entry <;> rfl

theorem read_collector (entry : String) :
    collector.read entry = (fun name query => query == name) <$> CollectorFilter.check entry := by
  rw [read, CollectorFilter.check]
  cases hFound : BuiltIn.ofName? entry with
  | none =>
    have hNone := List.find?_eq_none.mp hFound
    rw [if_neg fun ⟨b, hb, hName⟩ => hNone b hb (decide_eq_true hName)]
    rfl
  | some b =>
    have hName : b.name = entry :=
      of_decide_eq_true (List.find?_some (p := fun b : BuiltIn => b.name = entry) hFound)
    rw [if_pos ⟨b, List.mem_of_find?_eq_some hFound, hName⟩]
    rfl

/-- Checking entries first and putting tests to queries later is reading the entries. -/
theorem admits_mapM_eq {α F : Type} {mk : List α → F} {admits : F → String → Bool}
    {check : String → Except FilterError α} {test : α → String → Bool}
    (hRead : ∀ entry, kind.read entry = test <$> check entry)
    (hAdmits : ∀ parts query, admits (mk parts) query =
      (parts.isEmpty || parts.any (test · query)))
    (entries : List String) :
    admits <$> mk <$> entries.mapM check = anyOf <$> entries.mapM kind.read := by
  rw [funext hRead, mapM_map]
  cases entries.mapM check with
  | error e => rfl
  | ok parts =>
    refine congrArg Except.ok (funext fun query => ?_)
    rw [hAdmits, anyOf, List.isEmpty_map, List.any_map]
    rfl

/-- **Filters of each kind are made by reading their entries** one by one. -/
theorem make_eq (kind : FilterKind) (items : List String) :
    kind.make items = anyOf <$> (Text.entries items).mapM kind.read := by
  cases kind with
  | zone =>
    -- zones are not checked: every entry is kept as it is
    have hAll : ZoneFilter.admits <$> ZoneFilter.mk <$> (Text.entries items).mapM Except.ok =
        anyOf <$> (Text.entries items).mapM zone.read :=
      admits_mapM_eq (fun _ => rfl) (fun zones query => by
        rw [ZoneFilter.admits, List.contains_eq_any_beq]) _
    have hKept : ((Text.entries items).mapM Except.ok : Except FilterError _) =
        .ok (Text.entries items) :=
      List.mapM_pure.trans (congrArg Except.ok (List.map_id _))
    rw [← hAll, hKept]
    rfl
  | process => exact admits_mapM_eq read_process (fun _ _ => rfl) _
  | collector =>
    exact admits_mapM_eq read_collector
      (fun names query => by rw [CollectorFilter.admits, List.contains_eq_any_beq]) _

/-- **Texts make a filter** if each of their entries can be read. -/
theorem exists_make_iff : (∃ test, kind.make items = .ok test) ↔
    ∀ entry, Text.IsEntry items entry → ∃ test, kind.read entry = .ok test := by
  simp only [make_eq, exists_map_mapM_iff, Text.mem_entries]

/-- **A filter admits what one of its entries admits**, and everything if it has none. -/
theorem admits_iff (h : kind.make items = .ok test) {query : String} : test query = true ↔
    (∀ entry, ¬Text.IsEntry items entry) ∨
    ∃ entry, Text.IsEntry items entry ∧ kind.Admits entry query := by
  rw [make_eq] at h
  obtain ⟨tests, hAll, rfl⟩ := map_eq_ok.mp h
  have hEach := forall₂_of_mapM hAll
  have hNone : tests = [] ↔ ∀ entry, ¬Text.IsEntry items entry := by
    rw [← List.length_eq_zero_iff, ← hEach.length_eq, List.length_eq_zero_iff,
      List.eq_nil_iff_forall_not_mem]
    simp only [Text.mem_entries]
  have hSome : (∃ one ∈ tests, one query = true) ↔
      ∃ entry, Text.IsEntry items entry ∧ kind.Admits entry query := by
    constructor
    · rintro ⟨one, hOne, hPasses⟩
      obtain ⟨entry, hEntry, hRead⟩ := exists_of_forall₂_right hEach hOne
      exact ⟨entry, Text.mem_entries.mp hEntry, one, hRead, hPasses⟩
    · rintro ⟨entry, hEntry, one, hRead, hPasses⟩
      obtain ⟨one', hOne, hRead'⟩ := exists_of_forall₂ hEach (Text.mem_entries.mpr hEntry)
      obtain rfl : one = one' := Except.ok.inj (hRead.symm.trans hRead')
      exact ⟨one, hOne, hPasses⟩
  rw [anyOf, Bool.or_eq_true, List.isEmpty_iff, List.any_eq_true, hNone, hSome]

/-- **Of the entries that are refused the first is told.** -/
theorem make_eq_error_iff {e : FilterError} :
    kind.make items = .error e ↔ kind.FirstRefused items e := by
  rw [make_eq, map_eq_error, mapM_eq_error_iff]
  constructor
  · rintro ⟨earlier, entry, later, hEntries, hRead, hEarlier⟩
    obtain ⟨before, item, after, hItems, hTrim, hSome, rfl, -⟩ :=
      Text.entries_eq_append_cons_iff.mp hEntries
    refine ⟨before, item, after, entry, hItems, Text.trim_eq_iff.mp hTrim, hSome, hRead,
      fun other hOther => ?_⟩
    exact hEarlier other (Text.mem_entries.mpr hOther)
  · rintro ⟨before, item, after, entry, hItems, hCore, hSome, hRead, hBefore⟩
    refine ⟨Text.entries before, entry, Text.entries after, ?_, hRead, fun other hOther => ?_⟩
    · exact Text.entries_eq_append_cons_iff.mpr
        ⟨before, item, after, hItems, Text.trim_eq_iff.mpr hCore, hSome, rfl, rfl⟩
    · exact hBefore other (Text.mem_entries.mp hOther)

-- ---------------------------------------------------------------------------
-- Lists of texts
-- ---------------------------------------------------------------------------

/-- With an entry, only what an entry admits is admitted. -/
theorem admits_iff_of_entry (h : kind.make items = .ok test)
    (hEntry : ∃ entry, Text.IsEntry items entry) {query : String} :
    test query = true ↔ ∃ entry, Text.IsEntry items entry ∧ kind.Admits entry query := by
  rw [admits_iff h, or_iff_right]
  obtain ⟨entry, hEntry⟩ := hEntry
  exact fun hNone => hNone entry hEntry

/-- Two lists that make filters make one together. -/
theorem exists_make_append (h : ∃ test, kind.make items = .ok test)
    (h' : ∃ test, kind.make items' = .ok test) :
    ∃ test, kind.make (items ++ items') = .ok test := by
  rw [exists_make_iff] at h h' ⊢
  intro entry hEntry
  obtain hEntry | hEntry := Text.isEntry_append.mp hEntry
  · exact h entry hEntry
  · exact h' entry hEntry

/-- If both have an entry, it admits what either admits. -/
theorem make_append {test' both : String → Bool} (h : kind.make items = .ok test)
    (h' : kind.make items' = .ok test') (hBoth : kind.make (items ++ items') = .ok both)
    (hEntry : ∃ entry, Text.IsEntry items entry) (hEntry' : ∃ entry, Text.IsEntry items' entry)
    (query : String) :
    both query = (test query || test' query) := by
  have hSome : ∃ entry, Text.IsEntry (items ++ items') entry :=
    hEntry.imp fun _ hEntry => Text.isEntry_append.mpr (.inl hEntry)
  rw [Bool.eq_iff_iff, Bool.or_eq_true, admits_iff_of_entry h hEntry,
    admits_iff_of_entry h' hEntry', admits_iff_of_entry hBoth hSome]
  simp only [Text.isEntry_append, or_and_right, exists_or]

/-- Texts with the same entries make filters that admit the same. -/
theorem make_congr {test' : String → Bool}
    (hSame : ∀ entry, Text.IsEntry items entry ↔ Text.IsEntry items' entry)
    (h : kind.make items = .ok test) (h' : kind.make items' = .ok test') (query : String) :
    test query = test' query := by
  rw [Bool.eq_iff_iff, admits_iff h, admits_iff h']
  simp only [hSame]

end FilterKind

end Compiler

/-- **Filters depend on the set of their entries alone.** Entries are what is left of the texts that
a filter is made of without the blanks around them, where something is left. For each kind of
filters, and whatever compiles the patterns: texts with the same entries make a filter or none
alike, and filters that admit the same; without an entry everything is admitted; of two lists that
make filters and have an entry each, the one followed by the other makes the filter that admits what
either admits; there is no filter exactly if an entry is refused, and then the first of those is
told, as it is without the blanks; a filter admits a query if one of its entries does, or it has
none; and the entries of a setting make what the texts between its commas make, trimmed or not. -/
theorem filters_follow_entries [PatternCompiler] (kind : FilterKind) :
    (∀ items entry, Text.IsEntry items entry ↔
      entry ≠ "" ∧ ∃ item ∈ items, Text.IsCore item.toList entry.toList) ∧
    (∀ items items', (∀ entry, Text.IsEntry items entry ↔ Text.IsEntry items' entry) →
      ((∃ test, kind.make items = .ok test) ↔ ∃ test, kind.make items' = .ok test) ∧
      ∀ test test', kind.make items = .ok test → kind.make items' = .ok test' →
        ∀ query, test query = test' query) ∧
    (∀ items, (∀ entry, ¬Text.IsEntry items entry) →
      ∃ test, kind.make items = .ok test ∧ ∀ query, test query = true) ∧
    (∀ items items' test test', kind.make items = .ok test → kind.make items' = .ok test' →
      (∃ entry, Text.IsEntry items entry) → (∃ entry, Text.IsEntry items' entry) →
      ∃ both, kind.make (items ++ items') = .ok both ∧
        ∀ query, both query = (test query || test' query)) ∧
    (∀ items, (∃ e, kind.make items = .error e) ↔
      ∃ entry, Text.IsEntry items entry ∧ ∃ e, kind.read entry = .error e) ∧
    (∀ items e, kind.make items = .error e ↔ kind.FirstRefused items e) ∧
    (∀ items test, kind.make items = .ok test → ∀ query, test query = true ↔
      (∀ entry, ¬Text.IsEntry items entry) ∨
      ∃ entry, Text.IsEntry items entry ∧ kind.Admits entry query) ∧
    (∀ setting pieces, Text.split ',' setting = pieces ↔
      pieces ≠ [] ∧ (∀ piece ∈ pieces, ',' ∉ piece.toList) ∧
      [','].intercalate (pieces.map String.toList) = setting.toList) ∧
    ∀ setting, kind.make (Text.listSetting setting) = kind.make (Text.split ',' setting) := by
  refine ⟨fun items entry => ?_,
    fun items items' hSame => ⟨?_, fun test test' => FilterKind.make_congr hSame⟩,
    fun items hNone => ?_, fun items items' test test' hMake hMake' hEntry hEntry' =>
      ?_, fun items => ?_,
    fun items e => FilterKind.make_eq_error_iff, fun items test hMake query =>
      FilterKind.admits_iff hMake,
    fun setting pieces => Text.split_eq_iff, fun setting => ?_⟩
  · simp only [Text.IsEntry, Text.trim_eq_iff]
  · simp only [FilterKind.exists_make_iff, hSame]
  · obtain ⟨test, hMake⟩ := FilterKind.exists_make_iff.mpr fun entry hEntry =>
      absurd hEntry (hNone entry)
    exact ⟨test, hMake, fun query => (FilterKind.admits_iff hMake).mpr (.inl hNone)⟩
  · obtain ⟨both, hBoth⟩ := FilterKind.exists_make_append ⟨test, hMake⟩ ⟨test', hMake'⟩
    exact ⟨both, hBoth, FilterKind.make_append hMake hMake' hBoth hEntry hEntry'⟩
  · simp only [exists_error_iff, FilterKind.exists_make_iff, not_forall, exists_prop]
  · rw [FilterKind.make_eq, FilterKind.make_eq, Text.listSetting, Text.entries_entries]

/-- Two patterns in an order of their own, one of them twice, among blanks of several sorts. -/
private def shuffledPatterns : List String := ["\u2003b$\t", "^a", "", " ^a"]

/-- Two texts that are no patterns, after one that is. -/
private def brokenPatterns : List String := ["a", " ( ", "["]

/-- Filters of processes: of patterns in two orders, of nothing but blanks, and none of texts that
are no patterns. -/
theorem shuffled_patterns_admit_alike :
    (∀ entry, Text.IsEntry (["^a", " "] ++ ["b$"]) entry ↔
      Text.IsEntry shuffledPatterns entry) ∧
    (∃ first second both test, FilterKind.process.make ["^a", " "] = .ok first ∧
      FilterKind.process.make ["b$"] = .ok second ∧
      FilterKind.process.make (["^a", " "] ++ ["b$"]) = .ok both ∧
      FilterKind.process.make shuffledPatterns = .ok test ∧
      (∀ query, both query = (first query || second query)) ∧
      (∀ query, both query = test query) ∧
      test "cb" = true ∧ test "ba" = false) ∧
    (∃ test, FilterKind.process.make ["", "\t "] = .ok test ∧ ∀ query, test query = true) ∧
    ∃ reason, FilterKind.process.make brokenPatterns = .error (.invalidPattern "(" reason) := by
  obtain ⟨-, hAlike, hBlank, hBoth, -, hFirst, -⟩ := filters_follow_entries .process
  have hEntries : Text.entries ["^a", " "] = ["^a"] ∧ Text.entries ["b$"] = ["b$"] ∧
      Text.entries shuffledPatterns = ["b$", "^a", "^a"] ∧
      Text.entries ["", "\t "] = [] := by decide
  have hSame : ∀ entry, Text.IsEntry (["^a", " "] ++ ["b$"]) entry ↔
      Text.IsEntry shuffledPatterns entry := by
    intro entry
    rw [← Text.mem_entries, ← Text.mem_entries, Text.entries_append, hEntries.1, hEntries.2.1,
      hEntries.2.2.1]
    simp [or_comm]
  refine ⟨hSame, ?_, hBlank _ ?_, ?_⟩
  · obtain ⟨first, hLeft⟩ : ∃ test, FilterKind.process.make ["^a", " "] = .ok test :=
      isOk_iff.mp (by decide +kernel)
    obtain ⟨second, hRight⟩ : ∃ test, FilterKind.process.make ["b$"] = .ok test :=
      isOk_iff.mp (by decide +kernel)
    obtain ⟨both, hMake, hEither⟩ := hBoth _ _ first second hLeft hRight
      ⟨"^a", Text.mem_entries.mp (by simp [hEntries])⟩
        ⟨"b$", Text.mem_entries.mp (by simp [hEntries])⟩
    obtain ⟨hMade, hAnswers⟩ := hAlike _ _ hSame
    obtain ⟨test, hTest⟩ := hMade.mp ⟨both, hMake⟩
    have hAdmitted :
        (FilterKind.process.make shuffledPatterns).toOption.map
          (fun test => (test "cb", test "ba")) =
        some (true, false) := by decide +kernel
    rw [hTest] at hAdmitted
    obtain ⟨hCb, hBa⟩ := Prod.ext_iff.mp (Option.some.inj hAdmitted)
    exact ⟨first, second, both, test, hLeft, hRight, hMake, hTest, hEither,
      hAnswers both test hMake hTest, hCb, hBa⟩
  · simp [← Text.mem_entries, hEntries]
  · obtain ⟨reason, hRefused⟩ : ∃ reason, PatternCompiler.compile "(" = .error reason :=
      exists_error_iff.mpr (mt isOk_iff.mpr (by decide +kernel))
    have hCore : Text.IsCore " ( ".toList "(".toList := Text.trim_eq_iff.mp (by decide)
    refine ⟨reason,
      (hFirst _ _).mpr ⟨["a"], " ( ", ["["], "(", rfl, hCore, by decide, ?_, ?_⟩⟩
    · rw [FilterKind.read, hRefused]
    · exact FilterKind.exists_make_iff.mp (isOk_iff.mp (by decide +kernel))

end TopologyExporter
