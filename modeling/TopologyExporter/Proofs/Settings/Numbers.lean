import Mathlib.Data.List.Induction
import Mathlib.Data.List.TakeWhile
import TopologyExporter.Proofs.Metric.Descriptor
import TopologyExporter.Proofs.Text.Keyed
import TopologyExporter.Settings.Basic

/-!
# Settings that are numbers — taken as given, or refused

The port, the interval and the limit are texts in the environment. What is loaded is the number that
the text stands for: its decimal digits, perhaps after a plus sign, or a word for one or zero. A
text that stands for no number, or for one that the setting cannot have, makes loading fail; no
other number ever takes its place.

## Results

* `Settings.ofVariable?_eq_some_iff` — which variables are about a setting, and what they say.
* `Settings.get?_entries_eq_some`    — of several variables about one setting the last counts.
* `Settings.number?_eq_some_iff`     — the texts that stand for a number.
* `Settings.numbers_taken_as_given`  — what is loaded is what is given; nothing else is loaded.
-/

namespace TopologyExporter.Settings

-- ---------------------------------------------------------------------------
-- Variables
-- ---------------------------------------------------------------------------

section Variables

variable {name value key : String} {env : Environment}

/-- Whether a text can be a key. -/
def IsKey (key : String) : Prop := key.toList ≠ [] ∧ ∀ c ∈ key.toList, isKeyChar c = true

/-- Whether a variable is that of a setting: the prefix and the key, in any case. -/
def Names (name key : String) : Prop := name.toList.map Char.toLower = variablePrefix ++ key.toList

/-- Whether a variable goes into the value of a setting: there are steps after the key. -/
def GoesInto (name key : String) : Prop :=
  ∃ steps, steps ≠ [] ∧ areSteps steps.length steps = true ∧
    name.toList.map Char.toLower = variablePrefix ++ (key.toList ++ steps)

/-- What the value of a setting becomes by steps into it. -/
def Entry.after (value : String) : List Char → Entry
  | [] => .text value
  | '.' :: _ => .map
  | _ => .list

theorem Entry.after_eq_text_iff {steps : List Char} {text : String} :
    after value steps = .text text ↔ steps = [] ∧ value = text := by
  fun_cases after value steps
  · simp
  · simp
  · rename_i hSome _
    exact ⟨nofun, fun h => absurd h.1 hSome⟩

/-- Steps start with a sign that is no part of a key. -/
theorem takeWhile_steps {fuel : Nat} {steps : List Char} (h : areSteps fuel steps = true) :
    steps.takeWhile isKeyChar = [] := by
  fun_cases areSteps fuel steps with
  | case1 => rfl
  | case2 => simp [areSteps] at h
  | case3 fuel rest => rfl
  | case4 fuel rest => rfl
  | case5 fuel rest => rfl
  | case6 => simp_all [areSteps]

/-- A key ends where the steps start. -/
theorem takeWhile_key (hKey : IsKey key) {steps : List Char}
    (h : areSteps steps.length steps = true) :
    (key.toList ++ steps).takeWhile isKeyChar = key.toList := by
  rw [List.takeWhile_append_of_pos hKey.2, takeWhile_steps h, List.append_nil]

theorem entry?_eq_some_iff {rest : List Char} {e : Entry} :
    entry? rest value = some (key, e) ↔
      IsKey key ∧ ∃ steps, areSteps steps.length steps = true ∧
      rest = key.toList ++ steps ∧ e = .after value steps := by
  constructor
  · intro h
    unfold entry? at h
    dsimp only at h
    split at h
    · simp at h
    · rename_i hPlain
      rw [Bool.or_eq_true, not_or, Bool.not_eq_true, Bool.not_eq_true, Bool.not_eq_false'] at hPlain
      obtain ⟨hSome, hSteps⟩ := hPlain
      obtain ⟨rfl, rfl⟩ := Prod.mk.inj (Option.some.inj h)
      rw [IsKey, String.toList_ofList]
      refine ⟨⟨List.isEmpty_eq_false_iff.mp hSome, fun c hc => List.mem_takeWhile_imp hc⟩, _,
        hSteps, ?_, rfl⟩
      exact (List.prefix_iff_eq_append.mp (List.takeWhile_prefix _)).symm
  · rintro ⟨hKey, steps, hSteps, rfl, rfl⟩
    have hDrop : (key.toList ++ steps).drop key.toList.length = steps := List.drop_left
    unfold entry?
    dsimp only
    rw [takeWhile_key hKey hSteps, hDrop, hSteps, List.isEmpty_eq_false_iff.mpr hKey.1,
      String.ofList_toList]
    rfl

/-- **A variable is about a setting** if its name is the prefix and the key, perhaps with steps
after them. -/
theorem ofVariable?_eq_some_iff {e : Entry} :
    ofVariable? name value = some (key, e) ↔
      IsKey key ∧ ∃ steps, areSteps steps.length steps = true ∧
      name.toList.map Char.toLower = variablePrefix ++ (key.toList ++ steps) ∧
      e = .after value steps := by
  rw [ofVariable?]
  split
  · rename_i hPrefix
    obtain ⟨rest, hRest⟩ := List.isPrefixOf_iff_prefix.mp hPrefix
    rw [← hRest, List.drop_left, entry?_eq_some_iff]
    simp only [List.append_cancel_left_eq]
  · rename_i hPrefix
    refine ⟨nofun, fun ⟨_, steps, _, hName, _⟩ => absurd ?_ hPrefix⟩
    rw [hName]
    exact List.isPrefixOf_iff_prefix.mpr (List.prefix_append ..)

/-- Whether a variable is about a setting, as such or by steps into it. -/
def IsAbout (name key : String) : Prop := Names name key ∨ GoesInto name key

/-- What a variable says about a setting: if the name is just that of the setting, its own text. -/
theorem isAbout_of_ofVariable? {e : Entry} (h : ofVariable? name value = some (key, e)) :
    IsAbout name key ∧ ∀ text, e = .text text ↔ Names name key ∧ value = text := by
  obtain ⟨-, steps, hSteps, hName, rfl⟩ := ofVariable?_eq_some_iff.mp h
  have hNames : Names name key ↔ steps = [] := by
    rw [Names, hName, List.append_cancel_left_eq, List.append_right_eq_self]
  refine ⟨?_, fun text => by rw [Entry.after_eq_text_iff, hNames]⟩
  by_cases hNil : steps = []
  · exact .inl (hNames.mpr hNil)
  · exact .inr ⟨steps, hNil, hSteps, hName⟩

theorem IsAbout.ofVariable? (h : IsAbout name key) (hKey : IsKey key) (value : String) :
    ∃ e, ofVariable? name value = some (key, e) := by
  obtain hName | ⟨steps, -, hSteps, hName⟩ := h
  · refine ⟨.text value, ofVariable?_eq_some_iff.mpr ⟨hKey, [], rfl, ?_, rfl⟩⟩
    rw [List.append_nil, hName]
  · exact ⟨_, ofVariable?_eq_some_iff.mpr ⟨hKey, steps, hSteps, hName, rfl⟩⟩

-- ---------------------------------------------------------------------------
-- Environments
-- ---------------------------------------------------------------------------

/-- Whether no variable of an environment is about a setting. -/
def Lacks (env : Environment) (key : String) : Prop := ∀ v ∈ env, ¬IsAbout v.1 key

/-- Whether an environment gives a setting a text: the last variable about the setting has it. -/
def Gives (env : Environment) (key text : String) : Prop :=
  ∃ before name after, env = before ++ (name, text) :: after ∧ Names name key ∧
    Lacks after key

theorem entries_concat (env : Environment) (name value : String) :
    entries (env ++ [(name, value)]) =
      match ofVariable? name value with
      | some e => (entries env).put e.1 e.2
      | none => entries env := by
  rw [entries, List.filterMap_append, Keyed.ofList, List.foldl_append]
  cases hVariable : ofVariable? name value with
  | none => simp [hVariable, entries, Keyed.ofList]
  | some e => simp [hVariable, entries, Keyed.ofList]

/-- A variable about another setting changes nothing. -/
theorem get?_entries_concat_of_not (h : ¬IsAbout name key) :
    (entries (env ++ [(name, value)])).get? key = (entries env).get? key := by
  rw [entries_concat]
  cases hVariable : ofVariable? name value with
  | none => rfl
  | some e =>
    obtain ⟨key', e⟩ := e
    have hNe : key ≠ key' := fun hEq => h (hEq ▸ (isAbout_of_ofVariable? hVariable).1)
    rw [Keyed.get?_put, if_neg hNe]

/-- The last variable about a setting counts. -/
theorem get?_entries_concat_self {e : Entry} (h : ofVariable? name value = some (key, e)) :
    (entries (env ++ [(name, value)])).get? key = some e := by
  rw [entries_concat, h]
  dsimp only
  rw [Keyed.get?_put, if_pos rfl]

theorem lacks_concat : Lacks (env ++ [(name, value)]) key ↔
    Lacks env key ∧ ¬IsAbout name key := by
  rw [Lacks, List.forall_mem_append, List.forall_mem_singleton]
  rfl

theorem gives_concat {text : String} : Gives (env ++ [(name, value)]) key text ↔
    (Names name key ∧ value = text) ∨ (¬IsAbout name key ∧ Gives env key text) := by
  constructor
  · rintro ⟨before, name', after, hEnv, hNames, hLacks⟩
    obtain rfl | ⟨after, last, rfl⟩ := List.eq_nil_or_concat' after
    · obtain ⟨-, hLast⟩ := List.append_inj' hEnv rfl
      cases hLast
      exact .inl ⟨hNames, rfl⟩
    · rw [← List.cons_append, ← List.append_assoc] at hEnv
      obtain ⟨rfl, hLast⟩ := List.append_inj' hEnv rfl
      cases hLast
      obtain ⟨hLacks, hOther⟩ := lacks_concat.mp hLacks
      exact .inr ⟨hOther, before, name', after, rfl, hNames, hLacks⟩
  · rintro (⟨hNames, rfl⟩ | ⟨hOther, before, name', after, rfl, hNames, hLacks⟩)
    · exact ⟨env, name, [], rfl, hNames, List.forall_mem_nil _⟩
    · refine ⟨before, name', after ++ [(name, value)], ?_, hNames,
        lacks_concat.mpr ⟨hLacks, hOther⟩⟩
      rw [List.append_assoc]
      rfl

/-- **Where no variable is about a setting it is not there, and where one is it has the text of the
last.** -/
theorem get?_entries (hKey : IsKey key) (env : Environment) :
    ((entries env).get? key = none ↔ Lacks env key) ∧
      ∀ text, (entries env).get? key = some (.text text) ↔ Gives env key text := by
  induction env using List.reverseRecOn with
  | nil =>
    refine ⟨⟨fun _ => List.forall_mem_nil _, fun _ => rfl⟩, fun text => ⟨nofun, ?_⟩⟩
    rintro ⟨before, name, after, hEnv, -⟩
    exact absurd hEnv.symm (List.append_ne_nil_of_right_ne_nil _ (List.cons_ne_nil _ _))
  | append_singleton env v ih =>
    obtain ⟨name, value⟩ := v
    by_cases hAbout : IsAbout name key
    · obtain ⟨e, hVariable⟩ := hAbout.ofVariable? hKey value
      rw [get?_entries_concat_self hVariable, lacks_concat]
      refine ⟨⟨nofun, fun h => absurd hAbout h.2⟩, fun text => ?_⟩
      rw [gives_concat, Option.some_inj, (isAbout_of_ofVariable? hVariable).2 text]
      simp [hAbout]
    · have hOther : ¬Names name key := fun h => hAbout (.inl h)
      rw [get?_entries_concat_of_not hAbout, lacks_concat]
      refine ⟨⟨fun h => ⟨ih.1.mp h, hAbout⟩, fun h => ih.1.mpr h.1⟩, fun text => ?_⟩
      rw [gives_concat, ih.2 text]
      simp [hAbout, hOther]

end Variables

-- ---------------------------------------------------------------------------
-- Texts
-- ---------------------------------------------------------------------------

variable {n : Nat}

/-- Whether a text is a decimal number: digits, perhaps after a plus sign. -/
def IsDecimal (text : String) (n : Nat) : Prop :=
  ∃ digits, digits ≠ [] ∧ (∀ c ∈ digits, c.isDigit = true) ∧
    n = Nat.ofDigitChars 10 digits 0 ∧
    (text.toList = digits ∨ text.toList = '+' :: digits)

/-- Whether a text is a word for a number, in any case. -/
def IsWord (text : String) (n : Nat) : Prop :=
  (String.ofList (text.toList.map Char.toLower) ∈ ["true", "on", "yes"] ∧ n = 1) ∨
    (String.ofList (text.toList.map Char.toLower) ∈ ["false", "off", "no"] ∧ n = 0)

/-- Whether a text stands for a number. -/
def StandsFor (text : String) (n : Nat) : Prop := IsDecimal text n ∨ IsWord text n

theorem digitsValue_eq (digits : List Char) :
    digitsValue digits = Nat.ofDigitChars 10 digits 0 := by
  simp only [digitsValue, Nat.ofDigitChars, Nat.mul_comm]

theorem decimal?_eq_some_iff {cs : List Char} :
    decimal? cs = some n ↔ cs ≠ [] ∧ (∀ c ∈ cs, c.isDigit = true) ∧
      n = Nat.ofDigitChars 10 cs 0 := by
  rw [decimal?, digitsValue_eq]
  split
  · rename_i h
    rw [Bool.or_eq_true, List.isEmpty_iff, Bool.not_eq_true', List.all_eq_false] at h
    refine ⟨nofun, fun ⟨hSome, hDigits, _⟩ => ?_⟩
    obtain hNil | ⟨c, hc, hNot⟩ := h
    · exact absurd hNil hSome
    · exact absurd (hDigits c hc) hNot
  · rename_i h
    rw [Bool.or_eq_true, List.isEmpty_iff, Bool.not_eq_true', not_or, Bool.not_eq_false,
      List.all_eq_true] at h
    exact ⟨fun hValue => ⟨h.1, h.2, (Option.some.inj hValue).symm⟩,
      fun hValue => congrArg some hValue.2.2.symm⟩

theorem toLower_of_isDigit {c : Char} (h : c.isDigit = true) : c.toLower = c := by
  have hBelow : ¬ 'A'.val ≤ c.val := by
    have hMost : c.toNat ≤ '9'.toNat := (Char.isDigit_iff_toNat.mp h).2
    rw [UInt32.le_iff_toNat_le]
    exact Nat.not_le.mpr (Nat.lt_of_le_of_lt hMost (by decide))
  exact dif_neg fun h => hBelow h.1

/-- A decimal number starts with a digit or a sign, and no word does. -/
theorem IsDecimal.not_isWord {given : String} {m : Nat} (h : IsDecimal given n) :
    ¬IsWord given m := by
  obtain ⟨digits, hSome, hDigits, -, hGiven⟩ := h
  obtain ⟨d, ds, rfl⟩ := List.exists_cons_of_ne_nil hSome
  have hDigit : d.isDigit = true := hDigits d List.mem_cons_self
  obtain ⟨c, cs, hChars, hStart⟩ : ∃ c cs, given.toList = c :: cs ∧
      c.toLower ∉ ['t', 'o', 'y', 'f', 'n'] := by
    obtain hPlain | hSigned := hGiven
    · refine ⟨d, ds, hPlain, fun hMem => ?_⟩
      rw [toLower_of_isDigit hDigit] at hMem
      have hLetters : ['t', 'o', 'y', 'f', 'n'].all (!·.isDigit) = true := rfl
      have hNoDigit := List.all_eq_true.mp hLetters d hMem
      rw [hDigit] at hNoDigit
      cases hNoDigit
    · exact ⟨'+', d :: ds, hSigned, by decide⟩
  intro hWord
  have hLower : ∃ word ∈ ["true", "on", "yes", "false", "off", "no"],
      String.ofList (given.toList.map Char.toLower) = word := by
    obtain ⟨hMem, -⟩ | ⟨hMem, -⟩ := hWord
    · exact ⟨_, List.mem_append_left ["false", "off", "no"] hMem, rfl⟩
    · exact ⟨_, List.mem_append_right ["true", "on", "yes"] hMem, rfl⟩
  obtain ⟨word, hMem, hEq⟩ := hLower
  have hHead : word.toList.head? = some c.toLower := by
    rw [← hEq, String.toList_ofList, hChars]
    rfl
  have hHeads : ∀ word ∈ ["true", "on", "yes", "false", "off", "no"],
      word.toList.head?.all (['t', 'o', 'y', 'f', 'n'].contains ·) = true := by decide
  have hFirst := hHeads word hMem
  rw [hHead] at hFirst
  exact hStart (List.contains_iff_mem.mp hFirst)

/-- A text without a plus sign before it. -/
theorem isDecimal_iff {given : String} : IsDecimal given n ↔
    decimal? (match given.toList with | '+' :: rest => rest | cs => cs) = some n := by
  rw [decimal?_eq_some_iff]
  split
  · rename_i rest hGiven
    constructor
    · rintro ⟨digits, hSome, hDigits, hValue, hEq⟩
      obtain rfl | hEq := hEq
      · rw [hGiven] at hDigits
        exact absurd (hDigits '+' List.mem_cons_self) (by decide)
      · cases hGiven.symm.trans hEq
        exact ⟨hSome, hDigits, hValue⟩
    · rintro ⟨hSome, hDigits, hValue⟩
      exact ⟨rest, hSome, hDigits, hValue, .inr hGiven⟩
  · rename_i hPlain
    constructor
    · rintro ⟨digits, hSome, hDigits, hValue, hEq⟩
      obtain rfl | hEq := hEq
      · exact ⟨hSome, hDigits, hValue⟩
      · exact absurd hEq (hPlain digits)
    · rintro ⟨hSome, hDigits, hValue⟩
      exact ⟨_, hSome, hDigits, hValue, .inl rfl⟩

/-- **The texts that are read as numbers** are those that stand for one of 64 bits. -/
theorem number?_eq_some_iff {given : String} :
    number? given = some n ↔ StandsFor given n ∧ n < 2 ^ 64 := by
  have hApart : ∀ word ∈ ["true", "on", "yes"], word ∉ ["false", "off", "no"] := by decide
  rw [number?, StandsFor]
  simp only [List.contains_iff_mem]
  split
  · rename_i hYes
    constructor
    · rintro ⟨rfl⟩
      exact ⟨.inr (.inl ⟨hYes, rfl⟩), by decide⟩
    · rintro ⟨hDecimal | ⟨-, rfl⟩ | ⟨hNo, -⟩, -⟩
      · exact absurd (.inl ⟨hYes, rfl⟩) (hDecimal.not_isWord (m := 1))
      · rfl
      · exact absurd hNo (hApart _ hYes)
  · rename_i hYes
    split
    · rename_i hNo
      constructor
      · rintro ⟨rfl⟩
        exact ⟨.inr (.inr ⟨hNo, rfl⟩), by decide⟩
      · rintro ⟨hDecimal | ⟨hYes, -⟩ | ⟨-, rfl⟩, -⟩
        · exact absurd (.inr ⟨hNo, rfl⟩) (hDecimal.not_isWord (m := 0))
        · exact absurd hNo (hApart _ hYes)
        · rfl
    · rename_i hNo
      have hNoWord : ¬IsWord given n := by
        rintro (⟨hWord, -⟩ | ⟨hWord, -⟩)
        · exact hYes hWord
        · exact hNo hWord
      rw [Option.filter_eq_some_iff, decide_eq_true_eq, or_iff_left hNoWord]
      exact and_congr isDecimal_iff.symm .rfl

-- ---------------------------------------------------------------------------
-- Loading
-- ---------------------------------------------------------------------------

/-- The settings that are numbers. -/
inductive NumberSetting
  | port
  | interval
  | limit
deriving DecidableEq

namespace NumberSetting

/-- The key of a setting. -/
def key : NumberSetting → String
  | port => "listen_port"
  | interval => "scrape_interval_secs"
  | limit => "collector_timeout_secs"

/-- The number of a setting that is not given. -/
def default : NumberSetting → Nat
  | port => 9190
  | interval => 30
  | limit => 10

/-- The least number that a setting can have. -/
def least : NumberSetting → Nat
  | port => 0
  | _ => 1

/-- The greatest number that a setting can have. -/
def greatest : NumberSetting → Nat
  | port => 65535
  | _ => 2 ^ 64 - 1

/-- The number of a setting. -/
def ofSettings (s : Settings) : NumberSetting → Nat
  | port => s.port
  | interval => s.interval
  | limit => s.limit

theorem key_isKey (f : NumberSetting) : IsKey f.key := by
  cases f <;> exact ⟨by decide, List.all_eq_true.mp (by decide)⟩

end NumberSetting

theorem number_eq_ok_iff {found : Keyed String Entry} {key : String} {default : Nat} :
    number found key default = .ok n ↔
    (found.get? key = none ∧ n = default) ∨
    ∃ text, found.get? key = some (.text text) ∧ number? text = some n := by
  rw [number]
  cases hFound : found.get? key with
  | none => simp [eq_comm]
  | some e =>
    cases e with
    | map => simp
    | list => simp
    | text given =>
      cases hNumber : number? given with
      | none => simp [hNumber]
      | some m => simp [hNumber]

theorem portNumber_eq_ok {found : Keyed String Entry} {key : String} {default : Nat}
    (h : portNumber found key default = .ok n) :
    number found key default = .ok n ∧ n ≤ 65535 := by
  obtain ⟨m, hNumber, h⟩ := bind_eq_ok.mp h
  split at h
  · rename_i hFits
    cases h
    exact ⟨hNumber, Nat.le_of_lt_succ hFits⟩
  · cases h

/-- What is loaded of each setting is its number among the entries, within its bounds. -/
theorem load_eq_ok {env : Environment} {s : Settings} (h : load env = .ok s) (f : NumberSetting) :
    number (entries env) f.key f.default = .ok (f.ofSettings s) ∧
      f.least ≤ f.ofSettings s ∧ (f = .port → f.ofSettings s ≤ f.greatest) := by
  obtain ⟨found, hFound, h⟩ := bind_eq_ok.mp h
  obtain ⟨hInterval, hLimit, rfl⟩ : found.interval ≠ 0 ∧ found.limit ≠ 0 ∧
      found = s := by
    split at h
    · cases h
    · split at h
      · cases h
      · rename_i hInterval hLimit
        exact ⟨hInterval, hLimit, Except.ok.inj h⟩
  obtain ⟨space, -, h⟩ := bind_eq_ok.mp hFound
  obtain ⟨environment, -, h⟩ := bind_eq_ok.mp h
  obtain ⟨directorName, -, h⟩ := bind_eq_ok.mp h
  obtain ⟨directorUuid, -, h⟩ := bind_eq_ok.mp h
  obtain ⟨port, hPortFound, h⟩ := bind_eq_ok.mp h
  obtain ⟨targetsFile, -, h⟩ := bind_eq_ok.mp h
  obtain ⟨zones, -, h⟩ := bind_eq_ok.mp h
  obtain ⟨processes, -, h⟩ := bind_eq_ok.mp h
  obtain ⟨collectors, -, h⟩ := bind_eq_ok.mp h
  obtain ⟨interval, hIntervalFound, h⟩ := bind_eq_ok.mp h
  obtain ⟨limit, hLimitFound, h⟩ := bind_eq_ok.mp h
  obtain ⟨topologyFile, -, h⟩ := bind_eq_ok.mp h
  cases h
  cases f with
  | port =>
    obtain ⟨hPort, hMost⟩ := portNumber_eq_ok hPortFound
    exact ⟨hPort, Nat.zero_le _, fun _ => hMost⟩
  | interval => exact ⟨hIntervalFound, Nat.pos_of_ne_zero hInterval, nofun⟩
  | limit => exact ⟨hLimitFound, Nat.pos_of_ne_zero hLimit, nofun⟩

/-- A text stands for one number at most. -/
theorem StandsFor.unique {given : String} {m : Nat} (h : StandsFor given n)
    (h' : StandsFor given m) : n = m := by
  obtain hDecimal | hWord := h
  · obtain hDecimal' | hWord' := h'
    · exact Option.some.inj ((isDecimal_iff.mp hDecimal).symm.trans (isDecimal_iff.mp hDecimal'))
    · exact absurd hWord' hDecimal.not_isWord
  · obtain hDecimal' | hWord' := h'
    · exact absurd hWord hDecimal'.not_isWord
    · have hApart : ∀ word ∈ ["true", "on", "yes"],
          word ∉ ["false", "off", "no"] := by decide
      obtain ⟨hMem, rfl⟩ | ⟨hMem, rfl⟩ := hWord
      · obtain ⟨-, rfl⟩ | ⟨hMem', -⟩ := hWord'
        · rfl
        · exact absurd hMem' (hApart _ hMem)
      · obtain ⟨hMem', -⟩ | ⟨-, rfl⟩ := hWord'
        · exact absurd hMem (hApart _ hMem')
        · rfl

/-- Whether a number is what an environment gives a setting: what the text of the setting stands
for, or else the default. -/
def IsGiven (env : Environment) (f : NumberSetting) (n : Nat) : Prop :=
  (Lacks env f.key ∧ n = f.default) ∨ ∃ given, Gives env f.key given ∧ StandsFor given n

/-- A number among the entries is given, and has 64 bits. -/
theorem isGiven_of_number {env : Environment} {f : NumberSetting}
    (h : number (entries env) f.key f.default = .ok n) : IsGiven env f n ∧ n < 2 ^ 64 := by
  obtain ⟨hLacks, hGives⟩ := get?_entries f.key_isKey env
  obtain ⟨hNone, rfl⟩ | ⟨given, hFound, hNumber⟩ := number_eq_ok_iff.mp h
  · refine ⟨.inl ⟨hLacks.mp hNone, rfl⟩, ?_⟩
    cases f <;> decide
  · obtain ⟨hStands, hMost⟩ := number?_eq_some_iff.mp hNumber
    exact ⟨.inr ⟨given, (hGives given).mp hFound, hStands⟩, hMost⟩

/-- What is loaded is given and within its bounds. -/
theorem isGiven_of_load {env : Environment} {s : Settings} (h : load env = .ok s)
    (f : NumberSetting) :
    IsGiven env f (f.ofSettings s) ∧ f.least ≤ f.ofSettings s ∧
    f.ofSettings s ≤ f.greatest := by
  obtain ⟨hNumber, hLeast, hPort⟩ := load_eq_ok h f
  obtain ⟨hGiven, hMost⟩ := isGiven_of_number hNumber
  refine ⟨hGiven, hLeast, ?_⟩
  cases f with
  | port => exact hPort rfl
  | interval => exact Nat.le_sub_one_of_lt hMost
  | limit => exact Nat.le_sub_one_of_lt hMost

/-- A setting has one text at most. -/
theorem Gives.unique {env : Environment} {key given given' : String} (hKey : IsKey key)
    (h : Gives env key given) (h' : Gives env key given') : given = given' := by
  obtain ⟨-, hGives⟩ := get?_entries hKey env
  have hSame := ((hGives given).mpr h).symm.trans ((hGives given').mpr h')
  cases hSame
  rfl

/-- A setting with a text is not lacking. -/
theorem Gives.not_lacks {env : Environment} {key given : String} (hKey : IsKey key)
    (h : Gives env key given) :
    ¬Lacks env key := by
  obtain ⟨hLacks, hGives⟩ := get?_entries hKey env
  intro hNone
  have hSame := ((hGives given).mpr h).symm.trans (hLacks.mpr hNone)
  cases hSame

/-- **Numbers are taken as given.** What is loaded as port, interval or limit is the number that the
text of the setting stands for, or the default where no variable is about it, and it lies within the
bounds of the setting: the port has 16 bits, and neither time is zero. A text that stands for no
number within these bounds makes loading fail, and no text stands for two numbers, so none is ever
replaced by another. -/
theorem numbers_taken_as_given (env : Environment) :
    (∀ s, load env = .ok s → ∀ f : NumberSetting,
      f.least ≤ f.ofSettings s ∧ f.ofSettings s ≤ f.greatest ∧
      ((Lacks env f.key ∧ f.ofSettings s = f.default) ∨
        ∃ given, Gives env f.key given ∧ StandsFor given (f.ofSettings s))) ∧
    (∀ (f : NumberSetting) given, Gives env f.key given →
      (∀ n, StandsFor given n → n < f.least ∨ f.greatest < n) →
        ∃ e, load env = .error e) ∧
    ∀ given n m, StandsFor given n → StandsFor given m → n = m := by
  refine ⟨fun s hLoad f => ?_, fun f given hGives hOutside => ?_, fun _ _ _ => StandsFor.unique⟩
  · obtain ⟨hGiven, hLeast, hMost⟩ := isGiven_of_load hLoad f
    exact ⟨hLeast, hMost, hGiven⟩
  · cases hLoad : load env with
    | error e => exact ⟨e, rfl⟩
    | ok s =>
      obtain ⟨⟨hLacks, -⟩ | ⟨given', hGives', hStands⟩, hLeast, hMost⟩ :=
        isGiven_of_load hLoad f
      · exact absurd hLacks (hGives.not_lacks f.key_isKey)
      · obtain rfl := hGives.unique f.key_isKey hGives'
        have hBounds := hOutside _ hStands
        omega

/-- An environment with numbers of all kinds: of two ports the later in lower case, a sign, a word,
and a variable of something else. -/
def motleyEnvironment : Environment :=
  [("BOSH_EXPORTER_LISTEN_PORT", "70000"), ("HOME", "/root"),
    ("bosh_exporter_listen_port", "09091"), ("BOSH_EXPORTER_SCRAPE_INTERVAL_SECS", "+15"),
    ("BOSH_EXPORTER_COLLECTOR_TIMEOUT_SECS", "Yes")]

/-- The settings of that environment. -/
def motleySettings : Settings where
  space := "bosh"
  environment := ""
  directorName := ""
  directorUuid := ""
  port := 9091
  targetsFile := "bosh_target_groups.json"
  zones := ""
  processes := ""
  collectors := ""
  interval := 15
  limit := 1
  topologyFile := "topology.json"

theorem motley_numbers_are_taken :
    load motleyEnvironment = .ok motleySettings ∧
    (∀ f : NumberSetting, ∃ given, Gives motleyEnvironment f.key given ∧
      StandsFor given (f.ofSettings motleySettings)) ∧
    Gives (motleyEnvironment ++ [("BOSH_EXPORTER_LISTEN_PORT", "65536")]) "listen_port" "65536" ∧
    ∃ e, load (motleyEnvironment ++ [("BOSH_EXPORTER_LISTEN_PORT", "65536")]) = .error e := by
  have hLoad : load motleyEnvironment = .ok motleySettings := by decide +kernel
  have hGives :
      Gives (motleyEnvironment ++ [("BOSH_EXPORTER_LISTEN_PORT", "65536")])
        "listen_port" "65536" := by
    refine ⟨motleyEnvironment, "BOSH_EXPORTER_LISTEN_PORT", [], rfl, ?_, List.forall_mem_nil _⟩
    unfold Names
    decide +kernel
  refine ⟨hLoad, fun f => ?_, hGives, ?_⟩
  · obtain ⟨-, -, ⟨-, hDefault⟩ | hGiven⟩ :=
      (numbers_taken_as_given motleyEnvironment).1 _ hLoad f
    · cases f <;> exact absurd hDefault (by decide)
    · exact hGiven
  · obtain ⟨-, hRefused, hUnique⟩ := numbers_taken_as_given
      (motleyEnvironment ++ [("BOSH_EXPORTER_LISTEN_PORT", "65536")])
    have hStands : StandsFor "65536" 65536 := .inl (isDecimal_iff.mpr (by decide +kernel))
    refine hRefused .port "65536" hGives fun n hn => ?_
    obtain rfl := hUnique _ _ _ hn hStands
    exact .inr (by decide)

/-- A word is taken for a number: a text that is no decimal number does not make loading fail. -/
theorem word_is_taken_for_number :
    Gives [("BOSH_EXPORTER_LISTEN_PORT", "true")] NumberSetting.port.key "true" ∧
    (∀ n, ¬IsDecimal "true" n) ∧
      ∃ s, load [("BOSH_EXPORTER_LISTEN_PORT", "true")] = .ok s ∧ s.port = 1 := by
  refine ⟨⟨[], _, [], rfl, ?_, List.forall_mem_nil _⟩, fun n hDecimal => ?_,
    { motleySettings with port := 1, interval := 30, limit := 10 }, by decide +kernel, rfl⟩
  · unfold Names
    decide +kernel
  · have hWord : IsWord "true" 1 := .inl (by decide +kernel)
    exact hDecimal.not_isWord hWord

end TopologyExporter.Settings
