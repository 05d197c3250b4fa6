import Mathlib.Data.List.Forall2

/-!
# Outcomes — computations that may fail

What is known of a computation once it has succeeded or failed, and of one that goes over a list and
stops at the first failure.

## Results

* `bind_eq_ok`, `map_eq_ok`, `mapError_eq_ok` — when a composed computation succeeds, and with
  what.
* `bind_eq_error`, `map_eq_error`              — when it fails, and how.
* `forall₂_of_mapM`                           — what is computed one by one is computed for
  each.
* `mapM_ok`                                   — where each can be computed, all can be.
* `mapM_eq_error_iff`                         — going over a list fails as the first item does
  that fails.
-/

namespace TopologyExporter

variable {α β γ ε ε' : Type}

-- ---------------------------------------------------------------------------
-- Single computations
-- ---------------------------------------------------------------------------

theorem bind_eq_ok {x : Except ε α} {f : α → Except ε β} {b : β} :
    x >>= f = .ok b ↔ ∃ a, x = .ok a ∧ f a = .ok b := by
  cases x with
  | error e => simp [bind, Except.bind]
  | ok a => simp [bind, Except.bind]

theorem bind_eq_error {x : Except ε α} {f : α → Except ε β} {e : ε} :
    x >>= f = .error e ↔ x = .error e ∨ ∃ a, x = .ok a ∧ f a = .error e := by
  cases x with
  | error e' => simp [bind, Except.bind]
  | ok a => simp [bind, Except.bind]

theorem mapError_eq_ok {x : Except ε α} {f : ε → ε'} {a : α} :
    x.mapError f = .ok a ↔ x = .ok a := by
  cases x with
  | error e => simp [Except.mapError]
  | ok a => simp [Except.mapError]

theorem map_eq_ok {x : Except ε α} {g : α → β} {b : β} :
    g <$> x = .ok b ↔ ∃ a, x = .ok a ∧ g a = b := by
  cases x with
  | error e => simp [Functor.map, Except.map]
  | ok a => simp [Functor.map, Except.map]

theorem map_eq_error {x : Except ε α} {g : α → β} {e : ε} :
    g <$> x = .error e ↔ x = .error e := by
  cases x with
  | error e => simp [Functor.map, Except.map]
  | ok a => simp [Functor.map, Except.map]

theorem isOk_iff {x : Except ε α} : x.isOk = true ↔ ∃ a, x = .ok a := by
  cases x with
  | error e => simp [Except.isOk, Except.toBool]
  | ok a => simp [Except.isOk, Except.toBool]

/-- What does not succeed fails. -/
theorem exists_error_iff {x : Except ε α} : (∃ e, x = .error e) ↔ ¬∃ a, x = .ok a := by
  cases x with
  | error e => simp
  | ok a => simp

-- ---------------------------------------------------------------------------
-- One by one
-- ---------------------------------------------------------------------------

/-- What is computed one by one is computed for each. -/
theorem forall₂_of_mapM {f : α → Except ε β} {as : List α} {bs : List β}
    (h : as.mapM f = .ok bs) :
    List.Forall₂ (fun a b => f a = .ok b) as bs := by
  induction as generalizing bs with
  | nil =>
    obtain rfl : [] = bs := Except.ok.inj h
    exact .nil
  | cons a rest ih =>
    rw [List.mapM_cons, bind_eq_ok] at h
    obtain ⟨b, hHead, h⟩ := h
    obtain ⟨others, hRest, h⟩ := bind_eq_ok.mp h
    obtain rfl : b :: others = bs := Except.ok.inj h
    exact .cons hHead (ih hRest)

/-- What is computed one by one, each as a function says, is what the function gives for each. -/
theorem mapM_eq_map {f : α → Except ε β} {g : α → β} {as : List α} {bs : List β}
    (h : as.mapM f = .ok bs) (hEach : ∀ a b, f a = .ok b → b = g a) : bs = as.map g := by
  have hAll := forall₂_of_mapM h
  clear h
  induction hAll with
  | nil => rfl
  | cons hHead _ ih => rw [List.map_cons, ← ih, hEach _ _ hHead]

/-- What is related one by one has a partner each. -/
theorem exists_of_forall₂ {R : α → β → Prop} {as : List α} {bs : List β}
    (h : List.Forall₂ R as bs) {a : α} (ha : a ∈ as) : ∃ b ∈ bs, R a b := by
  induction h with
  | nil => cases ha
  | cons hHead _ ih =>
    cases ha with
    | head => exact ⟨_, List.mem_cons_self, hHead⟩
    | tail _ hRest =>
      obtain ⟨b, hb, hPair⟩ := ih hRest
      exact ⟨b, List.mem_cons_of_mem _ hb, hPair⟩

theorem exists_of_forall₂_right {R : α → β → Prop} {as : List α} {bs : List β}
    (h : List.Forall₂ R as bs) {b : β} (hb : b ∈ bs) : ∃ a ∈ as, R a b :=
  exists_of_forall₂ (List.Forall₂.flip (R := flip R) h) hb

/-- Where all is computed, each is. -/
theorem exists_of_mapM {f : α → Except ε β} {as : List α} {bs : List β}
    (h : as.mapM f = .ok bs) {a : α} (ha : a ∈ as) : ∃ b, f a = .ok b :=
  (exists_of_forall₂ (forall₂_of_mapM h) ha).imp fun _ => And.right

/-- Where each can be computed, all can be. -/
theorem mapM_ok {f : α → Except ε β} {as : List α} (h : ∀ a ∈ as, ∃ b, f a = .ok b) :
    ∃ bs, as.mapM f = .ok bs := by
  induction as with
  | nil => exact ⟨[], rfl⟩
  | cons a rest ih =>
    rw [List.forall_mem_cons] at h
    obtain ⟨b, hHead⟩ := h.1
    obtain ⟨others, hRest⟩ := ih h.2
    refine ⟨b :: others, ?_⟩
    rw [List.mapM_cons, hHead, hRest]
    rfl

/-- Going over a list succeeds if each item does. -/
theorem exists_map_mapM_iff {f : α → Except ε β} {g : List β → γ} {as : List α} :
    (∃ c, g <$> as.mapM f = .ok c) ↔ ∀ a ∈ as, ∃ b, f a = .ok b := by
  constructor
  · rintro ⟨c, hMap⟩ a ha
    obtain ⟨bs, hAll, -⟩ := map_eq_ok.mp hMap
    exact exists_of_mapM hAll ha
  · intro hEach
    obtain ⟨bs, hAll⟩ := mapM_ok hEach
    exact ⟨g bs, map_eq_ok.mpr ⟨bs, hAll, rfl⟩⟩

/-- What comes out of each item can be gone over afterwards as well. -/
theorem mapM_map {f : α → Except ε β} {g : β → γ} (as : List α) :
    as.mapM (fun a => g <$> f a) = List.map g <$> as.mapM f := by
  induction as with
  | nil => rfl
  | cons a rest ih =>
    rw [List.mapM_cons, List.mapM_cons, ih]
    cases f a with
    | error e => rfl
    | ok b => cases rest.mapM f <;> rfl

/-- **Going over a list fails as the first item does that fails.** -/
theorem mapM_eq_error_iff {f : α → Except ε β} {as : List α} {e : ε} :
    as.mapM f = .error e ↔
    ∃ before a after, as = before ++ a :: after ∧ f a = .error e ∧
      ∀ a' ∈ before, ∃ b, f a' = .ok b := by
  constructor
  · intro h
    induction as with
    | nil => cases h
    | cons a rest ih =>
      rw [List.mapM_cons, bind_eq_error] at h
      obtain hHead | ⟨b, hHead, h⟩ := h
      · exact ⟨[], a, rest, rfl, hHead, fun _ hNone => absurd hNone List.not_mem_nil⟩
      · obtain hRest | ⟨others, -, h⟩ := bind_eq_error.mp h
        · obtain ⟨before, a', after, hList, hFails, hBefore⟩ := ih hRest
          refine ⟨a :: before, a', after, by rw [hList]; rfl, hFails, ?_⟩
          rw [List.forall_mem_cons]
          exact ⟨⟨b, hHead⟩, hBefore⟩
        · cases h
  · rintro ⟨before, a, after, rfl, hFails, hBefore⟩
    obtain ⟨bs, hAll⟩ := mapM_ok hBefore
    rw [List.mapM_append, hAll, List.mapM_cons, hFails]
    rfl

end TopologyExporter
