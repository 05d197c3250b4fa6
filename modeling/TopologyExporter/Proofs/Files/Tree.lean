import TopologyExporter.Files.Staged
import TopologyExporter.Proofs.Text.Keyed

/-!
# File trees — temporary files are out of the way

No path names a temporary file, so following a path never meets one. A tree is **settled** by
leaving its temporary files out, and whatever a path leads to is the same in the settled tree.

## Results

* `FileTree.get?_put`, `get?_erase`     — look-ups after a change.
* `FileTree.follow_isPlain`             — a path never leads to a temporary file.
* `FileTree.follow_settled`             — following a path needs only the settled tree.
* `FileTree.freshNumber_notMem`         — a fresh number is on no temporary file.
-/

namespace TopologyExporter

-- ---------------------------------------------------------------------------
-- Places that paths can name
-- ---------------------------------------------------------------------------

/-- Whether a name was given, and not made up for a temporary file. -/
def EntryName.isGiven : EntryName → Bool
  | given _ => true
  | temp _ => false

/-- Whether all names on the way to a place were given. -/
def isPlain (place : Location) : Bool := place.all EntryName.isGiven

@[simp] theorem isPlain_nil : isPlain [] = true := rfl

@[simp] theorem isPlain_append_given (place : Location) (name : String) :
    isPlain (place ++ [EntryName.given name]) = isPlain place := by
  simp [isPlain, EntryName.isGiven]

@[simp] theorem isPlain_append_temp (place : Location) (number : Nat) :
    isPlain (place ++ [EntryName.temp number]) = false := by
  simp [isPlain, EntryName.isGiven]

theorem isPlain_dropLast {place : Location} (h : isPlain place = true) :
    isPlain place.dropLast = true := by
  rw [isPlain, List.all_eq_true] at h ⊢
  exact fun name hName => h name (List.dropLast_subset place hName)

namespace FileTree

variable {t t' : FileTree} {place place' : Location} {node : Node}

-- ---------------------------------------------------------------------------
-- Look-ups
-- ---------------------------------------------------------------------------

theorem get?_put (hPlace : place ≠ []) :
    (t.put place node).get? place' = if place' = place then some node else t.get? place' := by
  unfold get? put
  by_cases hNil : place' = []
  · rw [if_pos hNil, if_pos hNil, if_neg (hNil ▸ Ne.symm hPlace)]
  · rw [if_neg hNil, if_neg hNil, Keyed.get?_put]

theorem get?_put_of_ne (h : place' ≠ place) : (t.put place node).get? place' = t.get? place' := by
  unfold get? put
  rw [Keyed.get?_put, if_neg h]

theorem get?_erase_of_ne (h : place' ≠ place) : (t.erase place).get? place' = t.get? place' := by
  unfold get? erase
  rw [Keyed.get?_erase, if_neg h]

theorem get?_erase_self (hPlace : place ≠ []) : (t.erase place).get? place = none := by
  rw [get?, if_neg hPlace, erase, Keyed.get?_erase, if_pos rfl]

theorem mem_keys_of_get? (hPlace : place ≠ []) (h : t.get? place = some node) :
    place ∈ t.entries.keys := by
  by_contra hNot
  rw [get?, if_neg hPlace, (Keyed.get?_eq_none_iff _ _).mpr hNot] at h
  simp at h

/-- Removing what was put at a new place gives the tree from before. -/
theorem erase_put (h : place ∉ t.entries.keys) : (t.put place node).erase place = t :=
  congrArg FileTree.mk (Keyed.erase_put h)

/-- Putting something at a place changes nothing exactly if it is there already. -/
theorem put_eq_self_iff (hPlace : place ≠ []) :
    t.put place node = t ↔ t.get? place = some node := by
  constructor
  · intro h
    rw [← h, get?_put hPlace, if_pos rfl]
  · intro h
    rw [get?, if_neg hPlace] at h
    exact congrArg FileTree.mk (Keyed.put_get? h)

-- ---------------------------------------------------------------------------
-- Settled trees
-- ---------------------------------------------------------------------------

/-- The tree without temporary files. -/
def settled (t : FileTree) : FileTree := ⟨t.entries.restrict isPlain⟩

theorem get?_settled (h : isPlain place = true) : t.settled.get? place = t.get? place := by
  unfold get? settled
  rw [Keyed.get?_restrict, if_pos h]

/-- A settled tree has no temporary files. -/
theorem get?_settled_temp (h : isPlain place = false) : t.settled.get? place = none := by
  have hNil : place ≠ [] := by
    rintro rfl
    simp at h
  rw [get?, if_neg hNil, settled, Keyed.get?_restrict, if_neg (by simp [h])]

/-- A tree without temporary files is settled. -/
theorem settled_eq_self (h : ∀ place, isPlain place = false → t.get? place = none) :
    t.settled = t := by
  refine congrArg FileTree.mk (Keyed.restrict_eq_self fun place hPlace => ?_)
  by_contra hTemp
  rw [Bool.not_eq_true] at hTemp
  have hNil : place ≠ [] := by
    rintro rfl
    simp at hTemp
  have hNone := h place hTemp
  rw [get?, if_neg hNil, Keyed.get?_eq_none_iff] at hNone
  exact hNone hPlace

@[simp] theorem settled_put_temp (parent : Location) (number : Nat) :
    (t.put (parent ++ [EntryName.temp number]) node).settled = t.settled :=
  congrArg FileTree.mk (Keyed.restrict_put_skip node (isPlain_append_temp parent number))

@[simp] theorem settled_erase_temp (parent : Location) (number : Nat) :
    (t.erase (parent ++ [EntryName.temp number])).settled = t.settled :=
  congrArg FileTree.mk (Keyed.restrict_erase_skip (isPlain_append_temp parent number))

theorem settled_put (h : isPlain place = true) :
    (t.put place node).settled = t.settled.put place node :=
  congrArg FileTree.mk (Keyed.restrict_put node h)

theorem settled_erase : (t.erase place).settled = t.settled.erase place :=
  congrArg FileTree.mk (Keyed.restrict_erase t.entries isPlain place)

/-- The temporary files of a tree, with their places. -/
def temporaries (t : FileTree) : Keyed Location Node :=
  t.entries.restrict fun place => !isPlain place

theorem temporaries_put (h : isPlain place = true) :
    (t.put place node).temporaries = t.temporaries :=
  Keyed.restrict_put_skip node (by simp [h])

theorem temporaries_erase_plain (h : isPlain place = true) :
    (t.erase place).temporaries = t.temporaries :=
  Keyed.restrict_erase_skip (by simp [h])

theorem get?_temporaries (h : isPlain place = false) : t.temporaries.get? place = t.get? place := by
  have hNil : place ≠ [] := by
    rintro rfl
    simp at h
  rw [temporaries, Keyed.get?_restrict, if_pos (by simp [h]), get?, if_neg hNil]

-- ---------------------------------------------------------------------------
-- Following paths
-- ---------------------------------------------------------------------------

section Walk

variable {mayLack : Bool} {onLink onLink' : Location → List String → Except FileError Location}

/-- A walk over a tree is one over any tree that is the same at plain places. -/
theorem walk_congr (hSame : ∀ place, isPlain place = true → t.get? place = t'.get? place)
    (hLink : ∀ place steps, isPlain place = true → onLink place steps = onLink' place steps)
    (steps : List String) (hPlace : isPlain place = true) :
    t.walk mayLack onLink place steps = t'.walk mayLack onLink' place steps := by
  induction steps generalizing place with
  | nil => rfl
  | cons step rest ih =>
    have hNext : isPlain (place ++ [EntryName.given step]) = true := by simpa using hPlace
    simp only [walk]
    rw [ih hPlace, ih (isPlain_dropLast hPlace), ih hNext, hSame _ hNext]
    split
    · rfl
    · split
      · rfl
      · split
        · rfl
        · split
          · rfl
          · rfl
          · rfl
          · split
            · rfl
            · split
              · exact hLink [] _ rfl
              · exact hLink place _ hPlace

/-- A walk ends at a plain place. -/
theorem walk_isPlain
    (hLink : ∀ place steps, isPlain place = true → ∀ p, onLink place steps = .ok p →
      isPlain p = true)
    {steps : List String} (hPlace : isPlain place = true)
    (h : t.walk mayLack onLink place steps = .ok place') : isPlain place' = true := by
  induction steps generalizing place with
  | nil => exact Except.ok.inj h ▸ hPlace
  | cons step rest ih =>
    have hNext : isPlain (place ++ [EntryName.given step]) = true := by simpa using hPlace
    simp only [walk] at h
    split at h
    · exact ih hPlace h
    · split at h
      · exact ih (isPlain_dropLast hPlace) h
      · split at h
        · simp at h
        · split at h
          · split at h
            · exact Except.ok.inj h ▸ hNext
            · simp at h
          · exact ih hNext h
          · split at h
            · exact Except.ok.inj h ▸ hNext
            · simp at h
          · split at h
            · simp at h
            · split at h
              · exact hLink [] _ rfl _ h
              · exact hLink place _ hPlace _ h

end Walk

/-- A path never leads to a temporary file. -/
theorem follow_isPlain {mayLack : Bool} {links : Nat} {steps : List String}
    (hPlace : isPlain place = true) (h : t.follow mayLack links place steps = .ok place') :
    isPlain place' = true := by
  induction links generalizing place steps place' with
  | zero => exact walk_isPlain (by simp) hPlace h
  | succ links ih => exact walk_isPlain (fun _ _ hp _ hFollow => ih hp hFollow) hPlace h

/-- Following a path needs only what is at plain places. -/
theorem follow_settled (mayLack : Bool) (links : Nat) (steps : List String)
    (hPlace : isPlain place = true) :
    t.settled.follow mayLack links place steps = t.follow mayLack links place steps := by
  induction links generalizing place steps with
  | zero => exact walk_congr (fun _ hp => get?_settled hp) (fun _ _ _ => rfl) steps hPlace
  | succ links ih =>
    exact walk_congr (fun _ hp => get?_settled hp) (fun _ steps hp => ih steps hp) steps hPlace

theorem locate_settled (path : String) (mayLack : Bool) :
    t.settled.locate path mayLack = t.locate path mayLack := by
  rw [locate, locate, follow_settled mayLack maxLinks _ isPlain_nil]

theorem locateDirectory_isPlain {steps : List String} (h : t.locateDirectory steps = .ok place) :
    isPlain place = true := by
  rw [locateDirectory] at h
  cases hFollow : t.follow false maxLinks [] steps with
  | error e => simp [hFollow, bind, Except.bind] at h
  | ok found =>
    simp only [hFollow, bind, Except.bind] at h
    split at h
    · exact Except.ok.inj h ▸ follow_isPlain isPlain_nil hFollow
    · simp at h

theorem locateDirectory_settled (steps : List String) :
    t.settled.locateDirectory steps = t.locateDirectory steps := by
  rw [locateDirectory, locateDirectory, follow_settled false maxLinks _ isPlain_nil]
  cases hFollow : t.follow false maxLinks [] steps with
  | error e => rfl
  | ok found =>
    simp only [bind, Except.bind]
    rw [get?_settled (follow_isPlain isPlain_nil hFollow)]

theorem locateEntry_settled (path : String) : t.settled.locateEntry path = t.locateEntry path := by
  rw [locateEntry, locateEntry, locateDirectory_settled]

theorem locateEntry_isPlain {path last : String} (h : t.locateEntry path = .ok (place, last)) :
    isPlain place = true := by
  rw [locateEntry] at h
  cases hParent : t.locateDirectory (Path.names path).dropLast with
  | error e => simp [hParent, bind, Except.bind] at h
  | ok parent =>
    simp only [hParent, bind, Except.bind] at h
    split at h
    · simp at h
    · split at h
      · simp at h
      · simp only [Except.ok.injEq, Prod.mk.injEq] at h
        exact h.1 ▸ locateDirectory_isPlain hParent

/-- The place of the entry that a path names. -/
def entryPlace (t : FileTree) (path : String) : Except FileError Location := do
  checkPath path
  let (parent, last) ← t.locateEntry path
  pure (parent ++ [.given last])

theorem entryPlace_settled (path : String) : t.settled.entryPlace path = t.entryPlace path := by
  rw [entryPlace, entryPlace, locateEntry_settled]

theorem entryPlace_isPlain {path : String} (h : t.entryPlace path = .ok place) :
    isPlain place = true := by
  unfold entryPlace at h
  cases hPath : checkPath path with
  | error reason => simp [hPath, bind, Except.bind] at h
  | ok _ =>
    cases hEntry : t.locateEntry path with
    | error reason => simp [hPath, hEntry, bind, Except.bind] at h
    | ok entry =>
      simp only [hPath, hEntry, bind, Except.bind, pure, Except.pure, Except.ok.injEq] at h
      rw [← h, isPlain_append_given]
      exact locateEntry_isPlain hEntry

-- ---------------------------------------------------------------------------
-- Fresh numbers
-- ---------------------------------------------------------------------------

private theorem foldl_max_le {numbers : List Nat} {bound : Nat} :
    bound ≤ numbers.foldl max bound ∧ ∀ n ∈ numbers, n ≤ numbers.foldl max bound := by
  induction numbers generalizing bound with
  | nil => simp
  | cons first rest ih =>
    obtain ⟨hBound, hAll⟩ := @ih (max bound first)
    rw [List.foldl_cons]
    refine ⟨by omega, ?_⟩
    intro n hn
    rcases List.mem_cons.mp hn with rfl | hRest
    · omega
    · exact hAll n hRest

/-- A temporary file has one of the numbers of the tree. -/
theorem mem_tempNumbers {parent : Location} {number : Nat}
    (h : parent ++ [EntryName.temp number] ∈ t.entries.keys) : number ∈ t.tempNumbers := by
  rw [tempNumbers, List.mem_filterMap]
  exact ⟨_, h, by simp⟩

/-- A fresh number is on no temporary file. -/
theorem freshNumber_notMem (parent : Location) :
    parent ++ [EntryName.temp t.freshNumber] ∉ t.entries.keys := by
  intro h
  have hLe : t.freshNumber ≤ t.tempNumbers.foldl max 0 := foldl_max_le.2 _ (mem_tempNumbers h)
  rw [freshNumber] at hLe
  omega

end FileTree

end TopologyExporter
