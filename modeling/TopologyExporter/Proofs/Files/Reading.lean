import TopologyExporter.Proofs.Files.Way

/-!
# Reading what has landed

A file lands in the directory that its path leads to, and can be read by the same path from there.
This needs the path to lead to the directory still. While files come and go, and take the place of
links, it may happen that the directory is not found any more; otherwise it is found where it was,
and it is found if no symbolic link is met on the way.

## Results

* `FileTree.read_of_landing`               — what has landed is read by its path.
* `FileTree.ChangesFiles.landing_of_found` — files land where they did, if their directory is
  found.
* `FileTree.Direct.found`                  — without links on the way it is.
-/

namespace TopologyExporter.FileTree

variable {t t' : FileTree} {place place' target : Location} {destination last : String}
  {content : Bytes} {mode : Nat}

-- ---------------------------------------------------------------------------
-- A path and one name more
-- ---------------------------------------------------------------------------

/-- Whether a name is one that is looked up in a directory. -/
structure IsName (name : String) : Prop where
  notHere : name ≠ "."
  notUp   : name ≠ ".."
  short   : ¬ Path.maxName < Path.size name

section Last

variable (hLast : IsName last) (hDirectory : t.get? place' = some .directory)
  (hFile : t.get? (place' ++ [EntryName.given last]) = some (.file content mode))
include hLast hDirectory hFile

/-- A walk that leads to a directory leads to a file in it with one step more. -/
theorem walk_concat {onLink : Location → List String → Except FileError Location}
    (hLink : ∀ place steps, onLink place steps = .ok place' →
      onLink place (steps ++ [last]) = .ok (place' ++ [EntryName.given last]))
    {steps : List String} (hWalk : t.walk false onLink place steps = .ok place') :
    t.walk false onLink place (steps ++ [last]) = .ok (place' ++ [EntryName.given last]) := by
  induction steps generalizing place with
  | nil =>
    obtain rfl := Except.ok.inj hWalk
    simp [walk, hLast.notHere, hLast.notUp, hLast.short, hFile]
  | cons step rest ih =>
    rw [List.cons_append]
    simp only [walk] at hWalk ⊢
    split at hWalk
    case isTrue hDot =>
      rw [if_pos hDot]
      exact ih hWalk
    case isFalse hDot =>
      rw [if_neg hDot]
      split at hWalk
      case isTrue hUp =>
        rw [if_pos hUp]
        exact ih hWalk
      case isFalse hUp =>
        rw [if_neg hUp]
        split at hWalk
        case isTrue => simp at hWalk
        case isFalse hLength =>
          rw [if_neg hLength]
          split at hWalk
          case h_1 => simp at hWalk
          case h_2 => exact ih hWalk
          case h_3 hNode =>
            -- a file is where the walk would end, but that is a directory
            split at hWalk
            case isFalse => simp at hWalk
            case isTrue =>
              rw [Except.ok.inj hWalk, hDirectory] at hNode
              simp at hNode
          case h_4 =>
            split at hWalk
            case isTrue => simp at hWalk
            case isFalse hSome =>
              rw [if_neg hSome, ← List.append_assoc]
              exact hLink _ _ hWalk

theorem follow_concat {links : Nat} {steps : List String}
    (hFollow : t.follow false links place steps = .ok place') :
    t.follow false links place (steps ++ [last]) = .ok (place' ++ [EntryName.given last]) := by
  induction links generalizing place steps with
  | zero => exact walk_concat hLast hDirectory hFile (by simp) hFollow
  | succ links ih => exact walk_concat hLast hDirectory hFile (fun _ _ hLink => ih hLink) hFollow

end Last

-- ---------------------------------------------------------------------------
-- What has landed
-- ---------------------------------------------------------------------------

/-- What is known of an entry that a path names. -/
theorem locateEntry_cases {entry : Location × String} (h : t.locateEntry destination = .ok entry) :
    t.follow false maxLinks [] (Path.names destination).dropLast = .ok entry.1 ∧
      t.get? entry.1 = some .directory ∧
      Path.names destination = (Path.names destination).dropLast ++ [entry.2] ∧
      entry.2 ≠ "." ∧ entry.2 ≠ ".." := by
  unfold locateEntry locateDirectory at h
  cases hFollow : t.follow false maxLinks [] (Path.names destination).dropLast with
  | error reason => simp [hFollow, bind, Except.bind] at h
  | ok parent =>
    cases hLast : (Path.names destination).getLast? with
    | none =>
      simp only [hFollow, hLast, bind, Except.bind] at h
      split at h <;> simp at h
    | some last =>
      simp only [hFollow, hLast, bind, Except.bind] at h
      split at h
      case h_1 => simp at h
      case h_2 place hPlace =>
        split at hPlace
        case h_2 => simp at hPlace
        case h_1 hDirectory =>
          obtain rfl := Except.ok.inj hPlace
          split at h
          case isTrue => simp at h
          case isFalse hName =>
            obtain rfl := Except.ok.inj h
            rw [not_or] at hName
            have hSplit := List.dropLast_append_getLast? last hLast
            exact ⟨rfl, hDirectory, hSplit.symm, hName⟩

/-- What is known where a file lands. -/
theorem landing_cases (h : t.landing destination = .ok target) :
    ∃ parent last, checkPath destination = .ok () ∧
      Path.steps destination = Path.names destination ∧
      Path.names destination = (Path.names destination).dropLast ++ [last] ∧ IsName last ∧
      t.follow false maxLinks [] (Path.names destination).dropLast = .ok parent ∧
      t.get? parent = some .directory ∧ target = parent ++ [EntryName.given last] := by
  unfold landing at h
  split at h
  case isTrue => simp at h
  case isFalse =>
    cases hPath : checkPath destination with
    | error reason => simp [hPath, bind, Except.bind] at h
    | ok _ =>
      cases hEntry : t.locateEntry destination with
      | error reason => simp [hPath, hEntry, bind, Except.bind] at h
      | ok entry =>
        obtain ⟨hFollow, hDirectory, hNames, hNotHere, hNotUp⟩ := locateEntry_cases hEntry
        simp only [hPath, hEntry, bind, Except.bind] at h
        split at h
        case isTrue => simp at h
        case isFalse hShort =>
          split at h
          case isTrue => simp at h
          case isFalse hSlash =>
            split at h
            case h_1 => simp at h
            case h_2 =>
              obtain rfl := Except.ok.inj h
              exact ⟨entry.1, entry.2, rfl, by simp [Path.steps, hSlash], hNames,
                ⟨hNotHere, hNotUp, hShort⟩, hFollow, hDirectory, rfl⟩

/-- **What has landed is read by its path.** -/
theorem read_of_landing (h : t.landing destination = .ok target)
    (hFile : t.get? target = some (.file content mode)) : t.read destination = .ok content := by
  obtain ⟨parent, last, hPath, hSteps, hNames, hLast, hFollow, hDirectory, rfl⟩ :=
    landing_cases h
  have hLocate : t.locate destination = .ok (parent ++ [EntryName.given last]) := by
    rw [locate, hPath, hSteps, hNames]
    exact follow_concat hLast hDirectory hFile hFollow
  simp [read, hLocate, hFile, bind, Except.bind]

-- ---------------------------------------------------------------------------
-- Directories that are found
-- ---------------------------------------------------------------------------

/-- Whether the directory of a destination is found. -/
def FindsDirectory (t : FileTree) (destination : String) : Prop :=
  ∃ parent, t.locateDirectory (Path.names destination).dropLast = .ok parent

namespace ChangesFiles

variable (h : t.ChangesFiles t')
include h

theorem foundBefore (hFound : t'.FindsDirectory destination) : t.FindsDirectory destination :=
  hFound.imp fun _ => h.narrows.locateDirectory

/-- **Where the directory of a destination is still found, files land where they did.** -/
theorem landing_of_found (hLanding : t.landing destination = .ok target)
    (hFound : t'.FindsDirectory destination) : t'.landing destination = .ok target := by
  obtain ⟨parent, hParent'⟩ := hFound
  have hParent := h.narrows.locateDirectory hParent'
  have hEntry : t'.locateEntry destination = t.locateEntry destination := by
    rw [locateEntry, locateEntry, hParent', hParent]
  rw [← hLanding]
  unfold FileTree.landing
  rw [hEntry]
  cases checkPath destination with
  | error reason => rfl
  | ok _ =>
    cases t.locateEntry destination with
    | error reason => rfl
    | ok entry =>
      obtain ⟨place, last⟩ := entry
      have hHere : t'.get? (place ++ [EntryName.given last]) = some .directory ↔
          t.get? (place ++ [EntryName.given last]) = some .directory := h.directory_iff
      simp only [bind, Except.bind]
      revert hHere
      generalize t.get? (place ++ [EntryName.given last]) = node
      generalize t'.get? (place ++ [EntryName.given last]) = node'
      intro hHere
      -- only whether it is a directory matters
      rcases node with - | (- | _ | _) <;> rcases node' with - | (- | _ | _) <;> simp_all

end ChangesFiles

-- ---------------------------------------------------------------------------
-- No links on the way
-- ---------------------------------------------------------------------------

/-- Whether the directory of a destination is there, and no symbolic link is met on the way to
it. -/
def Direct (t : FileTree) (destination : String) : Prop :=
  ∃ parent, t.follow false 0 [] (Path.names destination).dropLast = .ok parent ∧
    t.get? parent = some .directory

/-- A walk without links to a directory goes the same way after changes of files. -/
theorem walk_direct (hChanges : t.ChangesFiles t')
    {onLink : Location → List String → Except FileError Location} {steps : List String}
    (hDirectory : t.get? place' = some .directory)
    (hWalk : t.walk false (fun _ _ => .error .tooManyLinks) place steps = .ok place') :
    t'.walk false onLink place steps = .ok place' := by
  induction steps generalizing place with
  | nil => exact hWalk
  | cons step rest ih =>
    simp only [walk] at hWalk ⊢
    split at hWalk
    case isTrue hDot =>
      rw [if_pos hDot]
      exact ih hWalk
    case isFalse hDot =>
      rw [if_neg hDot]
      split at hWalk
      case isTrue hUp =>
        rw [if_pos hUp]
        exact ih hWalk
      case isFalse hUp =>
        rw [if_neg hUp]
        split at hWalk
        case isTrue => simp at hWalk
        case isFalse hLength =>
          rw [if_neg hLength]
          split at hWalk
          case h_1 => simp at hWalk
          case h_2 hNode =>
            rw [hChanges.directories _ hNode]
            exact ih hWalk
          case h_3 hNode =>
            split at hWalk
            case isFalse => simp at hWalk
            case isTrue =>
              rw [Except.ok.inj hWalk, hDirectory] at hNode
              simp at hNode
          case h_4 =>
            split at hWalk <;> simp at hWalk

/-- **A directory that is reached without links is found after all changes of files.** -/
theorem Direct.found (h : t.Direct destination) (hChanges : t.ChangesFiles t') :
    t'.FindsDirectory destination := by
  obtain ⟨parent, hFollow, hDirectory⟩ := h
  have hFound : t'.follow false maxLinks [] (Path.names destination).dropLast = .ok parent :=
    walk_direct hChanges hDirectory hFollow
  exact ⟨parent, by
    simp [locateDirectory, hFound, hChanges.directories parent hDirectory, bind, Except.bind]⟩

end TopologyExporter.FileTree
