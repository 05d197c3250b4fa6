import TopologyExporter.Proofs.Files.Staged

/-!
# The way to a destination — what replacing it does

Replacing a destination puts a file where nothing was, or a file or a link. No path leads through a
file, so afterwards every directory that is found is found where it was before. It can happen that
one is not found any more: a link was replaced that lay on the way to it.

## Results

* `FileTree.Narrows.locateDirectory` — where a tree narrows another, its directories are the same.
* `FileTree.ChangesFiles.landing`    — while files come and go, they land where they did at first.
* `FileTree.WayStays.of_not_link`    — only a destination that is a link can lie on its own way.
-/

namespace TopologyExporter.FileTree

variable {t t' : FileTree} {place place' target : Location} {destination path : String}
  {content : Bytes} {mode : Nat}

-- ---------------------------------------------------------------------------
-- Narrower trees
-- ---------------------------------------------------------------------------

/-- Whether nothing or a file is at a place, so that no path leads through it. -/
def IsDeadEnd (t : FileTree) (place : Location) : Prop :=
  t.get? place = none ∨ ∃ content mode, t.get? place = some (.file content mode)

/-- Whether a tree is the same as another but for dead ends. -/
def Narrows (t t' : FileTree) : Prop :=
  ∀ place, t.get? place = t'.get? place ∨ t.IsDeadEnd place

theorem IsDeadEnd.ne_directory (h : t.IsDeadEnd place) : t.get? place ≠ some .directory := by
  rcases h with hNone | ⟨content, mode, hFile⟩
  · simp [hNone]
  · simp [hFile]

/-- Putting a file somewhere makes a dead end there. -/
theorem Narrows.put (hTarget : target ≠ []) (content : Bytes) (mode : Nat) :
    (t.put target (.file content mode)).Narrows t := by
  intro place
  by_cases hPlace : place = target
  · refine .inr (.inr ⟨content, mode, ?_⟩)
    rw [hPlace, get?_put hTarget, if_pos rfl]
  · exact .inl (get?_put_of_ne hPlace)

/-- Removing what is somewhere makes one as well. -/
theorem Narrows.erase (t : FileTree) (target : Location) : (t.erase target).Narrows t := by
  intro place
  by_cases hPlace : place = target
  · by_cases hRoot : target = []
    · exact .inl (by rw [hPlace, hRoot, get?, get?, if_pos rfl, if_pos rfl])
    · exact .inr (.inl (by rw [hPlace, get?_erase_self hRoot]))
  · exact .inl (get?_erase_of_ne hPlace)

/-- If a dead end was there already, nothing else changes. -/
theorem Narrows.of_put (hEnd : t.IsDeadEnd target) (node : Node) :
    t.Narrows (t.put target node) := by
  intro place
  by_cases hPlace : place = target
  · exact .inr (hPlace ▸ hEnd)
  · exact .inl (get?_put_of_ne hPlace).symm

namespace Narrows

/-- A walk over the narrower tree goes the same way over the other, or ends in a dead end. -/
theorem walk (h : t.Narrows t')
    {onLink onLink' : Location → List String → Except FileError Location}
    (hLink : ∀ from' steps, onLink from' steps = .ok place' →
      onLink' from' steps = .ok place' ∨ t.IsDeadEnd place')
    {steps : List String} (hWalk : t.walk false onLink place steps = .ok place') :
    t'.walk false onLink' place steps = .ok place' ∨ t.IsDeadEnd place' := by
  induction steps generalizing place with
  | nil => exact .inl hWalk
  | cons step rest ih =>
    simp only [FileTree.walk] at hWalk ⊢
    split at hWalk
    case isTrue hDot =>
      rw [if_pos hDot]
      exact ih hWalk
    case isFalse hDot =>
      rw [if_neg hDot]
      split at hWalk
      case isTrue hUp =>
        rw [if_pos hUp]
        exact ih hWalk
      case isFalse hUp =>
        rw [if_neg hUp]
        split at hWalk
        case isTrue => simp at hWalk
        case isFalse hLength =>
          rw [if_neg hLength]
          have hSame := h (place ++ [EntryName.given step])
          split at hWalk
          case h_1 => simp at hWalk
          case h_2 hNode =>
            -- a directory is no dead end, so it is there in both trees
            rw [hNode] at hSame
            obtain hSame | hEnd := hSame
            · rw [← hSame]
              exact ih hWalk
            · exact absurd hNode hEnd.ne_directory
          case h_3 content mode hNode =>
            split at hWalk
            case isFalse => simp at hWalk
            case isTrue =>
              rw [← Except.ok.inj hWalk]
              exact .inr (.inr ⟨content, mode, hNode⟩)
          case h_4 link hNode =>
            obtain hSame | hNone | ⟨_, _, hFile⟩ := hSame
            · rw [← hSame, hNode]
              dsimp only
              split at hWalk
              case isTrue => simp at hWalk
              case isFalse hEmpty =>
                rw [if_neg hEmpty]
                exact hLink _ _ hWalk
            · simp [hNode] at hNone
            · simp [hNode] at hFile

theorem follow (h : t.Narrows t') {links : Nat} {steps : List String}
    (hFollow : t.follow false links place steps = .ok place') :
    t'.follow false links place steps = .ok place' ∨ t.IsDeadEnd place' := by
  induction links generalizing place steps with
  | zero => exact h.walk (by simp) hFollow
  | succ links ih => exact h.walk (fun _ _ hLink => ih hLink) hFollow

/-- **The directories of the narrower tree are at the same places in the other.** -/
theorem locateDirectory (h : t.Narrows t') {steps : List String}
    (hLocate : t.locateDirectory steps = .ok place) : t'.locateDirectory steps = .ok place := by
  unfold FileTree.locateDirectory at hLocate ⊢
  cases hFollow : t.follow false maxLinks [] steps with
  | error reason => simp [hFollow, bind, Except.bind] at hLocate
  | ok found =>
    simp only [hFollow, bind, Except.bind] at hLocate
    split at hLocate
    case h_2 => simp at hLocate
    case h_1 hNode =>
      obtain rfl := Except.ok.inj hLocate
      have hOpen : ¬ t.IsDeadEnd found := fun hEnd => hEnd.ne_directory hNode
      have hSame := (h found).resolve_right hOpen
      rw [(h.follow hFollow).resolve_right hOpen]
      simp [bind, Except.bind, ← hSame, hNode]

theorem directoryPlace (h : t.Narrows t') (hPlace : t.directoryPlace path = .ok place) :
    t'.directoryPlace path = .ok place := by
  unfold FileTree.directoryPlace at hPlace ⊢
  cases hPath : checkPath path with
  | error reason => simp [hPath, bind, Except.bind] at hPlace
  | ok _ =>
    simp only [hPath, bind, Except.bind] at hPlace ⊢
    exact h.locateDirectory hPlace

theorem locateEntry (h : t.Narrows t') {last : String}
    (hEntry : t.locateEntry path = .ok (place, last)) :
    t'.locateEntry path = .ok (place, last) := by
  unfold FileTree.locateEntry at hEntry ⊢
  dsimp only at hEntry ⊢
  cases hParent : t.locateDirectory (Path.names path).dropLast with
  | error reason => simp [hParent, bind, Except.bind] at hEntry
  | ok parent =>
    rw [h.locateDirectory hParent]
    rwa [hParent] at hEntry

/-- **A file that lands in the narrower tree lands at the same place of the other**, if all
directories are there in both. -/
theorem landing (h : t.Narrows t')
    (hDirectories : ∀ place, t'.get? place = some .directory → t.get? place = some .directory)
    (hLanding : t.landing destination = .ok place) : t'.landing destination = .ok place := by
  unfold FileTree.landing at hLanding ⊢
  split at hLanding
  case isTrue => simp at hLanding
  case isFalse hNul =>
    rw [if_neg hNul]
    cases hPath : checkPath destination with
    | error reason => simp [hPath, bind, Except.bind] at hLanding
    | ok _ =>
      cases hEntry : t.locateEntry destination with
      | error reason => simp [hPath, hEntry, bind, Except.bind] at hLanding
      | ok entry =>
        obtain ⟨parent, last⟩ := entry
        rw [h.locateEntry hEntry]
        simp only [hPath, hEntry, bind, Except.bind] at hLanding ⊢
        split at hLanding
        case isTrue => simp at hLanding
        case isFalse hLength =>
          rw [if_neg hLength]
          split at hLanding
          case isTrue => simp at hLanding
          case isFalse hSlash =>
            rw [if_neg hSlash]
            split at hLanding
            case h_1 => simp at hLanding
            case h_2 hOther =>
              split
              case h_1 hDirectory => exact absurd (hDirectories _ hDirectory) hOther
              case h_2 => exact hLanding

end Narrows

-- ---------------------------------------------------------------------------
-- Trees in which files come and go
-- ---------------------------------------------------------------------------

/-- Whether one tree comes from another by changes of files: files come and go, and may take the
place of links, but all directories are where they were. -/
structure ChangesFiles (t t' : FileTree) : Prop where
  narrows     : t'.Narrows t
  directories : ∀ place, t.get? place = some .directory → t'.get? place = some .directory

namespace ChangesFiles

theorem refl (t : FileTree) : t.ChangesFiles t := ⟨fun _ => .inl rfl, fun _ h => h⟩

theorem trans {t'' : FileTree} (h : t.ChangesFiles t') (h' : t'.ChangesFiles t'') :
    t.ChangesFiles t'' where
  narrows place := by
    rcases h'.narrows place with hSame' | hEnd'
    · rcases h.narrows place with hSame | hEnd
      · exact .inl (hSame'.trans hSame)
      · refine .inr ?_
        unfold IsDeadEnd at hEnd ⊢
        rwa [hSame']
    · exact .inr hEnd'
  directories place hPlace := h'.directories place (h.directories place hPlace)

/-- A file is put where no directory is. -/
theorem put (hTarget : target ≠ []) (hNot : t.get? target ≠ some .directory) (content : Bytes)
    (mode : Nat) : t.ChangesFiles (t.put target (.file content mode)) where
  narrows := .put hTarget content mode
  directories place hPlace := by
    have hElsewhere : place ≠ target := fun hEq => hNot (hEq ▸ hPlace)
    rwa [get?_put_of_ne hElsewhere]

/-- Something is removed that is no directory. -/
theorem erase (hNot : t.get? target ≠ some .directory) : t.ChangesFiles (t.erase target) where
  narrows := .erase t target
  directories place hPlace := by
    have hElsewhere : place ≠ target := fun hEq => hNot (hEq ▸ hPlace)
    rwa [get?_erase_of_ne hElsewhere]

variable (h : t.ChangesFiles t')
include h

theorem directory_iff : t'.get? place = some .directory ↔ t.get? place = some .directory := by
  refine ⟨fun hPlace => ?_, h.directories place⟩
  rcases h.narrows place with hSame | hEnd
  · rw [← hSame, hPlace]
  · exact absurd hPlace hEnd.ne_directory

/-- A file that lands later lands where it would have before. -/
theorem landing (hLanding : t'.landing destination = .ok target) :
    t.landing destination = .ok target :=
  h.narrows.landing h.directories hLanding

end ChangesFiles

-- ---------------------------------------------------------------------------
-- A destination on its own way
-- ---------------------------------------------------------------------------

theorem put_put (t : FileTree) (place : Location) (node node' : Node) :
    (t.put place node).put place node' = t.put place node' :=
  congrArg FileTree.mk (Keyed.put_put t.entries place node node')

/-- What has landed is replaced by what lands next. -/
theorem landing_put_eq (hTarget : t.landing destination = .ok target)
    (hNext : (t.put target (.file content mode)).landing destination = .ok place) :
    target = place := by
  obtain ⟨-, hRoot, hNot⟩ := landing_eq_ok hTarget
  have hBefore := (ChangesFiles.put hRoot hNot content mode).landing hNext
  exact Except.ok.inj (hTarget.symm.trans hBefore)

/-- Whether the directory of a destination is still found when the destination has been replaced. It
is not if the destination is a link that lies on the way to its own directory. -/
def WayStays (t : FileTree) (destination : String) : Prop :=
  ∀ target content parent, t.landing destination = .ok target →
    t.directoryPlace (Path.directory destination) = .ok parent →
    (t.put target (.file content publicMode)).directoryPlace
      (Path.directory destination) = .ok parent

/-- When it has been replaced, it can be replaced again. -/
theorem WayStays.put (h : t.WayStays destination) (hLanding : t.landing destination = .ok target)
    (content : Bytes) : (t.put target (.file content publicMode)).WayStays destination := by
  obtain ⟨-, hTarget, -⟩ := landing_eq_ok hLanding
  intro target' content' parent hLanding' hParent
  obtain rfl := landing_put_eq hLanding hLanding'
  rw [put_put]
  have hBefore := (Narrows.put hTarget content publicMode).directoryPlace hParent
  exact h target content' parent hLanding hBefore

/-- **Only a destination that is a link can lie on its own way.** -/
theorem WayStays.of_not_link
    (h : ∀ target link, t.landing destination = .ok target →
      t.get? target ≠ some (.link link)) :
    t.WayStays destination := by
  intro target content parent hLanding hParent
  obtain ⟨-, -, hNot⟩ := landing_eq_ok hLanding
  have hEnd : t.IsDeadEnd target := by
    unfold IsDeadEnd
    rcases hNode : t.get? target with - | (- | ⟨content, mode⟩ | link)
    · exact .inl rfl
    · exact absurd hNode hNot
    · exact .inr ⟨content, mode, rfl⟩
    · exact absurd hNode (h target link hLanding)
  exact (Narrows.of_put hEnd _).directoryPlace hParent

end TopologyExporter.FileTree
