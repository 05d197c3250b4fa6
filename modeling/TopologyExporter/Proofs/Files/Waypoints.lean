import TopologyExporter.Proofs.Files.Way

/-!
# Waypoints — what a replacement depends on

Replacing a destination looks at some places: those on the way to the directory in which the file is
staged, those on the way to the directory of the destination, and the destination itself. It depends
on nothing but what is there, and not on what files hold.

## Results

* `FileTree.looks_congr`       — a walk depends on the places that it looks at.
* `FileTree.waypoints_congr`   — so does a replacement.
* `FileTree.waypoints_put`     — a file that is put somewhere never makes a replacement look at
  more.
-/

namespace TopologyExporter

/-- A node without what it holds. -/
def Node.bare : Node → Node
  | .file _ _ => .file [] 0
  | node => node

namespace FileTree

variable {t t' : FileTree} {place place' target : Location} {destination path : String}

/-- What is at a place, as far as paths are concerned. -/
def outline (t : FileTree) (place : Location) : Option Node := (t.get? place).map Node.bare

theorem outline_eq_directory_iff : t.outline place = some .directory ↔
    t.get? place = some .directory := by
  unfold outline
  rcases t.get? place with - | (- | ⟨content, mode⟩ | link) <;> simp [Node.bare]

-- ---------------------------------------------------------------------------
-- Places that a walk looks at
-- ---------------------------------------------------------------------------

/-- The places that a walk looks at, with the one where it ends. -/
def looks (t : FileTree) (onLink : Location → List String → List Location) (place : Location) :
    List String → List Location
  | [] => [place]
  | step :: rest =>
    if step = "." then t.looks onLink place rest
    else if step = ".." then t.looks onLink place.dropLast rest
    else if Path.maxName < Path.size step then []
    else
      let next := place ++ [.given step]
      next ::
        match t.get? next with
        | some .directory => t.looks onLink next rest
        | some (.link target) =>
          if target = "" then []
          else onLink (if Path.IsAbsolute target then [] else place) (Path.steps target ++ rest)
        | _ => []

/-- The places that are looked at when steps are followed through at most `links` symbolic links. -/
def looksAlong (t : FileTree) : Nat → Location → List String → List Location
  | 0 => t.looks fun _ _ => []
  | links + 1 => t.looks (t.looksAlong links)

/-- The places that are looked at when a destination is replaced. -/
def waypoints (t : FileTree) (destination : String) : List Location :=
  t.looksAlong maxLinks [] (Path.steps (Path.directory destination)) ++
    (t.looksAlong maxLinks [] (Path.names destination).dropLast ++
      match t.locateEntry destination with
      | .ok (parent, last) => [parent ++ [.given last]]
      | .error _ => [])

section Walk

variable {goOn goOn' : Location → List String → Except FileError Location}
  {onLink onLink' : Location → List String → List Location}

/-- **A walk depends on the places that it looks at**, and so do these places. -/
theorem looks_congr
    (hLink : ∀ place steps, (∀ p ∈ onLink place steps, t.outline p = t'.outline p) →
      goOn place steps = goOn' place steps ∧ onLink place steps = onLink' place steps)
    {steps : List String} (hSame :
      ∀ p ∈ t.looks onLink place steps, t.outline p = t'.outline p) :
    t.walk false goOn place steps = t'.walk false goOn' place steps ∧
      t.looks onLink place steps = t'.looks onLink' place steps := by
  induction steps generalizing place with
  | nil => exact ⟨rfl, rfl⟩
  | cons step rest ih =>
    simp only [looks, walk] at hSame ⊢
    by_cases hDot : step = "."
    · simp only [hDot, if_true] at hSame ⊢
      exact ih hSame
    by_cases hUp : step = ".."
    · simp only [hUp, if_true] at hSame ⊢
      exact ih hSame
    by_cases hLength : Path.maxName < Path.size step
    · simp only [hDot, hUp, hLength, if_true, if_false, and_self]
    simp only [hDot, hUp, hLength, if_false] at hSame ⊢
    have hHere := hSame _ (List.mem_cons_self ..)
    have hRest := fun p hp => hSame p (List.mem_cons_of_mem _ hp)
    -- both trees have the same kind of node here
    unfold outline at hHere
    rcases hNode : t.get? (place ++ [EntryName.given step]) with
        - | (- | ⟨content, mode⟩ | link) <;>
      rcases hNode' : t'.get? (place ++ [EntryName.given step]) with
        - | (- | ⟨content', mode'⟩ | link') <;>
      simp only [hNode, hNode', Option.map_none, Option.map_some, Node.bare, Option.some.injEq,
        reduceCtorEq, Node.link.injEq] at hHere
    all_goals simp only [hNode] at hRest ⊢
    · exact ⟨trivial, trivial⟩
    · obtain ⟨hWalk, hLooks⟩ := ih hRest
      exact ⟨hWalk, congrArg _ hLooks⟩
    · exact ⟨trivial, trivial⟩
    · subst hHere
      by_cases hEmpty : link = ""
      · simp only [hEmpty, if_true, and_self]
      · simp only [hEmpty, if_false] at hRest ⊢
        obtain ⟨hWalk, hLooks⟩ := hLink _ _ hRest
        exact ⟨hWalk, congrArg _ hLooks⟩

/-- The place where a walk ends is looked at. -/
theorem mem_looks_of_walk
    (hLink : ∀ place steps, goOn place steps = .ok place' → place' ∈ onLink place steps)
    {steps : List String} (hWalk : t.walk false goOn place steps = .ok place') :
    place' ∈ t.looks onLink place steps := by
  induction steps generalizing place with
  | nil => exact Except.ok.inj hWalk ▸ List.mem_singleton_self _
  | cons step rest ih =>
    simp only [looks, walk] at hWalk ⊢
    by_cases hDot : step = "."
    · simp only [hDot, if_true] at hWalk ⊢
      exact ih hWalk
    by_cases hUp : step = ".."
    · simp only [hUp, if_true] at hWalk ⊢
      exact ih hWalk
    by_cases hLength : Path.maxName < Path.size step
    · simp [hDot, hUp, hLength] at hWalk
    simp only [hDot, hUp, hLength, if_false] at hWalk ⊢
    rcases hNode : t.get? (place ++ [EntryName.given step]) with
        - | (- | ⟨content, mode⟩ | link) <;>
      simp only [hNode] at hWalk ⊢
    · simp at hWalk
    · exact List.mem_cons_of_mem _ (ih hWalk)
    · split at hWalk
      · exact Except.ok.inj hWalk ▸ List.mem_cons_self ..
      · simp at hWalk
    · split at hWalk
      case isTrue => simp at hWalk
      case isFalse hEmpty =>
        rw [if_neg hEmpty]
        exact List.mem_cons_of_mem _ (hLink _ _ hWalk)

/-- Only plain places are looked at. -/
theorem looks_isPlain
    (hLink : ∀ place steps, isPlain place = true →
      ∀ p ∈ onLink place steps, isPlain p = true)
    {steps : List String} (hPlace : isPlain place = true) {p : Location}
    (hp : p ∈ t.looks onLink place steps) : isPlain p = true := by
  induction steps generalizing place with
  | nil => exact List.mem_singleton.mp hp ▸ hPlace
  | cons step rest ih =>
    have hNext : isPlain (place ++ [EntryName.given step]) = true := by simpa using hPlace
    simp only [looks] at hp
    split at hp
    · exact ih hPlace hp
    · split at hp
      · exact ih (isPlain_dropLast hPlace) hp
      · split at hp
        · simp at hp
        · rcases List.mem_cons.mp hp with rfl | hRest
          · exact hNext
          · split at hRest
            · exact ih hNext hRest
            · split at hRest
              · simp at hRest
              · split at hRest
                · exact hLink _ _ isPlain_nil _ hRest
                · exact hLink _ _ hPlace _ hRest
            · simp at hRest

/-- Where a file is put, a walk does not go on, and elsewhere it goes on as before. -/
theorem looks_put {content : Bytes} {mode : Nat} (hTarget : target ≠ [])
    (hLink : ∀ place steps, onLink' place steps ⊆ onLink place steps) {steps : List String} :
    (t.put target (.file content mode)).looks onLink' place steps ⊆
      t.looks onLink place steps := by
  induction steps generalizing place with
  | nil => exact List.Subset.refl _
  | cons step rest ih =>
    simp only [looks]
    split
    · exact ih
    · split
      · exact ih
      · split
        · exact List.Subset.refl _
        · refine List.cons_subset_cons _ ?_
          rw [get?_put hTarget]
          by_cases hHere : place ++ [EntryName.given step] = target
          · simp only [hHere, if_true]
            exact List.nil_subset _
          · simp only [hHere, if_false]
            cases hNode : t.get? (place ++ [EntryName.given step]) with
            | none => exact List.nil_subset _
            | some node =>
              cases node with
              | directory => exact ih
              | file content mode => exact List.nil_subset _
              | link path =>
                dsimp only
                by_cases hEmpty : path = ""
                · simp only [hEmpty, if_true]
                  exact List.nil_subset _
                · simp only [hEmpty, if_false]
                  exact hLink _ _

end Walk

theorem looksAlong_congr {links : Nat} {steps : List String}
    (hSame : ∀ p ∈ t.looksAlong links place steps, t.outline p = t'.outline p) :
    t.follow false links place steps = t'.follow false links place steps ∧
      t.looksAlong links place steps = t'.looksAlong links place steps := by
  induction links generalizing place steps with
  | zero => exact looks_congr (fun _ _ _ => ⟨rfl, rfl⟩) hSame
  | succ links ih => exact looks_congr (fun _ _ hLink => ih hLink) hSame

theorem mem_looksAlong_of_follow {links : Nat} {steps : List String}
    (h : t.follow false links place steps = .ok place') :
    place' ∈ t.looksAlong links place steps := by
  induction links generalizing place steps with
  | zero => exact mem_looks_of_walk (by simp) h
  | succ links ih => exact mem_looks_of_walk (fun _ _ hLink => ih hLink) h

theorem looksAlong_isPlain {links : Nat} {steps : List String} (hPlace : isPlain place = true)
    {p : Location} (hp : p ∈ t.looksAlong links place steps) : isPlain p = true := by
  induction links generalizing place steps p with
  | zero => exact looks_isPlain (by simp) hPlace hp
  | succ links ih => exact looks_isPlain (fun _ _ hFrom _ hMem => ih hFrom hMem) hPlace hp

theorem looksAlong_put {content : Bytes} {mode : Nat} (hTarget : target ≠ []) {links : Nat}
    {steps : List String} :
    (t.put target (.file content mode)).looksAlong links place steps ⊆
      t.looksAlong links place steps := by
  induction links generalizing place steps with
  | zero => exact looks_put hTarget fun _ _ => List.Subset.refl _
  | succ links ih => exact looks_put hTarget fun _ _ => ih

-- ---------------------------------------------------------------------------
-- Places that a replacement looks at
-- ---------------------------------------------------------------------------

theorem locateDirectory_congr {steps : List String}
    (hSame : ∀ p ∈ t.looksAlong maxLinks [] steps, t.outline p = t'.outline p) :
    t.locateDirectory steps = t'.locateDirectory steps := by
  unfold locateDirectory
  rw [← (looksAlong_congr hSame).1]
  cases hFollow : t.follow false maxLinks [] steps with
  | error reason => rfl
  | ok found =>
    have hFound := hSame found (mem_looksAlong_of_follow hFollow)
    have hDirectory : t.get? found = some .directory ↔ t'.get? found = some .directory := by
      rw [← outline_eq_directory_iff, ← outline_eq_directory_iff, hFound]
    simp only [bind, Except.bind]
    split
    case h_1 hNode => rw [hDirectory.mp hNode]
    case h_2 hOther =>
      split
      case h_1 hNode' => exact absurd (hDirectory.mpr hNode') hOther
      case h_2 => rfl

theorem locateEntry_congr
    (hSame : ∀ p ∈ t.looksAlong maxLinks [] (Path.names destination).dropLast,
      t.outline p = t'.outline p) :
    t.locateEntry destination = t'.locateEntry destination := by
  rw [locateEntry, locateEntry, locateDirectory_congr hSame]

/-- **A replacement depends on the places that it looks at**: trees that are alike there stage the
file in the same directory and have it land at the same place, and it looks at the same places in
them. -/
theorem waypoints_congr (hSame : ∀ p ∈ t.waypoints destination, t.outline p = t'.outline p) :
    t.directoryPlace (Path.directory destination) =
      t'.directoryPlace (Path.directory destination) ∧
      t.landing destination = t'.landing destination ∧
      t.waypoints destination = t'.waypoints destination := by
  have hDirectory := fun p hp => hSame p (List.mem_append_left _ hp)
  have hParent := fun p hp => hSame p (List.mem_append_right _ (List.mem_append_left _ hp))
  have hEntry := locateEntry_congr hParent
  refine ⟨?_, ?_, ?_⟩
  · rw [directoryPlace, directoryPlace, locateDirectory_congr hDirectory]
  · unfold landing
    rw [← hEntry]
    cases hFound : t.locateEntry destination with
    | error reason => rfl
    | ok entry =>
      obtain ⟨parent, last⟩ := entry
      have hLast : t.outline (parent ++ [EntryName.given last]) =
          t'.outline (parent ++ [EntryName.given last]) :=
        hSame _ (by simp [waypoints, hFound])
      have hDirectory : t.get? (parent ++ [EntryName.given last]) = some .directory ↔
          t'.get? (parent ++ [EntryName.given last]) = some .directory := by
        rw [← outline_eq_directory_iff, ← outline_eq_directory_iff, hLast]
      simp only [bind, Except.bind]
      cases checkPath destination with
      | error reason => rfl
      | ok _ =>
      dsimp only
      -- everything before the look at the entry is the same on both sides
      congr 3
      split
      case h_1 hNode => rw [hDirectory.mp hNode]
      case h_2 hOther =>
        split
        case h_1 hNode' => exact absurd (hDirectory.mpr hNode') hOther
        case h_2 => rfl
  · rw [waypoints, waypoints, (looksAlong_congr hDirectory).2,
      (looksAlong_congr hParent).2, hEntry]

theorem waypoints_isPlain {p : Location} (hp : p ∈ t.waypoints destination) :
    isPlain p = true := by
  rcases List.mem_append.mp hp with hDirectory | hRest
  · exact looksAlong_isPlain isPlain_nil hDirectory
  · rcases List.mem_append.mp hRest with hParent | hEntry
    · exact looksAlong_isPlain isPlain_nil hParent
    · split at hEntry
      case h_1 parent last hFound =>
        rw [List.mem_singleton.mp hEntry, isPlain_append_given]
        exact locateEntry_isPlain hFound
      case h_2 => simp at hEntry

/-- **A file that is put somewhere never makes a replacement look at more.** -/
theorem waypoints_put {content : Bytes} {mode : Nat} (hTarget : target ≠ []) :
    (t.put target (.file content mode)).waypoints destination ⊆ t.waypoints destination := by
  intro p hp
  rcases List.mem_append.mp hp with hDirectory | hRest
  · exact List.mem_append_left _ (looksAlong_put hTarget hDirectory)
  · refine List.mem_append_right _ ?_
    rcases List.mem_append.mp hRest with hParent | hEntry
    · exact List.mem_append_left _ (looksAlong_put hTarget hParent)
    · refine List.mem_append_right _ ?_
      split at hEntry
      case h_1 parent last hFound =>
        rw [(Narrows.put hTarget content mode).locateEntry hFound]
        exact hEntry
      case h_2 => simp at hEntry

end FileTree

end TopologyExporter
