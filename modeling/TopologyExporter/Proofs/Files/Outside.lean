import TopologyExporter.Proofs.Files.Staged

/-!
# Outside changes — they pass the temporary files by

Others make directories, write and remove files and make links beside the files that are staged.
Whatever they do goes by paths, so it is done in the same way without the temporary files, and the
temporary files are as before.

## Results

* `FileTree.PassesBy`        — operations that do not know of temporary files.
* `PassesBy.of_place`        — those that change what is at the place a path leads to.
* `OutsideChange.passesBy`   — all that others do is of this kind.
-/

namespace TopologyExporter

namespace FileTree

variable {t : FileTree} {place : Location}

/-- An operation that is done in the same way without the temporary files, and leaves them alone. -/
structure PassesBy (change : FileTree → Except FileError FileTree) : Prop where
  settled : ∀ t, change t.settled = (change t).map settled
  temporaries : ∀ t t', change t = .ok t' → t'.temporaries = t.temporaries

-- ---------------------------------------------------------------------------
-- Changes of one place
-- ---------------------------------------------------------------------------

theorem PassesBy.refuse (reason : FileError) : PassesBy fun _ => .error reason :=
  ⟨fun _ => rfl, fun _ _ h => by simp at h⟩

theorem PassesBy.keep : PassesBy fun t => .ok t :=
  ⟨fun _ => rfl, fun _ _ h => Except.ok.inj h ▸ rfl⟩

theorem PassesBy.put (hPlain : isPlain place = true) (node : Node) :
    PassesBy fun t => .ok (t.put place node) where
  settled t := by rw [Except.map, settled_put hPlain]
  temporaries t t' h := by
    rw [← Except.ok.inj h, temporaries_put hPlain]

theorem PassesBy.erase (hPlain : isPlain place = true) :
    PassesBy fun t => .ok (t.erase place) where
  settled t := by rw [Except.map, settled_erase]
  temporaries t t' h := by
    rw [← Except.ok.inj h, temporaries_erase_plain hPlain]

/-- An operation that finds a place by following paths, and then does what depends on nothing but
that place and what is there. -/
theorem PassesBy.of_place {change : FileTree → Except FileError FileTree}
    (find : FileTree → Except FileError Location)
    (hFind : ∀ t, find t.settled = find t)
    (hPlain : ∀ t place, find t = .ok place → isPlain place = true)
    (hError : ∀ t reason, find t = .error reason → change t = .error reason)
    (hEdit : ∀ place node, isPlain place = true → ∃ edit, PassesBy edit ∧
      ∀ t, find t = .ok place → t.get? place = node → change t = edit t) :
    PassesBy change where
  settled t := by
    cases hPlace : find t with
    | error reason =>
      rw [hError t reason hPlace, hError t.settled reason ((hFind t).trans hPlace)]
      rfl
    | ok place =>
      have hHere := hPlain t place hPlace
      obtain ⟨edit, hPasses, hSame⟩ := hEdit place (t.get? place) hHere
      rw [hSame t hPlace rfl, hSame t.settled ((hFind t).trans hPlace) (get?_settled hHere)]
      exact hPasses.settled t
  temporaries t t' h := by
    cases hPlace : find t with
    | error reason => simp [hError t reason hPlace] at h
    | ok place =>
      obtain ⟨edit, hPasses, hSame⟩ := hEdit place (t.get? place) (hPlain t place hPlace)
      exact hPasses.temporaries t t' (hSame t hPlace rfl ▸ h)

-- ---------------------------------------------------------------------------
-- Files and links
-- ---------------------------------------------------------------------------

theorem locate_isPlain {path : String} {mayLack : Bool} (h : t.locate path mayLack = .ok place) :
    isPlain place = true := by
  unfold locate at h
  cases hPath : checkPath path with
  | error reason => simp [hPath, bind, Except.bind] at h
  | ok _ =>
    simp only [hPath, bind, Except.bind] at h
    exact follow_isPlain isPlain_nil h

theorem write_passesBy (path : String) (content : Bytes) :
    PassesBy fun t => t.write path content := by
  refine PassesBy.of_place (fun t => t.locate path true) (fun t => locate_settled path true)
    (fun t place => locate_isPlain) (fun t reason h => by simp [write, h, bind, Except.bind]) ?_
  intro place node hPlain
  rcases node with - | (- | ⟨_, mode⟩ | _)
  · exact ⟨_, .put hPlain (.file content publicMode), fun t hFind hNode => by
      simp [write, hFind, hNode, bind, Except.bind]⟩
  · exact ⟨_, .refuse .isDirectory, fun t hFind hNode => by
      simp [write, hFind, hNode, bind, Except.bind]⟩
  · exact ⟨_, .put hPlain (.file content mode), fun t hFind hNode => by
      simp [write, hFind, hNode, bind, Except.bind]⟩
  · exact ⟨_, .put hPlain (.file content publicMode), fun t hFind hNode => by
      simp [write, hFind, hNode, bind, Except.bind]⟩

theorem setMode_passesBy (path : String) (mode : Nat) :
    PassesBy fun t => t.setMode path mode := by
  refine PassesBy.of_place (fun t => t.locate path) (fun t => locate_settled path false)
    (fun t place => locate_isPlain) (fun t reason h => by simp [setMode, h, bind, Except.bind]) ?_
  intro place node hPlain
  rcases node with - | (- | ⟨content, _⟩ | _)
  · exact ⟨_, .keep, fun t hFind hNode => by simp [setMode, hFind, hNode, bind, Except.bind]⟩
  · exact ⟨_, .keep, fun t hFind hNode => by simp [setMode, hFind, hNode, bind, Except.bind]⟩
  · exact ⟨_, .put hPlain (.file content mode), fun t hFind hNode => by
      simp [setMode, hFind, hNode, bind, Except.bind]⟩
  · exact ⟨_, .keep, fun t hFind hNode => by simp [setMode, hFind, hNode, bind, Except.bind]⟩

theorem remove_eq (path : String) :
    t.remove path = (t.entryPlace path).bind fun place =>
      match t.get? place with
      | none => .error .notFound
      | some .directory => .error .isDirectory
      | some _ => .ok (t.erase place) := by
  unfold remove entryPlace
  cases checkPath path with
  | error reason => rfl
  | ok _ => cases t.locateEntry path <;> rfl

theorem link_eq (path target : String) :
    t.link path target = (t.entryPlace path).bind fun place =>
      match t.get? place with
      | none => .ok (t.put place (.link target))
      | some _ => .error .alreadyExists := by
  unfold link entryPlace
  cases checkPath path with
  | error reason => rfl
  | ok _ => cases t.locateEntry path <;> rfl

theorem remove_passesBy (path : String) : PassesBy fun t => t.remove path := by
  refine PassesBy.of_place (fun t => t.entryPlace path) (fun t => entryPlace_settled path)
    (fun t place => entryPlace_isPlain) (fun t reason h => by simp [remove_eq, h, Except.bind]) ?_
  intro place node hPlain
  rcases node with - | (- | _ | _)
  · exact ⟨_, .refuse .notFound, fun t hFind hNode => by
      simp [remove_eq, hFind, hNode, Except.bind]⟩
  · exact ⟨_, .refuse .isDirectory, fun t hFind hNode => by
      simp [remove_eq, hFind, hNode, Except.bind]⟩
  · exact ⟨_, .erase hPlain, fun t hFind hNode => by
      simp [remove_eq, hFind, hNode, Except.bind]⟩
  · exact ⟨_, .erase hPlain, fun t hFind hNode => by
      simp [remove_eq, hFind, hNode, Except.bind]⟩

theorem link_passesBy (path target : String) : PassesBy fun t => t.link path target := by
  refine PassesBy.of_place (fun t => t.entryPlace path) (fun t => entryPlace_settled path)
    (fun t place => entryPlace_isPlain) (fun t reason h => by simp [link_eq, h, Except.bind]) ?_
  intro place node hPlain
  rcases node with - | _
  · exact ⟨_, .put hPlain (.link target), fun t hFind hNode => by
      simp [link_eq, hFind, hNode, Except.bind]⟩
  · exact ⟨_, .refuse .alreadyExists, fun t hFind hNode => by
      simp [link_eq, hFind, hNode, Except.bind]⟩

-- ---------------------------------------------------------------------------
-- Directories
-- ---------------------------------------------------------------------------

/-- Makes one directory on the way along a path, and goes into it. -/
def makeDirectory (made : FileTree × Location) (step : String) :
    Except FileError (FileTree × Location) := do
  let place ← made.1.follow true maxLinks made.2 [step]
  match made.1.get? place with
  | none => pure (made.1.put place .directory, place)
  | some .directory => pure (made.1, place)
  | some _ => .error .alreadyExists

theorem makeDirectories_eq (path : String) :
    t.makeDirectories path =
      (checkPath path).bind fun _ =>
        ((Path.names path).foldlM makeDirectory (t, [])).map Prod.fst := by
  unfold makeDirectories
  cases checkPath path with
  | error reason => rfl
  | ok _ =>
    show (((Path.names path).foldlM makeDirectory (t, [])).bind fun made => .ok made.1) = _
    cases (Path.names path).foldlM makeDirectory (t, []) <;> rfl

/-- Making a directory passes the temporary files by, and goes on from a plain place. -/
theorem makeDirectory_passesBy (step : String) (hPlain : isPlain place = true) :
    makeDirectory (t.settled, place) step =
      (makeDirectory (t, place) step).map (Prod.map settled id) ∧
    ∀ made, makeDirectory (t, place) step = .ok made →
      isPlain made.2 = true ∧ made.1.temporaries = t.temporaries := by
  unfold makeDirectory
  dsimp only
  rw [follow_settled true maxLinks [step] hPlain]
  cases hFollow : t.follow true maxLinks place [step] with
  | error reason => exact ⟨rfl, fun made h => by simp [bind, Except.bind] at h⟩
  | ok next =>
    have hNext : isPlain next = true := follow_isPlain hPlain hFollow
    simp only [bind, Except.bind]
    rw [get?_settled hNext]
    rcases t.get? next with - | (- | _ | _)
    · refine ⟨?_, ?_⟩
      · simp [pure, Except.pure, Except.map, settled_put hNext]
      · intro made hMade
        obtain rfl := Except.ok.inj hMade
        exact ⟨hNext, temporaries_put hNext⟩
    · refine ⟨rfl, ?_⟩
      intro made hMade
      obtain rfl := Except.ok.inj hMade
      exact ⟨hNext, rfl⟩
    · exact ⟨rfl, fun made h => by simp at h⟩
    · exact ⟨rfl, fun made h => by simp at h⟩

theorem makeDirectory_foldlM (steps : List String) (hPlain : isPlain place = true) :
    steps.foldlM makeDirectory (t.settled, place) =
      (steps.foldlM makeDirectory (t, place)).map (Prod.map settled id) ∧
    ∀ made, steps.foldlM makeDirectory (t, place) = .ok made →
      made.1.temporaries = t.temporaries := by
  induction steps generalizing t place with
  | nil => exact ⟨rfl, fun made h => Except.ok.inj h ▸ rfl⟩
  | cons step rest ih =>
    obtain ⟨hSettled, hMade⟩ := @makeDirectory_passesBy t place step hPlain
    rw [List.foldlM_cons, List.foldlM_cons, hSettled]
    cases hStep : makeDirectory (t, place) step with
    | error reason => exact ⟨rfl, fun made h => by simp [bind, Except.bind] at h⟩
    | ok made =>
      obtain ⟨t', place'⟩ := made
      obtain ⟨hPlain', hSame⟩ := hMade _ hStep
      obtain ⟨hRest, hRestMade⟩ := @ih t' place' hPlain'
      exact ⟨hRest, fun made h => (hRestMade made h).trans hSame⟩

theorem makeDirectories_passesBy (path : String) :
    PassesBy fun t => t.makeDirectories path where
  settled t := by
    rw [makeDirectories_eq, makeDirectories_eq,
      (makeDirectory_foldlM (Path.names path) isPlain_nil).1]
    cases checkPath path with
    | error reason => rfl
    | ok _ =>
      simp only [Except.bind]
      cases (Path.names path).foldlM makeDirectory (t, []) <;> rfl
  temporaries t t' h := by
    rw [makeDirectories_eq] at h
    cases hPath : checkPath path with
    | error reason => simp [hPath, Except.bind] at h
    | ok _ =>
      cases hMade : (Path.names path).foldlM makeDirectory (t, []) with
      | error reason => simp [hPath, hMade, Except.bind, Except.map] at h
      | ok made =>
        simp only [hPath, hMade, Except.bind, Except.map, Except.ok.injEq] at h
        rw [← h]
        exact (makeDirectory_foldlM (Path.names path) isPlain_nil).2 made hMade

end FileTree

-- ---------------------------------------------------------------------------
-- All that others do
-- ---------------------------------------------------------------------------

/-- What others do to a tree. -/
inductive OutsideChange
  | makeDirectories (path : String)
  | write (path : String) (content : Bytes)
  | setMode (path : String) (mode : Nat)
  | remove (path : String)
  | link (path target : String)
deriving Repr, DecidableEq

/-- Makes a change. -/
def OutsideChange.apply : OutsideChange → FileTree → Except FileError FileTree
  | makeDirectories path, t => t.makeDirectories path
  | write path content, t => t.write path content
  | setMode path mode, t => t.setMode path mode
  | remove path, t => t.remove path
  | link path target, t => t.link path target

/-- Whatever others do passes the temporary files by. -/
theorem OutsideChange.passesBy (change : OutsideChange) : FileTree.PassesBy change.apply := by
  cases change with
  | makeDirectories path => exact FileTree.makeDirectories_passesBy path
  | write path content => exact FileTree.write_passesBy path content
  | setMode path mode => exact FileTree.setMode_passesBy path mode
  | remove path => exact FileTree.remove_passesBy path
  | link path target => exact FileTree.link_passesBy path target

end TopologyExporter
