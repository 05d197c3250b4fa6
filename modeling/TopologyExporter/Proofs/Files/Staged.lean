import TopologyExporter.Proofs.Files.Tree

/-!
# Staged files — staging, committing, discarding

What each operation on a staged file does to the tree, and when it fails. Where a file is staged and
where it lands depend on the settled tree alone; the temporary file comes and goes beside it.

## Results

* `FileTree.stage_eq`               — when staging succeeds, and all that it does then.
* `StagedFile.commit_eq`            — a commit moves the temporary file to where it lands, or
  removes it.
* `StagedFile.discard_eq`           — discarding removes the temporary file.
* `FileTree.writeAtomically_eq`     — staging and committing in one, said by the tree before it.
* `FileTree.stage_error`, `StagedFile.commit_error` — a failure names its destination.
-/

namespace TopologyExporter

variable {t t' : FileTree} {destination : String} {attempt : WriteAttempt} {s : StagedFile}
  {error : CollectorError} {place source target : Location} {node : Node}

namespace FileTree

-- ---------------------------------------------------------------------------
-- Where files are staged and where they land
-- ---------------------------------------------------------------------------

/-- The place of the directory at a path. -/
def directoryPlace (t : FileTree) (path : String) : Except FileError Location := do
  checkPath path
  t.locateDirectory (Path.steps path)

/-- Where a file lands that is renamed over what a path names. -/
def landing (t : FileTree) (destination : String) : Except FileError Location :=
  if '\x00' ∈ destination.toList then .error .invalidArgument
  else do
    checkPath destination
    let (parent, last) ← t.locateEntry destination
    if Path.maxName < Path.size last then .error .nameTooLong
    else if Path.AsksDirectory destination then .error .notDirectory
    else
      match t.get? (parent ++ [.given last]) with
      | some .directory => .error .isDirectory
      | _ => .ok (parent ++ [.given last])

theorem tempPlace_eq (directory : String) (number : Nat) :
    t.tempPlace directory number =
      (t.directoryPlace directory).map (· ++ [EntryName.temp number]) := by
  unfold tempPlace directoryPlace
  cases checkPath directory with
  | error e => rfl
  | ok _ => cases t.locateDirectory (Path.steps directory) <;> rfl

theorem directoryPlace_settled (path : String) :
    t.settled.directoryPlace path = t.directoryPlace path := by
  rw [directoryPlace, directoryPlace, locateDirectory_settled]

theorem tempPlace_settled (directory : String) (number : Nat) :
    t.settled.tempPlace directory number = t.tempPlace directory number := by
  rw [tempPlace_eq, tempPlace_eq, directoryPlace_settled]

theorem landing_settled (destination : String) :
    t.settled.landing destination = t.landing destination := by
  unfold landing
  rw [locateEntry_settled]
  cases hEntry : t.locateEntry destination with
  | error e => rfl
  | ok entry =>
    obtain ⟨parent, last⟩ := entry
    have hPlain : isPlain (parent ++ [EntryName.given last]) = true := by
      simpa using locateEntry_isPlain hEntry
    simp only [bind, Except.bind]
    rw [get?_settled hPlain]

/-- A file lands at the place that its path names, the last step not followed, and not on a
directory. -/
theorem landing_eq_ok (h : t.landing destination = .ok target) :
    t.entryPlace destination = .ok target ∧ target ≠ [] ∧
    t.get? target ≠ some .directory := by
  unfold landing at h
  unfold entryPlace
  by_cases hNul : '\x00' ∈ destination.toList
  · simp [hNul] at h
  cases hPath : checkPath destination with
  | error e => simp [hNul, hPath, bind, Except.bind] at h
  | ok _ =>
    cases hEntry : t.locateEntry destination with
    | error e => simp [hNul, hPath, hEntry, bind, Except.bind] at h
    | ok entry =>
      obtain ⟨parent, last⟩ := entry
      simp only [hNul, hPath, hEntry, bind, Except.bind, if_false] at h
      split at h
      · simp at h
      · split at h
        · simp at h
        · split at h
          · simp at h
          · rename_i hOther
            obtain rfl := Except.ok.inj h
            exact ⟨rfl, by simp, fun hDirectory => hOther hDirectory⟩

/-- Renaming moves what is at a place to where the destination says, if it says so at all. -/
theorem rename_eq (hSource : t.get? source = some node) :
    t.rename (.ok source) destination =
      (t.landing destination).map fun target => (t.erase source).put target node := by
  unfold rename landing
  by_cases hNul : '\x00' ∈ destination.toList
  · rw [if_pos hNul, if_pos hNul]
    rfl
  rw [if_neg hNul, if_neg hNul]
  cases hPath : checkPath destination with
  | error e => rfl
  | ok _ =>
    cases hEntry : t.locateEntry destination with
    | error e => rfl
    | ok entry =>
      obtain ⟨parent, last⟩ := entry
      simp only [hSource, bind, Except.bind]
      split
      · rfl
      · split
        · rfl
        · cases t.get? (parent ++ [EntryName.given last]) with
          | none => rfl
          | some found => cases found <;> rfl

theorem rename_error (reason : FileError) :
    ∃ reason', t.rename (.error reason) destination = .error reason' := by
  unfold rename
  by_cases hNul : '\x00' ∈ destination.toList
  · rw [if_pos hNul]
    exact ⟨_, rfl⟩
  rw [if_neg hNul]
  cases checkPath destination with
  | error e => exact ⟨_, rfl⟩
  | ok _ => exact ⟨_, rfl⟩

theorem rename_missing (hSource : t.get? source = none) :
    ∃ reason, t.rename (.ok source) destination = .error reason := by
  unfold rename
  by_cases hNul : '\x00' ∈ destination.toList
  · rw [if_pos hNul]
    exact ⟨_, rfl⟩
  rw [if_neg hNul]
  cases checkPath destination with
  | error e => exact ⟨_, rfl⟩
  | ok _ =>
    cases t.locateEntry destination with
    | error e => exact ⟨_, rfl⟩
    | ok entry => exact ⟨.notFound, by simp only [hSource, bind, Except.bind]⟩

-- ---------------------------------------------------------------------------
-- Staging
-- ---------------------------------------------------------------------------

/-- The directory in which a file for a destination is staged by a writer that ends with
`failure`. -/
def staging (t : FileTree) (destination : String) (failure : Option FileError) :
    Except FileError Location := do
  let parent ← t.directoryPlace (Path.directory destination)
  match failure with
  | some reason => .error reason
  | none => .ok parent

theorem staging_settled (failure : Option FileError) :
    t.settled.staging destination failure = t.staging destination failure := by
  rw [staging, staging, directoryPlace_settled]

theorem staging_eq_ok_iff {failure : Option FileError} :
    t.staging destination failure = .ok place ↔
      t.directoryPlace (Path.directory destination) = .ok place ∧ failure = none := by
  unfold staging
  cases t.directoryPlace (Path.directory destination) with
  | error e => simp [bind, Except.bind]
  | ok parent => cases failure <;> simp [bind, Except.bind]

/-- **Staging** writes a temporary file into the directory and does nothing else. -/
theorem stage_eq :
    t.stage destination attempt =
      match t.staging destination attempt.failure with
      | .ok parent =>
        .ok (⟨Path.directory destination, t.freshNumber, destination⟩,
          t.put (parent ++ [EntryName.temp t.freshNumber]) (.file attempt.content publicMode))
      | .error reason => .error (.persistence destination reason) := by
  simp only [stage, staging, tempPlace_eq]
  cases t.directoryPlace (Path.directory destination) with
  | error reason => rfl
  | ok parent => cases attempt.failure <;> rfl

/-- A staged file is for its destination, and staging it was all that happened. -/
theorem stage_eq_ok (h : t.stage destination attempt = .ok (s, t')) :
    ∃ parent, t.staging destination attempt.failure = .ok parent ∧
      s = ⟨Path.directory destination, t.freshNumber, destination⟩ ∧
      t' = t.put (parent ++ [EntryName.temp t.freshNumber]) (.file attempt.content publicMode) := by
  rw [stage_eq] at h
  cases hStaging : t.staging destination attempt.failure with
  | error reason => simp [hStaging] at h
  | ok parent =>
    simp only [hStaging, Except.ok.injEq, Prod.mk.injEq] at h
    exact ⟨parent, rfl, h.1.symm, h.2.symm⟩

/-- A failed staging names its destination. -/
theorem stage_error (h : t.stage destination attempt = .error error) :
    ∃ reason, error = .persistence destination reason := by
  rw [stage_eq] at h
  cases hStaging : t.staging destination attempt.failure with
  | error reason => exact ⟨reason, by simpa [hStaging] using h.symm⟩
  | ok parent => simp [hStaging] at h

end FileTree

-- ---------------------------------------------------------------------------
-- Committing and discarding
-- ---------------------------------------------------------------------------

namespace StagedFile

theorem discard_eq (hPlace : s.place t = .ok source) : s.discard t = t.erase source := by
  rw [discard, hPlace]

/-- Discarding leaves all but temporary files as they are. -/
@[simp] theorem discard_settled (s : StagedFile) (t : FileTree) :
    (s.discard t).settled = t.settled := by
  unfold discard
  rw [place, FileTree.tempPlace_eq]
  cases t.directoryPlace s.directory with
  | error reason => rfl
  | ok parent => exact FileTree.settled_erase_temp parent s.number

/-- A commit moves the temporary file to where it lands; if it lands nowhere, it is removed. -/
theorem commit_eq (hPlace : s.place t = .ok source) (hSource : t.get? source = some node) :
    s.commit t =
      match t.landing s.destination with
      | .ok target => (.ok (), (t.erase source).put target node)
      | .error reason => (.error (.persistence s.destination reason), t.erase source) := by
  unfold commit
  rw [hPlace, FileTree.rename_eq hSource, discard_eq hPlace]
  cases t.landing s.destination <;> rfl

/-- A failed commit names its destination. -/
theorem commit_error (h : s.commit t = (.error error, t')) :
    ∃ reason, error = .persistence s.destination reason := by
  unfold commit at h
  split at h
  case h_1 => simp at h
  case h_2 reason _ =>
    simp only [Prod.mk.injEq, Except.error.injEq] at h
    exact ⟨reason, h.1.symm⟩

/-- A commit that fails discards the temporary file. -/
theorem commit_eq_error (h : s.commit t = (.error error, t')) : t' = s.discard t := by
  unfold commit at h
  split at h
  case h_1 => simp at h
  case h_2 => exact (Prod.mk.inj h).2.symm

/-- A failed commit leaves all but temporary files as they are. -/
theorem commit_error_settled (h : s.commit t = (.error error, t')) : t'.settled = t.settled := by
  rw [commit_eq_error h, discard_settled]

/-- A file is committed only if the directory is found in which it was staged. -/
theorem commit_ok_directory (h : s.commit t = (.ok (), t')) :
    ∃ parent, t.directoryPlace s.directory = .ok parent := by
  cases hParent : t.directoryPlace s.directory with
  | ok parent => exact ⟨parent, rfl⟩
  | error reason =>
    obtain ⟨reason', hRename⟩ := @FileTree.rename_error t s.destination reason
    unfold commit at h
    rw [place, FileTree.tempPlace_eq, hParent, Except.map, hRename] at h
    simp at h

/-- **A commit that succeeds** has found the temporary file where it was staged and moved it to
where it lands. -/
theorem commit_eq_ok (h : s.commit t = (.ok (), t')) :
    ∃ parent node target, t.directoryPlace s.directory = .ok parent ∧
      t.get? (parent ++ [EntryName.temp s.number]) = some node ∧
      t.landing s.destination = .ok target ∧
      t' = (t.erase (parent ++ [EntryName.temp s.number])).put target node := by
  obtain ⟨parent, hParent⟩ := commit_ok_directory h
  have hPlace : s.place t = .ok (parent ++ [EntryName.temp s.number]) := by
    rw [place, FileTree.tempPlace_eq, hParent]
    rfl
  cases hSource : t.get? (parent ++ [EntryName.temp s.number]) with
  | none =>
    obtain ⟨reason, hRename⟩ := @FileTree.rename_missing t s.destination _ hSource
    simp [commit, hPlace, hRename] at h
  | some node =>
    rw [commit_eq hPlace hSource] at h
    cases hLanding : t.landing s.destination with
    | error reason => simp [hLanding] at h
    | ok target =>
      simp only [hLanding, Prod.mk.injEq, true_and] at h
      exact ⟨parent, node, target, hParent, hSource, rfl, h.symm⟩

end StagedFile

-- ---------------------------------------------------------------------------
-- Both in one
-- ---------------------------------------------------------------------------

namespace FileTree

/-- Where a file lands that is first staged by a writer that ends with `failure`. -/
def replacing (t : FileTree) (destination : String) (failure : Option FileError) :
    Except FileError Location := do
  let _ ← t.staging destination failure
  t.landing destination

theorem replacing_settled (failure : Option FileError) :
    t.settled.replacing destination failure = t.replacing destination failure := by
  rw [replacing, replacing, staging_settled, landing_settled]

theorem replacing_eq_ok {failure : Option FileError}
    (h : t.replacing destination failure = .ok target) :
    t.entryPlace destination = .ok target ∧ target ≠ [] ∧
    t.get? target ≠ some .directory := by
  unfold replacing at h
  cases hStaging : t.staging destination failure with
  | error reason => simp [hStaging, bind, Except.bind] at h
  | ok parent => exact landing_eq_ok (by simpa [hStaging, bind, Except.bind] using h)

/-- **Staging and committing in one**, said by the tree before it: nothing of the temporary file
shows. -/
theorem writeAtomically_eq :
    t.writeAtomically destination attempt =
      match t.replacing destination attempt.failure with
      | .ok target => (.ok (), t.put target (.file attempt.content publicMode))
      | .error reason => (.error (.persistence destination reason), t) := by
  unfold writeAtomically replacing
  rw [stage_eq]
  cases hStaging : t.staging destination attempt.failure with
  | error reason => rfl
  | ok parent =>
    have hPlace : parent ++ [EntryName.temp t.freshNumber] ≠ [] := by simp
    -- the temporary file is found again where it was staged, and what it lands on is as before
    have hFound : StagedFile.place ⟨Path.directory destination, t.freshNumber, destination⟩
        (t.put (parent ++ [EntryName.temp t.freshNumber]) (.file attempt.content publicMode)) =
        .ok (parent ++ [EntryName.temp t.freshNumber]) := by
      rw [StagedFile.place, ← tempPlace_settled, settled_put_temp,
        tempPlace_settled, tempPlace_eq, (staging_eq_ok_iff.mp hStaging).1]
      rfl
    have hLanding : (t.put (parent ++ [EntryName.temp t.freshNumber])
        (.file attempt.content publicMode)).landing destination = t.landing destination := by
      rw [← landing_settled, settled_put_temp, landing_settled]
    show StagedFile.commit _ _ = _
    rw [StagedFile.commit_eq hFound (by rw [get?_put hPlace, if_pos rfl]), hLanding,
      erase_put (freshNumber_notMem parent)]
    cases t.landing destination <;> rfl

/-- Replacing a file with a content. -/
theorem persistAtomically_eq {content : Bytes} :
    t.persistAtomically destination content =
      match t.directoryPlace (Path.directory destination), t.landing destination with
      | .ok _, .ok target => (.ok (), t.put target (.file content publicMode))
      | .ok _, .error reason => (.error (.persistence destination reason), t)
      | .error reason, _ => (.error (.persistence destination reason), t) := by
  rw [persistAtomically, writeAtomically_eq, replacing, staging]
  cases t.directoryPlace (Path.directory destination) with
  | error reason => rfl
  | ok parent => cases t.landing destination <;> rfl

end FileTree

end TopologyExporter
